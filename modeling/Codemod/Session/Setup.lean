import Codemod.Rule.Compile
import Codemod.Session

/-!
# Setting up a session

The session that settings describe. Code is asked first for a path, then markup, JSON and text.
-/

namespace Codemod

/-- Why settings cannot be used. -/
inductive SetupError where
  | rules (cause : Rule.Invalid)
  | textPattern (pattern : String) (cause : Pattern.Invalid)

/-- What is said about it, outermost first. -/
def SetupError.contexts : SetupError → List String
  | rules e => "invalid rules in config" :: e.contexts
  | textPattern p _ => ["invalid text_pattern " ++ Text.quoted p]

/-- What is wrong with a pattern, if that is the cause. -/
def SetupError.cause? : SetupError → Option Pattern.Invalid
  | rules e => e.cause?
  | textPattern _ e => some e

namespace Session

def textMatcher (engine : Pattern.Engine) : Option String → Except SetupError Matcher
  | none => .ok (.text engine)
  | some s =>
    match engine.compile s with
    | .ok covers => .ok (.pattern covers)
    | .error e => .error (.textPattern s e)

/-- The session for the project at `root`; folders called one of `skip` are not entered. -/
def ofConfig (engine : Pattern.Engine) (root : String) (c : Config) (skip : List String) :
    Except SetupError Session := do
  let rules ← (RuleSet.compile engine c.rules).mapError SetupError.rules
  let matcher ← textMatcher engine c.textPattern
  let unit := match c.jsonIndent with
    | some n => String.ofList (List.replicate n ' ')
    | none => "  "
  let session : Session := {
    updaters := [
      { kind := .code, format := .code, plugins := rules.code },
      { kind := .markup, format := .markup (c.markupContext.getD "div"), plugins := rules.markup },
      { kind := .json, format := .json unit, plugins := rules.json },
      { kind := .text, format := .text matcher, plugins := rules.text }]
    onError := c.onError
    overlay := { root } }
  return (c.skipDirs ++ skip).foldl skipDir session

end Session

end Codemod
