import Codemod.Config
import Codemod.Format
import Codemod.Json.Pointer
import Codemod.Plugin

/-!
# Rules as plugins

Every rule becomes a plugin of the kind of document it is about; a rule that deletes files becomes
one of every kind.

## Main definitions

* `RuleSet` — plugins by kind.
* `RuleSet.compile` — the plugins of a list of rules.
-/

namespace Codemod

/-! ## Plugins -/

namespace Rule

/-- Where imports name a module. -/
def spansOf (source : String) (imports : List Source.Import) : List Source.Span :=
  (imports.filter (·.moduleName = source)).map (·.moduleSpan)

/-- Ranges in the order in which they are replaced: the last one first, so that the places of the
others stay right. Ranges that begin at the same byte keep their order. -/
def backToFront (spans : List Source.Span) : List Source.Span :=
  spans.mergeSort fun r r' => decide (r'.start ≤ r.start)

/-- Replaces in every import of `source` the name of the module. -/
def renameModule (source target : String) (unit : SourceUnit) :
    Except Source.Cut (Except InvalidEdit (Outcome SourceUnit)) := do
  let spans := spansOf source (← unit.imports)
  if spans.isEmpty then return .ok .unchanged
  else
    let edited := (backToFront spans).foldlM (fun (u : SourceUnit) r => u.replace r target) unit
    return edited.map .replace

/-- Renames a module in imports. Where the imports cannot be told the plugin gives no reasons: it
has not come to an end. -/
def importPlugin (source target : String) : Plugin SourceUnit := fun unit _ =>
  match renameModule source target unit with
  | .ok (.ok outcome) => .done (.ok outcome)
  | .ok (.error e) => .done (.error [(Failure.invalidEdit e.path e.reason).message])
  | .error _ => .done (.error [])

/-- Whether `path` is `file` or ends with it as whole segments. -/
def isFile (file path : String) : Bool :=
  path = file || hasEnd path ("/" ++ file)

/-- Sets a value in documents of the given name. -/
def setPlugin (file pointer : String) (value : Json) : Plugin Json := fun doc path =>
  if !isFile file path then .done (.ok .unchanged)
  else if (doc.lookup pointer).any (·.equal value) then .done (.ok .unchanged)
  else
    match doc.set pointer value with
    | .ok next => .done (.ok (.replace next))
    | .error e => .done (.error (("cannot set " ++ pointer ++ " in " ++ path) :: e.chain))

/-- Replaces a word on every line. -/
def replacePlugin (covers : Option (String → Bool)) (find new : String) : Plugin (List String) :=
  fun lines path =>
    let applies := covers.all (· path) && find ≠ "" &&
      lines.any fun l => Text.occursIn find.toList l.toList
    if applies then .done (.ok (.replace (lines.map (substitute · find new))))
    else .done (.ok .unchanged)

/-- Renames attributes. -/
def attributePlugin (source target : String) : Plugin Markup.Tree := fun tree _ =>
  .done (.ok (.replace (tree.renameAttribute source target)))

/-- Deletes documents whose path a pattern is found in. -/
def deletePlugin (covers : String → Bool) : Plugin N := fun _ path =>
  .done (.ok (if covers path then .delete else .unchanged))

/-! ## Compiling -/

/-- Why a rule, told by its place in the list, cannot be used. -/
inductive Invalid where
  | pointer (index : Nat) (pointer : String)
  | pattern (index : Nat) (pattern : String) (cause : Pattern.Invalid)

/-- What is said about it, outermost first. -/
def Invalid.contexts : Invalid → List String
  | pointer i p =>
    ["rule #" ++ toString i ++ ": JSON pointer " ++ Text.quoted p ++ " must start with '/'"]
  | pattern i p _ => ["rule #" ++ toString i, "invalid pattern " ++ Text.quoted p]

/-- What is wrong with the pattern, if that is the cause. -/
def Invalid.cause? : Invalid → Option Pattern.Invalid
  | pointer _ _ => none
  | pattern _ _ e => some e

def compilePattern (engine : Pattern.Engine) (index : Nat) (s : String) :
    Except Invalid (String → Bool) :=
  match engine.compile s with
  | .ok covers => .ok covers
  | .error e => .error (.pattern index s e)

end Rule

structure RuleSet where
  code : List (Plugin SourceUnit) := []
  markup : List (Plugin Markup.Tree) := []
  json : List (Plugin Json) := []
  text : List (Plugin (List String)) := []

namespace RuleSet

def size (s : RuleSet) : Nat :=
  s.code.length + s.markup.length + s.json.length + s.text.length

/-- The plugins for one kind of document. -/
def plugins (s : RuleSet) : (k : Kind) → List (Plugin k.Node)
  | .code => s.code
  | .markup => s.markup
  | .json => s.json
  | .text => s.text

/-- Adds the plugins of the rule with the given place in the list. -/
def add (engine : Pattern.Engine) (s : RuleSet) (index : Nat) : Rule → Except Rule.Invalid RuleSet
  | .renameImport source target =>
    .ok { s with code := s.code ++ [Rule.importPlugin source target] }
  | .jsonSet file pointer value =>
    if pointer = "" || hasStart pointer "/" then
      .ok { s with json := s.json ++ [Rule.setPlugin file pointer value] }
    else .error (.pointer index pointer)
  | .replaceText none find new =>
    .ok { s with text := s.text ++ [Rule.replacePlugin none find new] }
  | .replaceText (some pattern) find new => do
    let covers ← Rule.compilePattern engine index pattern
    return { s with text := s.text ++ [Rule.replacePlugin (some covers) find new] }
  | .renameAttribute source target =>
    .ok { s with markup := s.markup ++ [Rule.attributePlugin source target] }
  | .deleteFiles pattern => do
    let covers ← Rule.compilePattern engine index pattern
    return {
      code := s.code ++ [Rule.deletePlugin covers]
      markup := s.markup ++ [Rule.deletePlugin covers]
      json := s.json ++ [Rule.deletePlugin covers]
      text := s.text ++ [Rule.deletePlugin covers] }

/-- Adds rules in order; the first of them has the place `index`. -/
def addAll (engine : Pattern.Engine) (s : RuleSet) :
    (index : Nat) → List Rule → Except Rule.Invalid RuleSet
  | _, [] => .ok s
  | index, r :: rest => do addAll engine (← s.add engine index r) (index + 1) rest

/-- The plugins of a list of rules. -/
def compile (engine : Pattern.Engine) (rules : List Rule) : Except Rule.Invalid RuleSet :=
  addAll engine {} 0 rules

end RuleSet

end Codemod
