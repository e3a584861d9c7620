import Codemod.Config.Content
import Codemod.Yaml.Reader

/-!
# Reading settings

Settings come as YAML text or as data. In YAML, text may be written without quotes, whatever it
looks like, and nothing at all stands for what is set by default; data has to have the right types.
Members with unknown names are passed over; a known one may be given once.

## Main definitions

* `Config.ofYaml` — settings from YAML text.
* `Config.ofJson?` — settings from data.
-/

namespace Codemod.Config

def onError? (s : String) : Option OnError :=
  match s with
  | "abort" => some .abort
  | "skip-file" => some .skipFile
  | _ => none

/-! ## From YAML -/

namespace FromYaml

open Yaml (Node)

/-- Nothing is written here. -/
def isMissing : Node → Bool
  | .scalar _ .plain "" => true
  | _ => false

def text? : Node → Option String
  | .scalar _ _ s => some s
  | _ => none

/-- What may be nothing. -/
def optional? (f : Node → Option α) (n : Node) : Option (Option α) :=
  match n with
  | .scalar none .plain s => if s = "" || Yaml.isNull s then some none else (f n).map some
  | .scalar (some tag) .plain s =>
    if tag = Content.standardTag "null" then if Yaml.isNull s then some none else none
    else (f n).map some
  | _ => (f n).map some

def nat? : Node → Option Nat
  | .scalar _ .plain s => Yaml.natOf? s
  | .scalar tag .literal s => if tag = some (Content.standardTag "int") then Yaml.natOf? s else none
  | _ => none

def list? (f : Node → Option α) : Node → Option (List α)
  | .sequence _ items => items.mapM f
  | n => if isMissing n then some [] else none

/-- The entries of a structure with the names of their keys. -/
def entries? : Node → Option (List (String × Node))
  | .mapping _ entries =>
    entries.mapM fun (k, v) =>
      match text? k with
      | some k => some (k, v)
      | none => none
  | n => if isMissing n then some [] else none

/-- One of several words, written as text or as a tag. -/
def enum? (f : String → Option α) : Node → Option α
  | .scalar tag style s =>
    if Content.isLocalTag tag then
      if style = .plain && (s = "" || Yaml.isNull s) then f (String.ofList ((tag.getD "").toList.drop 1))
      else none
    else f s
  | _ => none

end FromYaml

open FromYaml in
/-- What a member is given, or what is set by default. -/
def member? (entries : List (String × Yaml.Node)) (name : String) (default : α)
    (f : Yaml.Node → Option α) : Option α :=
  match entries.filter (·.1 = name) with
  | [] => some default
  | [(_, v)] => f v
  | _ => none

open FromYaml in
def pacingOfYaml? (n : Yaml.Node) : Option Pacing := do
  let es ← entries? n
  return {
    file := ← member? es "file_ms" 0 nat?
    plugin := ← member? es "plugin_ms" 0 nat?
    phase := ← member? es "phase_ms" 0 nat?
    write := ← member? es "write_ms" 0 nat? }

open FromYaml in
def ofNode? (n : Yaml.Node) : Option Config := do
  let es ← entries? n
  return {
    skipDirs := ← member? es "skip_dirs" [] (list? text?)
    pacing := ← member? es "pacing" {} pacingOfYaml?
    onError := ← member? es "on_error" .abort (enum? onError?)
    jsonIndent := ← member? es "json_indent" none (optional? nat?)
    textPattern := ← member? es "text_pattern" none (optional? text?)
    markupContext := ← member? es "markup_context" none (optional? text?)
    rules := ← member? es "rules" [] (list? fun n => (Content.ofYaml n).bind Content.toRule?) }

/-- The settings of a YAML text. -/
def ofYaml (s : String) : Except Yaml.Invalid Config := do
  match ← Yaml.parse s with
  | none => return {}
  | some n =>
    match ofNode? n with
    | some c => return c
    | none => throw .shape

/-! ## From data -/

namespace FromJson

def text? : Json → Option String
  | .str s => some s
  | _ => none

def optional? (f : Json → Option α) : Json → Option (Option α)
  | .null => some none
  | v => (f v).map some

def nat? : Json → Option Nat
  | .num (.int i) => if 0 ≤ i then some i.toNat else none
  | _ => none

def list? (f : Json → Option α) : Json → Option (List α)
  | .arr items => items.mapM f
  | _ => none

/-- The members of a structure, which can also be a list of its members in order. -/
def members? (names : List String) : Json → Option (List (String × Json))
  | .obj members => some members
  | .arr items => if items.length ≤ names.length then some (names.zip items) else none
  | _ => none

def member? (members : List (String × Json)) (name : String) (default : α)
    (f : Json → Option α) : Option α :=
  match Json.get? name members with
  | some v => f v
  | none => some default

end FromJson

open FromJson in
def pacingOfJson? (v : Json) : Option Pacing := do
  let ms ← members? ["file_ms", "plugin_ms", "phase_ms", "write_ms"] v
  return {
    file := ← FromJson.member? ms "file_ms" 0 FromJson.nat?
    plugin := ← FromJson.member? ms "plugin_ms" 0 FromJson.nat?
    phase := ← FromJson.member? ms "phase_ms" 0 FromJson.nat?
    write := ← FromJson.member? ms "write_ms" 0 FromJson.nat? }

def rulesOfJson? (v : Json) : Option (List Rule) :=
  FromJson.list? (fun v => (Content.ofJson v).toRule?) v

/-- The settings that data describes. -/
def ofJson? (v : Json) : Option Config := do
  let ms ← FromJson.members?
    ["skip_dirs", "pacing", "on_error", "json_indent", "text_pattern", "markup_context", "rules"] v
  return {
    skipDirs := ← FromJson.member? ms "skip_dirs" [] (FromJson.list? FromJson.text?)
    pacing := ← FromJson.member? ms "pacing" {} pacingOfJson?
    onError := ← FromJson.member? ms "on_error" .abort fun v => (FromJson.text? v).bind onError?
    jsonIndent := ← FromJson.member? ms "json_indent" none (FromJson.optional? FromJson.nat?)
    textPattern := ← FromJson.member? ms "text_pattern" none (FromJson.optional? FromJson.text?)
    markupContext := ← FromJson.member? ms "markup_context" none (FromJson.optional? FromJson.text?)
    rules := ← FromJson.member? ms "rules" [] rulesOfJson? }

end Codemod.Config
