import Codemod.Json.Value

/-!
# Configuration

What a project can say about how it is to be updated.

## Main definitions

* `Rule` — a transformation that is built in.
* `Config` — all settings, and `Config.toJson` — their form as data.
-/

namespace Codemod

inductive Rule where
  /-- Imports from module `source` are taken from `target` instead. -/
  | renameImport (source target : String)
  /-- In documents whose path ends with `file`, `pointer` is made to lead to `value`. -/
  | jsonSet (file pointer : String) (value : Json)
  /-- On every line of the texts whose path `pattern` is found in, `find` becomes `new`. -/
  | replaceText (pattern : Option String) (find new : String)
  /-- Attributes called `source` are called `target` instead. -/
  | renameAttribute (source target : String)
  /-- Files whose path `pattern` is found in are deleted. -/
  | deleteFiles (pattern : String)
  deriving Inhabited

/-- What becomes of a run when a file fails. -/
inductive OnError where
  | abort
  | skipFile
  deriving DecidableEq, Inhabited

/-- Pauses in milliseconds. -/
structure Pacing where
  file : Nat := 0
  plugin : Nat := 0
  phase : Nat := 0
  write : Nat := 0
  deriving DecidableEq, Inhabited

structure Config where
  /-- Directories to skip, beside those that are always skipped. -/
  skipDirs : List String := []
  pacing : Pacing := {}
  onError : OnError := .abort
  /-- How many spaces indent a document that shows no indentation of its own. -/
  jsonIndent : Option Nat := none
  /-- Which paths count as text. -/
  textPattern : Option String := none
  /-- The element that fragments of markup stand in. -/
  markupContext : Option String := none
  rules : List Rule := []
  deriving Inhabited

/-! ## As data -/

namespace Config

def optional (f : α → Json) : Option α → Json
  | some a => f a
  | none => .null

end Config

def Rule.toJson : Rule → Json
  | renameImport s t =>
    .obj [("rule", .str "rename-import"), ("from", .str s), ("to", .str t)]
  | jsonSet f p v =>
    .obj [("rule", .str "json-set"), ("file", .str f), ("pointer", .str p), ("value", v)]
  | replaceText p f n =>
    .obj [("rule", .str "replace-text"), ("pattern", Config.optional .str p), ("find", .str f),
      ("replace", .str n)]
  | renameAttribute s t =>
    .obj [("rule", .str "rename-attribute"), ("from", .str s), ("to", .str t)]
  | deleteFiles p => .obj [("rule", .str "delete-files"), ("pattern", .str p)]

def OnError.name : OnError → String
  | abort => "abort"
  | skipFile => "skip-file"

def Pacing.toJson (p : Pacing) : Json :=
  .obj [("file_ms", .ofNat p.file), ("plugin_ms", .ofNat p.plugin), ("phase_ms", .ofNat p.phase),
    ("write_ms", .ofNat p.write)]

def Config.toJson (c : Config) : Json :=
  .obj [("skip_dirs", .ofStrings c.skipDirs), ("pacing", c.pacing.toJson),
    ("on_error", .str c.onError.name), ("json_indent", optional .ofNat c.jsonIndent),
    ("text_pattern", optional .str c.textPattern),
    ("markup_context", optional .str c.markupContext), ("rules", .arr (c.rules.map Rule.toJson))]

/-- Whether nothing has been set. -/
def Config.isDefault (c : Config) : Bool :=
  c.toJson.equal ({} : Config).toJson

end Codemod
