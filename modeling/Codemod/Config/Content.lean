import Codemod.Config
import Codemod.Text.Search
import Codemod.Yaml.Scalar

/-!
# Settings as untyped content

Rules are first read without a view to what they are: the member called `rule` says which kind a
rule is, and it may come last.

## Main definitions

* `Content` — values whose mappings may have any keys.
* `Content.ofJson`, `Content.ofYaml` — where they come from.
* `Content.toRule?` — the rule that a value describes.
-/

namespace Codemod

inductive Content where
  | null
  | bool (b : Bool)
  | num (n : Json.Num)
  | str (s : String)
  | seq (items : List Content)
  | map (entries : List (Content × Content))
  deriving Inhabited

namespace Content

mutual

def ofJson : Json → Content
  | .null => .null
  | .bool b => .bool b
  | .num n => .num n
  | .str s => .str s
  | .arr items => .seq (ofItems items)
  | .obj members => .map (ofMembers members)

def ofItems : List Json → List Content
  | [] => []
  | v :: rest => ofJson v :: ofItems rest

def ofMembers : List (String × Json) → List (Content × Content)
  | [] => []
  | (k, v) :: rest => (.str k, ofJson v) :: ofMembers rest

end

mutual

/-- The value as a document, unless a key is not a text. -/
def toJson? : Content → Option Json
  | .null => some .null
  | .bool b => some (.bool b)
  | .num n => some (.num n)
  | .str s => some (.str s)
  | .seq items => (toItems? items).map .arr
  | .map entries => (toMembers? [] entries).map .obj

def toItems? : List Content → Option (List Json)
  | [] => some []
  | c :: rest =>
    match c.toJson?, toItems? rest with
    | some v, some vs => some (v :: vs)
    | _, _ => none

def toMembers? (members : List (String × Json)) :
    List (Content × Content) → Option (List (String × Json))
  | [] => some members
  | (.str k, c) :: rest =>
    match c.toJson? with
    | some v => toMembers? (Json.insert k v members) rest
    | none => none
  | _ => none

end

/-! ## From YAML -/

def ofValue : Yaml.Value → Option Content
  | .null => some .null
  | .bool b => some (.bool b)
  | .int i => some (.num (.int i))
  | .huge => none
  | .float (.finite x) => some (.num (.float x))
  | .float .special => some .null
  | .str s => some (.str s)

/-- The tags of the standard. -/
def standardTag (s : String) : String :=
  "tag:yaml.org,2002:" ++ s

/-- A tag of the document's own. -/
def isLocalTag (tag : Option String) : Bool :=
  tag.any (hasStart · "!")

def ofScalar (tag : Option String) (style : Yaml.Style) (text : String) : Option Content :=
  match tag with
  | some t =>
    if t = standardTag "bool" then (Yaml.boolOf? text).map .bool
    else if t = standardTag "int" then (Yaml.intValue? text).bind ofValue
    else if t = standardTag "float" then (Yaml.floatOf? text).bind fun f => ofValue (.float f)
    else if t = standardTag "null" then if Yaml.isNull text then some .null else none
    else some (.str text)
  | none => if style = .plain then ofValue (Yaml.plainValue text) else some (.str text)

mutual

/-- The content of a node. Tags of the document's own have no meaning here. -/
def ofYaml : Yaml.Node → Option Content
  | .scalar tag style text => if isLocalTag tag then none else ofScalar tag style text
  | .sequence tag items => if isLocalTag tag then none else (ofNodes items).map .seq
  | .mapping tag entries => if isLocalTag tag then none else (ofEntries entries).map .map

def ofNodes : List Yaml.Node → Option (List Content)
  | [] => some []
  | n :: rest =>
    match ofYaml n, ofNodes rest with
    | some c, some cs => some (c :: cs)
    | _, _ => none

def ofEntries : List (Yaml.Node × Yaml.Node) → Option (List (Content × Content))
  | [] => some []
  | (k, v) :: rest =>
    match ofYaml k, ofYaml v, ofEntries rest with
    | some k, some v, some es => some ((k, v) :: es)
    | _, _, _ => none

end

/-! ## Rules -/

/-- The values of a key. -/
def valuesOf (key : String) : List (Content × Content) → List Content
  | [] => []
  | (.str k, v) :: rest => if k = key then v :: valuesOf key rest else valuesOf key rest
  | _ :: rest => valuesOf key rest

/-- The parts of a rule: its name and, for each of the members that it can have, what is given. A
member that is given twice is an error. -/
structure RuleParts where
  name : String
  member : String → Option (Option Content)

/-- The members of each kind of rule, in order. -/
def ruleMembers (name : String) : Option (List String) :=
  match name with
  | "rename-import" | "rename-attribute" => some ["from", "to"]
  | "json-set" => some ["file", "pointer", "value"]
  | "replace-text" => some ["pattern", "find", "replace"]
  | "delete-files" => some ["pattern"]
  | _ => none

/-- Takes a value apart. A rule can also be a list of its name and its members in order. -/
def ruleParts? : Content → Option RuleParts
  | .map entries =>
    match valuesOf "rule" entries with
    | [.str name] =>
      some
        { name
          member := fun m =>
            match valuesOf m entries with
            | [] => some none
            | [v] => some (some v)
            | _ => none }
    | _ => none
  | .seq (.str name :: values) =>
    match ruleMembers name with
    | some members =>
      if values.length ≤ members.length then
        some { name, member := fun m => some (values[members.idxOf m]?) }
      else none
    | none => none
  | _ => none

def RuleParts.text? (p : RuleParts) (m : String) : Option String :=
  match p.member m with
  | some (some (.str s)) => some s
  | _ => none

def RuleParts.optionalText? (p : RuleParts) (m : String) : Option (Option String) :=
  match p.member m with
  | some none => some none
  | some (some .null) => some none
  | some (some (.str s)) => some (some s)
  | _ => none

/-- The rule that a value describes. -/
def toRule? (c : Content) : Option Rule := do
  let p ← ruleParts? c
  match p.name with
  | "rename-import" => return .renameImport (← p.text? "from") (← p.text? "to")
  | "rename-attribute" => return .renameAttribute (← p.text? "from") (← p.text? "to")
  | "json-set" =>
    let value ← (← p.member "value").bind toJson?
    return .jsonSet (← p.text? "file") (← p.text? "pointer") value
  | "replace-text" =>
    return .replaceText (← p.optionalText? "pattern") (← p.text? "find") (← p.text? "replace")
  | "delete-files" => return .deleteFiles (← p.text? "pattern")
  | _ => none

end Content

end Codemod
