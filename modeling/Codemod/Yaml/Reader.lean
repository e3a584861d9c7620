import Codemod.Yaml.Node
import Codemod.Yaml.Token.Lexer

/-!
# Reading YAML

## Main definitions

* `documents` — all documents of a text.
* `parse` — the only document of a text, if it has one.
-/

namespace Codemod.Yaml

structure Parser where
  tokens : List Token
  /-- The nodes that have been given names, latest first. -/
  anchors : List (String × Node) := []
  /-- The meaning of tag handles. -/
  handles : List (String × String) := []
  deriving Inhabited

abbrev Parse := StateT Parser (Except Invalid)

namespace Parse

def peek : Parse Token := do
  return (← get).tokens.headD .streamEnd

def skip : Parse Unit :=
  modify fun p => { p with tokens := p.tokens.drop 1 }

/-- The handles that mean something without being declared. -/
def defaultHandles : List (String × String) :=
  [("!", "!"), ("!!", "tag:yaml.org,2002:")]

def resolveTag (handle suffix : String) : Parse String := do
  if handle = "" then return suffix
  match ((← get).handles ++ defaultHandles).find? fun h => h.1 = handle with
  | some (_, front) => return front ++ suffix
  | none => throw .undefinedTag

/-- An anchor and a tag, in either order. -/
def properties : Parse (Option String × Option String) := do
  match ← peek with
  | .anchor name =>
    skip
    match ← peek with
    | .tag h s =>
      skip
      return (some name, some (← resolveTag h s))
    | _ => return (some name, none)
  | .tag h s =>
    skip
    let tag ← resolveTag h s
    match ← peek with
    | .anchor name =>
      skip
      return (some name, some tag)
    | _ => return (none, some tag)
  | _ => return (none, none)

def define (anchor : Option String) (n : Node) : Parse Unit :=
  match anchor with
  | some name => modify fun p => { p with anchors := (name, n) :: p.anchors }
  | none => pure ()

/-- Whether the next token is one of `l`. -/
def nextIs (l : List Token) : Parse Bool := do
  return l.contains (← peek)

mutual

/-- A node; blocks only if `block`, and a sequence that is not indented only if `indentless`. -/
def node : (fuel : Nat) → (block indentless : Bool) → Parse Node
  | 0, _, _ => throw .unexpectedToken
  | fuel + 1, block, indentless => do
    match ← peek with
    | .alias name =>
      skip
      match (← get).anchors.find? fun a => a.1 = name with
      | some (_, n) => return n
      | none => throw .undefinedAlias
    | _ =>
      let (anchor, tag) ← properties
      let t ← peek
      let n ← match t with
        | .scalar text style => do
          skip
          -- a scalar with the tag `!` is one without a tag
          pure (.scalar (if tag = some "!" then none else tag) style text)
        | .flowSequenceStart => do
          skip
          pure (.sequence tag (← flowItems fuel true))
        | .flowMappingStart => do
          skip
          pure (.mapping tag (← flowEntries fuel true))
        | .blockSequenceStart => do
          unless block do throw .unexpectedToken
          skip
          pure (.sequence tag (← blockItems fuel))
        | .blockMappingStart => do
          unless block do throw .unexpectedToken
          skip
          pure (.mapping tag (← blockEntries fuel))
        | .blockEntry =>
          if indentless then pure (.sequence tag (← indentlessItems fuel))
          else bare anchor tag
        | _ => bare anchor tag
      define anchor n
      return n

/-- A node of which only the properties are written. -/
def bare (anchor tag : Option String) : Parse Node := do
  if anchor.isNone && tag.isNone then throw .unexpectedToken
  return .scalar tag .plain ""

/-- A node, or nothing if one of `stops` comes next. -/
def nodeUnless : (fuel : Nat) → (stops : List Token) → (block indentless : Bool) → Parse Node
  | 0, _, _, _ => throw .unexpectedToken
  | fuel + 1, stops, block, indentless => do
    if ← nextIs stops then return .missing else node fuel block indentless

def blockItems : (fuel : Nat) → Parse (List Node)
  | 0 => throw .unexpectedToken
  | fuel + 1 => do
    match ← peek with
    | .blockEntry =>
      skip
      let n ← nodeUnless fuel [.blockEntry, .blockEnd] true false
      return n :: (← blockItems fuel)
    | .blockEnd =>
      skip
      return []
    | _ => throw .unexpectedToken

def indentlessItems : (fuel : Nat) → Parse (List Node)
  | 0 => throw .unexpectedToken
  | fuel + 1 => do
    match ← peek with
    | .blockEntry =>
      skip
      let n ← nodeUnless fuel [.blockEntry, .key, .value, .blockEnd] true false
      return n :: (← indentlessItems fuel)
    | _ => return []

def blockEntries : (fuel : Nat) → Parse (List (Node × Node))
  | 0 => throw .unexpectedToken
  | fuel + 1 => do
    let stops := [Token.key, .value, .blockEnd]
    match ← peek with
    | .blockEnd =>
      skip
      return []
    | .key =>
      skip
      let k ← nodeUnless fuel stops true true
      let v ← blockValue fuel stops
      return (k, v) :: (← blockEntries fuel)
    | .value =>
      let v ← blockValue fuel stops
      return (.missing, v) :: (← blockEntries fuel)
    | _ => throw .unexpectedToken

/-- The value after a key. -/
def blockValue : (fuel : Nat) → (stops : List Token) → Parse Node
  | 0, _ => throw .unexpectedToken
  | fuel + 1, stops => do
    if (← peek) = .value then
      skip
      nodeUnless fuel stops true true
    else return .missing

def flowItems : (fuel : Nat) → (first : Bool) → Parse (List Node)
  | 0, _ => throw .unexpectedToken
  | fuel + 1, first => do
    if (← peek) = .flowSequenceEnd then
      skip
      return []
    unless first do
      unless (← peek) = .flowEntry do throw .unexpectedToken
      skip
    match ← peek with
    | .flowSequenceEnd =>
      skip
      return []
    | .key =>
      skip
      let k ← nodeUnless fuel [.value, .flowEntry, .flowSequenceEnd] false false
      let v ← flowValue fuel [.flowEntry, .flowSequenceEnd]
      return .mapping none [(k, v)] :: (← flowItems fuel false)
    | _ =>
      let n ← node fuel false false
      return n :: (← flowItems fuel false)

def flowValue : (fuel : Nat) → (stops : List Token) → Parse Node
  | 0, _ => throw .unexpectedToken
  | fuel + 1, stops => do
    if (← peek) = .value then
      skip
      nodeUnless fuel stops false false
    else return .missing

def flowEntries : (fuel : Nat) → (first : Bool) → Parse (List (Node × Node))
  | 0, _ => throw .unexpectedToken
  | fuel + 1, first => do
    if (← peek) = .flowMappingEnd then
      skip
      return []
    unless first do
      unless (← peek) = .flowEntry do throw .unexpectedToken
      skip
    match ← peek with
    | .flowMappingEnd =>
      skip
      return []
    | .key =>
      skip
      let k ← nodeUnless fuel [.value, .flowEntry, .flowMappingEnd] false false
      let v ← flowValue fuel [.flowEntry, .flowMappingEnd]
      return (k, v) :: (← flowEntries fuel false)
    | _ =>
      let k ← node fuel false false
      return (k, .missing) :: (← flowEntries fuel false)

end

/-! ## Documents -/

def skipDocumentEnds : (fuel : Nat) → Parse Unit
  | 0 => pure ()
  | fuel + 1 => do
    if (← peek) = .documentEnd then
      skip
      skipDocumentEnds fuel

/-- The directives before a document; whether there were any. -/
def directives : (fuel : Nat) → (version : Bool) → Parse Unit
  | 0, _ => pure ()
  | fuel + 1, version => do
    match ← peek with
    | .versionDirective =>
      if version then throw .badDirective
      skip
      directives fuel true
    | .tagDirective handle front =>
      if (← get).handles.any fun h => h.1 = handle then throw .badDirective
      skip
      modify fun p => { p with handles := (handle, front) :: p.handles }
      directives fuel version
    | _ => pure ()

/-- What stands in a document after its sign; nothing is an empty scalar. -/
def content (fuel : Nat) : Parse Node := do
  match ← peek with
  | .versionDirective | .tagDirective _ _ | .documentStart | .documentEnd | .streamEnd =>
    return .missing
  | _ => node fuel true false

/-- A document, with or without a sign in front. -/
def document (fuel : Nat) (signed : Bool) : Parse Node := do
  if signed then
    directives fuel false
    unless (← peek) = .documentStart do throw .unexpectedToken
    skip
    content fuel
  else node fuel true false

/-- All documents that are left; only the first may begin without a sign. -/
def documents : (fuel : Nat) → (first : Bool) → Parse (List Node)
  | 0, _ => throw .unexpectedToken
  | fuel + 1, first => do
    unless first do skipDocumentEnds (fuel + 1)
    modify fun p => { p with anchors := [], handles := [] }
    match ← peek with
    | .streamEnd => return []
    | t =>
      let explicit :=
        match t with
        | .versionDirective | .tagDirective _ _ | .documentStart => true
        | _ => false
      let n ← document (fuel + 1) (explicit || !first)
      if (← peek) = .documentEnd then skip
      return n :: (← documents fuel false)

end Parse

/-- The documents of a text. -/
def documents (s : String) : Except Invalid (List Node) := do
  let ts ← tokens s
  let (ds, _) ← (Parse.documents (4 * ts.length + 8) true).run { tokens := ts }
  return ds

/-- The document of a text that has at most one. -/
def parse (s : String) : Except Invalid (Option Node) := do
  match ← documents s with
  | [] => return none
  | [d] => return some d
  | _ => throw .manyDocuments

end Codemod.Yaml
