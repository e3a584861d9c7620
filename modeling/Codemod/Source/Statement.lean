import Codemod.Source.Grammar.Check
import Codemod.Source.Node
import Codemod.Source.Token.Lexer

/-!
# Trees from tokens

The parser that the program works with. Of the tree of a text it makes the root, the import
statements and, in a statement, the imported names in braces and the string with the name of the
module. A string that is not closed on its line ends there; the closing quote is taken to be missing
if a semicolon comes next.

## Main definitions

* `Statement.read?` — the import statement that begins a list of tokens.
* `statementsOf` — the import statements among the tokens of a source.
* `Languages.standard` — the languages of the program.
-/

namespace Codemod.Source

def Token.span (t : Token) : Span :=
  ⟨t.start, t.stop⟩

namespace Statement

/-- What was read from the front of a list of tokens, and the tokens after it. -/
abbrev Read (α : Type) := Option (α × List Token)

/-! ## What is imported -/

/-- One imported name, up to a comma or the closing brace. A name may be marked as that of a type
and may be given another name. -/
def specifier : List Token → Option Token
  | [name] => some name
  | [mark, name] => if isMark mark then some name else none
  | [name, joint, _] => if joint.isWord "as" then some name else none
  | [mark, name, joint, _] => if isMark mark && joint.isWord "as" then some name else none
  | _ => none
where
  isMark (t : Token) : Bool :=
    t.isWord "type" || t.isWord "typeof"

/-- A token that can stand in a list of imported names. -/
def isNamePart (t : Token) : Bool :=
  t.kind == .word || t.kind == .string

/-- Imported names up to the closing brace; `part` are the tokens of the present one. -/
def names (part : List Token) : List Token → Read (List Token)
  | [] => none
  | t :: rest =>
    if t.closes "\x7d" then
      if part.isEmpty then some ([], rest)
      else (specifier part).map fun name => ([name], rest)
    else if t.isSign "," then
      match specifier part, names [] rest with
      | some name, some (more, rest) => some (name :: more, rest)
      | _, _ => none
    else if isNamePart t then names (part ++ [t]) rest
    else none

/-- `* as name` or names in braces. -/
def bindings : List Token → Read (List Token)
  | t :: rest =>
    if t.opens "\x7b" then
      match rest with
      | comma :: close :: rest' =>
        if comma.isSign "," && close.closes "\x7d" then some ([], rest') else names [] rest
      | _ => none
    else if t.isSign "*" then
      match rest with
      | joint :: name :: rest =>
        if joint.isWord "as" && name.kind == .word then some ([], rest) else none
      | _ => none
    else none
  | [] => none

/-- What is imported: a name for the default, bindings, or both. -/
def clause : List Token → Read (List Token)
  | [] => none
  | t :: rest =>
    if t.kind == .word then
      match rest with
      | comma :: rest' => if comma.isSign "," then bindings rest' else some ([], rest)
      | [] => some ([], rest)
    else bindings (t :: rest)

/-- Whether the next word marks an import of types, and is not itself what is imported. -/
def isTypeMark : List Token → Bool
  | mark :: next :: rest =>
    (mark.isWord "type" || mark.isWord "typeof") &&
      (next.opens "\x7b" || next.isSign "*" ||
        (next.kind == .word &&
          !(next.isWord "from" && (rest.head?.map (·.kind == .string)).getD false)))
  | _ => false

/-- Tokens after the brace that closes an object, and where that brace ends. -/
def afterObject (depth : Nat) : List Token → Option (Nat × List Token)
  | [] => none
  | t :: rest =>
    if t.kind == .opening then afterObject (depth + 1) rest
    else if t.kind == .closing then
      if depth ≤ 1 then some (t.stop, rest) else afterObject (depth - 1) rest
    else afterObject depth rest

/-- Attributes of the import, if there are any on the same line. -/
def attributes (stop : Nat) (tokens : List Token) : Nat × List Token :=
  match tokens with
  | word :: brace :: rest =>
    if (word.isWord "with" || word.isWord "assert") && !word.afterBreak && brace.opens "\x7b" then
      (afterObject 1 rest).getD (stop, tokens)
    else (stop, tokens)
  | _ => (stop, tokens)

/-- The end of the statement: a semicolon belongs to it. -/
def finish (stop : Nat) (tokens : List Token) : Nat × List Token :=
  let (stop, tokens) := attributes stop tokens
  match tokens with
  | t :: rest => if t.isSign ";" then (t.stop, rest) else (stop, tokens)
  | [] => (stop, [])

/-- Whether a token is a string without its closing quote. -/
def isOpenString (t : Token) : Bool :=
  t.kind == .stray && t.text.toList.head?.any fun c => c == '\x22' || c == '\x27'

/-- Whether a token can name a module. A string without its closing quote can if a semicolon comes
next, with which the statement is complete. -/
def isSource (t : Token) (rest : List Token) : Bool :=
  t.kind == .string || (isOpenString t && rest.head?.any (·.isSign ";"))

/-! ## Nodes -/

def nameNode (name : Token) : Node :=
  { kind := "import_specifier"
    span := name.span
    children := [{ kind := "identifier", field? := some "name", span := name.span }] }

/-- The statement whose module is named by the token that comes next. -/
def ofSource (start : Nat) (named : List Token) : List Token → Read Node
  | [] => none
  | t :: rest =>
    if isSource t rest then
      let (stop, rest) := finish t.stop rest
      some
        ({ kind := "import_statement"
           span := ⟨start, stop⟩
           hasError := isOpenString t
           children := named.map nameNode ++
            [{ kind := "string", field? := some "source", span := t.span }] }, rest)
    else none

/-- The import statement at the front; `start` is where its first word begins. -/
def read? (start : Nat) (tokens : List Token) : Read Node :=
  match ofSource start [] tokens with
  | some found => some found
  | none =>
    match clause (if isTypeMark tokens then tokens.drop 1 else tokens) with
    | some (named, source :: rest) =>
      if source.isWord "from" then ofSource start named rest else none
    | _ => none

end Statement

/-- The import statements at the top of the nesting; `depth` brackets are open and `previous` is the
token before. The fuel bounds the number of tokens. -/
def statementsFrom : (fuel depth : Nat) → (previous : Option Token) → List Token → List Node
  | 0, _, _, _ => []
  | _, _, _, [] => []
  | fuel + 1, depth, previous, t :: rest =>
    let continued :=
      match previous with
      | some p => p.isSign "." || p.isSign "?." || p.isWord "export"
      | none => false
    if t.isWord "import" && depth = 0 && !continued then
      match Statement.read? t.start rest with
      | some (found, rest) => found :: statementsFrom fuel 0 none rest
      | none => statementsFrom fuel depth (some t) rest
    else
      let depth :=
        match t.kind with
        | .opening => depth + 1
        | .closing => depth - 1
        | _ => depth
      statementsFrom fuel depth (some t) rest

/-- The import statements among the tokens of a source. -/
def statementsOf (tokens : List Token) : List Node :=
  let tokens := tokens.filter (·.kind ≠ .comment)
  statementsFrom (tokens.length + 1) 0 none tokens

/-! ## Trees -/

/-- The tree of a text, from its first token or comment to its end. Every text is read anew. -/
def Language.ofDialect (d : Dialect) : Language where
  parse _ text :=
    let (tokens, closed) := scan d text
    { kind := "program"
      span := ⟨(tokens.head?.map (·.start)).getD text.utf8ByteSize, text.utf8ByteSize⟩
      hasError := !closed || !isWellFormed tokens
      children := statementsOf tokens }

/-- The languages of the program. -/
def Languages.standard : Languages where
  typescript := .ofDialect .plain
  tsx := .ofDialect .markup

end Codemod.Source
