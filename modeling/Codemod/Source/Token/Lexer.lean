import Codemod.Source.Token

/-!
# Cutting source code into tokens

What a character means depends on what it stands in: code, a template, a tag or the text between
tags. The lexer keeps the brackets that are open.

## Main definitions

* `Dialect` — whether elements can be written like markup.
* `Scan` — how far the lexer has come.
* `scan` — the tokens of a source, and whether all brackets are closed.
-/

namespace Codemod.Source

inductive Dialect where
  | plain
  /-- Elements can be written like markup. -/
  | markup
  deriving DecidableEq, Inhabited

/-- What has been opened and not closed. -/
inductive Bracket where
  /-- With a condition in it, after which a statement begins. -/
  | paren (condition : Bool)
  | square
  /-- With the members of an object in it, which is a value. -/
  | brace (value : Bool)
  | template
  /-- An expression in a template. -/
  | hole
  /-- Inside a tag. -/
  | tag (closing : Bool)
  /-- Between the start and the end of an element. -/
  | element
  deriving DecidableEq, Inhabited

structure Scan where
  rest : List Char
  /-- How many bytes have been read. -/
  position : Nat := 0
  brackets : List Bracket := []
  /-- The tokens so far, latest first. -/
  tokens : List Token := []
  /-- The last token that is not a comment; none where a statement begins. -/
  previous : Option Token := none
  afterBreak : Bool := false
  deriving Inhabited

namespace Scan

/-- Passes over characters that belong to no token. -/
def skip (s : Scan) (n : Nat) : Scan :=
  let passed := s.rest.take n
  { s with
    rest := s.rest.drop n
    position := s.position + byteSize passed
    afterBreak := s.afterBreak || passed.any isBreak }

/-- Makes a token of the next `n` characters. -/
def emit (s : Scan) (kind : Token.Kind) (n : Nat) : Scan :=
  let text := s.rest.take n
  let token : Token :=
    { kind
      text := String.ofList text
      start := s.position
      stop := s.position + byteSize text
      afterBreak := s.afterBreak }
  { s with
    rest := s.rest.drop n
    position := token.stop
    tokens := token :: s.tokens
    previous := if kind = .comment then s.previous else some token
    afterBreak := if kind = .comment then s.afterBreak || text.any isBreak else false }

def push (s : Scan) (b : Bracket) : Scan :=
  { s with brackets := b :: s.brackets }

def pop (s : Scan) : Scan :=
  { s with brackets := s.brackets.drop 1 }

/-! ## Literals and comments -/

/-- The length of a string after its opening quote, with the closing one; nothing if it does not
end on its line. -/
def stringLength (quote : Char) : List Char → Option Nat
  | [] => none
  | '\\' :: '\r' :: '\n' :: s => (stringLength quote s).map (· + 3)
  | '\\' :: _ :: s => (stringLength quote s).map (· + 2)
  | c :: s =>
    if c = quote then some 1
    else if c = '\n' || c = '\r' then none
    else (stringLength quote s).map (· + 1)

/-- The length of a pattern after its opening slash, with the closing one and the flags. -/
def regexLength (inClass : Bool) : List Char → Option Nat
  | [] => none
  | '\\' :: c :: s => if isBreak c then none else (regexLength inClass s).map (· + 2)
  | c :: s =>
    if isBreak c then none
    else if c = '[' then (regexLength true s).map (· + 1)
    else if c = ']' then (regexLength false s).map (· + 1)
    else if c = '/' && !inClass then some (1 + (s.takeWhile isWordChar).length)
    else (regexLength inClass s).map (· + 1)

/-- The length of a comment after its opening, up to and with `*/`. -/
def commentLength : List Char → Option Nat
  | [] => none
  | '*' :: '/' :: _ => some 2
  | _ :: s => (commentLength s).map (· + 1)

/-- The length of a number. A sign may follow the mark of an exponent. -/
def numberLength (afterMark hex : Bool) : List Char → Nat
  | [] => 0
  | c :: s =>
    if c = '.' && !hex then numberLength false hex s + 1
    else if (c = '+' || c = '-') && afterMark then numberLength false hex s + 1
    else if isWordChar c then
      numberLength ((c = 'e' || c = 'E') && !hex) (hex || c = 'x' || c = 'X') s + 1
    else 0

/-- The length of a word; escapes may stand in it. -/
def wordLength : List Char → Nat
  | '\\' :: 'u' :: '\x7b' :: s => 3 + escapeLength s
  | '\\' :: 'u' :: s => wordLength s + 2
  | c :: s => if isWordChar c then wordLength s + 1 else 0
  | [] => 0
where
  /-- The rest of an escape in braces and of the word. -/
  escapeLength : List Char → Nat
    | '\x7d' :: s => wordLength s + 1
    | c :: s => if isWordChar c then escapeLength s + 1 else 0
    | [] => 0

/-- Signs of more than one character, longest first. -/
def longSigns : List String :=
  ["===", "!==", "**=", "<<=", "&&=", "||=", "??=", "...", "=>", "==", "!=", "<=", "&&", "||", "??",
    "?.", "++", "--", "+=", "-=", "*=", "/=", "%=", "&=", "|=", "^=", "<<", "**"]

def signLength (s : List Char) : Nat :=
  match longSigns.find? fun w => w.toList.isPrefixOf s with
  | some "?." => if ((s.drop 2).head?.map isDigit).getD false then 1 else 2
  | some w => w.length
  | none => 1

/-! ## Where an expression can begin -/

/-- Words after which an expression begins. -/
def operatorWords : List String :=
  ["return", "typeof", "case", "in", "of", "do", "else", "void", "delete", "instanceof", "new",
    "throw", "await", "yield", "default", "extends"]

/-- Whether an expression can begin after a token; a slash then begins a pattern. -/
def expectsExpression : Option Token → Bool
  | none => true
  | some t =>
    match t.kind with
    | .word => operatorWords.contains t.text
    | .opening => true
    | .closing => false
    | .sign => t.text != "++" && t.text != "--"
    | _ => false

/-- Whether what follows a `<` is a list of type parameters and not a tag. -/
def beginsTypeParameters (s : List Char) : Bool :=
  let rest := (s.dropWhile isWordChar).dropWhile isBlank
  rest.head? == some ',' || "extends ".toList.isPrefixOf rest

/-- Whether a `<` begins a tag; `s` follows it. -/
def beginsTag (s : List Char) : Bool :=
  match s with
  | [] => false
  | c :: _ => (c == '>' || isWordStart c) && !beginsTypeParameters s

/-! ## Steps -/

/-- A comment, if one begins here. -/
def comment? (s : Scan) : Option Scan :=
  match s.rest with
  | '/' :: '/' :: rest => some (s.emit .comment (2 + (rest.takeWhile (!isBreak ·)).length))
  | '/' :: '*' :: rest =>
    match commentLength rest with
    | some n => some (s.emit .comment (2 + n))
    | none => some (s.emit .stray s.rest.length)
  | _ => none

/-- A line that is a comment as in markup. Such a line stands where an operand could. -/
def markupComment? (s : Scan) : Option Scan :=
  let marked := "<!--".toList.isPrefixOf s.rest || "-->".toList.isPrefixOf s.rest
  if marked && expectsExpression s.previous then
    some (s.emit .comment (s.rest.takeWhile fun c => c == '\r' || !isBreak c).length)
  else none

/-- A bracket that closes `b`. After a condition or a block a statement can begin. -/
def close (s : Scan) (b : Bracket) : Scan :=
  let s := (s.emit .closing 1).pop
  match b with
  | .paren true | .brace false => { s with previous := none }
  | _ => s

/-- A closing bracket. -/
def closing (s : Scan) (c : Char) : Scan :=
  match c, s.brackets with
  | ')', .paren condition :: _ => s.close (.paren condition)
  | ']', .square :: _ => s.close .square
  | '\x7d', .brace value :: _ => s.close (.brace value)
  | '\x7d', .hole :: _ => s.close .hole
  | _, _ => s.emit .stray 1

/-- Words before a condition. -/
def conditionWords : List String :=
  ["if", "while", "for", "with"]

/-- Whether a parenthesis here begins a condition. -/
def atCondition (s : Scan) : Bool :=
  s.previous.any fun t => conditionWords.any t.isWord

/-- Signs after which a brace begins a block or a type. -/
def blockSigns : List String :=
  ["=>", ":", ";", ">"]

/-- Whether a brace here begins an object and not a block. -/
def atObject (s : Scan) : Bool :=
  s.previous.any fun t =>
    t.opens "(" || t.opens "[" || t.isWord "return" ||
      (t.kind == .sign && !blockSigns.any t.isSign)

/-- A step in code, at a character that is no blank. -/
def inCode (dialect : Dialect) (s : Scan) (c : Char) (rest : List Char) : Scan :=
  match s.comment? <|> s.markupComment? with
  | some s => s
  | none =>
    if c = '\x22' || c = '\x27' then
      match stringLength c rest with
      | some n => s.emit .string (n + 1)
      | none => s.emit .stray (1 + (rest.takeWhile (!isBreak ·)).length)
    else if c = '\x60' then (s.emit .opening 1).push .template
    else if c = '(' then (s.emit .opening 1).push (.paren s.atCondition)
    else if c = '[' then (s.emit .opening 1).push .square
    else if c = '\x7b' then (s.emit .opening 1).push (.brace s.atObject)
    else if c = ')' || c = ']' || c = '\x7d' then s.closing c
    else if isDigit c || (c = '.' && (rest.head?.map isDigit).getD false) then
      s.emit .number (numberLength false false s.rest)
    else if isWordStart c || (c = '\\' && rest.head? == some 'u') then
      s.emit .word (wordLength s.rest)
    else if c = '#' then
      if s.tokens.isEmpty && rest.head? == some '!' then
        s.emit .comment (1 + (rest.takeWhile (!isBreak ·)).length)
      else if (rest.head?.map isWordStart).getD false then s.emit .word (1 + wordLength rest)
      else s.emit .stray 1
    else if c = '/' && expectsExpression s.previous then
      match regexLength false rest with
      | some n => s.emit .regex (n + 1)
      | none => s.emit .sign (signLength s.rest)
    else if c = '<' && dialect = .markup && expectsExpression s.previous && beginsTag rest then
      (s.emit .opening 1).push (.tag false)
    else if signChars.contains c && c ≠ '\\' then s.emit .sign (signLength s.rest)
    else s.emit .stray 1

/-- The length of a template's text up to an expression or the end. -/
def templateLength : List Char → Nat
  | [] => 0
  | '\\' :: _ :: s => templateLength s + 2
  | '$' :: '\x7b' :: _ => 0
  | c :: s => if c = '\x60' then 0 else templateLength s + 1

def inTemplate (s : Scan) : Scan :=
  match s.rest with
  | '\x60' :: _ => (s.emit .closing 1).pop
  | '$' :: '\x7b' :: _ => (s.emit .opening 2).push .hole
  | rest => s.emit .chars (max 1 (templateLength rest))

/-- The length of a reference to a character after its `&`, with the semicolon. -/
def referenceLength? (s : List Char) : Option Nat :=
  let (mark, digits, limit, isDigitHere) : Nat × List Char × Nat × (Char → Bool) :=
    match s with
    | '#' :: 'x' :: s | '#' :: 'X' :: s => (2, s, 6, isHexDigit)
    | '#' :: s => (1, s, 5, isDigit)
    | s => (0, s, 30, Char.isAlpha)
  let n := (digits.takeWhile isDigitHere).length
  if 0 < n && n ≤ limit && (digits.drop n).head? == some ';' then some (mark + n + 1) else none
where
  isHexDigit (c : Char) : Bool :=
    isDigit c || ('a' ≤ c && c ≤ 'f') || ('A' ≤ c && c ≤ 'F')

/-- The length of an attribute's value after its opening quote, with the closing one. A letter or a
`#` after an `&` begins a reference; any other character there stands for itself, even a quote. -/
def valueLength (quote : Char) (s : List Char) : Option Nat :=
  match s with
  | [] => none
  | '&' :: c :: rest =>
    if c = '#' || c.isAlpha then
      match referenceLength? (c :: rest) with
      | some _ => (valueLength quote (c :: rest)).map (· + 1)
      | none => none
    else (valueLength quote rest).map (· + 2)
  | c :: rest => if c = quote then some 1 else (valueLength quote rest).map (· + 1)

/-- A step inside a tag. -/
def inTag (s : Scan) (closing : Bool) (c : Char) (rest : List Char) : Scan :=
  match s.comment? with
  | some s => s
  | none =>
    if c = '>' then
      let s := (s.emit .closing 1).pop
      if closing then s.pop else s.push .element
    else if c = '/' && rest.head? == some '>' then (s.emit .closing 2).pop
    else if c = '\x22' || c = '\x27' then
      match valueLength c rest with
      | some n => s.emit .string (n + 1)
      | none => s.emit .stray (min s.rest.length (2 + (rest.takeWhile (· != c)).length))
    else if c = '\x7b' then (s.emit .opening 1).push (.brace true)
    else if c = '<' then (s.emit .opening 1).push (.tag false)
    else if isWordStart c then
      s.emit .word (s.rest.takeWhile fun d => isWordChar d || d == '-').length
    else if c = '=' || c = '.' || c = ':' then s.emit .sign 1
    else s.emit .stray 1

/-- Characters that end the text between tags. -/
def elementMarks : List Char :=
  ['<', '>', '\x7b', '\x7d', '&']

/-- A step between the start and the end of an element. -/
def inElement (s : Scan) : Scan :=
  match s.rest with
  | '<' :: '/' :: _ => (s.emit .opening 2).push (.tag true)
  | '<' :: _ => (s.emit .opening 1).push (.tag false)
  | '\x7b' :: _ => (s.emit .opening 1).push (.brace true)
  | '\x7d' :: _ => s.emit .stray 1
  | '>' :: _ => s.emit .stray 1
  | '&' :: rest =>
    match referenceLength? rest with
    | some n => s.emit .chars (n + 1)
    | none => s.emit .stray 1
  | rest =>
    s.emit .chars (max 1 (rest.takeWhile (!elementMarks.contains ·)).length)

/-- One step; it takes at least one character. -/
def step (dialect : Dialect) (s : Scan) : Scan :=
  match s.brackets.head?, s.rest with
  | _, [] => s
  | some .template, _ => s.inTemplate
  | some .element, _ => s.inElement
  | some (.tag closing), c :: rest => if isBlank c then s.skip 1 else s.inTag closing c rest
  | _, c :: rest => if isBlank c then s.skip 1 else s.inCode dialect c rest

/-- Steps until nothing is left. -/
def run (dialect : Dialect) : (fuel : Nat) → Scan → Scan
  | 0, s => s
  | fuel + 1, s => if s.rest.isEmpty then s else run dialect fuel (s.step dialect)

end Scan

/-- The tokens of a source with its comments, and whether every bracket is closed. -/
def scan (dialect : Dialect) (src : String) : List Token × Bool :=
  let s := Scan.run dialect (src.toList.length + 1) { rest := src.toList }
  (s.tokens.reverse, s.brackets.isEmpty)

end Codemod.Source
