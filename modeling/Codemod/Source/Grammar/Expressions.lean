import Codemod.Source.Grammar.Types

/-!
# Expressions

How expressions are written, functions, classes and elements among them.
-/

namespace Codemod.Source.Grammar

/-- Signs between two operands. The sign `>` and those that begin with it come in pieces. -/
def infixSigns : List String :=
  ["+", "-", "*", "/", "%", "**", "<<", "<", "&", "|", "^", "&&", "||", "??", "==", "!=", "===",
    "!==", "<="]

def assignmentSigns : List String :=
  ["=", "+=", "-=", "*=", "/=", "%=", "**=", "<<=", "&=", "|=", "^=", "&&=", "||=", "??="]

/-- Signs in front of an operand. -/
def leadingSigns : List String :=
  ["+", "-", "!", "~", "++", "--"]

/-- Words in front of an operand. -/
def leadingWords : List String :=
  ["typeof", "void", "delete", "await"]

/-- Words that are never operands. -/
def reservedWords : List String :=
  ["typeof", "void", "delete", "extends"]

/-- Pieces of a sign that stand one after another without blanks, the first of them at `start`. -/
def pieces (start : Nat) : (atMost : Nat) → Grammar Unit
  | 0 => pure ()
  | atMost + 1 => optional do
    match ← peek with
    | some t =>
      require (t.first.start = start && (t.isSign ">" || t.isSign "="))
      skip
      pieces t.first.stop atMost
    | none => failure

/-- A sign that begins with `>`. -/
def greater : Grammar Unit := do
  match ← peek with
  | some t =>
    eatSign ">"
    pieces t.first.stop 3
  | none => failure

/-- A sign of a list. -/
def signOf (signs : List String) : Grammar Unit := do
  require (← nextIs fun t => signs.any t.isSign)
  skip

/-- A pattern of names. -/
def pattern : Grammar Unit :=
  discard word <|> bracket "\x7b" .object <|> bracket "[" .array

/-- Parameters, the type of the result, and the body of a function. -/
def functionRest (fuel : Nat) : Grammar Unit := do
  optional (typeParameters fuel)
  bracket "(" .parameters
  optional (typed fuel)

/-- Whether an arrow function begins here. -/
def beginsArrow : Grammar Bool := do
  let rest := (← get).rest
  let rest := match rest with
    | t :: u :: more =>
      if t.isWord "async" && !u.first.afterBreak && !u.isSign "=>" then u :: more else rest
    | _ => rest
  match rest with
  | t :: u :: _ =>
    return t.isSign "<" || (t.opensWith "(" && (u.isSign "=>" || u.isSign ":")) ||
      (t.first.kind = .word && u.isSign "=>")
  | _ => return false

/-- Whether a phrase that has been recognized can be assigned to. -/
def isTarget (phrase : List Tree) : Bool :=
  match phrase.getLast? with
  | some t =>
    t.first.kind = .word || t.opensWith "[" || t.isSign "!" ||
      (phrase.length = 1 && (t.opensWith "(" || t.opensWith "\x7b"))
  | none => false

mutual

/-- An expression without commas. -/
def assign : (fuel : Nat) → Grammar Unit
  | 0 => failure
  | fuel + 1 => arrow fuel <|> yieldPhrase fuel <|> do
      (do
        target fuel
        signOf assignmentSigns
        assign fuel)
      <|> conditional fuel

/-- What can be assigned to: a name, a member or a pattern. -/
def target : (fuel : Nat) → Grammar Unit
  | 0 => failure
  | fuel + 1 => do
    let before := (← get).rest
    primary fuel
    many (suffix fuel) fuel
    let taken := before.take (before.length - (← get).rest.length)
    require (isTarget taken)

def arrow : (fuel : Nat) → Grammar Unit
  | 0 => failure
  | fuel + 1 => do
    require (← beginsArrow)
    optional do
      require (!(← peekSecond).any (·.isSign "=>"))
      eat "async"
    (do
      let _ ← word
      eatSign "=>") <|> do
      functionRest fuel
      eatSign "=>"
    bracket "\x7b" .block <|> assign fuel

def yieldPhrase : (fuel : Nat) → Grammar Unit
  | 0 => failure
  | fuel + 1 => do
    eat "yield"
    optional (eatSign "*")
    assign fuel

def conditional : (fuel : Nat) → Grammar Unit
  | 0 => failure
  | fuel + 1 => do
    operand fuel
    operations fuel
    optional do
      eatSign "?"
      (do
        assign fuel
        eatSign ":"
        assign fuel)
      <|> do
        -- what looked like the result of a function is the second choice
        operand fuel
        operations fuel
        eatSign ":"
        assign fuel

/-- Operators and operands after the first. -/
def operations : (fuel : Nat) → Grammar Unit
  | 0 => failure
  | fuel + 1 =>
    (do
      (signOf infixSigns <|> greater <|> eat "in" <|> eat "instanceof")
      operand fuel
      operations fuel)
    <|> (do
      require (← sameLine)
      (eat "as" <|> eat "satisfies")
      (eat "const" <|> typeOf fuel)
      operations fuel)
    <|> pure ()

/-- An operand with what stands in front of it and after it. -/
def operand : (fuel : Nat) → Grammar Unit
  | 0 => failure
  | fuel + 1 =>
    (signOf leadingSigns *> operand fuel)
    <|> (do
      let w ← word
      require (leadingWords.contains w)
      operand fuel)
    <|> (do
      eatSign "<"
      typeOf fuel
      eatSign ">"
      operand fuel)
    <|> (primary fuel *> suffixes fuel)

/-- Members, calls and the like after an operand. -/
def suffixes : (fuel : Nat) → Grammar Unit
  | 0 => failure
  | fuel + 1 =>
    (suffix fuel *> suffixes fuel)
    <|> (do
      require (← sameLine)
      (eatSign "++" <|> eatSign "--"))
    <|> pure ()

def suffix : (fuel : Nat) → Grammar Unit
  | 0 => failure
  | fuel + 1 =>
    (eatSign "." *> discard word)
    <|> (eatSign "?." *> (discard word <|> bracket "(" .arguments <|> bracket "[" .expression))
    <|> bracket "[" .expression
    <|> bracket "(" .arguments
    <|> bracket "\x60" .template
    <|> (do
      require (← sameLine)
      eatSign "!")
    <|> (do
      typeArguments fuel
      bracket "(" .arguments <|> bracket "\x60" .template)

def primary : (fuel : Nat) → Grammar Unit
  | 0 => failure
  | fuel + 1 =>
    literal .number <|> literal .string <|> literal .regex
    <|> bracket "(" .expression
    <|> bracket "[" .array
    <|> bracket "\x7b" .object
    <|> bracket "\x60" .template
    <|> element fuel
    <|> (do
      let w ← word
      if w = "function" then functionPhrase fuel
      else if w = "async" && (← ahead "function") && (← sameLine) then
        skip
        functionPhrase fuel
      else if w = "class" then classPhrase fuel
      else if w = "new" then
        (eatSign "." *> discard word) <|> do
          primary fuel
          many (do
            (eatSign "." *> discard word) <|> bracket "[" .expression) fuel
          optional (typeArguments fuel)
      else if w = "import" then (eatSign "." *> discard word) <|> bracket "(" .arguments
      else require (!reservedWords.contains w))
    <|> (do
      decorator fuel
      primary fuel)

/-- A function after its first word. -/
def functionPhrase : (fuel : Nat) → Grammar Unit
  | 0 => failure
  | fuel + 1 => do
    optional (eatSign "*")
    optional (discard word)
    functionRest fuel
    bracket "\x7b" .statements

/-- A class after its first word. -/
def classPhrase : (fuel : Nat) → Grammar Unit
  | 0 => failure
  | fuel + 1 => do
    optional do
      require (!(← ahead "extends") && !(← ahead "implements"))
      discard word
    optional (typeParameters fuel)
    optional do
      eat "extends"
      heritage fuel
      many (do eatSign ","; heritage fuel) fuel
    optional do
      eat "implements"
      separated "," (typeOf fuel) fuel
    bracket "\x7b" .classBody

/-- What a class extends. -/
def heritage : (fuel : Nat) → Grammar Unit
  | 0 => failure
  | fuel + 1 => do
    primary fuel
    suffixes fuel
    optional (typeArguments fuel)

def decorator : (fuel : Nat) → Grammar Unit
  | 0 => failure
  | fuel + 1 => do
    eatSign "@"
    bracket "(" .expression <|> dottedName fuel
    optional (typeArguments fuel)
    optional (bracket "(" .arguments)

/-- An element, from its first tag to its last. -/
def element : (fuel : Nat) → Grammar Unit
  | 0 => failure
  | fuel + 1 => do
    match ← peek with
    | some (.group _ _ closing) =>
      bracket "<" .tag
      if closing.text ≠ "/>" then elementRest fuel
    | _ => failure

/-- The text and the elements up to the closing tag. -/
def elementRest : (fuel : Nat) → Grammar Unit
  | 0 => failure
  | fuel + 1 =>
    anyBracket "</" <|> do
      (literal .chars <|> bracket "\x7b" .child <|> element fuel)
      elementRest fuel

end

/-- An expression, maybe with commas. -/
def expression (fuel : Nat) : Grammar Unit :=
  separated "," (assign fuel) fuel

/-! ## What stands in brackets -/

def argument (fuel : Nat) : Grammar Unit := do
  optional (eatSign "...")
  assign fuel

def parameter (fuel : Nat) : Grammar Unit := do
  many (decorator fuel) fuel
  many (do
    require ((← peekSecond).any fun t => t.first.kind = .word || t.opensWith "\x7b" || t.opensWith "[")
    let w ← word
    require (modifiers.contains w)) 4
  optional (eatSign "...")
  pattern
  optional (eatSign "?")
  optional (typed fuel)
  optional (eatSign "=" *> assign fuel)

/-- A member of an object. -/
def property (fuel : Nat) : Grammar Unit :=
  (eatSign "..." *> assign fuel)
  <|> (do
    many modifier 3
    optional (eatSign "*")
    memberName
    functionRest fuel
    bracket "\x7b" .statements)
  <|> (do
    memberName
    eatSign ":"
    assign fuel)
  <|> (do
    let _ ← word
    optional (eatSign "=" *> assign fuel))

def enumMember (fuel : Nat) : Grammar Unit := do
  memberName
  optional (eatSign "=" *> assign fuel)

/-- A member of a class. -/
def classMember (fuel : Nat) : Grammar Unit := do
  many (decorator fuel) fuel
  (do
    eat "static"
    bracket "\x7b" .statements)
  <|> (do
    many modifier 6
    optional (eatSign "*")
    memberName
    optional (eatSign "?" <|> eatSign "!")
    functionRest fuel
    bracket "\x7b" .statements <|> endOfStatement)
  <|> (do
    many modifier 6
    memberName
    optional (eatSign "?" <|> eatSign "!")
    optional (typed fuel)
    optional (eatSign "=" *> expression fuel)
    endOfStatement)
  <|> (do
    -- an index signature
    many modifier 4
    anyBracket "["
    typed fuel
    endOfStatement)

def classMembers : (fuel : Nat) → Grammar Unit
  | 0 => failure
  | fuel + 1 => do
    if ← atEnd then return
    if ← aheadSign ";" then skip else classMember (fuel + 1)
    classMembers fuel

/-- The expressions in a template. -/
def templateParts : (fuel : Nat) → Grammar Unit
  | 0 => failure
  | fuel + 1 => do
    if ← atEnd then return
    literal .chars <|> bracket "$\x7b" .expression
    templateParts fuel

/-- An attribute of an element. -/
def tagAttribute (fuel : Nat) : Grammar Unit :=
  bracket "\x7b" .child <|> do
    let _ ← word
    optional (eatSign ":" *> discard word)
    optional do
      eatSign "="
      literal .string <|> bracket "\x7b" .child <|> element fuel

/-- The inside of a tag: a name and attributes, or nothing. -/
def tagInside (fuel : Nat) : Grammar Unit := do
  if ← atEnd then return
  let _ ← word
  many ((eatSign "." <|> eatSign ":") *> discard word) fuel
  many (tagAttribute fuel) fuel

/-- An expression between tags. -/
def childInside (fuel : Nat) : Grammar Unit := do
  if ← atEnd then return
  optional (eatSign "...")
  expression fuel

end Codemod.Source.Grammar
