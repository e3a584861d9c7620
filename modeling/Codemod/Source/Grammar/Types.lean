import Codemod.Source.Grammar

/-!
# Types

How types are written.
-/

namespace Codemod.Source.Grammar

/-- Words that make another type of a type. -/
def typeOperators : List String :=
  ["keyof", "unique", "readonly", "infer"]

/-- Names with dots between them. -/
def dottedName (fuel : Nat) : Grammar Unit := do
  let _ ← word
  many (do eatSign "."; let _ ← word) fuel

mutual

def typeOf : (fuel : Nat) → Grammar Unit
  | 0 => failure
  | fuel + 1 =>
    predicate fuel <|> functionType fuel <|> do
      unionType fuel
      -- a type that depends on a condition
      optional do
        eat "extends"
        typeOf fuel
        eatSign "?"
        typeOf fuel
        eatSign ":"
        typeOf fuel

/-- What a function tells about its argument. -/
def predicate : (fuel : Nat) → Grammar Unit
  | 0 => failure
  | fuel + 1 =>
    (do
      eat "asserts"
      let _ ← word
      optional do
        require (← sameLine)
        eat "is"
        typeOf fuel)
    <|> do
      let _ ← word
      require (← sameLine)
      eat "is"
      typeOf fuel

def functionType : (fuel : Nat) → Grammar Unit
  | 0 => failure
  | fuel + 1 => do
    optional do
      optional (eat "abstract")
      eat "new"
    optional (typeParameters fuel)
    bracket "(" .parameters
    eatSign "=>"
    typeOf fuel

def unionType : (fuel : Nat) → Grammar Unit
  | 0 => failure
  | fuel + 1 => do
    optional (eatSign "|")
    separated "|" (intersection fuel) fuel

def intersection : (fuel : Nat) → Grammar Unit
  | 0 => failure
  | fuel + 1 => do
    optional (eatSign "&")
    separated "&" (operatorType fuel <|> functionType fuel) fuel

def operatorType : (fuel : Nat) → Grammar Unit
  | 0 => failure
  | fuel + 1 =>
    (do
      let w ← word
      require (typeOperators.contains w)
      operatorType fuel)
    <|> do
      primaryType fuel
      many (do require (← sameLine); anyBracket "[") fuel

def primaryType : (fuel : Nat) → Grammar Unit
  | 0 => failure
  | fuel + 1 =>
    literal .string <|> literal .number <|> (eatSign "-" *> literal .number) <|>
    anyBracket "\x60" <|> anyBracket "(" <|> anyBracket "[" <|> bracket "\x7b" .typeBody <|> do
      if (← ahead "import") && (← peekSecond).any (·.opensWith "(") then
        skip
        skip
        many (do eatSign "."; let _ ← word) fuel
      else if (← ahead "typeof") && (← peekSecond).any (·.first.kind = .word) then
        skip
        if (← ahead "import") && (← peekSecond).any (·.opensWith "(") then
          skip
          skip
          many (do eatSign "."; let _ ← word) fuel
        else dottedName fuel
      else dottedName fuel
      optional (typeArguments fuel)

def typeArguments : (fuel : Nat) → Grammar Unit
  | 0 => failure
  | fuel + 1 => do
    eatSign "<"
    separated "," (typeOf fuel) fuel
    optional (eatSign ",")
    eatSign ">"

def typeParameters : (fuel : Nat) → Grammar Unit
  | 0 => failure
  | fuel + 1 => do
    eatSign "<"
    separated "," (typeParameter fuel) fuel
    optional (eatSign ",")
    eatSign ">"

def typeParameter : (fuel : Nat) → Grammar Unit
  | 0 => failure
  | fuel + 1 => do
    many (do
      require ((← peekSecond).any (·.first.kind = .word) && !(← peekSecond).any (·.isWord "extends"))
      let w ← word
      require (["const", "in", "out"].contains w)) 3
    let _ ← word
    optional (eat "extends" *> typeOf fuel)
    optional (eatSign "=" *> typeOf fuel)

end

/-- The type of a name. -/
def typed (fuel : Nat) : Grammar Unit := do
  eatSign ":"
  typeOf fuel

/-! ## Members -/

/-- Words that can stand in front of a member. -/
def modifiers : List String :=
  ["public", "private", "protected", "static", "readonly", "abstract", "override", "declare",
    "async", "get", "set", "accessor", "export"]

/-- Whether a member can begin with a tree. -/
def beginsMember (t : Tree) : Bool :=
  t.first.kind = .word || t.first.kind = .string || t.first.kind = .number || t.opensWith "[" ||
    t.isSign "*" || t.opensWith "\x7b"

/-- A modifier: a word that something to name follows. -/
def modifier : Grammar Unit := do
  require ((← peekSecond).any beginsMember)
  let w ← word
  require (modifiers.contains w)

/-- The name of a member. -/
def memberName : Grammar Unit :=
  discard word <|> literal .string <|> literal .number <|> bracket "[" .expression

/-- A member of an object type. -/
def typeMember (fuel : Nat) : Grammar Unit := do
  optional (eatSign "+" <|> eatSign "-")
  many modifier 4
  (do
    -- a signature, or something to call with `new`
    optional (do require ((← peekSecond).any fun t => t.opensWith "(" || t.isSign "<"); eat "new")
    optional (typeParameters fuel)
    bracket "(" .parameters)
  <|> do
    discard word <|> literal .string <|> literal .number <|> anyBracket "["
    optional (eatSign "+" <|> eatSign "-")
    optional (eatSign "?")
    optional do
      optional (typeParameters fuel)
      bracket "(" .parameters
  optional (typed fuel)

/-- Members of an object type: semicolons, commas or line breaks stand between them. -/
def typeMembers : (fuel : Nat) → Grammar Unit
  | 0 => failure
  | fuel + 1 => do
    if ← atEnd then return
    typeMember (fuel + 1)
    if ← aheadSign "," then skip else endOfStatement
    typeMembers fuel

end Codemod.Source.Grammar
