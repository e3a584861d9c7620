import Codemod.Source.Tree

/-!
# Recognizing source code

A phrase is recognized from left to right. What stands in brackets is not entered on the way: it is
put down as due, with the role that it has, and is looked at later on its own.

## Main definitions

* `Role`, `Due` — what is to be found in a bracket.
* `Grammar` — recognizing the front of a list of trees, with a second try where the first fails.
-/

namespace Codemod.Source

/-- What a bracket holds. -/
inductive Role where
  | statements
  /-- Statements, or the members of an object. -/
  | block
  | cases
  | expression
  | arguments
  | parameters
  | object
  | array
  | template
  | forHead
  | classBody
  | typeBody
  | enumBody
  /-- Names of an import or an export. -/
  | specifiers
  /-- The inside of a tag. -/
  | tag
  /-- An expression between tags, which may be missing. -/
  | child
  deriving DecidableEq, Inhabited

/-- Trees that have to be recognized on their own. -/
structure Due where
  role : Role
  items : List Tree
  deriving Inhabited

structure Cursor where
  rest : List Tree
  due : List Due := []
  deriving Inhabited

abbrev Grammar := StateT Cursor Option

namespace Grammar

def peek : Grammar (Option Tree) := do
  return (← get).rest.head?

/-- The tree after the next one. -/
def peekSecond : Grammar (Option Tree) := do
  return ((← get).rest.drop 1).head?

def skip : Grammar Unit :=
  modify fun c => { c with rest := c.rest.drop 1 }

def atEnd : Grammar Bool := do
  return (← get).rest.isEmpty

/-- Whether a tree comes next of which `f` holds. -/
def nextIs (f : Tree → Bool) : Grammar Bool := do
  return (← peek).any f

def ahead (w : String) : Grammar Bool :=
  nextIs (·.isWord w)

def aheadSign (s : String) : Grammar Bool :=
  nextIs (·.isSign s)

def require (b : Bool) : Grammar Unit :=
  if b then pure () else failure

/-- The next tree, which begins on the line where the one before it ends. -/
def sameLine : Grammar Bool :=
  nextIs fun t => !t.first.afterBreak

/-- Any word. -/
def word : Grammar String := do
  match ← peek with
  | some (.leaf t) =>
    require (t.kind = .word)
    skip
    return t.text
  | _ => failure

def eat (w : String) : Grammar Unit := do
  require (← ahead w)
  skip

def eatSign (s : String) : Grammar Unit := do
  require (← aheadSign s)
  skip

/-- A token of the given kind. -/
def literal (kind : Token.Kind) : Grammar Unit := do
  match ← peek with
  | some (.leaf t) =>
    require (t.kind = kind)
    skip
  | _ => failure

/-- A bracket, the inside of which has a role. -/
def bracket (opening : String) (role : Role) : Grammar Unit := do
  match ← peek with
  | some (.group o items _) =>
    require (o.text = opening)
    modify fun c => { c with rest := c.rest.drop 1, due := { role, items } :: c.due }
  | _ => failure

/-- A bracket, whatever is in it. -/
def anyBracket (opening : String) : Grammar Unit := do
  require (← nextIs (·.opensWith opening))
  skip

/-- Maybe a phrase. -/
def optional (p : Grammar Unit) : Grammar Unit :=
  p <|> pure ()

/-- A phrase, as often as it comes. -/
def many (p : Grammar Unit) : (fuel : Nat) → Grammar Unit
  | 0 => pure ()
  | fuel + 1 => (do p; many p fuel) <|> pure ()

/-- Phrases with a sign between them. -/
def separated (sign : String) (p : Grammar Unit) (fuel : Nat) : Grammar Unit := do
  p
  many (do eatSign sign; p) fuel

/-- Phrases with commas between them, to the end; after the last there may be a comma. -/
def listed (p : Grammar Unit) : (fuel : Nat) → Grammar Unit
  | 0 => failure
  | fuel + 1 => do
    if ← atEnd then return
    p
    if ← atEnd then return
    eatSign ","
    listed p fuel

/-- The end of a statement: a semicolon, a line break or the end of all. -/
def endOfStatement : Grammar Unit := do
  if ← aheadSign ";" then skip
  else if ← atEnd then pure ()
  else require (!(← sameLine))

end Grammar

end Codemod.Source
