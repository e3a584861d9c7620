import Codemod.Source.Grammar.Statements

/-!
# Checking a whole source

A source is well-formed if its statements are, and if what stands in each bracket is what the
bracket is for.

## Main definition

* `isWellFormed` — whether tokens make a program.
-/

namespace Codemod.Source

namespace Grammar

/-- How deep the search for a phrase among `n` trees can go. -/
def depthFor (n : Nat) : Nat :=
  16 * n + 64

/-- Recognizes the whole of a bracket. -/
def inside (role : Role) (fuel : Nat) : Grammar Unit :=
  match role with
  | .statements => statements fuel
  | .block => (statements fuel *> finished) <|> listed (missing <|> property fuel) fuel
  | .cases => cases false fuel
  | .expression => expression fuel
  | .arguments => listed (missing <|> argument fuel) fuel
  | .parameters => listed (parameter fuel) fuel
  | .object => listed (missing <|> property fuel) fuel
  | .array => listed (missing <|> argument fuel) fuel
  | .template => templateParts fuel
  | .forHead => forHead fuel
  | .classBody => classMembers fuel
  | .typeBody => optional (eatSign "," <|> eatSign ";") *> typeMembers fuel
  | .enumBody => listed (enumMember fuel) fuel
  | .specifiers => (eatSign "," *> finished) <|> listed specifier fuel
  | .tag => tagInside fuel
  | .child => childInside fuel
where
  finished : Grammar Unit := do
    require (← atEnd)
  /-- Nothing between two commas. -/
  missing : Grammar Unit := do
    require (← aheadSign ",")

end Grammar

/-- The brackets within a bracket, if what is around them is as its role says. -/
def Due.inner? (d : Due) : Option (List Due) :=
  match (Grammar.inside d.role (Grammar.depthFor d.items.length)).run { rest := d.items } with
  | some ((), c) => if c.rest.isEmpty then some c.due else none
  | none => none

/-- Whether all that is due is as it should be. The fuel bounds the number of brackets. -/
def Due.checkAll : (fuel : Nat) → List Due → Bool
  | _, [] => true
  | 0, _ => false
  | fuel + 1, d :: rest =>
    match d.inner? with
    | some inner => checkAll fuel (inner ++ rest)
    | none => false

/-- Whether tokens make a program. -/
def isWellFormed (tokens : List Token) : Bool :=
  match Tree.ofTokens tokens with
  | some trees => Due.checkAll (Tree.sizeAll trees + 1) [{ role := .statements, items := trees }]
  | none => false

end Codemod.Source
