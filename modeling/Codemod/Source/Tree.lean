import Codemod.Source.Token

/-!
# Bracket trees

Tokens with every bracket and what stands in it as one item. Comments are left out.
-/

namespace Codemod.Source

inductive Tree where
  | leaf (t : Token)
  | group (opening : Token) (items : List Tree) (closing : Token)
  deriving Inhabited

namespace Tree

/-- The first token. -/
def first : Tree → Token
  | leaf t => t
  | group t _ _ => t

def isWord (w : String) : Tree → Bool
  | leaf t => t.isWord w
  | group _ _ _ => false

def isSign (s : String) : Tree → Bool
  | leaf t => t.isSign s
  | group _ _ _ => false

/-- Whether the tree is a bracket of the given kind. -/
def opensWith (s : String) : Tree → Bool
  | leaf _ => false
  | group t _ _ => t.text = s

mutual

/-- How many tokens and brackets there are. -/
def size : Tree → Nat
  | leaf _ => 1
  | group _ items _ => 2 + sizeAll items

def sizeAll : List Tree → Nat
  | [] => 0
  | t :: rest => t.size + sizeAll rest

end

/-- Adds tokens to `items`, the latest first; `around` are the brackets that are open, innermost
first, each with the items before it. -/
def collect (items : List Tree) :
    (around : List (List Tree × Token)) → List Token → Option (List Tree)
  | around, [] => if around.isEmpty then some items.reverse else none
  | around, t :: rest =>
    match t.kind, around with
    | .comment, _ => collect items around rest
    | .stray, _ => none
    | .opening, _ => collect [] ((items, t) :: around) rest
    | .closing, (before, o) :: around => collect (.group o items.reverse t :: before) around rest
    | .closing, [] => none
    | _, _ => collect (.leaf t :: items) around rest

/-- The trees of tokens, if every bracket is closed and nothing is stray. -/
def ofTokens (tokens : List Token) : Option (List Tree) :=
  collect [] [] tokens

end Tree

end Codemod.Source
