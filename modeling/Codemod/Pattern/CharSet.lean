import Codemod.Pattern.Fold
import Codemod.Pattern.Letter
import Codemod.Text.Blank

/-!
# Sets of characters

What one character of a pattern can stand for.
-/

namespace Codemod.Pattern

inductive CharSet where
  | ranges (r : Text.Ranges)
  | union (a b : CharSet)
  | inter (a b : CharSet)
  | diff (a b : CharSet)
  | symmDiff (a b : CharSet)
  | compl (a : CharSet)
  /-- All characters that differ from one of `a` in case only; only among ASCII if `ascii`. -/
  | folded (ascii : Bool) (a : CharSet)
  deriving Inhabited

namespace CharSet

/-- The other case of an ASCII letter. -/
def asciiVariants (n : Nat) : List Nat :=
  if 0x41 ≤ n && n ≤ 0x5a then [n, n + 32]
  else if 0x61 ≤ n && n ≤ 0x7a then [n, n - 32]
  else [n]

/-- Whether a code point belongs to a set. -/
def has : CharSet → Nat → Bool
  | ranges r, n => r.contains n
  | union a b, n => a.has n || b.has n
  | inter a b, n => a.has n && b.has n
  | diff a b, n => a.has n && !b.has n
  | symmDiff a b, n => a.has n != b.has n
  | compl a, n => !a.has n
  | folded ascii a, n => (if ascii then asciiVariants n else variants n).any a.has

/-- How many ranges a set is made of, at least one. -/
def size : CharSet → Nat
  | ranges r => max 1 r.length
  | union a b => a.size + b.size
  | inter a b => max a.size b.size
  | diff a b => max a.size b.size
  | symmDiff a b => a.size + b.size
  | compl a => a.size
  | folded _ a => a.size

def empty : CharSet := ranges []

def single (c : Char) : CharSet := ranges [(c.toNat, c.toNat)]

/-! ## Named sets -/

def digit (ascii : Bool) : CharSet :=
  if ascii then ranges [(0x30, 0x39)] else ranges digitRanges

def word (ascii : Bool) : CharSet :=
  if ascii then ranges [(0x30, 0x39), (0x41, 0x5a), (0x5f, 0x5f), (0x61, 0x7a)]
  else ranges wordRanges

def blank (ascii : Bool) : CharSet :=
  if ascii then ranges [(0x9, 0xd), (0x20, 0x20)]
  else
    ranges
      [(0x9, 0xd), (0x20, 0x20), (0x85, 0x85), (0xa0, 0xa0), (0x1680, 0x1680), (0x2000, 0x200a),
        (0x2028, 0x2029), (0x202f, 0x202f), (0x205f, 0x205f), (0x3000, 0x3000)]

/-- The sets that a name in colons stands for. -/
def named? (name : String) : Option CharSet :=
  match name with
  | "alnum" => some (ranges [(0x30, 0x39), (0x41, 0x5a), (0x61, 0x7a)])
  | "alpha" => some (ranges [(0x41, 0x5a), (0x61, 0x7a)])
  | "ascii" => some (ranges [(0, 0x7f)])
  | "blank" => some (ranges [(0x9, 0x9), (0x20, 0x20)])
  | "cntrl" => some (ranges [(0, 0x1f), (0x7f, 0x7f)])
  | "digit" => some (ranges [(0x30, 0x39)])
  | "graph" => some (ranges [(0x21, 0x7e)])
  | "lower" => some (ranges [(0x61, 0x7a)])
  | "print" => some (ranges [(0x20, 0x7e)])
  | "punct" => some (ranges [(0x21, 0x2f), (0x3a, 0x40), (0x5b, 0x60), (0x7b, 0x7e)])
  | "space" => some (blank true)
  | "upper" => some (ranges [(0x41, 0x5a)])
  | "word" => some (word true)
  | "xdigit" => some (ranges [(0x30, 0x39), (0x41, 0x46), (0x61, 0x66)])
  | _ => none

end CharSet

end Codemod.Pattern
