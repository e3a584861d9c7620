/-!
# Sets of code points

A set of characters as a list of ranges. The tables of character properties are written as text:
hexadecimal code points, `first-last` for a range, with blanks between.
-/

namespace Codemod.Text

/-- Closed ranges of code points. -/
abbrev Ranges := List (Nat × Nat)

namespace Ranges

def digitOf? (c : Char) : Option Nat :=
  if '0' ≤ c && c ≤ '9' then some (c.toNat - '0'.toNat)
  else if 'a' ≤ c && c ≤ 'f' then some (c.toNat - 'a'.toNat + 10)
  else none

/-- Reads a table. A blank ends a range, a minus sign ends its first code point; `first` and
`current` belong to the range being read. -/
def readFrom (first current : Option Nat) : List Char → Ranges
  | [] => close first current
  | '-' :: s => readFrom current none s
  | c :: s =>
    match digitOf? c with
    | some d => readFrom first (some (current.getD 0 * 16 + d)) s
    | none => close first current ++ readFrom none none s
where
  close (first current : Option Nat) : Ranges :=
    match first, current with
    | some a, some b => [(a, b)]
    | none, some b => [(b, b)]
    | _, none => []

/-- The ranges that a table's text lists. -/
def ofString (s : String) : Ranges :=
  readFrom none none s.toList

def contains (r : Ranges) (n : Nat) : Bool :=
  r.any fun (a, b) => a ≤ n && n ≤ b

end Ranges

end Codemod.Text
