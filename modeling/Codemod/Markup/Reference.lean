import Codemod.Markup.Reference.Names
import Codemod.Markup.Token

/-!
# Character references

What follows an ampersand: a name from the table, or a code point in base ten or sixteen. Anything
else leaves the ampersand as it is.
-/

namespace Codemod.Markup.Reference

/-- What the code points from `0x80` to `0x9f` stand for. -/
def windowsTable : List Nat :=
  [0x20ac, 0x81, 0x201a, 0x192, 0x201e, 0x2026, 0x2020, 0x2021, 0x2c6, 0x2030, 0x160, 0x2039,
    0x152, 0x8d, 0x17d, 0x8f, 0x90, 0x2018, 0x2019, 0x201c, 0x201d, 0x2022, 0x2013, 0x2014, 0x2dc,
    0x2122, 0x161, 0x203a, 0x153, 0x9d, 0x17e, 0x178]

/-- The character of a numeric reference. -/
def ofCode (n : Nat) : Char :=
  if n = 0 || n > 0x10ffff || (0xd800 ≤ n && n ≤ 0xdfff) then '\uFFFD'
  else if 0x80 ≤ n && n ≤ 0x9f then Char.ofNat (windowsTable.getD (n - 0x80) n)
  else Char.ofNat n

def digitIn? (hex : Bool) (c : Char) : Option Nat :=
  if isDigit c then some (c.toNat - '0'.toNat)
  else if hex && 'a' ≤ c && c ≤ 'f' then some (c.toNat - 'a'.toNat + 10)
  else if hex && 'A' ≤ c && c ≤ 'F' then some (c.toNat - 'A'.toNat + 10)
  else none

/-- The digits at the front of a text: their value and their number. -/
def digits (hex : Bool) (value count : Nat) : List Char → Nat × Nat
  | [] => (value, count)
  | c :: s =>
    match digitIn? hex c with
    | some d => digits hex (value * (if hex then 16 else 10) + d) (count + 1) s
    | none => (value, count)

/-- The characters of a reference and how many characters it takes up. -/
abbrev Reading := List Char × Nat

/-- A numeric reference, after `skip` characters of introduction. -/
def numeric (hex : Bool) (skip : Nat) (s : List Char) : Option Reading :=
  let (value, count) := digits hex 0 0 s
  if count = 0 then none
  else
    let semicolon := if (s.drop count).head? = some ';' then 1 else 0
    some ([ofCode value], skip + count + semicolon)

/-- A named reference. In an attribute, a name without its semicolon is left alone if it could be
the front of something longer. -/
def named (inAttribute : Bool) (s : List Char) : Option Reading :=
  match longest? s with
  | none => none
  | some e =>
    let n := e.name.length
    let continues :=
      match (s.drop n).head? with
      | some c => c = '=' || isLetter c || isDigit c
      | none => false
    if inAttribute && e.name.getLast? ≠ some ';' && continues then none
    else some (e.value, n)

/-- The reference that follows an ampersand. -/
def read (inAttribute : Bool) : List Char → Option Reading
  | '#' :: 'x' :: s => numeric true 2 s
  | '#' :: 'X' :: s => numeric true 2 s
  | '#' :: s => numeric false 1 s
  | s => named inAttribute s

end Codemod.Markup.Reference
