import Codemod.Json.Value
import Codemod.Yaml.Node

/-!
# Values of scalars

What plain text stands for: nothing, a truth value, a number, or itself.

## Main definitions

* `isNull`, `boolOf?`, `natOf?`, `floatOf?` — the kinds of values.
* `plainValue` — the value of plain text.
-/

namespace Codemod.Yaml

def isNull (s : String) : Bool :=
  ["null", "Null", "NULL", "~"].contains s

def boolOf? (s : String) : Option Bool :=
  if ["true", "True", "TRUE"].contains s then some true
  else if ["false", "False", "FALSE"].contains s then some false
  else none

/-! ## Whole numbers -/

def digitOf? (radix : Nat) (c : Char) : Option Nat :=
  let n :=
    if '0' ≤ c && c ≤ '9' then c.toNat - '0'.toNat
    else if 'a' ≤ c && c ≤ 'f' then c.toNat - 'a'.toNat + 10
    else if 'A' ≤ c && c ≤ 'F' then c.toNat - 'A'.toNat + 10
    else radix
  if n < radix then some n else none

/-- The number that digits stand for; there has to be one. -/
def ofDigits? (radix : Nat) (s : List Char) : Option Nat :=
  match s.mapM (digitOf? radix) with
  | some [] => none
  | some ds => some (ds.foldl (fun n d => n * radix + d) 0)
  | none => none

/-- A zero and more digits are not a number. -/
def isPadded (s : List Char) : Bool :=
  let s :=
    match s with
    | '-' :: s => s
    | '+' :: s => s
    | s => s
  match s with
  | '0' :: c :: rest => (c :: rest).all Char.isDigit
  | _ => false

/-- A magnitude in base sixteen, eight, two or ten. -/
def magnitude? (s : List Char) : Option Nat :=
  match s with
  | '0' :: 'x' :: rest => ofDigits? 16 rest
  | '0' :: 'o' :: rest => ofDigits? 8 rest
  | '0' :: 'b' :: rest => ofDigits? 2 rest
  | s => if isPadded s then none else ofDigits? 10 s

/-- A whole number that is not negative, of whatever size. -/
def anyNatOf? (s : String) : Option Nat :=
  match s.toList with
  | '+' :: rest => magnitude? rest
  | rest => magnitude? rest

/-- A whole number that is not negative. -/
def natOf? (s : String) : Option Nat :=
  match anyNatOf? s with
  | some n => if n < Nat.pow 2 64 then some n else none
  | none => none

/-- A negative number or a negative zero, of whatever size. -/
def anyNegativeOf? (s : String) : Option Int :=
  match s.toList with
  | '-' :: rest => (magnitude? rest).map fun n => -(n : Int)
  | _ => none

/-! ## Fractions -/

/-- The digits of a fraction: the number without its point, and how many digits follow that. -/
def fraction? (s : List Char) : Option (Nat × Nat × List Char) :=
  let whole := s.takeWhile Char.isDigit
  let rest := s.drop whole.length
  let (part, rest) :=
    match rest with
    | '.' :: rest => (rest.takeWhile Char.isDigit, rest.dropWhile Char.isDigit)
    | rest => ([], rest)
  (ofDigits? 10 (whole ++ part)).map fun n => (n, part.length, rest)

def exponent? (s : List Char) : Option Int :=
  match s with
  | [] => some 0
  | e :: rest =>
    if e = 'e' || e = 'E' then
      match rest with
      | '-' :: rest => (ofDigits? 10 rest).map fun n => -(n : Int)
      | '+' :: rest => (ofDigits? 10 rest).map fun n => (n : Int)
      | rest => (ofDigits? 10 rest).map fun n => (n : Int)
    else none

/-- The double nearest to `± n · 10 ^ e`; nothing if it is too large. Exponents far out of range
are not worked with. -/
def nearest? (negative : Bool) (n : Nat) (e : Int) : Option Binary64 :=
  let places : Int := (Nat.toDigits 10 n).length
  if n = 0 || e + places < -400 then Binary64.ofRatio? negative 0 1
  else if e + places > 400 then none
  else Binary64.ofDecimal? negative n e

/-- A double in decimal form. -/
def decimalOf? (s : List Char) : Option Binary64 :=
  let (negative, s) :=
    match s with
    | '-' :: rest => (true, rest)
    | '+' :: rest => (false, rest)
    | rest => (false, rest)
  match fraction? s with
  | some (n, places, rest) => (exponent? rest).bind fun e => nearest? negative n (e - places)
  | none => none

/-- A number with a fraction or an exponent. -/
inductive Fraction where
  | finite (x : Binary64)
  /-- An infinity, or no number. -/
  | special

def floatOf? (s : String) : Option Fraction :=
  let special := [".inf", ".Inf", ".INF", "+.inf", "+.Inf", "+.INF", "-.inf", "-.Inf", "-.INF",
    ".nan", ".NaN", ".NAN"]
  if special.contains s then some .special
  else
    match s.toList with
    | '+' :: c :: rest =>
      if c = '+' || c = '-' then none else (decimalOf? (c :: rest)).map .finite
    | s => (decimalOf? s).map .finite

/-! ## Values -/

/-- A scalar's value. A whole number too large for its type stands for nothing that can be used. -/
inductive Value where
  | null
  | bool (b : Bool)
  | int (i : Int)
  | huge
  | float (f : Fraction)
  | str (s : String)

def intValue? (s : String) : Option Value :=
  match anyNatOf? s, anyNegativeOf? s with
  | some n, _ => some (if n < Nat.pow 2 64 then .int n else .huge)
  | none, some i => some (if -9223372036854775808 ≤ i then .int i else .huge)
  | none, none => none

/-- What plain text stands for. -/
def plainValue (s : String) : Value :=
  if s = "" || isNull s then .null
  else
    match boolOf? s with
    | some b => .bool b
    | none =>
      match intValue? s with
      | some v => v
      | none =>
        if isPadded s.toList then .str s
        else
          match floatOf? s with
          | some f => .float f
          | none => .str s

end Codemod.Yaml
