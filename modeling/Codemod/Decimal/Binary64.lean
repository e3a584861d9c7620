/-!
# Double-precision numbers

A finite double is `± m · 2 ^ q` with `m < 2 ^ 53`. It is kept as its sixty-four bits, so that two
of them can be told apart, and every operation is exact arithmetic followed by one rounding to the
nearest double, ties to an even `m`.

## Main definitions

* `Binary64.magnitude` — the pair `(m, q)`.
* `Binary64.ofRatio?` — the double nearest to a quotient of natural numbers.
-/

namespace Codemod

structure Binary64 where
  bits : UInt64
  deriving DecidableEq, Inhabited

namespace Binary64

def isNegative (x : Binary64) : Bool :=
  x.bits.toNat ≥ Nat.pow 2 63

/-- `(m, q)` with `|x| = m · 2 ^ q`. -/
def magnitude (x : Binary64) : Nat × Int :=
  let n := x.bits.toNat % Nat.pow 2 63
  let e : Nat := n / Nat.pow 2 52
  let f : Nat := n % Nat.pow 2 52
  if e = 0 then (f, -1074) else (Nat.pow 2 52 + f, (e : Int) - 1075)

/-- `|x|` as a quotient of natural numbers. -/
def ratio (x : Binary64) : Nat × Nat :=
  let (m, q) := x.magnitude
  if q ≥ 0 then (m * Nat.pow 2 q.toNat, 1) else (m, Nat.pow 2 (-q).toNat)

/-- `n / d` to the nearest whole number, a tie going to the even one. -/
def roundDiv (n d : Nat) : Nat :=
  let q := n / d
  let r := n % d
  if 2 * r < d then q
  else if d < 2 * r then q + 1
  else q + q % 2

/-- `n / d · 2 ^ -e` rounded to a whole number. -/
def scaled (n d : Nat) (e : Int) : Nat :=
  if e ≥ 0 then roundDiv n (d * Nat.pow 2 e.toNat) else roundDiv (n * Nat.pow 2 (-e).toNat) d

/-- The exponent at which `n / d` has a significand of fifty-three binary digits, or the least
exponent there is. -/
def exponentOf (n d : Nat) : Int :=
  let e : Int := (Nat.log2 n : Int) - (Nat.log2 d : Int) - 52
  -- the quotient of two leading digits may fall short by one place
  let short :=
    if e ≥ 0 then n < d * Nat.pow 2 (e.toNat + 52)
    else n * Nat.pow 2 (-e).toNat < d * Nat.pow 2 52
  max (if short then e - 1 else e) (-1074)

/-- The double nearest to `± n / d`, unless it is too large. -/
def ofRatio? (negative : Bool) (n d : Nat) : Option Binary64 :=
  let sign : Nat := if negative then Nat.pow 2 63 else 0
  if n = 0 then some ⟨(sign).toUInt64⟩
  else
    let e := exponentOf n d
    let m := scaled n d e
    -- `m` may have become `2 ^ 53`: then the sum below carries into the exponent
    let body : Nat := if m < Nat.pow 2 52 then m else (e + 1074).toNat * Nat.pow 2 52 + m
    if body < 2047 * Nat.pow 2 52 then some ⟨(sign + body).toUInt64⟩ else none

def zero : Binary64 := ⟨0⟩

/-- The double nearest to `n / d`; zero where there is none. -/
def ofRatio (n d : Nat) : Binary64 :=
  (ofRatio? false n d).getD zero

def isZero (x : Binary64) : Bool :=
  x.magnitude.1 = 0

/-- Numerical equality: the two zeros are equal. -/
def equal (x y : Binary64) : Bool :=
  x == y || (x.isZero && y.isZero)

/-- The product, unless it is too large. -/
def mul? (x y : Binary64) : Option Binary64 :=
  let (a, b) := x.ratio
  let (c, d) := y.ratio
  ofRatio? (x.isNegative != y.isNegative) (a * c) (b * d)

/-- The quotient by a number other than zero, unless it is too large. -/
def div? (x y : Binary64) : Option Binary64 :=
  let (a, b) := x.ratio
  let (c, d) := y.ratio
  ofRatio? (x.isNegative != y.isNegative) (a * d) (b * c)

def neg (x : Binary64) : Binary64 :=
  ⟨x.bits ^^^ 0x8000000000000000⟩

/-- `± n · 10 ^ e`, unless it is too large. -/
def ofDecimal? (negative : Bool) (n : Nat) (e : Int) : Option Binary64 :=
  if e ≥ 0 then ofRatio? negative (n * Nat.pow 10 e.toNat) 1
  else ofRatio? negative n (Nat.pow 10 (-e).toNat)

end Binary64

end Codemod
