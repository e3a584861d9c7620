import Codemod.Decimal.Binary64

/-!
# The shortest decimal of a double

Of all decimals that round to a given double, the one with the fewest digits is written, and of
those the nearest. For one digit, two digits, and so on, only the two neighbours of the value on
that decimal grid have to be tried.

## Main definitions

* `Shortest.digits` — the digits and the decimal exponent.
* `NumberLayout` — how digits and exponent are put on paper.
-/

namespace Codemod

namespace Shortest

/-- The reals that round to a double, over a common denominator: the value `mid / den`, the ends
`low / den` and `high / den`, and whether the ends themselves round to it. -/
structure Interval where
  low : Nat
  mid : Nat
  high : Nat
  den : Nat
  closed : Bool

def intervalOf (x : Binary64) : Interval :=
  let (m, q) := x.magnitude
  -- below a power of two the neighbour is only half as far away
  let below := if m = Nat.pow 2 52 && q > -1074 then 1 else 2
  let up := (q - 2).toNat
  let down := (2 - q).toNat
  { low := (4 * m - below) * Nat.pow 2 up
    mid := 4 * m * Nat.pow 2 up
    high := (4 * m + 2) * Nat.pow 2 up
    den := Nat.pow 2 down
    closed := m % 2 = 0 }

def Interval.contains (i : Interval) (n d : Nat) : Bool :=
  let a := n * i.den
  if i.closed then i.low * d ≤ a && a ≤ i.high * d else i.low * d < a && a < i.high * d

/-- The exponent `e` with `10 ^ e ≤ n / d < 10 ^ (e + 1)`, for `n > 0`. -/
def leadingExponent (n d : Nat) : Int :=
  if d ≤ n then ((Nat.toDigits 10 (n / d)).length : Int) - 1
  else
    -- `d / n > 1`: the quotient below has as many digits as places are needed, or one more
    let k := (Nat.toDigits 10 (d / n)).length
    if d ≤ n * Nat.pow 10 (k - 1) then 1 - (k : Int) else -(k : Int)

/-- The decimal with `count` digits and leading exponent `e` that lies in the interval, nearest to
its value: its digits as a number. -/
def onGrid? (i : Interval) (e : Int) (count : Nat) : Option Nat :=
  let place := e - (count : Int) + 1
  -- a grid point `k` stands for `k * unit / per`
  let unit := Nat.pow 10 place.toNat
  let per := Nat.pow 10 (-place).toNat
  let k := i.mid * per / (i.den * unit)
  let fits (k : Nat) := i.contains (k * unit) per
  if fits k && fits (k + 1) then
    -- twice the value against the sum of both neighbours
    let twice := 2 * i.mid * per
    let sum := (2 * k + 1) * unit * i.den
    if twice < sum then some k else if sum < twice then some (k + 1) else some (k + k % 2)
  else if fits k then some k
  else if fits (k + 1) then some (k + 1)
  else none

/-- Tries grids of more and more digits, `left` of them; seventeen digits always suffice. -/
def search (i : Interval) (e : Int) : (left count : Nat) → Nat × Nat
  | 0, count => (0, count)
  | left + 1, count =>
    match onGrid? i e count with
    | some k => (k, count)
    | none => search i e left (count + 1)

/-- Digits without zeros at the end. -/
def stripZeros (ds : List Char) : List Char :=
  (ds.reverse.dropWhile (· == '0')).reverse

/-- The digits of a double other than zero and the decimal exponent of the first of them. -/
def digits (x : Binary64) : List Char × Int :=
  let i := intervalOf x
  let e := leadingExponent i.mid i.den
  let (k, count) := search i e 17 1
  let ds := Nat.toDigits 10 k
  -- rounding up may have gained a digit
  let e := if count < ds.length then e + 1 else e
  (stripZeros ds, e)

end Shortest

/-- How a double is written: positionally when its decimal exponent is at least `least` and below
`bound`, else with an exponent. -/
structure NumberLayout where
  least : Int
  bound : Int
  /-- What stands between the exponent mark and a positive exponent. -/
  plus : String

namespace NumberLayout

def positional (ds : List Char) (e : Int) : List Char :=
  if e < 0 then ['0', '.'] ++ List.replicate (-e - 1).toNat '0' ++ ds
  else
    let whole := e.toNat + 1
    if ds.length ≤ whole then ds ++ List.replicate (whole - ds.length) '0' ++ ['.', '0']
    else ds.take whole ++ ['.'] ++ ds.drop whole

def scientific (l : NumberLayout) (ds : List Char) (e : Int) : List Char :=
  let mantissa := match ds with
    | d :: r :: rest => d :: '.' :: r :: rest
    | ds => ds
  let sign := if e < 0 then ['-'] else l.plus.toList
  mantissa ++ ['e'] ++ sign ++ Nat.toDigits 10 e.natAbs

def write (l : NumberLayout) (x : Binary64) : String :=
  let sign := if x.isNegative then ['-'] else []
  let body :=
    if x.isZero then ['0', '.', '0']
    else
      let (ds, e) := Shortest.digits x
      if l.least ≤ e && e < l.bound then positional ds e else l.scientific ds e
  String.ofList (sign ++ body)

end NumberLayout

end Codemod
