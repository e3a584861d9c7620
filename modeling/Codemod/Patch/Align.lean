import Codemod.Patch.Script

/-!
# Aligning two texts

The shortest edit script between two lists of lines, found by divide and conquer: what both begin
and end with is kept, the rest is cut in two where a shortest path through the edit graph crosses
its middle.

The search for the middle is a heuristic as far as correctness goes: wherever the cut is made, the
script leads from the old lines to the new ones.

## Main definitions

* `middle?` — where to cut.
* `align` — the script.
-/

namespace Codemod.Patch

/-- How many lines two lists have in common at the front. -/
def commonFront : List Line → List Line → Nat
  | a :: as, b :: bs => if a = b then commonFront as bs + 1 else 0
  | _, _ => 0

/-- How many lines two lists have in common at the end. -/
def commonEnd (as bs : List Line) : Nat :=
  commonFront as.reverse bs.reverse

/-! ## The middle of a shortest path -/

/-- For each diagonal, how far a path has come; diagonals may be negative. -/
structure Frontier where
  reach : Array Int
  offset : Int

def Frontier.empty (size : Nat) : Frontier :=
  { reach := Array.replicate (2 * size + 3) 0, offset := size + 1 }

def Frontier.get (f : Frontier) (k : Int) : Int :=
  f.reach.getD (k + f.offset).toNat 0

def Frontier.set (f : Frontier) (k x : Int) : Frontier :=
  { f with reach := f.reach.setIfInBounds (k + f.offset).toNat x }

/-- Where a path of `d` edits enters diagonal `k`. -/
def Frontier.enter (f : Frontier) (d k : Int) : Int :=
  if k = -d ∨ (k ≠ d ∧ f.get (k - 1) < f.get (k + 1)) then f.get (k + 1) else f.get (k - 1) + 1

/-- How many lines agree from `x` and `y` on, at most `fuel`. -/
def run (old new : Array Line) : (fuel x y : Nat) → Nat
  | 0, _, _ => 0
  | fuel + 1, x, y =>
    match old[x]?, new[y]? with
    | some a, some b => if a = b then run old new fuel (x + 1) (y + 1) + 1 else 0
    | _, _ => 0

/-- The two texts and the frontiers of the paths from either end. The backward search is a forward
search on the reversed texts. -/
structure Search where
  old : Array Line
  new : Array Line
  oldBack : Array Line
  newBack : Array Line
  forward : Frontier
  backward : Frontier

def Search.delta (s : Search) : Int :=
  (s.old.size : Int) - (s.new.size : Int)

/-- Advances the forward path on diagonal `k`, and tells where it entered the diagonal if it meets
a backward path there. -/
def Search.stepForward (s : Search) (d k : Int) : Search × Option (Int × Int) :=
  let x := s.forward.enter d k
  let y := x - k
  let x' := if 0 ≤ y then x + run s.old s.new s.old.size x.toNat y.toNat else x
  let s := { s with forward := s.forward.set k x' }
  let meets := s.delta % 2 ≠ 0 ∧ (k - s.delta).natAbs ≤ d - 1 ∧
    (s.old.size : Int) ≤ x' + s.backward.get (-(k - s.delta))
  (s, if meets then some (x, y) else none)

/-- The same from the other end. -/
def Search.stepBackward (s : Search) (d k : Int) : Search × Option (Int × Int) :=
  let x := s.backward.enter d k
  let y := x - k
  let more : Int := if 0 ≤ y then run s.oldBack s.newBack s.old.size x.toNat y.toNat else 0
  let x' := x + more
  let s := { s with backward := s.backward.set k x' }
  let meets := s.delta % 2 = 0 ∧ (k - s.delta).natAbs ≤ d ∧
    (s.old.size : Int) ≤ x' + s.forward.get (-(k - s.delta))
  (s, if meets then some (s.old.size - x', s.new.size - (y + more)) else none)

/-- Takes a step on each diagonal until one succeeds. -/
def Search.steps (step : Search → Int → Int → Search × Option (Int × Int)) (d : Int) :
    Search → List Int → Search × Option (Int × Int)
  | s, [] => (s, none)
  | s, k :: ks =>
    match step s d k with
    | (s, some p) => (s, some p)
    | (s, none) => steps step d s ks

/-- Every second diagonal from `d` down to `-d`. -/
def diagonals (d : Nat) : List Int :=
  (List.range (d + 1)).map fun (i : Nat) => (d : Int) - 2 * i

/-- Searches with `d`, `d + 1`, … edits from either end. -/
def Search.from (s : Search) : (fuel d : Nat) → Option (Int × Int)
  | 0, _ => none
  | fuel + 1, d =>
    match steps stepForward d s (diagonals d) with
    | (_, some p) => some p
    | (s, none) =>
      match steps stepBackward d s (diagonals d) with
      | (_, some p) => some p
      | (s, none) => s.from fuel (d + 1)

/-- How many lines of either text lie before the middle of a shortest path. -/
def middle? (old new : List Line) : Option (Nat × Nat) :=
  let bound := (old.length + new.length + 1) / 2 + 1
  let search : Search :=
    { old := old.toArray, new := new.toArray
      oldBack := old.reverse.toArray, newBack := new.reverse.toArray
      forward := .empty bound, backward := .empty bound }
  (search.from bound 0).map fun (x, y) => (x.toNat, y.toNat)

/-! ## Divide and conquer -/

/-- A kept block, if there is anything to keep. -/
def kept (ls : List Line) : Script :=
  if ls.isEmpty then [] else [.keep ls]

/-- The script between what is left once the common front and end are taken away, `oldPos` and
`newPos` lines into either text; `conquer` makes the script of either half. -/
def alignCore (conquer : (oldPos newPos : Nat) → List Line → List Line → Script)
    (oldPos newPos : Nat) (old new : List Line) : Script :=
  match old, new with
  | [], [] => []
  | old, [] => [.drop old newPos]
  | [], new => [.add new oldPos]
  | old, new =>
    match middle? old new with
    | some (x, y) =>
      conquer oldPos newPos (old.take x) (new.take y) ++
        conquer (oldPos + x) (newPos + y) (old.drop x) (new.drop y)
    | none => [.drop old newPos, .add new (oldPos + old.length)]

/-- The script that keeps nothing: all old lines go, all new ones come. -/
def replaced (oldPos newPos : Nat) (old new : List Line) : Script :=
  (if old.isEmpty then [] else [.drop old newPos]) ++
    if new.isEmpty then [] else [.add new (oldPos + old.length)]

/-- The script with at most `fuel` cuts inside one another. -/
def alignWith : (fuel oldPos newPos : Nat) → List Line → List Line → Script
  | 0, oldPos, newPos, old, new => replaced oldPos newPos old new
  | fuel + 1, oldPos, newPos, old, new =>
    let front := commonFront old new
    let old' := old.drop front
    let new' := new.drop front
    let back := commonEnd old' new'
    kept (old.take front) ++
      alignCore (alignWith fuel) (oldPos + front) (newPos + front)
        (old'.take (old'.length - back)) (new'.take (new'.length - back)) ++
      kept (old'.drop (old'.length - back))

/-- A shortest edit script from `old` to `new`. -/
def align (old new : List Line) : Script :=
  alignWith (old.length + new.length + 1) 0 0 old new

end Codemod.Patch
