import Codemod.Patch.Align

/-!
# Compacting edit scripts

Among shortest scripts, readers prefer those whose changes lie together. An added block can slide
over the kept lines around it when what it would take in equals what it would leave out; blocks of
one kind that meet are merged. A block that slides over kept lines moves its mark along; blocks
that pass one another keep their marks.

## Main definitions

* `Place` — a script with one block in focus.
* `Place.up`, `Place.down` — slide the block in focus as far as it goes.
* `compact` — slides every dropped block, then every added block.
-/

namespace Codemod.Patch

/-- A script with one block in focus; the blocks before it stand nearest first. -/
structure Place where
  before : Script
  focus : Block
  after : Script

def Place.script (p : Place) : Script :=
  p.before.reverse ++ p.focus :: p.after

/-- Kept lines in front of a script. -/
def keepBefore (ls : List Line) : Script → Script
  | .keep ms :: rest => .keep (ls ++ ms) :: rest
  | rest => .keep ls :: rest

/-- Kept lines after the blocks before a place. -/
def keepAfter (ls : List Line) : Script → Script
  | .keep ms :: rest => .keep (ms ++ ls) :: rest
  | rest => .keep ls :: rest

/-- A kept block in front of others, if there is anything to keep. -/
def keepIfAny (ls : List Line) (rest : Script) : Script :=
  if ls.isEmpty then rest else .keep ls :: rest

/-- One step towards the front, if there is one to take. -/
def Place.stepUp (p : Place) : Option Place :=
  match p.focus, p.before with
  | .add new mark, .keep ls :: before =>
    let n := commonEnd ls new
    if n = 0 then if ls.isEmpty then some { p with before } else none
    else
      let here := ls.take (ls.length - n)
      let moved := ls.drop (ls.length - n)
      some
        { before := keepIfAny here before
          focus := .add (moved ++ new.take (new.length - n)) (mark - n)
          after := keepBefore moved p.after }
  | .drop _ _, .keep ls :: before => if ls.isEmpty then some { p with before } else none
  | .add _ _, .drop ls m :: before => some { p with before, after := .drop ls m :: p.after }
  | .drop _ _, .add ls m :: before => some { p with before, after := .add ls m :: p.after }
  | .add new _, .add ls m :: before => some { p with before, focus := .add (ls ++ new) m }
  | .drop old _, .drop ls m :: before => some { p with before, focus := .drop (ls ++ old) m }
  | .keep _, _ => none
  | _, [] => none

/-- One step towards the end, if there is one to take. -/
def Place.stepDown (p : Place) : Option Place :=
  match p.focus, p.after with
  | .add new mark, .keep ls :: after =>
    let n := commonFront ls new
    if n = 0 then if ls.isEmpty then some { p with after } else none
    else
      let moved := ls.take n
      some
        { before := keepAfter moved p.before
          focus := .add (new.drop n ++ moved) (mark + n)
          after := keepIfAny (ls.drop n) after }
  | .drop _ _, .keep ls :: after => if ls.isEmpty then some { p with after } else none
  | .add _ _, .drop ls m :: after => some { p with after, before := .drop ls m :: p.before }
  | .drop _ _, .add ls m :: after => some { p with after, before := .add ls m :: p.before }
  | .add new m, .add ls _ :: after => some { p with after, focus := .add (new ++ ls) m }
  | .drop old m, .drop ls _ :: after => some { p with after, focus := .drop (old ++ ls) m }
  | .keep _, _ => none
  | _, [] => none

/-- Steps towards the front while there is one. -/
def Place.up : (fuel : Nat) → Place → Place
  | 0, p => p
  | fuel + 1, p =>
    match p.stepUp with
    | some p => up fuel p
    | none => p

/-- Steps towards the end while there is one. -/
def Place.down : (fuel : Nat) → Place → Place
  | 0, p => p
  | fuel + 1, p =>
    match p.stepDown with
    | some p => down fuel p
    | none => p

/-- Slides the blocks that `chosen` picks, one after the other. -/
def slide (chosen : Block → Bool) (steps : Nat) : (fuel : Nat) → (before after : Script) → Script
  | 0, before, after => before.reverse ++ after
  | _, before, [] => before.reverse
  | fuel + 1, before, b :: after =>
    if chosen b then
      let p := Place.down steps (Place.up steps { before, focus := b, after })
      slide chosen steps fuel (p.focus :: p.before) p.after
    else slide chosen steps fuel (b :: before) after

def Block.isDrop : Block → Bool
  | drop _ _ => true
  | _ => false

def Block.isAdd : Block → Bool
  | add _ _ => true
  | _ => false

/-- The script with its changes moved together. -/
def compact (s : Script) : Script :=
  let size := 2 * (s.old.length + s.new.length) + 2 * s.length + 2
  let s := slide Block.isDrop size size [] s
  slide Block.isAdd size size [] s

end Codemod.Patch
