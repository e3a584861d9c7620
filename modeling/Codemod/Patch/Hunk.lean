import Codemod.Patch.Compact

/-!
# Hunks

A patch shows only the lines around its changes. Changes that lie close together share a hunk.

## Main definitions

* `Hunk` — some consecutive lines of both texts, each marked as kept, removed or added.
* `hunks` — the hunks between two texts.
-/

namespace Codemod.Patch

inductive Mark where
  | kept
  | removed
  | added
  deriving DecidableEq

structure Hunk where
  /-- The lines of the old text that the hunk is said to span: how many come before it and how
  many come before its end. -/
  oldSpan : Nat × Nat
  /-- The same for the new text. -/
  newSpan : Nat × Nat
  lines : List (Mark × Line)

namespace Hunk

/-- The hunk's lines of the old text. -/
def old (h : Hunk) : List Line :=
  (h.lines.filter (·.1 ≠ .added)).map Prod.snd

/-- The hunk's lines of the new text. -/
def new (h : Hunk) : List Line :=
  (h.lines.filter (·.1 ≠ .removed)).map Prod.snd

/-- The hunk with `h'` right after it. -/
def append (h h' : Hunk) : Hunk :=
  { oldSpan := (h.oldSpan.1, h'.oldSpan.2)
    newSpan := (h.newSpan.1, h'.newSpan.2)
    lines := h.lines ++ h'.lines }

end Hunk

/-- How many unchanged lines are shown on either side of a change. -/
def context : Nat := 3

def marked (m : Mark) (ls : List Line) : List (Mark × Line) :=
  ls.map fun l => (m, l)

/-- A hunk of kept lines, `oldPos` and `newPos` lines into either text. -/
def keptHunk (oldPos newPos : Nat) (ls : List Line) : Hunk :=
  { oldSpan := (oldPos, oldPos + ls.length)
    newSpan := (newPos, newPos + ls.length)
    lines := marked .kept ls }

/-- A hunk of one change. A side without lines stands where its mark says. -/
def changeHunk (oldPos newPos : Nat) (old new : List Line) (mark : Nat) : Hunk :=
  { oldSpan := if old.isEmpty then (mark, mark) else (oldPos, oldPos + old.length)
    newSpan := if new.isEmpty then (mark, mark) else (newPos, newPos + new.length)
    lines := marked .removed old ++ marked .added new }

/-- Puts a hunk after the one under construction. -/
def extend (open? : Option Hunk) (h : Hunk) : Hunk :=
  match open? with
  | some h' => h'.append h
  | none => h

/-- Builds hunks from changes. `open?` is the hunk under construction, and `oldPos` and `newPos`
count the lines gone by. A long stretch of kept lines ends a hunk; between hunks and at either end
of the text only the nearest lines are shown. -/
def hunksFrom (oldPos newPos : Nat) (open? : Option Hunk) : List Change → List Hunk
  | [] => open?.toList
  | .same ls :: rest =>
    let n := ls.length
    let first := keptHunk oldPos newPos (ls.take context)
    let shown := min n context
    let last := keptHunk (oldPos + n - shown) (newPos + n - shown) (ls.drop (n - shown))
    match open? with
    | none => hunksFrom (oldPos + n) (newPos + n) (if rest.isEmpty then none else some last) rest
    | some h =>
      if rest.isEmpty then [h.append first]
      else if n > 2 * context then
        h.append first :: hunksFrom (oldPos + n) (newPos + n) (some last) rest
      else
        hunksFrom (oldPos + n) (newPos + n) (some (h.append (keptHunk oldPos newPos ls))) rest
  | .change old new mark :: rest =>
    hunksFrom (oldPos + old.length) (newPos + new.length)
      (some (extend open? (changeHunk oldPos newPos old new mark))) rest

/-- The hunks between two texts. -/
def hunks (old new : List Line) : List Hunk :=
  hunksFrom 0 0 none (compact (align old new)).changes

end Codemod.Patch
