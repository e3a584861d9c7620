import Codemod.Proofs.Patch.Script

/-!
# What hunks say

The hunks between two texts follow one another with stretches of common lines between them. Putting
the new lines of each hunk in the place of its old ones leads from the old text to the new one, and
the other way round it leads back.

A hunk's header is true of each side that has lines where the hunk begins and ends. Where it begins
or ends with a change that has no lines on one side, the header goes by the mark of that change,
which may be out of date; a hunk that begins with a change stands at the top of both texts, so it
can be found all the same.

## Main definitions

* `Hunk.Fits` — what the header of a hunk says truly.
* `Patched` — hunks in order, with common lines between them.
* `patch`, `unpatch` — applying hunks to a text, checked against the lines that are there.

## Main results

* `patched_hunks` — the hunks between two texts.
* `Patched.patch_eq`, `Patched.unpatch_eq` — such hunks can be applied in both directions.
-/

namespace Codemod.Patch

/-! ## Changes -/

namespace Change

/-- The lines a change has in the old text. -/
def old : Change → List Line
  | same ls => ls
  | change old _ _ => old

/-- The lines a change has in the new text. -/
def new : Change → List Line
  | same ls => ls
  | change _ new _ => new

/-- The change has lines. -/
def IsSolid : Change → Prop
  | same ls => ls ≠ []
  | change old new _ => old ≠ [] ∨ new ≠ []

theorem flatMap_old_cons (b : Block) (cs : List Change) :
    (Change.cons b cs).flatMap old = b.old ++ cs.flatMap old := by
  fun_cases Change.cons b cs <;> simp [old, Block.old]

theorem flatMap_new_cons (b : Block) (cs : List Change) :
    (Change.cons b cs).flatMap new = b.new ++ cs.flatMap new := by
  fun_cases Change.cons b cs <;> simp [new, Block.new]

theorem isSolid_cons {b : Block} {cs : List Change} (hb : b.isEmpty = false)
    (hcs : ∀ c ∈ cs, c.IsSolid) : ∀ c ∈ Change.cons b cs, c.IsSolid := by
  fun_cases Change.cons b cs <;> simp_all [IsSolid, Block.isEmpty]

end Change

section Changes

variable (s : Script)

theorem flatMap_old_changes : s.changes.flatMap Change.old = s.old := by
  induction s with
  | nil => rfl
  | cons b s ih => rw [Script.old_cons, ← ih, ← Change.flatMap_old_cons]; rfl

theorem flatMap_new_changes : s.changes.flatMap Change.new = s.new := by
  induction s with
  | nil => rfl
  | cons b s ih => rw [Script.new_cons, ← ih, ← Change.flatMap_new_cons]; rfl

variable {s}

theorem isSolid_changes (h : ∀ b ∈ s, b.isEmpty = false) : ∀ c ∈ s.changes, c.IsSolid := by
  induction s with
  | nil => simp [Script.changes]
  | cons b s ih =>
    rw [List.forall_mem_cons] at h
    exact Change.isSolid_cons h.1 (ih h.2)

end Changes

/-! ## Headers -/

namespace Hunk

/-- How the hunk's first line is marked. -/
def first? (h : Hunk) : Option Mark :=
  h.lines.head?.map Prod.fst

/-- How the hunk's last line is marked. -/
def last? (h : Hunk) : Option Mark :=
  h.lines.getLast?.map Prod.fst

@[simp] theorem old_append (h h' : Hunk) : (h.append h').old = h.old ++ h'.old := by
  simp [old, append]

@[simp] theorem new_append (h h' : Hunk) : (h.append h').new = h.new ++ h'.new := by
  simp [new, append]

theorem mem_old_or_mem_new (h : Hunk) {x : Mark × Line} (hx : x ∈ h.lines) :
    x.2 ∈ h.old ∨ x.2 ∈ h.new := by
  by_cases hm : x.1 = .added
  · exact .inr (List.mem_map_of_mem (List.mem_filter.mpr ⟨hx, by simp [hm]⟩))
  · exact .inl (List.mem_map_of_mem (List.mem_filter.mpr ⟨hx, by simp [hm]⟩))

theorem first?_append {h : Hunk} (hl : h.lines ≠ []) (h' : Hunk) :
    (h.append h').first? = h.first? := by
  obtain ⟨l, ls, hls⟩ := List.exists_cons_of_ne_nil hl
  simp [first?, append, hls]

theorem last?_append (h : Hunk) {h' : Hunk} (hl : h'.lines ≠ []) :
    (h.append h').last? = h'.last? := by
  obtain hls | ⟨ls, l, hls⟩ := List.eq_nil_or_concat h'.lines
  · exact absurd hls hl
  · simp [last?, append, hls]

/-- The hunk stands after so many lines of the old and of the new text, and its header says so of
either side that the first line belongs to. The header is likewise right about the end of either
side that the last line belongs to. -/
structure Fits (h : Hunk) (oldPos newPos : Nat) : Prop where
  ne_nil : h.lines ≠ []
  oldStart : h.first? ≠ some .added → h.oldSpan.1 = oldPos
  newStart : h.first? ≠ some .removed → h.newSpan.1 = newPos
  oldStop : h.last? ≠ some .added → h.oldSpan.2 = oldPos + h.old.length
  newStop : h.last? ≠ some .removed → h.newSpan.2 = newPos + h.new.length

theorem Fits.append {h h' : Hunk} {oldPos newPos : Nat} (hh : h.Fits oldPos newPos)
    (hh' : h'.Fits (oldPos + h.old.length) (newPos + h.new.length)) :
    (h.append h').Fits oldPos newPos where
  ne_nil := by simp [Hunk.append, hh.ne_nil]
  oldStart hf := hh.oldStart (first?_append hh.ne_nil h' ▸ hf)
  newStart hf := hh.newStart (first?_append hh.ne_nil h' ▸ hf)
  oldStop hl := by
    rw [last?_append h hh'.ne_nil] at hl
    rw [old_append, List.length_append, ← Nat.add_assoc]
    exact hh'.oldStop hl
  newStop hl := by
    rw [last?_append h hh'.ne_nil] at hl
    rw [new_append, List.length_append, ← Nat.add_assoc]
    exact hh'.newStop hl

end Hunk

@[simp] theorem map_snd_marked (m : Mark) (ls : List Line) : (marked m ls).map Prod.snd = ls := by
  simp [marked, Function.comp_def]

@[simp] theorem filter_marked (m m' : Mark) (ls : List Line) :
    (marked m ls).filter (·.1 ≠ m') = if m = m' then [] else marked m ls := by
  by_cases h : m = m' <;> simp [marked, h]

@[simp] theorem old_keptHunk (oldPos newPos : Nat) (ls : List Line) :
    (keptHunk oldPos newPos ls).old = ls := by
  rw [Hunk.old, keptHunk, filter_marked, if_neg (by decide), map_snd_marked]

@[simp] theorem new_keptHunk (oldPos newPos : Nat) (ls : List Line) :
    (keptHunk oldPos newPos ls).new = ls := by
  rw [Hunk.new, keptHunk, filter_marked, if_neg (by decide), map_snd_marked]

@[simp] theorem old_changeHunk (oldPos newPos : Nat) (old new : List Line) (mark : Nat) :
    (changeHunk oldPos newPos old new mark).old = old := by
  rw [Hunk.old, changeHunk, List.filter_append, filter_marked, filter_marked, if_neg (by decide),
    if_pos rfl, List.append_nil, map_snd_marked]

@[simp] theorem new_changeHunk (oldPos newPos : Nat) (old new : List Line) (mark : Nat) :
    (changeHunk oldPos newPos old new mark).new = new := by
  rw [Hunk.new, changeHunk, List.filter_append, filter_marked, filter_marked, if_pos rfl,
    if_neg (by decide), List.nil_append, map_snd_marked]

theorem first?_keptHunk (oldPos newPos : Nat) {ls : List Line} (h : ls ≠ []) :
    (keptHunk oldPos newPos ls).first? = some .kept := by
  obtain ⟨l, ls, rfl⟩ := List.exists_cons_of_ne_nil h
  rfl

theorem fits_keptHunk (oldPos newPos : Nat) {ls : List Line} (h : ls ≠ []) :
    (keptHunk oldPos newPos ls).Fits oldPos newPos where
  ne_nil := by simp [keptHunk, marked, h]
  oldStart _ := rfl
  newStart _ := rfl
  oldStop _ := by rw [old_keptHunk]; rfl
  newStop _ := by rw [new_keptHunk]; rfl

/-- The mark is read only where a side has no lines. -/
theorem fits_changeHunk (oldPos newPos : Nat) {old new : List Line} (mark : Nat)
    (h : old ≠ [] ∨ new ≠ []) :
    (changeHunk oldPos newPos old new mark).Fits oldPos newPos := by
  have hfirst : (changeHunk oldPos newPos old new mark).first? =
      if old = [] then some .added else some .removed := by
    cases old <;> cases new <;> simp_all [changeHunk, marked, Hunk.first?]
  have hlast : (changeHunk oldPos newPos old new mark).last? =
      if new = [] then some .removed else some .added := by
    obtain rfl | ⟨new, l, rfl⟩ := List.eq_nil_or_concat new
    · obtain rfl | ⟨old, l, rfl⟩ := List.eq_nil_or_concat old
      · simp at h
      · simp [changeHunk, marked, Hunk.last?]
    · simp [changeHunk, marked, Hunk.last?]
  refine ⟨by rcases h with h | h <;> simp [changeHunk, marked, h], ?_, ?_, ?_, ?_⟩
  · rw [hfirst]
    by_cases hold : old = [] <;> simp [changeHunk, hold]
  · rw [hfirst]
    by_cases hold : old = []
    · have hnew := h.resolve_left fun hne => hne hold
      simp [changeHunk, hnew]
    · simp [hold]
  · rw [hlast, old_changeHunk]
    by_cases hnew : new = []
    · have hold := h.resolve_right fun hne => hne hnew
      simp [changeHunk, hold]
    · simp [hnew]
  · rw [hlast, new_changeHunk]
    by_cases hnew : new = [] <;> simp [changeHunk, hnew]

/-! ## Hunks in order -/

/-- A hunk that begins with a change stands at the top of both texts. -/
structure Hunk.StandsAt (h : Hunk) (oldPos newPos : Nat) : Prop extends h.Fits oldPos newPos where
  top : h.first? ≠ some .kept → oldPos = 0 ∧ newPos = 0

/-- The hunks follow one another in texts of which so many lines have gone by, with lines that both
texts have between them, and lead from the one to the other. -/
inductive Patched : (oldPos newPos : Nat) → List Hunk → (old new : List Line) → Prop
  | nil (oldPos newPos : Nat) (ls : List Line) : Patched oldPos newPos [] ls ls
  | cons {oldPos newPos : Nat} (gap : List Line) {h : Hunk} {hs : List Hunk} {old new : List Line}
      (hh : h.StandsAt (oldPos + gap.length) (newPos + gap.length))
      (hrest : Patched (oldPos + gap.length + h.old.length) (newPos + gap.length + h.new.length)
        hs old new) :
      Patched oldPos newPos (h :: hs) (gap ++ h.old ++ old) (gap ++ h.new ++ new)

theorem Patched.gap {oldPos newPos : Nat} {ls : List Line} {hs : List Hunk} {old new : List Line}
    (h : Patched (oldPos + ls.length) (newPos + ls.length) hs old new) :
    Patched oldPos newPos hs (ls ++ old) (ls ++ new) := by
  cases h with
  | nil => exact .nil _ _ _
  | cons gap hh hrest =>
    have := @Patched.cons oldPos newPos (ls ++ gap) _ _ _ _
      (by simpa [Nat.add_assoc] using hh) (by simpa [Nat.add_assoc] using hrest)
    simpa using this

theorem Hunk.StandsAt.append {h h' : Hunk} {oldPos newPos : Nat} (hh : h.StandsAt oldPos newPos)
    (hh' : h'.Fits (oldPos + h.old.length) (newPos + h.new.length)) :
    (h.append h').StandsAt oldPos newPos where
  toFits := hh.toFits.append hh'
  top hf := hh.top (first?_append hh.ne_nil h' ▸ hf)

theorem Hunk.StandsAt.patched {h : Hunk} {oldPos newPos : Nat} (hh : h.StandsAt oldPos newPos)
    {hs : List Hunk} {old new : List Line}
    (hrest : Patched (oldPos + h.old.length) (newPos + h.new.length) hs old new) :
    Patched oldPos newPos (h :: hs) (h.old ++ old) (h.new ++ new) :=
  .cons [] hh hrest

theorem Patched.gap_to {oldPos' newPos' : Nat} {hs : List Hunk} {old new : List Line}
    (h : Patched oldPos' newPos' hs old new) (ls : List Line) {oldPos newPos : Nat}
    (hold : oldPos' = oldPos + ls.length) (hnew : newPos' = newPos + ls.length) :
    Patched oldPos newPos hs (ls ++ old) (ls ++ new) := by
  subst hold hnew
  exact h.gap

theorem standsAt_keptHunk (oldPos newPos : Nat) {ls : List Line} (h : ls ≠ []) :
    (keptHunk oldPos newPos ls).StandsAt oldPos newPos :=
  ⟨fits_keptHunk _ _ h, fun hf => absurd (first?_keptHunk _ _ h) hf⟩

theorem length_before_last {ls : List Line} {shown : Nat} (h : shown ≤ ls.length) (pos : Nat) :
    pos + ls.length - shown + (ls.drop (ls.length - shown)).length = pos + ls.length := by
  rw [List.length_drop]
  omega

/-- A long stretch of kept lines has lines that are in neither of the hunks around it. -/
theorem exists_hidden {ls : List Line} (hlong : 2 * context < ls.length) :
    ∃ hidden : List Line, hidden.length + 2 * context = ls.length ∧
      ls.take context ++ (hidden ++ ls.drop (ls.length - context)) = ls := by
  refine ⟨(ls.drop context).take (ls.length - 2 * context), ?_, ?_⟩
  · rw [List.length_take, List.length_drop]
    omega
  · have hdrop : ls.length - context = context + (ls.length - 2 * context) := by omega
    rw [hdrop, ← List.drop_drop, List.take_append_drop, List.take_append_drop]

/-- In a long stretch of kept lines the first lines end a hunk and the last lines begin another. -/
theorem Hunk.StandsAt.patched_long {h : Hunk} {oldPos newPos : Nat} (hh : h.StandsAt oldPos newPos)
    {ls : List Line} (hlong : 2 * context < ls.length) {hs : List Hunk} {old new : List Line}
    (hrest : Patched (oldPos + h.old.length + ls.length - context)
      (newPos + h.new.length + ls.length - context) hs
      (ls.drop (ls.length - context) ++ old) (ls.drop (ls.length - context) ++ new)) :
    Patched oldPos newPos
      (h.append (keptHunk (oldPos + h.old.length) (newPos + h.new.length) (ls.take context)) :: hs)
      (h.old ++ (ls ++ old)) (h.new ++ (ls ++ new)) := by
  obtain ⟨hidden, hlen, hls⟩ := exists_hidden hlong
  have htake : (ls.take context).length = context := by
    rw [List.length_take]
    omega
  have hne : ls.take context ≠ [] := by
    rw [← List.length_pos_iff, htake]
    decide
  have hclosed := hh.append (fits_keptHunk _ _ hne)
  have hold : oldPos + h.old.length + ls.length - context =
      oldPos + (h.old ++ ls.take context).length + hidden.length := by
    rw [List.length_append, htake]
    omega
  have hnew : newPos + h.new.length + ls.length - context =
      newPos + (h.new ++ ls.take context).length + hidden.length := by
    rw [List.length_append, htake]
    omega
  have hwhole := hclosed.patched (by simpa using hrest.gap_to hidden hold hnew)
  have hassoc (t : List Line) :
      ls.take context ++ (hidden ++ (ls.drop (ls.length - context) ++ t)) = ls ++ t := by
    rw [← List.append_assoc hidden, ← List.append_assoc, hls]
  simpa [hassoc] using hwhole

/-- What follows a hunk under construction, which stands at `oldPos` and `newPos`. -/
theorem patched_hunksFrom {cs : List Change} (hcs : ∀ c ∈ cs, c.IsSolid) {h : Hunk}
    {oldPos newPos : Nat} (hh : h.StandsAt oldPos newPos) :
    Patched oldPos newPos (hunksFrom (oldPos + h.old.length) (newPos + h.new.length) (some h) cs)
      (h.old ++ cs.flatMap Change.old) (h.new ++ cs.flatMap Change.new) := by
  induction cs generalizing h oldPos newPos with
  | nil => exact hh.patched (.nil _ _ [])
  | cons c rest ih =>
    rw [List.forall_mem_cons] at hcs
    cases c with
    | change old new mark =>
      have hnext := ih hcs.2 (hh.append (fits_changeHunk _ _ mark hcs.1))
      simpa [hunksFrom, extend, Change.old, Change.new, Nat.add_assoc] using hnext
    | same ls =>
      have hls : ls ≠ [] := hcs.1
      have hshown : ls.take context ≠ [] := by simp [context, hls]
      have hclosed := hh.append (fits_keptHunk _ _ hshown)
      rw [hunksFrom]
      split
      · -- the texts end with the stretch
        obtain rfl : rest = [] := by simpa using ‹rest.isEmpty = true›
        have hend := hclosed.patched (.nil _ _ (ls.drop context))
        simpa [Change.old, Change.new] using hend
      split
      next hlong =>
        have hshown : min ls.length context = context := by omega
        have hne : ls.drop (ls.length - context) ≠ [] := by
          simp only [ne_eq, List.drop_eq_nil_iff, context] at hlong ⊢
          omega
        have hnext := ih hcs.2 (standsAt_keptHunk (oldPos + h.old.length + ls.length - context)
          (newPos + h.new.length + ls.length - context) hne)
        rw [old_keptHunk, new_keptHunk, length_before_last (by omega),
          length_before_last (by omega)] at hnext
        rw [hshown]
        exact hh.patched_long hlong hnext
      next hshort =>
        have hnext := ih hcs.2 (hh.append (fits_keptHunk _ _ hls))
        simpa [Change.old, Change.new, Nat.add_assoc] using hnext

/-- The hunks between two texts lead from the one to the other. -/
theorem patched_hunks (old new : List Line) : Patched 0 0 (hunks old new) old new := by
  have hs := relates_compact (relates_align old new)
  have hold := (flatMap_old_changes _).trans hs.old_eq
  have hnew := (flatMap_new_changes _).trans hs.new_eq
  have hsolid := isSolid_changes hs.solid
  unfold hunks
  generalize (compact (align old new)).changes = cs at hold hnew hsolid
  subst hold hnew
  cases cs with
  | nil => exact .nil 0 0 []
  | cons c rest =>
    rw [List.forall_mem_cons] at hsolid
    cases c with
    | change old new mark =>
      have hnext := patched_hunksFrom hsolid.2 (h := changeHunk 0 0 old new mark)
        ⟨fits_changeHunk 0 0 mark hsolid.1, fun _ => ⟨rfl, rfl⟩⟩
      simpa [hunksFrom, extend, Change.old, Change.new] using hnext
    | same ls =>
      have hls : ls.length ≠ 0 := by simpa [Change.IsSolid] using hsolid.1
      have hshown : ls.length - min ls.length context < ls.length := by
        simp only [context]
        omega
      have hne : ls.drop (ls.length - min ls.length context) ≠ [] := by
        simpa using hshown
      have hnext := patched_hunksFrom hsolid.2 (standsAt_keptHunk
        (0 + ls.length - min ls.length context) (0 + ls.length - min ls.length context) hne)
      rw [old_keptHunk, new_keptHunk, length_before_last (Nat.min_le_left _ _)] at hnext
      rw [hunksFrom]
      by_cases hrest : rest = []
      · subst hrest
        exact .nil 0 0 _
      · have hpos : 0 + ls.length - min ls.length context =
            0 + (ls.take (ls.length - min ls.length context)).length := by
          simp
        have hgap := hnext.gap_to (ls.take (ls.length - min ls.length context)) hpos hpos
        simpa [hrest, Change.old, Change.new, ← List.append_assoc] using hgap

/-! ## Applying hunks -/

/-- Where a hunk begins in the old text. One that begins with added lines begins at the top. -/
def Hunk.oldPlace (h : Hunk) : Nat :=
  if h.first? = some .added then 0 else h.oldSpan.1

/-- Where a hunk begins in the new text. One that begins with removed lines begins at the top. -/
def Hunk.newPlace (h : Hunk) : Nat :=
  if h.first? = some .removed then 0 else h.newSpan.1

/-- The one hunk ends, in both texts, before the other begins. -/
def Hunk.EndsBefore (h k : Hunk) : Prop :=
  h.oldPlace + h.old.length ≤ k.oldPlace ∧ h.newPlace + h.new.length ≤ k.newPlace

/-- Exchanges the lines `out` of each hunk for its lines `into` in a text of which `pos` lines have
gone by. A hunk must not begin before that, and the lines that are to go must be there. -/
def exchange (place : Hunk → Nat) (out into : Hunk → List Line) :
    (pos : Nat) → List Hunk → List Line → Option (List Line)
  | _, [], ls => some ls
  | pos, h :: hs, ls =>
    let gap := place h - pos
    if pos ≤ place h ∧ gap ≤ ls.length ∧ out h <+: ls.drop gap then
      (exchange place out into (place h + (out h).length) hs
        (ls.drop (gap + (out h).length))).map (ls.take gap ++ into h ++ ·)
    else none

/-- The text that hunks make of an old one. -/
def patch (hs : List Hunk) (old : List Line) : Option (List Line) :=
  exchange Hunk.oldPlace Hunk.old Hunk.new 0 hs old

/-- The text that hunks have made a new one of. -/
def unpatch (hs : List Hunk) (new : List Line) : Option (List Line) :=
  exchange Hunk.newPlace Hunk.new Hunk.old 0 hs new

theorem exchange_cons {place : Hunk → Nat} {out into : Hunk → List Line} {h : Hunk}
    {hs : List Hunk} {pos : Nat} {gap ls result : List Line} (hplace : place h = pos + gap.length)
    (hrest : exchange place out into (pos + gap.length + (out h).length) hs ls = some result) :
    exchange place out into pos (h :: hs) (gap ++ out h ++ ls) =
      some (gap ++ into h ++ result) := by
  rw [exchange]
  simp [hplace, hrest]

namespace Hunk.StandsAt

variable {h : Hunk} {oldPos newPos : Nat}

theorem oldPlace_eq (hh : h.StandsAt oldPos newPos) : h.oldPlace = oldPos := by
  rw [oldPlace]
  split
  next hf => exact (hh.top (by simp [hf])).1.symm
  next hf => exact hh.oldStart hf

theorem newPlace_eq (hh : h.StandsAt oldPos newPos) : h.newPlace = newPos := by
  rw [newPlace]
  split
  next hf => exact (hh.top (by simp [hf])).2.symm
  next hf => exact hh.newStart hf

end Hunk.StandsAt

namespace Patched

variable {oldPos newPos : Nat} {hs : List Hunk} {old new : List Line}

theorem exchange_old (h : Patched oldPos newPos hs old new) :
    exchange Hunk.oldPlace Hunk.old Hunk.new oldPos hs old = some new := by
  induction h with
  | nil => rfl
  | cons gap hh _ ih => exact exchange_cons hh.oldPlace_eq ih

theorem exchange_new (h : Patched oldPos newPos hs old new) :
    exchange Hunk.newPlace Hunk.new Hunk.old newPos hs new = some old := by
  induction h with
  | nil => rfl
  | cons gap hh _ ih => exact exchange_cons hh.newPlace_eq ih

theorem patch_eq (h : Patched 0 0 hs old new) : patch hs old = some new :=
  h.exchange_old

theorem unpatch_eq (h : Patched 0 0 hs old new) : unpatch hs new = some old :=
  h.exchange_new

/-- The header of every hunk is true of where the hunk is applied, as far as its first and last
line go. -/
theorem fits (h : Patched oldPos newPos hs old new) {k : Hunk} (hk : k ∈ hs) :
    k.Fits k.oldPlace k.newPlace := by
  induction h with
  | nil => simp at hk
  | cons gap hh _ ih =>
    rcases List.mem_cons.mp hk with rfl | hk
    · rw [hh.oldPlace_eq, hh.newPlace_eq]
      exact hh.toFits
    · exact ih hk

theorem le_place (h : Patched oldPos newPos hs old new) {k : Hunk} (hk : k ∈ hs) :
    oldPos ≤ k.oldPlace ∧ newPos ≤ k.newPlace := by
  induction h with
  | nil => simp at hk
  | cons gap hh _ ih =>
    rcases List.mem_cons.mp hk with rfl | hk
    · rw [hh.oldPlace_eq, hh.newPlace_eq]
      omega
    · have := ih hk
      omega

theorem pairwise_endsBefore (h : Patched oldPos newPos hs old new) :
    hs.Pairwise Hunk.EndsBefore := by
  induction h with
  | nil => exact .nil
  | cons gap hh hrest ih =>
    refine .cons (fun k hk => ?_) ih
    rw [Hunk.EndsBefore, hh.oldPlace_eq, hh.newPlace_eq]
    exact hrest.le_place hk

theorem mem_of_mem_lines (h : Patched oldPos newPos hs old new) {k : Hunk} (hk : k ∈ hs)
    {x : Mark × Line} (hx : x ∈ k.lines) : x.2 ∈ old ∨ x.2 ∈ new := by
  induction h with
  | nil => simp at hk
  | cons gap hh _ ih =>
    rcases List.mem_cons.mp hk with rfl | hk
    · rcases k.mem_old_or_mem_new hx with hx | hx <;> simp [hx]
    · rcases ih hk with hx | hx <;> simp [hx]

end Patched

end Codemod.Patch
