import Codemod.Patch.Hunk

/-!
# What edit scripts relate

However a script is found and however its blocks are moved about afterwards, it leads from the old
lines to the new ones, and none of its blocks is empty. Where the texts are cut in two and how far a
block slides only decides how the changes lie; nothing here depends on it.

## Main definitions

* `Script.Relates` — a script of non-empty blocks between two texts.

## Main results

* `relates_align` — the script that is found.
* `Place.relates_stepUp`, `Place.relates_stepDown` — one step of a block.
* `relates_compact` — the script with its changes moved together.
-/

namespace Codemod.Patch

/-! ## Lines in common -/

theorem take_commonFront (as bs : List Line) :
    as.take (commonFront as bs) = bs.take (commonFront as bs) := by
  fun_induction commonFront as bs with
  | case1 as b bs ih => simpa using ih
  | case2 => rfl
  | case3 => rfl

theorem commonFront_le_left (as bs : List Line) : commonFront as bs ≤ as.length := by
  fun_induction commonFront as bs with
  | case1 as b bs ih => simpa using ih
  | case2 => omega
  | case3 => omega

theorem drop_commonEnd (as bs : List Line) :
    as.drop (as.length - commonEnd as bs) = bs.drop (bs.length - commonEnd as bs) := by
  have h := take_commonFront as.reverse bs.reverse
  rw [List.take_reverse, List.take_reverse] at h
  simpa [commonEnd] using h

theorem commonEnd_le_left (as bs : List Line) : commonEnd as bs ≤ as.length := by
  simpa [commonEnd] using commonFront_le_left as.reverse bs.reverse

/-! ## Scripts between two texts -/

namespace Script

@[simp] theorem old_nil : old [] = [] := rfl

@[simp] theorem new_nil : new [] = [] := rfl

@[simp] theorem old_cons (b : Block) (s : Script) : old (b :: s) = b.old ++ old s := rfl

@[simp] theorem new_cons (b : Block) (s : Script) : new (b :: s) = b.new ++ new s := rfl

@[simp] theorem old_append (s t : Script) : old (s ++ t) = old s ++ old t := by
  simp [old]

@[simp] theorem new_append (s t : Script) : new (s ++ t) = new s ++ new t := by
  simp [new]

/-- The script leads from `old` to `new`, and every block of it has lines. -/
structure Relates (s : Script) (old new : List Line) : Prop where
  old_eq : s.old = old
  new_eq : s.new = new
  solid : ∀ b ∈ s, b.isEmpty = false

theorem Relates.append {s t : Script} {old new old' new' : List Line} (hs : s.Relates old new)
    (ht : t.Relates old' new') : (s ++ t : Script).Relates (old ++ old') (new ++ new') where
  old_eq := by rw [old_append, hs.old_eq, ht.old_eq]
  new_eq := by rw [new_append, hs.new_eq, ht.new_eq]
  solid b hb := (List.mem_append.mp hb).elim (hs.solid b) (ht.solid b)

end Script

open Script

theorem relates_kept (ls : List Line) : (kept ls).Relates ls ls := by
  cases ls with
  | nil => exact ⟨rfl, rfl, by simp [kept]⟩
  | cons l ls => constructor <;> simp [kept, Block.old, Block.new, Block.isEmpty]

theorem relates_replaced (oldPos newPos : Nat) (old new : List Line) :
    (replaced oldPos newPos old new).Relates old new := by
  cases old <;> cases new <;> constructor <;>
    simp [replaced, Block.old, Block.new, Block.isEmpty]

/-! ## Alignment -/

/-- Wherever the middle is found, a script of either half makes a script of the whole. -/
theorem relates_alignCore {conquer : (oldPos newPos : Nat) → List Line → List Line → Script}
    (h : ∀ oldPos newPos old new, (conquer oldPos newPos old new).Relates old new)
    (oldPos newPos : Nat) (old new : List Line) :
    (alignCore conquer oldPos newPos old new).Relates old new := by
  unfold alignCore
  split
  · exact ⟨rfl, rfl, by simp⟩
  · have hreplaced := relates_replaced oldPos newPos old []
    cases old with
    | nil => contradiction
    | cons => simpa [replaced] using hreplaced
  · have hreplaced := relates_replaced oldPos newPos [] new
    cases new with
    | nil => contradiction
    | cons => simpa [replaced] using hreplaced
  · split
    next x y _ =>
      simpa only [List.take_append_drop] using
        (h oldPos newPos (old.take x) (new.take y)).append
          (h (oldPos + x) (newPos + y) (old.drop x) (new.drop y))
    · have hreplaced := relates_replaced oldPos newPos old new
      cases old <;> cases new <;> simp_all [replaced]

/-- What both texts begin and end with can be kept. -/
theorem Script.Relates.trimmed {s : Script} {old new : List Line} {front back : Nat}
    (hfront : old.take front = new.take front)
    (hback : (old.drop front).drop ((old.drop front).length - back) =
      (new.drop front).drop ((new.drop front).length - back))
    (h : s.Relates ((old.drop front).take ((old.drop front).length - back))
      ((new.drop front).take ((new.drop front).length - back))) :
    (kept (old.take front) ++ s ++
      kept ((old.drop front).drop ((old.drop front).length - back)) : Script).Relates old new := by
  have hwhole := ((relates_kept (old.take front)).append h).append
    (relates_kept ((old.drop front).drop ((old.drop front).length - back)))
  refine ⟨hwhole.old_eq.trans ?_, hwhole.new_eq.trans ?_, hwhole.solid⟩
  · rw [List.append_assoc, List.take_append_drop, List.take_append_drop]
  · rw [hback, hfront, List.append_assoc, List.take_append_drop, List.take_append_drop]

theorem relates_alignWith (fuel oldPos newPos : Nat) (old new : List Line) :
    (alignWith fuel oldPos newPos old new).Relates old new := by
  induction fuel generalizing oldPos newPos old new with
  | zero => exact relates_replaced oldPos newPos old new
  | succ fuel ih =>
    exact (relates_alignCore ih _ _ _ _).trimmed (take_commonFront old new) (drop_commonEnd _ _)

theorem relates_align (old new : List Line) : (align old new).Relates old new :=
  relates_alignWith _ 0 0 old new

/-! ## Compaction -/

section Keeping

variable (ls : List Line) (s : Script)

@[simp] theorem old_keepBefore : Script.old (keepBefore ls s) = ls ++ Script.old s := by
  fun_cases keepBefore ls s <;> simp [Block.old]

@[simp] theorem new_keepBefore : Script.new (keepBefore ls s) = ls ++ Script.new s := by
  fun_cases keepBefore ls s <;> simp [Block.new]

@[simp] theorem old_reverse_keepAfter :
    Script.old (keepAfter ls s).reverse = Script.old s.reverse ++ ls := by
  fun_cases keepAfter ls s <;> simp [Block.old]

@[simp] theorem new_reverse_keepAfter :
    Script.new (keepAfter ls s).reverse = Script.new s.reverse ++ ls := by
  fun_cases keepAfter ls s <;> simp [Block.new]

@[simp] theorem old_keepIfAny : Script.old (keepIfAny ls s) = ls ++ Script.old s := by
  cases ls <;> simp [keepIfAny, Block.old]

@[simp] theorem new_keepIfAny : Script.new (keepIfAny ls s) = ls ++ Script.new s := by
  cases ls <;> simp [keepIfAny, Block.new]

@[simp] theorem old_reverse_keepIfAny :
    Script.old (keepIfAny ls s).reverse = Script.old s.reverse ++ ls := by
  cases ls <;> simp [keepIfAny, Block.old]

@[simp] theorem new_reverse_keepIfAny :
    Script.new (keepIfAny ls s).reverse = Script.new s.reverse ++ ls := by
  cases ls <;> simp [keepIfAny, Block.new]

variable {ls s}

theorem solid_keepBefore (hls : ls ≠ []) (hs : ∀ b ∈ s, b.isEmpty = false) :
    ∀ b ∈ keepBefore ls s, b.isEmpty = false := by
  fun_cases keepBefore ls s <;> simp_all [Block.isEmpty]

theorem solid_keepAfter (hls : ls ≠ []) (hs : ∀ b ∈ s, b.isEmpty = false) :
    ∀ b ∈ keepAfter ls s, b.isEmpty = false := by
  fun_cases keepAfter ls s <;> simp_all [Block.isEmpty]

theorem solid_keepIfAny (hs : ∀ b ∈ s, b.isEmpty = false) :
    ∀ b ∈ keepIfAny ls s, b.isEmpty = false := by
  cases ls <;> simp_all [keepIfAny, Block.isEmpty]

end Keeping

namespace Place

variable {p q : Place} {old new : List Line}

theorem relates_script : p.script.Relates old new ↔
    (Script.old p.before.reverse ++ (p.focus.old ++ Script.old p.after) = old ∧
      Script.new p.before.reverse ++ (p.focus.new ++ Script.new p.after) = new) ∧
    (∀ b ∈ p.before, b.isEmpty = false) ∧ p.focus.isEmpty = false ∧
      ∀ b ∈ p.after, b.isEmpty = false := by
  constructor
  · rintro ⟨hold, hnew, hsolid⟩
    simp only [script, old_append, old_cons, new_append, new_cons, List.mem_append,
      List.mem_reverse, List.mem_cons] at hold hnew hsolid
    exact ⟨⟨hold, hnew⟩, fun b hb => hsolid b (.inl hb), hsolid _ (.inr (.inl rfl)),
      fun b hb => hsolid b (.inr (.inr hb))⟩
  · rintro ⟨⟨hold, hnew⟩, hbefore, hfocus, hafter⟩
    refine ⟨by simpa [script] using hold, by simpa [script] using hnew, fun b hb => ?_⟩
    simp only [script, List.mem_append, List.mem_reverse, List.mem_cons] at hb
    rcases hb with hb | rfl | hb
    · exact hbefore b hb
    · exact hfocus
    · exact hafter b hb

/-- A step towards the front. The only one that is not a mere change of places is that of an added
block over kept lines: these are then its own last lines. -/
theorem relates_stepUp (h : p.script.Relates old new) (hq : p.stepUp = some q) :
    q.script.Relates old new := by
  rw [relates_script] at h ⊢
  revert hq
  fun_cases stepUp p
  case case3 lines mark ls before hb hf n hn here moved =>
    have hmoved : moved = lines.drop (lines.length - n) := drop_commonEnd ls lines
    have hsome : moved ≠ [] := by
      have := commonEnd_le_left ls lines
      simp only [moved, ne_eq, List.drop_eq_nil_iff]
      omega
    have hls : ls = here ++ moved := (List.take_append_drop _ ls).symm
    have hlines : (Block.add lines mark).new = lines.take (lines.length - n) ++ moved :=
      hmoved ▸ (List.take_append_drop _ lines).symm
    rintro ⟨⟩
    rw [hb, hf, hls] at h
    obtain ⟨⟨rfl, rfl⟩, hbefore, -, hafter⟩ := h
    refine ⟨⟨?_, ?_⟩, ?_, ?_, ?_⟩
    · simp [Block.old]
    · rw [hlines]
      simp [Block.new]
    · exact solid_keepIfAny fun b hb => hbefore b (List.mem_cons_of_mem _ hb)
    · simp [Block.isEmpty, hsome]
    · exact solid_keepBefore hsome hafter
  all_goals rintro ⟨⟩ <;> simp_all [Block.old, Block.new, Block.isEmpty]

/-- A step towards the end, in the same way. -/
theorem relates_stepDown (h : p.script.Relates old new) (hq : p.stepDown = some q) :
    q.script.Relates old new := by
  rw [relates_script] at h ⊢
  revert hq
  fun_cases stepDown p
  case case3 lines mark ls after ha hf n hn moved =>
    have hmoved : moved = lines.take n := take_commonFront ls lines
    have hsome : moved ≠ [] := by
      have := commonFront_le_left ls lines
      simp only [moved, ne_eq, List.take_eq_nil_iff]
      grind
    have hls : ls = moved ++ ls.drop n := (List.take_append_drop _ ls).symm
    have hlines : (Block.add lines mark).new = moved ++ lines.drop n :=
      hmoved ▸ (List.take_append_drop _ lines).symm
    rintro ⟨⟩
    rw [ha, hf, hls] at h
    obtain ⟨⟨rfl, rfl⟩, hbefore, -, hafter⟩ := h
    refine ⟨⟨?_, ?_⟩, ?_, ?_, ?_⟩
    · simp [Block.old]
    · rw [hlines]
      simp [Block.new]
    · exact solid_keepAfter hsome hbefore
    · simp [Block.isEmpty, hsome]
    · exact solid_keepIfAny fun b hb => hafter b (List.mem_cons_of_mem _ hb)
  all_goals rintro ⟨⟩ <;> simp_all [Block.old, Block.new, Block.isEmpty]

theorem relates_up (fuel : Nat) (h : p.script.Relates old new) :
    (p.up fuel).script.Relates old new := by
  fun_induction up fuel p with
  | case1 => exact h
  | case2 fuel p q hq ih => exact ih (relates_stepUp h hq)
  | case3 => exact h

theorem relates_down (fuel : Nat) (h : p.script.Relates old new) :
    (p.down fuel).script.Relates old new := by
  fun_induction down fuel p with
  | case1 => exact h
  | case2 fuel p q hq ih => exact ih (relates_stepDown h hq)
  | case3 => exact h

end Place

theorem relates_slide {chosen : Block → Bool} {steps fuel : Nat} {before after : Script}
    {old new : List Line} (h : Relates (before.reverse ++ after) old new) :
    (slide chosen steps fuel before after).Relates old new := by
  fun_induction slide chosen steps fuel before after with
  | case1 before after => exact h
  | case2 before => simpa using h
  | case3 fuel before b after hb p ih =>
    apply ih
    have hp : p.script.Relates old new :=
      Place.relates_down steps (Place.relates_up steps h)
    simpa [Place.script] using hp
  | case4 fuel before b after hb ih =>
    apply ih
    simpa using h

theorem relates_compact {s : Script} {old new : List Line} (h : s.Relates old new) :
    (compact s).Relates old new :=
  relates_slide (@relates_slide _ _ _ [] _ _ _ h)

end Codemod.Patch
