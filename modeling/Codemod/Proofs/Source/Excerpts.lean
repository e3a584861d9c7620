import Codemod.Source.Import

/-!
# Excerpts of a text

Parts of a text are told by the bytes that they take up. Here they are given together with their
characters, in the order in which they stand in the text, so that they begin and end with whole
characters and do not overlap.

## Main definitions

* `Holds` — what stands in a range of a text.
* `Excerpt` — a range and its text.
* `Occur` — excerpts stand in a text one after the other.

## Main results

* `slice?_eq_some_iff` — the text of a range.
* `Holds.inner_iff` — a range without its first and its last byte.
* `occur_of_holds` — excerpts that do not overlap.
* `Occur.sublist` — some of the excerpts.
* `Occur.shift`, `Occur.append`, `Occur.concat` — a text that goes on at one of its ends.
* `Occur.merge` — excerpts that follow one another as one.
* `Occur.holds`, `Occur.pairwise` — the ranges of excerpts.
-/

namespace Codemod.Source

/-! ## Bytes -/

@[simp] theorem byteSize_nil : byteSize [] = 0 := rfl

theorem foldl_utf8Size (n : Nat) (s : List Char) :
    s.foldl (fun n c => n + c.utf8Size) n = n + byteSize s := by
  induction s generalizing n with
  | nil => rfl
  | cons c s ih =>
    rw [byteSize, List.foldl_cons, List.foldl_cons, ih, ih, Nat.zero_add, Nat.add_assoc]

@[simp] theorem byteSize_cons (c : Char) (s : List Char) :
    byteSize (c :: s) = c.utf8Size + byteSize s := by
  rw [byteSize, List.foldl_cons, foldl_utf8Size, Nat.zero_add]

@[simp] theorem byteSize_append (s t : List Char) :
    byteSize (s ++ t) = byteSize s + byteSize t := by
  rw [byteSize, List.foldl_append, foldl_utf8Size, foldl_utf8Size, Nat.zero_add]

theorem utf8ByteSize_ofList (s : List Char) : (String.ofList s).utf8ByteSize = byteSize s := by
  induction s with
  | nil => rfl
  | cons c s ih =>
    rw [← List.singleton_append, String.ofList_append, String.utf8ByteSize_append, ih,
      ← String.singleton_eq_ofList, String.utf8ByteSize_singleton, List.singleton_append,
      byteSize_cons]

theorem utf8ByteSize_eq (text : String) : text.utf8ByteSize = byteSize text.toList := by
  rw [← utf8ByteSize_ofList, String.ofList_toList]

theorem eq_nil_of_byteSize_eq_zero {s : List Char} (h : byteSize s = 0) : s = [] := by
  cases s with
  | nil => rfl
  | cons c s =>
    have hpos := c.utf8Size_pos
    rw [byteSize_cons] at h
    omega

theorem exists_of_byteSize_eq_one {s : List Char} (h : byteSize s = 1) :
    ∃ c, s = [c] ∧ c.utf8Size = 1 := by
  cases s with
  | nil => cases h
  | cons c s =>
    have hpos := c.utf8Size_pos
    rw [byteSize_cons] at h
    exact ⟨c, by rw [eq_nil_of_byteSize_eq_zero (s := s) (by omega)], by omega⟩

/-- Of two ways to split a text, the one that splits it later has more in front. -/
theorem exists_gap_of_append_eq {front back front' back' : List Char}
    (h : front ++ back = front' ++ back') (hle : byteSize front ≤ byteSize front') :
    ∃ gap, front' = front ++ gap ∧ back = gap ++ back' := by
  obtain ⟨gap, hfront, hback⟩ | ⟨gap, hfront, hback⟩ := List.append_eq_append_iff.mp h
  · exact ⟨gap, hfront, hback⟩
  · have hempty : gap = [] := eq_nil_of_byteSize_eq_zero (by
      rw [hfront, byteSize_append] at hle
      omega)
    subst hempty
    exact ⟨[], by simpa using hfront.symm, by simpa using hback.symm⟩

/-! ## Ranges -/

/-- The range begins and ends with whole characters of the text, and `part` stands in it. -/
def Holds (s : List Char) (r : Span) (part : List Char) : Prop :=
  ∃ front back, s = front ++ (part ++ back) ∧ r.start = byteSize front ∧
    r.stop = r.start + byteSize part

namespace Holds

variable {s part part' : List Char} {r : Span}

theorem start_le_stop (h : Holds s r part) : r.start ≤ r.stop := by
  obtain ⟨front, back, -, -, hstop⟩ := h
  omega

/-- A range holds one text. -/
theorem unique (h : Holds s r part) (h' : Holds s r part') : part = part' := by
  obtain ⟨front, back, rfl, hstart, hstop⟩ := h
  obtain ⟨front', back', htext, hstart', hstop'⟩ := h'
  obtain ⟨gap, rfl, hgap⟩ := exists_gap_of_append_eq htext (by omega)
  rw [byteSize_append] at hstart'
  obtain rfl : gap = [] := eq_nil_of_byteSize_eq_zero (by omega)
  rw [List.nil_append] at hgap
  obtain ⟨more, rfl, -⟩ := exists_gap_of_append_eq hgap (by omega)
  rw [byteSize_append] at hstop'
  obtain rfl : more = [] := eq_nil_of_byteSize_eq_zero (by omega)
  exact (List.append_nil part).symm

end Holds

/-- The text begins and ends with a character of one byte each. -/
def IsEdged (part : List Char) : Prop :=
  ∃ a mid b, part = a :: (mid ++ [b]) ∧ a.utf8Size = 1 ∧ b.utf8Size = 1

/-- Without its first and its last byte a range is still one of whole characters only if those bytes
are characters. -/
theorem Holds.inner_iff {s part mid : List Char} {r : Span} (h : Holds s r part) :
    Holds s ⟨r.start + 1, r.stop - 1⟩ mid ↔
      ∃ a b, part = a :: (mid ++ [b]) ∧ a.utf8Size = 1 ∧ b.utf8Size = 1 := by
  obtain ⟨front, back, rfl, hstart, hstop⟩ := h
  constructor
  · rintro ⟨front', back', htext, hstart', hstop'⟩
    dsimp only at hstart' hstop'
    obtain ⟨first, rfl, hfirst⟩ := exists_gap_of_append_eq htext (by omega)
    rw [byteSize_append] at hstart'
    have hone : byteSize first = 1 := by omega
    rw [← List.append_assoc] at hfirst
    obtain ⟨last, hlast, hback⟩ := exists_gap_of_append_eq hfirst.symm (by
      rw [byteSize_append]
      omega)
    have hlastOne : byteSize last = 1 := by
      rw [hlast, byteSize_append, byteSize_append] at hstop
      omega
    obtain ⟨a, rfl, ha⟩ := exists_of_byteSize_eq_one hone
    obtain ⟨b, rfl, hb⟩ := exists_of_byteSize_eq_one hlastOne
    exact ⟨a, b, by simpa using hlast, ha, hb⟩
  · rintro ⟨a, b, rfl, ha, hb⟩
    simp only [byteSize_cons, byteSize_append, byteSize_nil, ha, hb] at hstop
    refine ⟨front ++ [a], b :: back, by simp, ?_, ?_⟩
    · simp [hstart, ha]
    · simp only
      omega

/-! ## The text of a range -/

/-- A text can be split between two characters. -/
theorem splitAt?_append (s t : List Char) : splitAt? (byteSize s) (s ++ t) = some (s, t) := by
  induction s with
  | nil => rw [List.nil_append, byteSize_nil, splitAt?]
  | cons c s ih =>
    obtain ⟨n, hn⟩ : ∃ n, byteSize (c :: s) = n + 1 :=
      ⟨byteSize (c :: s) - 1, by have := c.utf8Size_pos; rw [byteSize_cons]; omega⟩
    have hsize : c.utf8Size + byteSize s = n + 1 := by rw [← hn, byteSize_cons]
    have hrest : n + 1 - c.utf8Size = byteSize s := by omega
    rw [hn, List.cons_append, splitAt?, if_pos (by omega), hrest, ih]
    rfl

theorem splitAt?_eq_some_iff {n : Nat} {s front back : List Char} :
    splitAt? n s = some (front, back) ↔ s = front ++ back ∧ n = byteSize front := by
  constructor
  · intro h
    fun_induction splitAt? n s generalizing front back with
    | case1 s =>
      cases h
      exact ⟨rfl, rfl⟩
    | case2 => cases h
    | case3 n c s hle ih =>
      obtain ⟨⟨front', back'⟩, hrest, heq⟩ := Option.map_eq_some_iff.mp h
      cases heq
      obtain ⟨rfl, hsize⟩ := ih hrest
      refine ⟨rfl, ?_⟩
      rw [byteSize_cons]
      omega
    | case4 => cases h
  · rintro ⟨rfl, rfl⟩
    exact splitAt?_append front back

/-- The text of a range is what it holds. -/
theorem slice?_eq_some_iff {text t : String} {r : Span} :
    slice? text r = some t ↔ Holds text.toList r t.toList := by
  rw [slice?]
  constructor
  · intro h
    split at h
    next hle =>
      split at h
      next front rest hfront =>
        obtain ⟨⟨part, back⟩, hpart, rfl⟩ := Option.map_eq_some_iff.mp h
        obtain ⟨htext, hstart⟩ := splitAt?_eq_some_iff.mp hfront
        obtain ⟨rfl, hsize⟩ := splitAt?_eq_some_iff.mp hpart
        refine ⟨front, back, by simpa using htext, hstart, ?_⟩
        rw [Span.size] at hsize
        rw [String.toList_ofList]
        omega
      next => cases h
    next => cases h
  · intro h
    have hle := h.start_le_stop
    obtain ⟨front, back, htext, hstart, hstop⟩ := h
    have hsize : r.size = byteSize t.toList := by rw [Span.size]; omega
    rw [if_pos hle, htext, hstart, splitAt?_append]
    dsimp only
    rw [hsize, splitAt?_append, Option.map_some, String.ofList_toList]

theorem slice_eq_ok_iff {text t : String} {r : Span} :
    slice text r = .ok t ↔ Holds text.toList r t.toList := by
  rw [← slice?_eq_some_iff, slice]
  cases slice? text r <;> simp

/-- The text of a range of whole characters can be read. -/
theorem Holds.slice_eq {text : String} {r : Span} {part : List Char}
    (h : Holds text.toList r part) : slice text r = .ok (String.ofList part) :=
  slice_eq_ok_iff.mpr (by rwa [String.toList_ofList])

/-! ## Excerpts -/

structure Excerpt where
  span : Span
  text : List Char

/-- The excerpts stand in the text in this order, and none begins before the one before it ends.
The text comes after `offset` bytes. -/
inductive Occur : (offset : Nat) → (s : List Char) → List Excerpt → Prop
  | nil (offset : Nat) (s : List Char) : Occur offset s []
  | cons {offset : Nat} {x : Excerpt} {s : List Char} {xs : List Excerpt} (gap : List Char)
      (hstart : x.span.start = offset + byteSize gap)
      (hstop : x.span.stop = x.span.start + byteSize x.text) (hrest : Occur x.span.stop s xs) :
      Occur offset (gap ++ (x.text ++ s)) (x :: xs)

namespace Occur

variable {offset : Nat} {s : List Char} {x : Excerpt} {xs ys : List Excerpt}

/-- More text before the excerpts. -/
theorem shift {gap : List Char} (h : Occur (offset + byteSize gap) s xs) :
    Occur offset (gap ++ s) xs := by
  cases h with
  | nil => exact .nil _ _
  | cons gap' hstart hstop hrest =>
    rw [← List.append_assoc]
    exact .cons (gap ++ gap') (by rw [byteSize_append]; omega) hstop hrest

/-- Some of the excerpts stand in the same order. -/
theorem sublist (h : Occur offset s xs) (hys : ys.Sublist xs) : Occur offset s ys := by
  induction h generalizing ys with
  | nil offset s =>
    obtain rfl := List.sublist_nil.mp hys
    exact .nil offset s
  | @cons offset x s xs gap hstart hstop hrest ih =>
    cases hys with
    | cons _ hys =>
      have hshorter := ih hys
      rw [hstop, hstart] at hshorter
      exact hshorter.shift.shift
    | cons_cons _ hys => exact .cons gap hstart hstop (ih hys)

/-- More text after the excerpts. -/
theorem append (h : Occur offset s xs) (t : List Char) : Occur offset (s ++ t) xs := by
  induction h with
  | nil offset s => exact .nil _ _
  | cons gap hstart hstop hrest ih =>
    rw [List.append_assoc, List.append_assoc]
    exact .cons gap hstart hstop ih

/-- One more excerpt at the end of the text. -/
theorem concat (h : Occur offset s xs) (hstart : x.span.start = offset + byteSize s)
    (hstop : x.span.stop = x.span.start + byteSize x.text) :
    Occur offset (s ++ x.text) (xs ++ [x]) := by
  induction h with
  | nil offset s =>
    have hlast := cons (s := []) s hstart hstop (.nil _ _)
    rwa [List.append_nil] at hlast
  | cons gap hstart' hstop' hrest ih =>
    rw [List.append_assoc, List.append_assoc, List.cons_append]
    refine .cons gap hstart' hstop' (ih ?_)
    simp only [byteSize_append] at hstart
    omega

/-- Excerpts that follow one another, with what stands between them, are one excerpt. -/
theorem merge (h : Occur offset s (x :: (xs ++ ys))) :
    ∃ more, Occur offset s
      (⟨⟨x.span.start, xs.foldl (fun _ y => y.span.stop) x.span.stop⟩, x.text ++ more⟩ :: ys) := by
  induction xs generalizing x with
  | nil => exact ⟨[], by simpa using h⟩
  | cons y xs ih =>
    cases h with
    | cons gap hstart hstop hrest =>
      cases hrest with
      | @cons _ _ rest _ gap' hstart' hstop' hrest' =>
        let both : Excerpt := ⟨⟨x.span.start, y.span.stop⟩, x.text ++ (gap' ++ y.text)⟩
        have hboth : Occur offset (gap ++ (both.text ++ rest)) (both :: (xs ++ ys)) := by
          refine .cons gap hstart ?_ hrest'
          simp only [both, byteSize_append]
          omega
        obtain ⟨more, hmore⟩ := ih (x := both) (by simpa [both] using hboth)
        exact ⟨gap' ++ y.text ++ more, by simpa [both] using hmore⟩

/-! ### Ranges -/

theorem stop_eq (h : Occur offset s xs) :
    ∀ x ∈ xs, x.span.stop = x.span.start + byteSize x.text := by
  induction h with
  | nil => simp
  | cons gap hstart hstop hrest ih => exact List.forall_mem_cons.mpr ⟨hstop, ih⟩

theorem offset_le (h : Occur offset s xs) : ∀ x ∈ xs, offset ≤ x.span.start := by
  induction h with
  | nil => simp
  | @cons offset x s xs gap hstart hstop hrest ih =>
    refine List.forall_mem_cons.mpr ⟨by omega, fun y hy => ?_⟩
    have := ih y hy
    omega

/-- Excerpts do not overlap. -/
theorem pairwise (h : Occur offset s xs) :
    xs.Pairwise fun x y => x.span.stop ≤ y.span.start := by
  induction h with
  | nil => exact .nil
  | cons gap hstart hstop hrest ih => exact .cons (fun y hy => hrest.offset_le y hy) ih

/-- Excerpts begin and end with whole characters. -/
theorem holds (h : Occur offset s xs) (front : List Char) (hfront : byteSize front = offset) :
    ∀ x ∈ xs, Holds (front ++ s) x.span x.text := by
  induction h generalizing front with
  | nil => simp
  | @cons offset x s xs gap hstart hstop hrest ih =>
    refine List.forall_mem_cons.mpr ⟨⟨front ++ gap, s, ?_, ?_, hstop⟩, ?_⟩
    · simp
    · simp [hfront, hstart]
    · have hlater := ih (front ++ gap ++ x.text) (by simp only [byteSize_append]; omega)
      simpa using hlater

end Occur

/-- Excerpts that stand in a text and do not overlap occur in it one after the other. -/
theorem occur_of_holds {s front : List Char} {xs : List Excerpt}
    (hholds : ∀ x ∈ xs, Holds (front ++ s) x.span x.text)
    (hfront : ∀ x ∈ xs, byteSize front ≤ x.span.start)
    (hapart : xs.Pairwise fun x y => x.span.stop ≤ y.span.start) :
    Occur (byteSize front) s xs := by
  induction xs generalizing front s with
  | nil => exact .nil _ _
  | cons x xs ih =>
    rw [List.forall_mem_cons] at hholds hfront
    rw [List.pairwise_cons] at hapart
    obtain ⟨⟨front', back, htext, hstart, hstop⟩, hlater⟩ := hholds
    obtain ⟨gap, rfl, rfl⟩ := exists_gap_of_append_eq htext (by omega)
    rw [byteSize_append] at hstart
    refine .cons gap hstart hstop ?_
    have hread : x.span.stop = byteSize (front ++ (gap ++ x.text)) := by
      simp only [byteSize_append]
      omega
    rw [hread]
    refine ih (fun y hy => ?_) (fun y hy => hread ▸ hapart.1 y hy) hapart.2
    simpa using hlater y hy

end Codemod.Source
