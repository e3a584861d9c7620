import Codemod.Patch.Unified

/-!
# The lines of a text

A text is the concatenation of its lines, and lines that are each ended by a terminator fall apart
again when they are written one after the other. The one thing to look out for is a lone `\r`: a
`\n` after it would belong to the same terminator.

## Main definitions

* `IsLine` — a text that is a single line.

## Main results

* `flatten_splitLines` — nothing is lost.
* `IsLine.splitLines_append` — the first line of a text.
* `splitLines_flatten` — terminated lines fall apart again.
-/

namespace Codemod.Patch

/-- The text is one line, with or without its terminator. -/
def IsLine (l : Line) : Prop :=
  splitLines l = [l]

theorem splitLines_cons {c : Char} (hn : c ≠ '\n') (hr : c ≠ '\r') (s : List Char) :
    splitLines (c :: s) = onLine c (splitLines s) := by
  rw [splitLines.eq_3 c s (fun _ h => absurd h hr), if_neg (by simp [hn, hr])]

theorem splitLines_return {s : List Char} (h : s.head? ≠ some '\n') :
    splitLines ('\r' :: s) = ['\r'] :: splitLines s := by
  rw [splitLines.eq_3 '\r' s (fun t _ ht => by simp [ht] at h), if_pos (.inr rfl)]

theorem flatten_onLine (c : Char) (ls : List Line) : (onLine c ls).flatten = c :: ls.flatten := by
  cases ls <;> rfl

theorem flatten_splitLines (s : List Char) : (splitLines s).flatten = s := by
  fun_induction splitLines s with
  | case1 => rfl
  | case2 s ih => simp [ih]
  | case3 c s _ _ ih => simp [ih]
  | case4 c s _ _ ih => rw [flatten_onLine, ih]

theorem splitLines_injective {s t : List Char} (h : splitLines s = splitLines t) : s = t := by
  rw [← flatten_splitLines s, h, flatten_splitLines]

/-! ## Single lines -/

theorem IsLine.ne_nil {l : Line} (h : IsLine l) : l ≠ [] := by
  rintro rfl
  simp [IsLine, splitLines] at h

theorem IsLine.cons {c : Char} (hn : c ≠ '\n') (hr : c ≠ '\r') {l : Line} (h : IsLine l) :
    IsLine (c :: l) := by
  rw [IsLine, splitLines_cons hn hr, h]
  rfl

theorem isLine_singleton (c : Char) : IsLine [c] := by
  by_cases hn : c = '\n'
  · subst hn
    rfl
  by_cases hr : c = '\r'
  · subst hr
    rfl
  rw [IsLine, splitLines_cons hn hr]
  rfl

/-- A line is a bare terminator, or it begins with a character that is none and goes on as a line,
if it goes on. -/
theorem IsLine.cases {l : Line} (h : IsLine l) :
    l = ['\n'] ∨ l = ['\r'] ∨ l = ['\r', '\n'] ∨
      ∃ c s, l = c :: s ∧ c ≠ '\n' ∧ c ≠ '\r' ∧ (s = [] ∨ IsLine s) := by
  unfold IsLine at h
  fun_cases splitLines l with
  | case1 => simp [splitLines] at h
  | case2 s =>
    rw [splitLines] at h
    obtain rfl : [] = s := by simpa using (List.cons.inj h).1
    simp
  | case3 c s hpair hc =>
    rw [splitLines.eq_3 c s hpair, if_pos hc] at h
    obtain rfl : [] = s := by simpa using (List.cons.inj h).1
    rcases hc with rfl | rfl <;> simp
  | case4 c s hpair hc =>
    rw [splitLines.eq_3 c s hpair, if_neg hc] at h
    refine .inr (.inr (.inr ⟨c, s, rfl, fun e => hc (.inl e), fun e => hc (.inr e), ?_⟩))
    cases hs : splitLines s with
    | nil => exact .inl (splitLines_injective hs)
    | cons k ks =>
      rw [hs, onLine] at h
      obtain ⟨hk, rfl⟩ : k = s ∧ ks = [] := by simpa using h
      exact .inr (hs.trans (by rw [hk]))

theorem isLine_of_mem_splitLines (s : List Char) : ∀ l ∈ splitLines s, IsLine l := by
  fun_induction splitLines s with
  | case1 => simp
  | case2 s ih => exact List.forall_mem_cons.mpr ⟨rfl, ih⟩
  | case3 c s _ hc ih => exact List.forall_mem_cons.mpr ⟨isLine_singleton c, ih⟩
  | case4 c s _ hc ih =>
    have hn : c ≠ '\n' := fun e => hc (.inl e)
    have hr : c ≠ '\r' := fun e => hc (.inr e)
    cases hs : splitLines s with
    | nil => simpa [onLine] using isLine_singleton c
    | cons k ks =>
      rw [hs, List.forall_mem_cons] at ih
      exact List.forall_mem_cons.mpr ⟨ih.1.cons hn hr, ih.2⟩

theorem isTerminated_cons {c : Char} {s : List Char} (hs : s ≠ []) :
    isTerminated (c :: s) = isTerminated s := by
  obtain ⟨d, t, rfl⟩ := List.exists_cons_of_ne_nil hs
  simp [isTerminated]

/-- The first line of a text that begins with a terminated line. -/
theorem IsLine.splitLines_append {l : Line} (h : IsLine l) (ht : isTerminated l = true)
    {rest : List Char} (hrest : rest.head? ≠ some '\n') :
    splitLines (l ++ rest) = l :: splitLines rest := by
  induction l with
  | nil => exact absurd rfl h.ne_nil
  | cons c s ih =>
    obtain hl | hl | hl | ⟨_, _, ⟨⟩, hn, hr, rfl | hs⟩ := h.cases
    · obtain ⟨rfl, rfl⟩ := List.cons.inj hl
      simp [splitLines]
    · obtain ⟨rfl, rfl⟩ := List.cons.inj hl
      exact splitLines_return hrest
    · obtain ⟨rfl, rfl⟩ := List.cons.inj hl
      simp [splitLines]
    · simp [isTerminated, hn, hr] at ht
    · rw [isTerminated_cons hs.ne_nil] at ht
      rw [List.cons_append, splitLines_cons hn hr, ih hs ht]
      rfl

/-- A line that lacks its terminator may be given one. -/
theorem IsLine.append_newline {l : Line} (h : IsLine l) (ht : isTerminated l = false) :
    IsLine (l ++ ['\n']) := by
  induction l with
  | nil => exact absurd rfl h.ne_nil
  | cons c s ih =>
    obtain hl | hl | hl | ⟨_, _, ⟨⟩, hn, hr, rfl | hs⟩ := h.cases
    · simp [hl, isTerminated] at ht
    · simp [hl, isTerminated] at ht
    · simp [hl, isTerminated] at ht
    · exact (isLine_singleton '\n').cons hn hr
    · rw [isTerminated_cons hs.ne_nil] at ht
      exact (ih hs ht).cons hn hr

/-- Terminated lines, none of which begins with `\n`, fall apart again. -/
theorem splitLines_flatten {ls : List Line}
    (h : ∀ l ∈ ls, IsLine l ∧ isTerminated l = true ∧ l.head? ≠ some '\n') :
    splitLines ls.flatten = ls := by
  induction ls with
  | nil => rfl
  | cons l ls ih =>
    rw [List.forall_mem_cons] at h
    have hrest : ls.flatten.head? ≠ some '\n' := by
      cases ls with
      | nil => simp
      | cons k ks =>
        obtain ⟨hk, -, hhead⟩ := h.2 k List.mem_cons_self
        obtain ⟨c, s, rfl⟩ := List.exists_cons_of_ne_nil hk.ne_nil
        simpa using hhead
    rw [List.flatten_cons, h.1.1.splitLines_append h.1.2.1 hrest, ih h.2]

end Codemod.Patch
