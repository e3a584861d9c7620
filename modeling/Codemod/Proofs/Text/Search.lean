import Codemod.Proofs.Path

/-!
# Words in a text

Words are found from left to right, and what has been found is passed over. A character that is not
in a word stands between its occurrences: a text can be cut there, and the word be exchanged in the
parts.

## Main definitions

* `Exchanged` — one word stands in place of another.

## Main results

* `splitOn_joinWith` — pieces that were joined are got back.
* `exchanged_replaceAll` — what replacing does.
* `replaceAll_eq_self_iff` — when replacing does nothing.
* `replaceAll_joinWith` — replacing piece by piece.
-/

namespace Codemod.Text

/-! ## Words at the ends -/

theorem dropWord?_eq_some {w s t : List Char} : dropWord? w s = some t ↔ s = w ++ t := by
  fun_induction dropWord? w s <;> grind

theorem dropFinalWord?_eq_some {w s t : List Char} :
    dropFinalWord? w s = some t ↔ s = t ++ w := by
  rw [dropFinalWord?, Option.map_eq_some_iff]
  constructor
  · rintro ⟨u, hu, rfl⟩
    rw [dropWord?_eq_some] at hu
    simpa using congrArg List.reverse hu
  · rintro rfl
    exact ⟨t.reverse, by simp [dropWord?_eq_some], by simp⟩

/-! ## Pieces -/

theorem splitFrom_append (w a b : List Char) : splitFrom w a.length (a ++ b) = splitOn w b := by
  induction a with
  | nil => rfl
  | cons c a ih => exact ih

/-- What stands before a word is a piece if the word does not begin in it. -/
theorem splitOn_append_word {a : Char} {w p : List Char} (h : a ∉ p) (t : List Char) :
    splitOn (a :: w) (p ++ (a :: w) ++ t) = p :: splitOn (a :: w) t := by
  induction p with
  | nil =>
    have hword : (a :: w).isPrefixOf (a :: (w ++ t)) = true :=
      List.isPrefixOf_iff_prefix.mpr (List.prefix_append (a :: w) t)
    rw [splitOn, List.nil_append, List.cons_append, splitFrom, if_pos hword, List.length_cons,
      Nat.add_sub_cancel, splitFrom_append]
  | cons c p ih =>
    rw [List.mem_cons, not_or] at h
    have hrest := ih h.2
    rw [splitOn] at hrest
    simp only [List.cons_append, List.append_assoc] at hrest ⊢
    simp [splitOn, splitFrom, List.isPrefixOf, h.1, hrest, onFirst]

/-- Pieces in which the word does not begin are got back from the text that they were joined to. -/
theorem splitOn_joinWith {a : Char} {w : List Char} {ps : List (List Char)} (hps : ps ≠ [])
    (h : ∀ p ∈ ps, a ∉ p) : splitOn (a :: w) (joinWith (a :: w) ps) = ps := by
  induction ps with
  | nil => exact absurd rfl hps
  | cons p ps ih =>
    rw [List.forall_mem_cons] at h
    by_cases hrest : ps = []
    · subst hrest
      exact splitOn_of_notMem h.1
    · rw [joinWith_cons _ _ hrest, splitOn_append_word h.1, ih hrest h.2]

theorem joinWith_eq_intercalate (w : List Char) (ps : List (List Char)) :
    joinWith w ps = w.intercalate ps := by
  fun_induction joinWith w ps with
  | case1 => rfl
  | case2 => simp [List.intercalate]
  | case3 p ps hps ih =>
    obtain ⟨q, rest, rfl⟩ := List.exists_cons_of_ne_nil hps
    simp [ih, List.intercalate]

/-- Joined pieces with the word after the last of them too. -/
theorem joinWith_append_word (w : List Char) {ps : List (List Char)} (hps : ps ≠ []) :
    joinWith w ps ++ w = ps.flatMap (· ++ w) := by
  fun_induction joinWith w ps with
  | case1 => exact absurd rfl hps
  | case2 => simp
  | case3 p ps hrest ih => simp [ih hrest]

/-! ## Exchanging words -/

/-- The second text is the first one with `new` in place of the word `w`, wherever it is found: at
its first occurrence, and then in what follows that. -/
inductive Exchanged (w new : List Char) : List Char → List Char → Prop
  | none {s : List Char} (h : ¬ w <:+: s) : Exchanged w new s s
  | first {a s t : List Char} (h : ∀ k < a.length, ¬ w <+: (a ++ w ++ s).drop k)
      (rest : Exchanged w new s t) : Exchanged w new (a ++ w ++ s) (a ++ new ++ t)

section

variable {w new s t : List Char}

theorem Exchanged.cons {c : Char} (h : Exchanged w new s t) (hc : ¬ w <+: c :: s) :
    Exchanged w new (c :: s) (c :: t) := by
  cases h with
  | none h => exact .none (by rw [List.infix_cons_iff]; exact not_or.mpr ⟨hc, h⟩)
  | @first a s t h rest =>
    refine .first (a := c :: a) (fun k hk => ?_) rest
    cases k with
    | zero => exact hc
    | succ k => exact h k (Nat.lt_of_succ_lt_succ hk)

/-- Replacing exchanges the words, with the characters passed over that have been found already. -/
theorem exchanged_replaceFrom (hw : w ≠ []) (new : List Char) (skip : Nat) (s : List Char) :
    Exchanged w new (s.drop skip) (replaceFrom w new skip s) := by
  fun_induction replaceFrom w new skip s with
  | case1 skip =>
    rw [List.drop_nil]
    exact .none (by simpa using hw)
  | case2 skip c s ih => exact ih
  | case3 c s h ih =>
    obtain ⟨t, ht⟩ := List.isPrefixOf_iff_prefix.mp h
    obtain ⟨d, w, rfl⟩ := List.exists_cons_of_ne_nil hw
    obtain ⟨rfl, rfl⟩ : d = c ∧ w ++ t = s := by simpa using ht
    have hrest : Exchanged (d :: w) new t (replaceFrom (d :: w) new w.length (w ++ t)) := by
      simpa using ih
    exact .first (a := []) (by simp) hrest
  | case4 c s h ih => exact ih.cons (by rwa [← List.isPrefixOf_iff_prefix])

theorem exchanged_replaceAll (hw : w ≠ []) (new s : List Char) :
    Exchanged w new s (replaceAll w new s) :=
  exchanged_replaceFrom hw new 0 s

/-- A longer word makes a text longer, and a shorter one makes it shorter. -/
theorem Exchanged.length_le (h : Exchanged w new s t) :
    (w.length ≤ new.length → s.length ≤ t.length) ∧
      (new.length ≤ w.length → t.length ≤ s.length) := by
  induction h with
  | none => exact ⟨fun _ => Nat.le_refl _, fun _ => Nat.le_refl _⟩
  | first h rest ih =>
    simp only [List.length_append]
    omega

theorem Exchanged.eq_iff (h : Exchanged w new s t) : t = s ↔ ¬ w <:+: s ∨ w = new := by
  induction h with
  | none h => simp [h]
  | @first a s t h rest ih =>
    have hoccurs : w <:+: a ++ w ++ s := ⟨a, s, rfl⟩
    simp only [hoccurs, not_true_eq_false, false_or]
    constructor
    · intro heq
      -- what follows the word cannot make up for a difference in length
      have hlength := congrArg List.length heq
      have hle := rest.length_le
      simp only [List.length_append] at hlength
      simp only [List.append_assoc, List.append_cancel_left_eq] at heq
      exact (List.append_inj heq (by omega)).1.symm
    · rintro rfl
      rw [ih.mpr (.inr rfl)]

/-- Replacing does nothing if the word does not occur, or if it is replaced by itself, and only
then. -/
theorem replaceAll_eq_self_iff (hw : w ≠ []) :
    replaceAll w new s = s ↔ ¬ w <:+: s ∨ w = new :=
  (exchanged_replaceAll hw new s).eq_iff

end

/-! ## Replacing between separators -/

section

variable {w : List Char} {x : Char}

/-- A word does not reach over a character that is not in it. -/
theorem isPrefixOf_append_cons (hx : x ∉ w) (a b : List Char) :
    w.isPrefixOf (a ++ x :: b) = w.isPrefixOf a := by
  induction w generalizing a with
  | nil => rfl
  | cons d w ih =>
    rw [List.mem_cons, not_or] at hx
    cases a with
    | nil => simp [List.isPrefixOf, Ne.symm hx.1]
    | cons c a => simp [List.isPrefixOf, ih hx.2]

theorem replaceFrom_append_cons (hw : w ≠ []) (hx : x ∉ w) (new : List Char) {skip : Nat}
    {a : List Char} (hskip : skip ≤ a.length) (b : List Char) :
    replaceFrom w new skip (a ++ x :: b) =
      replaceFrom w new skip a ++ x :: replaceAll w new b := by
  fun_induction replaceFrom w new skip a with
  | case1 skip =>
    obtain rfl : skip = 0 := by simpa using hskip
    have hnot : w.isPrefixOf (x :: b) = false := by
      rw [← List.nil_append (x :: b), isPrefixOf_append_cons hx]
      cases w <;> simp_all
    simp [replaceFrom, hnot, replaceAll]
  | case2 skip c s ih => exact ih (Nat.le_of_succ_le_succ hskip)
  | case3 c s h ih =>
    have hword : w.isPrefixOf (c :: s ++ x :: b) = true := by rw [isPrefixOf_append_cons hx, h]
    have hlength := (List.isPrefixOf_iff_prefix.mp h).length_le
    have hrest := ih (by simp only [List.length_cons] at hlength; omega)
    rw [List.cons_append] at hword ⊢
    rw [replaceFrom, if_pos hword, hrest, List.append_assoc]
  | case4 c s h ih =>
    have hword : ¬ w.isPrefixOf (c :: s ++ x :: b) = true := by rwa [isPrefixOf_append_cons hx]
    rw [List.cons_append] at hword ⊢
    rw [replaceFrom, if_neg hword, ih (Nat.zero_le _), List.cons_append]

/-- Characters that are not in the word are passed over. -/
theorem replaceAll_append_of_disjoint (hw : w ≠ []) {s : List Char} (hs : ∀ x ∈ s, x ∉ w)
    (new t : List Char) : replaceAll w new (s ++ t) = s ++ replaceAll w new t := by
  induction s with
  | nil => rfl
  | cons x s ih =>
    rw [List.forall_mem_cons] at hs
    have hrest := replaceFrom_append_cons hw hs.1 new (Nat.zero_le [].length) (s ++ t)
    rw [ih hs.2] at hrest
    exact hrest

variable {sep : List Char} (hw : w ≠ []) (hsep : sep ≠ []) (hdisjoint : ∀ x ∈ sep, x ∉ w)

include hw hsep hdisjoint

/-- The word is replaced before a separator and after it. -/
theorem replaceAll_append_separator (new a b : List Char) :
    replaceAll w new (a ++ sep ++ b) = replaceAll w new a ++ sep ++ replaceAll w new b := by
  obtain ⟨x, rest, rfl⟩ := List.exists_cons_of_ne_nil hsep
  rw [List.forall_mem_cons] at hdisjoint
  have hcut := replaceFrom_append_cons hw hdisjoint.1 new (Nat.zero_le a.length) (rest ++ b)
  rw [replaceAll_append_of_disjoint hw hdisjoint.2] at hcut
  rw [List.append_assoc, List.cons_append, List.append_assoc, List.cons_append]
  exact hcut

/-- To replace a word in the pieces of a text is to replace it in the text. -/
theorem replaceAll_joinWith (new : List Char) (ps : List (List Char)) :
    replaceAll w new (joinWith sep ps) = joinWith sep (ps.map (replaceAll w new)) := by
  fun_induction joinWith sep ps with
  | case1 => rfl
  | case2 p => rfl
  | case3 p ps hps ih =>
    rw [replaceAll_append_separator hw hsep hdisjoint, ih, List.map_cons,
      joinWith_cons _ _ (by simpa)]

end

end Codemod.Text
