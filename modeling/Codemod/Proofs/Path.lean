import Codemod.Path
import Mathlib.Data.List.DropRight

/-!
# Facts about paths

The project form of a path is reached in one go, and the segments of a joined path are the segments
of its two parts.

## Main definitions

* `Path.IsProjectForm` — what a path in project form looks like.
* `Path.names` — the segments of a path that lead somewhere.
* `Path.IsPlain` — every segment is the name of an entry.

## Main results

* `Path.isProjectForm_normalize`, `Path.IsProjectForm.normalize_eq` — the project form is reached,
  and a path that has it is kept.
* `Path.names_join` — the names on the way to a joined path.
-/

namespace Codemod

/-! ## Cutting -/

namespace Text

theorem splitFrom_ne_nil (w : List Char) (skip : Nat) (s : List Char) :
    splitFrom w skip s ≠ [] := by
  fun_induction splitFrom w skip s with
  | case1 => simp
  | case2 _ _ _ ih => exact ih
  | case3 => simp
  | case4 c s _ ih =>
    obtain ⟨p, ps, hp⟩ := List.exists_cons_of_ne_nil ih
    simp [hp, onFirst]

theorem onFirst_append (c : Char) {a : List (List Char)} (b : List (List Char)) (ha : a ≠ []) :
    onFirst c (a ++ b) = onFirst c a ++ b := by
  obtain ⟨p, ps, rfl⟩ := List.exists_cons_of_ne_nil ha
  rfl

/-- A separator in the middle cuts a text into the pieces before and the pieces after it. -/
theorem splitOn_append_cons (w : Char) (a b : List Char) :
    splitOn [w] (a ++ w :: b) = splitOn [w] a ++ splitOn [w] b := by
  induction a with
  | nil => simp [splitOn, splitFrom, List.isPrefixOf]
  | cons c a ih =>
    by_cases hc : w = c
    · simpa [splitOn, splitFrom, List.isPrefixOf, hc] using ih
    · have ih' : splitFrom [w] 0 (a ++ w :: b) = splitFrom [w] 0 a ++ splitFrom [w] 0 b := ih
      simp [splitOn, splitFrom, List.isPrefixOf, hc, ih',
        onFirst_append c _ (splitFrom_ne_nil [w] 0 a)]

/-- A text without the first character of a word is one piece. -/
theorem splitOn_of_notMem {a : Char} {w s : List Char} (h : a ∉ s) : splitOn (a :: w) s = [s] := by
  induction s with
  | nil => rfl
  | cons c s ih =>
    rw [List.mem_cons, not_or] at h
    have hrest : splitFrom (a :: w) 0 s = [s] := ih h.2
    simp [splitOn, splitFrom, List.isPrefixOf, h.1, hrest, onFirst]

/-- A separator is in none of the pieces. -/
theorem notMem_of_mem_splitOn {w : Char} {s p : List Char} (h : p ∈ splitOn [w] s) : w ∉ p := by
  induction s generalizing p with
  | nil =>
    obtain rfl : p = [] := by simpa [splitOn, splitFrom] using h
    exact List.not_mem_nil
  | cons c s ih =>
    by_cases hc : w = c
    · have hp : p = [] ∨ p ∈ splitOn [w] s := by
        simpa [splitOn, splitFrom, List.isPrefixOf, hc] using h
      rcases hp with rfl | hp
      · exact List.not_mem_nil
      · exact ih hp
    · obtain ⟨q, qs, hq⟩ := List.exists_cons_of_ne_nil (splitFrom_ne_nil [w] 0 s)
      have hp : p = c :: q ∨ p ∈ qs := by
        simpa [splitOn, splitFrom, List.isPrefixOf, hc, hq, onFirst] using h
      rcases hp with rfl | hp
      · rw [List.mem_cons, not_or]
        exact ⟨hc, ih (by simp [splitOn, hq])⟩
      · exact ih (by simp [splitOn, hq, hp])

theorem joinWith_cons (w p : List Char) {ps : List (List Char)} (h : ps ≠ []) :
    joinWith w (p :: ps) = p ++ w ++ joinWith w ps := by
  obtain ⟨q, qs, rfl⟩ := List.exists_cons_of_ne_nil h
  rfl

theorem mem_joinWith {c : Char} {w : List Char} {ps : List (List Char)} (h : c ∈ joinWith w ps) :
    c ∈ w ∨ ∃ p ∈ ps, c ∈ p := by
  induction ps with
  | nil => simp [joinWith] at h
  | cons p ps ih =>
    by_cases hps : ps = []
    · subst hps
      exact .inr ⟨p, List.mem_cons_self, by simpa [joinWith] using h⟩
    · rw [joinWith_cons w p hps, List.mem_append, List.mem_append] at h
      rcases h with (hp | hw) | hrest
      · exact .inr ⟨p, List.mem_cons_self, hp⟩
      · exact .inl hw
      · obtain hw | ⟨q, hq, hc⟩ := ih hrest
        · exact .inl hw
        · exact .inr ⟨q, List.mem_cons_of_mem p hq, hc⟩

theorem joinWith_onFirst (w : List Char) (c : Char) {ps : List (List Char)} (h : ps ≠ []) :
    joinWith w (onFirst c ps) = c :: joinWith w ps := by
  obtain ⟨p, rest, rfl⟩ := List.exists_cons_of_ne_nil h
  cases rest <;> rfl

/-- The pieces of a text, put together again, are the text. -/
theorem joinWith_splitFrom {w : List Char} (hw : w ≠ []) (skip : Nat) (s : List Char) :
    joinWith w (splitFrom w skip s) = s.drop skip := by
  fun_induction splitFrom w skip s with
  | case1 => simp [joinWith]
  | case2 skip c s ih => simpa using ih
  | case3 c s h ih =>
    obtain ⟨t, ht⟩ := List.isPrefixOf_iff_prefix.mp h
    obtain ⟨a, w, rfl⟩ := List.exists_cons_of_ne_nil hw
    obtain ⟨rfl, rfl⟩ : a = c ∧ w ++ t = s := by simpa using ht
    rw [joinWith_cons _ _ (splitFrom_ne_nil _ _ _), ih]
    simp
  | case4 c s h ih => simpa [joinWith_onFirst w c (splitFrom_ne_nil w 0 s)] using ih

theorem joinWith_splitOn {w : List Char} (hw : w ≠ []) (s : List Char) :
    joinWith w (splitOn w s) = s :=
  joinWith_splitFrom hw 0 s

end Text

namespace Path

/-! ## The project form -/

theorem not_here_prefix_dropHere (s : List Char) : ¬ ['.', '/'] <+: dropHere s := by
  fun_induction dropHere s with
  | case1 rest ih => exact ih
  | case2 s h =>
    rintro ⟨t, rfl⟩
    exact h t rfl

theorem dropHere_eq_self {s : List Char} (h : ¬ ['.', '/'] <+: s) : dropHere s = s := by
  fun_cases dropHere s with
  | case1 rest => exact absurd ⟨rest, rfl⟩ h
  | case2 => rfl

theorem dropHere_suffix (s : List Char) : dropHere s <:+ s := by
  fun_induction dropHere s with
  | case1 rest ih => exact ih.trans ⟨['.', '/'], rfl⟩
  | case2 => exact List.suffix_rfl

theorem dropFinalSlashes_isPrefix (s : List Char) : dropFinalSlashes s <+: s :=
  List.rdropWhile_prefix _ s

theorem not_slash_suffix_dropFinalSlashes (s : List Char) : ¬ ['/'] <:+ dropFinalSlashes s := by
  rintro ⟨t, ht⟩
  have hne : List.rdropWhile (fun c => decide (c = '/')) s ≠ [] := by
    change dropFinalSlashes s ≠ []
    simp [← ht]
  have hlast := List.rdropWhile_last_not _ s hne
  simp [show List.rdropWhile (fun c => decide (c = '/')) s = t ++ ['/'] from ht.symm] at hlast

theorem dropFinalSlashes_eq_self {s : List Char} (h : ¬ ['/'] <:+ s) : dropFinalSlashes s = s := by
  refine List.rdropWhile_eq_self_iff.mpr fun hne hlast => ?_
  refine h ⟨s.dropLast, ?_⟩
  have hslash : s.getLast hne = '/' := by simpa using hlast
  rw [← hslash, List.dropLast_append_getLast]

theorem map_forward_eq_self {s : List Char} (h : '\\' ∉ s) :
    (s.map fun c => if c = '\\' then '/' else c) = s := by
  have same : ∀ c ∈ s, (if c = '\\' then '/' else c) = id c := by
    intro c hc
    have hne : c ≠ '\\' := fun heq => h (heq ▸ hc)
    rw [if_neg hne, id]
  rw [List.map_congr_left same, List.map_id]

theorem toList_normalize (path : String) :
    (normalize path).toList =
      dropFinalSlashes (dropHere (path.toList.map fun c => if c = '\\' then '/' else c)) := by
  simp [normalize]

theorem backslash_notMem_normalize (path : String) : '\\' ∉ (normalize path).toList := by
  intro h
  rw [toList_normalize] at h
  have h := (dropHere_suffix _).subset ((dropFinalSlashes_isPrefix _).subset h)
  obtain ⟨c, -, hc⟩ := List.mem_map.mp h
  split at hc <;> simp_all

/-- What a path in project form looks like. -/
structure IsProjectForm (path : String) : Prop where
  no_backslash : '\\' ∉ path.toList
  no_here : hasStart path "./" = false
  no_final_slash : hasEnd path "/" = false

/-- Cutting slashes off the end brings no `./` to the front. -/
theorem isProjectForm_normalize (path : String) : IsProjectForm (normalize path) where
  no_backslash := backslash_notMem_normalize path
  no_here := by
    rw [hasStart, Bool.eq_false_iff, Ne, List.isPrefixOf_iff_prefix, toList_normalize]
    intro h
    exact not_here_prefix_dropHere _ (h.trans (dropFinalSlashes_isPrefix _))
  no_final_slash := by
    rw [hasEnd, Bool.eq_false_iff, Ne, List.isSuffixOf_iff_suffix, toList_normalize]
    exact not_slash_suffix_dropFinalSlashes _

/-- Nothing is left to do for a path in project form. -/
theorem IsProjectForm.normalize_eq {path : String} (h : IsProjectForm path) :
    normalize path = path := by
  have hfront : ¬ ['.', '/'] <+: path.toList := by
    rw [← List.isPrefixOf_iff_prefix]
    exact Bool.eq_false_iff.mp h.no_here
  have hend : ¬ ['/'] <:+ path.toList := by
    rw [← List.isSuffixOf_iff_suffix]
    exact Bool.eq_false_iff.mp h.no_final_slash
  rw [normalize, map_forward_eq_self h.no_backslash, dropHere_eq_self hfront,
    dropFinalSlashes_eq_self hend, String.ofList_toList]

@[simp] theorem normalize_normalize (path : String) :
    normalize (normalize path) = normalize path :=
  (isProjectForm_normalize path).normalize_eq

/-! ## Segments -/

/-- The segments that lead somewhere. -/
def names (path : String) : List String :=
  (segments path).filter (!isIdle ·)

/-- Every segment is a name that an entry can have. -/
def IsPlain (path : String) : Prop :=
  ∀ s ∈ segments path, isIdle s = false ∧ s ≠ ".."

instance (path : String) : Decidable (IsPlain path) :=
  inferInstanceAs (Decidable (∀ s ∈ segments path, isIdle s = false ∧ s ≠ ".."))

theorem segments_ne_nil (path : String) : segments path ≠ [] := by
  simp [segments, pieces, Text.splitOn, Text.splitFrom_ne_nil]

/-- A path is known by its segments. -/
theorem segments_injective : Function.Injective segments := by
  intro a b h
  have hpieces : Text.splitOn ['/'] a.toList = Text.splitOn ['/'] b.toList :=
    List.map_injective_iff.mpr (fun _ _ => String.ofList_injective) h
  apply String.toList_inj.mp
  rw [← Text.joinWith_splitOn (w := ['/']) (by simp) a.toList, hpieces,
    Text.joinWith_splitOn (by simp)]

/-- A character of a path is in one of its segments or between them. -/
theorem mem_segment_of_mem {c : Char} {path : String} (h : c ∈ path.toList) (hc : c ≠ '/') :
    ∃ s ∈ segments path, c ∈ s.toList := by
  rw [← Text.joinWith_splitOn (w := ['/']) (by simp) path.toList] at h
  obtain hw | ⟨p, hp, hmem⟩ := Text.mem_joinWith h
  · exact absurd (List.mem_singleton.mp hw) hc
  · exact ⟨String.ofList p, List.mem_map_of_mem hp, by simpa using hmem⟩

theorem segments_slash (a b : String) : segments (a ++ "/" ++ b) = segments a ++ segments b := by
  simp [segments, pieces, Text.splitOn_append_cons]

theorem names_slash (a b : String) : names (a ++ "/" ++ b) = names a ++ names b := by
  simp [names, segments_slash]

@[simp] theorem names_empty : names "" = [] := by decide

theorem IsPlain.names_eq {path : String} (h : IsPlain path) : names path = segments path :=
  List.filter_eq_self.mpr fun s hs => by simp [(h s hs).1]

theorem IsPlain.ne_empty {path : String} (h : IsPlain path) : path ≠ "" := by
  rintro rfl
  revert h
  decide

theorem exists_of_hasStart_slash {s : String} (h : hasStart s "/" = true) :
    ∃ t, s = "" ++ "/" ++ t := by
  obtain ⟨t, ht⟩ := List.isPrefixOf_iff_prefix.mp h
  refine ⟨String.ofList t, String.toList_inj.mp ?_⟩
  simpa using ht.symm

theorem exists_of_hasEnd_slash {s : String} (h : hasEnd s "/" = true) : ∃ t, s = t ++ "/" := by
  obtain ⟨t, ht⟩ := List.isSuffixOf_iff_suffix.mp h
  refine ⟨String.ofList t, String.toList_inj.mp ?_⟩
  simpa using ht.symm

/-- An absolute path has an empty segment in front. -/
theorem IsPlain.not_isAbsolute {path : String} (h : IsPlain path) : isAbsolute path = false := by
  rw [Bool.eq_false_iff]
  intro ha
  obtain ⟨t, rfl⟩ := exists_of_hasStart_slash ha
  have hmem : "" ∈ segments ("" ++ "/" ++ t) := by
    rw [segments_slash]
    exact List.mem_append_left _ (by decide)
  exact absurd (h "" hmem).1 (by decide)

/-! ## Joining -/

theorem names_join (base : String) {path : String} (h : IsPlain path) :
    names (join base path) = names base ++ segments path := by
  rw [← h.names_eq]
  unfold join
  by_cases hb : base = ""
  · simp [hb]
  · rw [if_neg (by simp [h.not_isAbsolute, hb])]
    split
    next he =>
      obtain ⟨t, rfl⟩ := exists_of_hasEnd_slash he
      have ht : names (t ++ "/") = names t := by simpa using names_slash t ""
      rw [names_slash, ht]
    next => exact names_slash base path

theorem join_ne_empty (base : String) {path : String} (h : IsPlain path) :
    join base path ≠ "" := by
  unfold join
  split
  · exact h.ne_empty
  · split <;> simp [h.ne_empty]

theorem isAbsolute_join (base : String) {path : String} (h : IsPlain path) :
    isAbsolute (join base path) = isAbsolute base := by
  unfold join
  by_cases hb : base = ""
  · rw [if_pos (by simp [hb]), h.not_isAbsolute, hb]
    rfl
  · obtain ⟨c, s, hs⟩ := List.exists_cons_of_ne_nil (mt String.toList_eq_nil_iff.mp hb)
    rw [if_neg (by simp [h.not_isAbsolute, hb])]
    split <;> simp [isAbsolute, hasStart, hs, List.isPrefixOf]

end Path

end Codemod
