import Codemod.Proofs.Path
import Codemod.Text.Indent

/-!
# Detecting indentation

Steps are counted, and one of them wins. Of two counted steps one always wins over the other, so
that the winner is the same in whatever order they are gone through. If a line is indented at all
there is a step, since the first indented line has none before it.

Lines that are indented by so many units each, and from one to the next by one unit more or less at
most, have no steps but that unit. It is then the unit that is detected.

## Main definitions

* `Indent.levelSteps` — the steps between lines, by their levels.
* `Indent.IsWinner` — an entry that wins over all others.
* `Indent.leader` — the winner of counted steps, gone through one after the other.

## Main results

* `Indent.stepsFrom_line` — one more line.
* `Indent.steps_eq_nil` — texts without steps.
* `Indent.isFoundIn_leader`, `Indent.isFoundIn_best` — two ways to find the winner.
* `Indent.detect_of_steps` — a text all of whose steps are the same.
* `Indent.detect_in_any_order` — what is detected.
-/

namespace Codemod

namespace Text

theorem mem_dropWhile {p : Char → Bool} {c : Char} {s : List Char} (hc : c ∈ s) (hp : p c = false) :
    c ∈ s.dropWhile p := by
  induction s with
  | nil => cases hc
  | cons d s ih =>
    rw [List.dropWhile_cons]
    split
    next hd =>
      rcases List.mem_cons.mp hc with rfl | hc
      · simp [hp] at hd
      · exact ih hc
    next => exact hc

/-- A line with a character on it that is not blank is not a blank line. -/
theorem trim_isEmpty {c : Char} {s : List Char} (hc : c ∈ s) (hp : isBlank c = false) :
    (trim s).isEmpty = false := by
  have hmem : c ∈ trim s := by
    rw [trim, trimEnd, List.mem_reverse]
    exact mem_dropWhile (List.mem_reverse.mpr (mem_dropWhile hc hp)) hp
  rw [List.isEmpty_eq_false_iff]
  exact List.ne_nil_of_mem hmem

end Text

namespace Indent

/-- So many units. -/
def times (u : Indent) (level : Nat) : Indent :=
  { u with width := level * u.width }

/-- What is remembered of a line at a level. -/
def memory (u : Indent) (level : Nat) : Option Indent :=
  if level = 0 then none else some (u.times level)

/-- The steps between lines at the given levels, the first of them after a line at level `a`. -/
def levelSteps (u : Indent) : (a : Nat) → List Nat → List Indent
  | _, [] => []
  | a, k :: ks => (if k = 0 ∨ k = a then [] else [u]) ++ levelSteps u k ks

theorem eq_of_mem_levelSteps {u i : Indent} {a : Nat} {ks : List Nat}
    (h : i ∈ levelSteps u a ks) : i = u := by
  induction ks generalizing a with
  | nil => cases h
  | cons k ks ih =>
    rw [levelSteps, List.mem_append] at h
    rcases h with h | h
    · split at h
      · cases h
      · exact List.mem_singleton.mp h
    · exact ih h

/-! ## Lines -/

section Line

variable (u : Indent)

theorem chars_times (level : Nat) :
    (u.times level).chars = (List.replicate level u.chars).flatten := by
  rw [chars, chars, List.flatten_replicate_replicate]
  rfl

theorem isBlank_of_mem_chars {c : Char} (h : c ∈ u.chars) : c = ' ' ∨ c = '\t' := by
  have hc := List.eq_of_mem_replicate h
  split at hc
  · exact .inr hc
  · exact .inl hc

/-- The indentation of a line. -/
theorem ofLine_chars {c : Char} (hc : Text.isBlank c = false) (s : List Char) :
    ofLine (u.chars ++ c :: s) = if u.width = 0 then ⟨false, 0⟩ else u := by
  have hspace : (c == ' ' || c == '\t') = false := by
    rw [Bool.or_eq_false_iff, beq_eq_false_iff_ne, beq_eq_false_iff_ne]
    constructor <;> (rintro rfl; simp [Text.isBlank] at hc)
  have htake : (u.chars ++ c :: s).takeWhile (fun c => c == ' ' || c == '\t') = u.chars := by
    rw [List.takeWhile_append_of_pos, List.takeWhile_cons_of_neg (by simp [hspace]),
      List.append_nil]
    intro d hd
    rcases u.isBlank_of_mem_chars hd with rfl | rfl <;> rfl
  have htab : c ≠ '\t' := by
    rintro rfl
    simp at hspace
  rw [ofLine, htake]
  obtain ⟨tabs, _ | width⟩ := u
  · simp [chars, htab]
  · cases tabs <;> simp [chars, List.replicate_succ]

theorem times_one : u.times 1 = u := by
  rw [times, Nat.one_mul]

variable {u}

/-- A line at a level next to that of the line before. -/
theorem stepsFrom_line (hu : 0 < u.width) {a k : Nat} (up : k ≤ a + 1) (down : a ≤ k + 1) {c : Char}
    (hc : Text.isBlank c = false) (s : List Char) (rest : List (List Char)) :
    stepsFrom (u.memory a) (((u.times k).chars ++ c :: s) :: rest) =
      (if k = 0 ∨ k = a then [] else [u]) ++ stepsFrom (u.memory k) rest := by
  have hfull : (Text.trim ((u.times k).chars ++ c :: s)).isEmpty = false :=
    Text.trim_isEmpty (by simp) hc
  rw [stepsFrom, if_neg (by simp [hfull]), ofLine_chars _ hc]
  by_cases hk : k = 0
  · subst hk
    simp [times, memory]
  have hwidth : (u.times k).width ≠ 0 := Nat.mul_ne_zero hk (by omega)
  have hmemory : u.memory k = some (u.times k) := if_neg hk
  simp only [if_neg hwidth, hmemory]
  have hstep : (step (u.memory a) (u.times k)) =
      if k = a then u.times 0 else u := by
    by_cases ha : a = 0
    · obtain rfl : k = 1 := by omega
      rw [if_neg (by omega), memory, if_pos ha, times_one]
      rfl
    · rw [memory, if_neg ha, step, if_pos (show (u.times a).tabs = (u.times k).tabs from rfl)]
      rcases Nat.lt_trichotomy k a with h | rfl | h
      · obtain rfl : a = k + 1 := by omega
        simp [times, Nat.add_mul]
      · simp [times]
      · obtain rfl : k = a + 1 := by omega
        simp [times, Nat.add_mul]
  rw [hstep]
  by_cases h : k = a
  · simp [h, times]
  · simp [h, hk, Nat.ne_of_gt hu]

end Line

/-! ## The steps of a text -/

/-- A line that is not blank and begins with a space or a tab. -/
def IsIndented (line : List Char) : Prop :=
  Text.trim line ≠ [] ∧ (line.head? = some ' ' ∨ line.head? = some '\t')

theorem width_ofLine_eq_zero {line : List Char} :
    (ofLine line).width = 0 ↔ line.head? ≠ some ' ' ∧ line.head? ≠ some '\t' := by
  cases line with
  | nil => simp [ofLine]
  | cons c line => by_cases hs : c = ' ' <;> by_cases ht : c = '\t' <;> simp [ofLine, hs, ht]

theorem pos_of_mem_stepsFrom {previous : Option Indent} {lines : List (List Char)} {i : Indent}
    (h : i ∈ stepsFrom previous lines) : 0 < i.width := by
  fun_induction stepsFrom previous lines with
  | case1 => cases h
  | case2 previous line rest hblank ih => exact ih h
  | case3 previous line rest hblank current hwidth ih => exact ih h
  | case4 previous line rest hblank current hwidth s hs ih => exact ih h
  | case5 previous line rest hblank current hwidth s hs ih =>
    rcases List.mem_cons.mp h with rfl | h
    · exact Nat.pos_of_ne_zero hs
    · exact ih h

/-- The first indented line has nothing before it to compare it with, so that it is a step as a
whole. -/
theorem stepsFrom_none_eq_nil {lines : List (List Char)} :
    stepsFrom none lines = [] ↔ ∀ line ∈ lines, ¬ IsIndented line := by
  induction lines with
  | nil => simp [stepsFrom]
  | cons line rest ih =>
    rw [List.forall_mem_cons, stepsFrom, IsIndented]
    by_cases hblank : Text.trim line = []
    · simp [hblank, ih]
    by_cases hwidth : (ofLine line).width = 0
    · obtain ⟨hspace, htab⟩ := width_ofLine_eq_zero.mp hwidth
      simp [hblank, hwidth, hspace, htab, ih]
    · have hindented : line.head? = some ' ' ∨ line.head? = some '\t' := by
        rw [width_ofLine_eq_zero, not_and_or, not_not, not_not] at hwidth
        exact hwidth
      simp [hblank, hwidth, step, hindented]

theorem steps_eq_nil {src : List Char} :
    steps src = [] ↔ ∀ line ∈ Text.splitOn ['\n'] src, ¬ IsIndented line :=
  stepsFrom_none_eq_nil

/-! ## The winner -/

/-- A counted step wins over another one. -/
def Wins (a b : Indent × Nat) : Prop :=
  beats a.2 a.1 b.2 b.1 = true

theorem wins_iff {a b : Indent × Nat} :
    Wins a b ↔ b.2 < a.2 ∨ b.2 = a.2 ∧
      (a.1.width < b.1.width ∨ a.1.width = b.1.width ∧ a.1.tabs = false ∧ b.1.tabs = true) := by
  simp [Wins, beats]

theorem Wins.trans {a b c : Indent × Nat} (hab : Wins a b) (hbc : Wins b c) : Wins a c := by
  rw [wins_iff] at hab hbc ⊢
  grind

theorem Wins.asymm {a b : Indent × Nat} (hab : Wins a b) : ¬ Wins b a := by
  rw [wins_iff] at hab ⊢
  grind

/-- Of two counted steps one wins. -/
theorem wins_or_wins {a b : Indent × Nat} (h : a ≠ b) : Wins a b ∨ Wins b a := by
  obtain ⟨⟨s, v⟩, m⟩ := a
  obtain ⟨⟨t, w⟩, n⟩ := b
  simp only [wins_iff]
  cases s <;> cases t <;> grind

/-- An entry of the list that wins over all others. -/
structure IsWinner (entries : List (Indent × Nat)) (e : Indent × Nat) : Prop where
  mem : e ∈ entries
  wins : ∀ d ∈ entries, d ≠ e → Wins e d

theorem IsWinner.unique {entries : List (Indent × Nat)} {d e : Indent × Nat}
    (hd : IsWinner entries d) (he : IsWinner entries e) : d = e := by
  by_contra h
  exact (hd.wins e he.mem (Ne.symm h)).asymm (he.wins d hd.mem h)

theorem isWinner_congr {entries entries' : List (Indent × Nat)}
    (h : ∀ d, d ∈ entries ↔ d ∈ entries') (e : Indent × Nat) :
    IsWinner entries e ↔ IsWinner entries' e := by
  constructor
  · rintro ⟨hmem, hwins⟩
    exact ⟨(h e).mp hmem, fun d hd => hwins d ((h d).mpr hd)⟩
  · rintro ⟨hmem, hwins⟩
    exact ⟨(h e).mpr hmem, fun d hd => hwins d ((h d).mp hd)⟩

/-- One more entry that wins over the winner. -/
theorem IsWinner.cons_of_wins {entries : List (Indent × Nat)} {d e : Indent × Nat}
    (he : IsWinner entries e) (hde : Wins d e) : IsWinner (d :: entries) d := by
  refine ⟨List.mem_cons_self, fun c hc hne => ?_⟩
  rcases List.mem_cons.mp hc with rfl | hc
  · exact absurd rfl hne
  · by_cases hce : c = e
    · exact hce ▸ hde
    · exact hde.trans (he.wins c hc hce)

/-- One more entry that does not win over the winner. -/
theorem IsWinner.cons_of_not_wins {entries : List (Indent × Nat)} {d e : Indent × Nat}
    (he : IsWinner entries e) (hde : ¬ Wins d e) : IsWinner (d :: entries) e := by
  refine ⟨List.mem_cons_of_mem d he.mem, fun c hc hne => ?_⟩
  rcases List.mem_cons.mp hc with rfl | hc
  · exact (wins_or_wins hne).resolve_left hde
  · exact he.wins c hc hne

/-- What is found among entries is the winner, and nothing only if there are none. -/
def IsFoundIn (entries : List (Indent × Nat)) : Option (Indent × Nat) → Prop
  | none => entries = []
  | some e => IsWinner entries e

theorem IsFoundIn.eq_some_iff {entries : List (Indent × Nat)} {found : Option (Indent × Nat)}
    (h : IsFoundIn entries found) (e : Indent × Nat) : found = some e ↔ IsWinner entries e := by
  constructor
  · rintro rfl
    exact h
  · intro he
    cases found with
    | none => exact absurd (h ▸ he.mem) List.not_mem_nil
    | some d => rw [IsWinner.unique h he]

/-- Which order the entries are in, and how often each of them occurs, does not matter. -/
theorem IsFoundIn.eq_of_same {entries entries' : List (Indent × Nat)}
    {found found' : Option (Indent × Nat)} (h : IsFoundIn entries found)
    (h' : IsFoundIn entries' found') (hsame : ∀ d, d ∈ entries ↔ d ∈ entries') :
    found = found' :=
  Option.ext fun e => (h.eq_some_iff e).trans
    ((isWinner_congr hsame e).trans (h'.eq_some_iff e).symm)

/-! ## Counted steps -/

/-- A step with how often it is among the steps of a text. -/
def counted (all : List Indent) (i : Indent) : Indent × Nat :=
  (i, all.count i)

/-- The steps of a text, each of them once, counted. -/
def tally (all : List Indent) : List (Indent × Nat) :=
  all.eraseDups.map (counted all)

/-- Of an entry and the one that is held on to, the one that wins; if neither does, the entry. -/
def hold (held : Option (Indent × Nat)) (e : Indent × Nat) : Option (Indent × Nat) :=
  match held with
  | none => some e
  | some h => if beats h.2 h.1 e.2 e.1 then some h else some e

/-- What is held on to after going through counted steps one after the other. -/
def leader (entries : List (Indent × Nat)) : Option (Indent × Nat) :=
  entries.foldl hold none

theorem isFoundIn_leader (entries : List (Indent × Nat)) :
    IsFoundIn entries (leader entries) := by
  -- the entry that is looked at last is the last of the list
  induction entries using List.reverseRecOn with
  | nil => rfl
  | append_singleton entries e ih =>
    have hlast : leader (entries ++ [e]) = hold (leader entries) e := by simp [leader]
    have hsame : ∀ d, d ∈ e :: entries ↔ d ∈ entries ++ [e] := by simp [or_comm]
    rw [hlast]
    cases hheld : leader entries with
    | none =>
      obtain rfl : entries = [] := by simpa [hheld, IsFoundIn] using ih
      exact ⟨List.mem_singleton_self e, fun d hd hne => absurd (List.mem_singleton.mp hd) hne⟩
    | some h =>
      have hh : IsWinner entries h := by simpa [hheld, IsFoundIn] using ih
      rw [hold]
      split
      next hwins =>
        exact (isWinner_congr hsame h).mp (hh.cons_of_not_wins (Wins.asymm hwins))
      next hloses =>
        refine (isWinner_congr hsame e).mp ?_
        by_cases heq : e = h
        · exact heq ▸ hh.cons_of_not_wins fun hwins => hloses (heq ▸ hwins)
        · exact hh.cons_of_wins ((wins_or_wins heq).resolve_right hloses)

theorem isFoundIn_best (all l : List Indent) :
    IsFoundIn (l.map (counted all)) ((best all l).map (counted all)) := by
  induction l with
  | nil => rfl
  | cons i rest ih =>
    rw [best, List.map_cons]
    cases hbest : best all rest with
    | none =>
      obtain rfl : rest = [] := by simpa [hbest, IsFoundIn] using ih
      exact ⟨List.mem_singleton_self _, fun d hd hne => absurd (List.mem_singleton.mp hd) hne⟩
    | some j =>
      have hj : IsWinner (rest.map (counted all)) (counted all j) := by
        simpa [hbest, IsFoundIn] using ih
      dsimp only
      split
      next hwins => exact hj.cons_of_wins hwins
      next hloses => exact hj.cons_of_not_wins hloses

theorem isWinner_counted {all l : List Indent} {u : Indent} :
    IsWinner (l.map (counted all)) (counted all u) ↔
      u ∈ l ∧ ∀ v ∈ l, v ≠ u → Wins (counted all u) (counted all v) := by
  have hinjective : Function.Injective (counted all) := fun _ _ h => congrArg Prod.fst h
  constructor
  · rintro ⟨hmem, hwins⟩
    refine ⟨(List.mem_map_of_injective hinjective).mp hmem, fun v hv hne => ?_⟩
    exact hwins _ (List.mem_map_of_mem hv) (hinjective.ne hne)
  · rintro ⟨hmem, hwins⟩
    refine ⟨List.mem_map_of_mem hmem, List.forall_mem_map.mpr fun v hv hne => ?_⟩
    exact hwins v hv fun heq => hne (heq ▸ rfl)

theorem best_eq_some_iff {all l : List Indent} {u : Indent} :
    best all l = some u ↔ u ∈ l ∧ ∀ v ∈ l, v ≠ u → Wins (counted all u) (counted all v) := by
  rw [← isWinner_counted, ← (isFoundIn_best all l).eq_some_iff]
  cases best all l with
  | none => simp
  | some v =>
    rw [Option.map_some, Option.some_inj, Option.some_inj]
    exact ⟨fun h => congrArg (counted all) h, fun h => congrArg Prod.fst h⟩

theorem best_eq_none_iff {all l : List Indent} : best all l = none ↔ l = [] := by
  have hfound := isFoundIn_best all l
  cases hbest : best all l with
  | none => simpa [hbest, IsFoundIn] using hfound
  | some u =>
    have hmem := (best_eq_some_iff.mp hbest).1
    simp [List.ne_nil_of_mem hmem]

/-- Counted steps have the same winner in whatever order they are gone through. -/
theorem leader_of_perm {all : List Indent} {entries : List (Indent × Nat)}
    (h : entries.Perm (tally all)) : (leader entries).map (·.1) = best all all := by
  have hsame : ∀ d, d ∈ entries ↔ d ∈ all.map (counted all) := by
    intro d
    rw [h.mem_iff]
    simp [tally]
  rw [(isFoundIn_leader entries).eq_of_same (isFoundIn_best all all) hsame, Option.map_map]
  exact Option.map_id'

/-- If all steps are the same, that is the unit. -/
theorem detect_of_steps {u : Indent} {src : List Char} (h : ∀ i ∈ steps src, i = u)
    (hne : steps src ≠ []) : detect src = some u := by
  obtain ⟨i, hi⟩ := List.exists_mem_of_ne_nil _ hne
  exact best_eq_some_iff.mpr ⟨h i hi ▸ hi, fun v hv hvu => absurd (h v hv) hvu⟩

/-- The steps of a text, counted, may be gone through in any order: it is always the same one that
wins. There is none if and only if no line of the text is indented. Otherwise it is the one step
that occurs most often, among those the narrowest one, and among those the one made of spaces; and
it is a run of tabs or of spaces that is not empty. -/
theorem detect_in_any_order (src : List Char) :
    (∀ entries, entries.Perm (tally (steps src)) → (leader entries).map (·.1) = detect src) ∧
      (detect src = none ↔ ∀ line ∈ Text.splitOn ['\n'] src, ¬ IsIndented line) ∧
      (∀ u, detect src = some u ↔ u ∈ steps src ∧ ∀ v ∈ steps src, v ≠ u →
        (steps src).count v < (steps src).count u ∨
          (steps src).count v = (steps src).count u ∧
            (u.width < v.width ∨ u.width = v.width ∧ u.tabs = false ∧ v.tabs = true)) ∧
      ∀ u, detect src = some u → 0 < u.width ∧
        u.text.toList = List.replicate u.width (if u.tabs then '\t' else ' ') := by
  refine ⟨fun entries h => leader_of_perm h, ?_, fun u => ?_, fun u hu => ?_⟩
  · rw [← steps_eq_nil]
    exact best_eq_none_iff
  · have hbest : detect src = some u ↔ _ := best_eq_some_iff
    simp only [wins_iff, counted] at hbest
    exact hbest
  · refine ⟨pos_of_mem_stepsFrom (best_eq_some_iff.mp hu).1, ?_⟩
    rw [text, String.toList_ofList, chars]

/-- A step of a tab and one of a space occur once each, and a wider one as well. -/
theorem detect_in_any_order_tied :
    let src := " a\n\tb\n\n   c\r\n".toList
    let entries : List (Indent × Nat) := [(⟨true, 1⟩, 1), (⟨false, 3⟩, 1), (⟨false, 1⟩, 1)]
    entries.Perm (tally (steps src)) ∧ (leader entries).map (·.1) = some ⟨false, 1⟩ ∧
      detect src = some ⟨false, 1⟩ := by
  intro src entries
  have hperm : entries.Perm (tally (steps src)) := by decide
  have hdetect : detect src = some ⟨false, 1⟩ := by decide
  exact ⟨hperm, ((detect_in_any_order src).1 entries hperm).trans hdetect, hdetect⟩

end Indent

end Codemod
