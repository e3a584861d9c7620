import Codemod.Proofs.Json.Assignment
import Codemod.Proofs.Text.Unbroken
import Mathlib.Data.List.Induction

/-!
# Looking up what was assigned

A pointer leads an assignment and a lookup through the same tokens. Members are named alike, but of
the positions of an array a lookup takes only those that are spelled by their digits and nothing
else, while an assignment puts up with a plus sign and leading zeros. So a value is found again
where it was put if and only if all positions on the way are spelled canonically. A value that was
appended by the token for the place after the last item is not found by it, but it is the last item.

## Main definitions

* `Json.isCanonical` — the positions on the way are spelled by their digits.

## Main results

* `Pointer.canonicalIndex?_of_index` — which positions a lookup takes.
* `Json.follow_assign` — what a lookup finds after an assignment.
* `Json.lookup_finds_assigned` — pointers that are looked up after they were assigned to.
-/

namespace Codemod

/-! ## Positions -/

namespace Text

theorem digitChar_toNat {c : Char} (h : c.isDigit = true) :
    c.toNat - '0'.toNat < 10 ∧ (c.toNat - '0'.toNat).digitChar = c := by
  have hrange : 48 ≤ c.toNat ∧ c.toNat ≤ 57 := by
    simpa [Char.isDigit, UInt32.le_iff_toNat_le] using h
  obtain ⟨k, hk, hc⟩ : ∃ k < 10, c = Char.ofNat (48 + k) :=
    ⟨c.toNat - 48, by omega, by rw [Nat.add_sub_cancel' hrange.1, Char.ofNat_toNat]⟩
  have hall : ∀ k < 10, (Char.ofNat (48 + k)).toNat - '0'.toNat < 10 ∧
      ((Char.ofNat (48 + k)).toNat - '0'.toNat).digitChar = Char.ofNat (48 + k) := by
    decide
  exact hc ▸ hall k hk

/-- Digits that do not begin with a zero, unless there is no other, are those of a number. -/
theorem toDigits_ofDigitChars {c : Char} {s : List Char} (hs : ∀ d ∈ c :: s, d.isDigit = true)
    (hzero : c = '0' → s = []) : Nat.toDigits 10 (Nat.ofDigitChars 10 (c :: s) 0) = c :: s := by
  induction s using List.reverseRecOn with
  | nil =>
    obtain ⟨hlt, hchar⟩ := digitChar_toNat (hs c (by simp))
    rw [Nat.ofDigitChars_cons, Nat.mul_zero, Nat.zero_add]
    exact (Nat.toDigits_of_lt_base hlt).trans (by rw [hchar])
  | append_singleton s d ih =>
    have hc : c ≠ '0' := fun h => by simpa using hzero h
    have hdigits := ih (fun x hx => hs x (by grind)) (absurd · hc)
    obtain ⟨hlt, hchar⟩ := digitChar_toNat (hs d (by simp))
    set n := Nat.ofDigitChars 10 (c :: s) 0 with hn
    have hpos : n ≠ 0 := by
      intro h
      rw [h] at hdigits
      exact hc (List.cons.inj hdigits).1.symm
    have hvalue : Nat.ofDigitChars 10 (c :: (s ++ [d])) 0 = 10 * n + (d.toNat - '0'.toNat) := by
      rw [← List.cons_append, Nat.ofDigitChars_append, ← hn, Nat.ofDigitChars_cons]
      rfl
    rw [hvalue, Nat.toDigits_of_base_le (by decide) (by omega), Nat.mul_add_div (by decide),
      Nat.div_eq_of_lt hlt, Nat.add_zero, hdigits, Nat.mul_add_mod, Nat.mod_eq_of_lt hlt, hchar,
      List.cons_append]

end Text

namespace Pointer

theorem indexDigits_ok {n m : Nat} {s : List Char} (h : indexDigits n s = .ok m) :
    (∀ c ∈ s, c.isDigit = true) ∧ m = Nat.ofDigitChars 10 s n := by
  fun_induction indexDigits n s with
  | case1 => simp_all
  | case2 n c s hc n' hlt ih =>
    obtain ⟨hs, rfl⟩ := ih h
    refine ⟨List.forall_mem_cons.mpr ⟨?_, hs⟩, ?_⟩
    · simpa [Char.isDigit, Char.le_def] using hc
    · rw [Nat.ofDigitChars_cons, Nat.mul_comm 10]
  | case3 => cases h
  | case4 => cases h

/-- Of the spellings of a position, a lookup takes the one by its digits. -/
theorem canonicalIndex?_of_index {t : String} {i : Nat} (h : index t = .ok i) :
    canonicalIndex? t = if t = toString i then some i else none := by
  rcases ht : t.toList with _ | ⟨c, s⟩
  · simp [index, ht] at h
  by_cases hsign : c = '+'
  · have hne : t ≠ toString i := by
      rintro rfl
      have hdigit := Text.isDigit_of_mem_toString (n := i) (c := c) (by rw [ht]; simp)
      simp [hsign] at hdigit
    rw [if_neg hne]
    simp [canonicalIndex?, ht, hsign]
  · have hindex : indexDigits 0 (c :: s) = .ok i := by
      unfold index at h
      grind
    obtain ⟨hdigits, hvalue⟩ := indexDigits_ok hindex
    by_cases hpadded : c = '0' ∧ s ≠ []
    · have hne : t ≠ toString i := by
        rintro rfl
        obtain ⟨d, s', hs', hzero⟩ := Text.exists_toString_eq_cons i
        obtain ⟨rfl, rfl⟩ : c = d ∧ s = s' := by simpa using ht.symm.trans hs'
        obtain rfl : i = 0 := hzero hpadded.1
        exact hpadded.2 (List.cons.inj ht).2.symm
      obtain ⟨d, s, rfl⟩ := List.exists_cons_of_ne_nil hpadded.2
      rw [if_neg hne]
      simp [canonicalIndex?, ht, hpadded.1]
    · have heq : t = toString i := by
        apply String.toList_inj.mp
        rw [ht, hvalue, Nat.toString_eq_repr, Nat.toList_repr,
          Text.toDigits_ofDigitChars hdigits (by simpa using hpadded)]
      rw [if_pos heq]
      unfold canonicalIndex?
      grind [Except.toOption]

end Pointer

namespace Json

/-! ## One step -/

/-- The positions that the tokens name, from a value on, are spelled by their digits. -/
def isCanonical : List String → Json → Bool
  | [], _ => true
  | t :: ts, obj members => isCanonical ts ((get? t members).getD (obj []))
  | t :: ts, arr items =>
    match Pointer.index t with
    | .ok i => t = toString i && isCanonical ts (items[i]?.getD (obj []))
    | .error _ => false
  | _ :: _, _ => true

section Positions

variable {t : String} {i : Nat} (ht : Pointer.index t = .ok i) (items : List Json)
  (ts : List String)

include ht

theorem isCanonical_arr : isCanonical (t :: ts) (arr items) =
    (decide (t = toString i) && isCanonical ts (items[i]?.getD (obj []))) := by
  rw [isCanonical, ht]

theorem follow_arr : (arr items).follow (t :: ts) =
    if t = toString i then items[i]?.bind (·.follow ts) else none := by
  rw [follow, Pointer.canonicalIndex?_of_index ht]
  by_cases hspelled : t = toString i
  · rw [if_pos hspelled, if_pos hspelled]
    cases h : items[i]? <;> simp [h]
  · rw [if_neg hspelled, if_neg hspelled]
    rfl

end Positions

namespace Names

variable {t : String} {d : Json} {s : Step} {put : Json → Json}

theorem isCanonical_cons (h : Names t d s put) (ts : List String) :
    isCanonical (t :: ts) d =
      (isCanonical [t] d && isCanonical ts ((d.down? s).getD (obj []))) := by
  cases h with
  | member members => simp [isCanonical, down?]
  | item ht hi => simp [isCanonical, down?, ht]
  | append ht =>
    obtain rfl | ht := ht
    · rfl
    · simp [isCanonical, down?, ht]

/-- Through a token whose position is spelled otherwise nothing is found. -/
theorem follow_put (h : Names t d s put) (v : Json) (ts : List String) :
    (put v).follow (t :: ts) = if isCanonical [t] d then v.follow ts else none := by
  cases h with
  | member members => simp [follow, isCanonical]
  | item ht hi =>
    dsimp only
    rw [follow_arr ht, isCanonical_arr ht, List.getElem?_set_self hi]
    simp [isCanonical]
  | append ht =>
    obtain rfl | ht := ht
    · rfl
    · dsimp only
      rw [follow_arr ht, isCanonical_arr ht, List.getElem?_concat_length]
      simp [isCanonical]

end Names

/-! ## Whole pointers -/

/-- After an assignment its tokens lead to the value, unless a position is not spelled by its
digits. -/
theorem follow_assign {value d r : Json} {ts : List String}
    (h : assign value ts d = (.ok (), r)) :
    r.follow ts = if isCanonical ts d then some value else none := by
  induction ts generalizing d r with
  | nil =>
    obtain rfl : value = r := congrArg Prod.snd h
    rfl
  | cons t ts ih =>
    obtain ⟨s, put, next, hnames, hnext, rfl⟩ := assign_cons_ok h
    rw [hnames.follow_put, hnames.isCanonical_cons ts, ih hnext]
    cases isCanonical [t] d <;> rfl

/-- What tokens lead to, from the child that the first of them names. -/
theorem Names.follow_cons {t : String} {d v w : Json} {s : Step} {put : Json → Json}
    {ts : List String} (h : Names t d s put) (hw : d.follow (t :: ts) = some w)
    (hv : (d.down? s).getD (obj []) = v) : isCanonical [t] d = true ∧ v.follow ts = some w := by
  subst hv
  cases h with
  | member members =>
    cases hget : get? t members <;> simp_all [follow, isCanonical, down?]
  | item ht hi =>
    rw [follow_arr ht] at hw
    rw [isCanonical_arr ht]
    split at hw <;> simp_all [isCanonical, down?]
  | append ht =>
    obtain rfl | ht := ht
    · cases hw
    · rw [follow_arr ht] at hw
      simp at hw

/-- What is appended by the token for the end of an array is the last item of that array. -/
theorem follow_assign_append {value d r : Json} {parents : List String} {items : List Json}
    (h : assign value (parents ++ ["-"]) d = (.ok (), r))
    (hitems : d.follow parents = some (arr items)) :
    r.follow parents = some (arr (items ++ [value])) := by
  induction parents generalizing d r with
  | nil =>
    obtain rfl : d = arr items := Option.some.inj hitems
    obtain rfl : arr (items ++ [value]) = r := congrArg Prod.snd h
    rfl
  | cons t parents ih =>
    obtain ⟨s, put, next, hnames, hnext, rfl⟩ := assign_cons_ok h
    obtain ⟨hcanonical, hbelow⟩ := hnames.follow_cons hitems rfl
    rw [hnames.follow_put, hcanonical, if_pos rfl]
    exact ih hnext hbelow

/-- A value that was assigned is what a lookup of the same pointer finds if all positions on the way
are spelled by their digits, and otherwise a lookup finds nothing. That is so also for the token
that stands for the end of an array: the value that it has appended is the last item of the array,
after all items that were there. -/
theorem lookup_finds_assigned {d r value : Json} {p : String}
    (h : d.setInPlace p value = (.ok (), r)) :
    ∃ ts, Pointer.tokens p = some ts ∧
      (r.lookup p = if isCanonical ts d then some value else none) ∧
      ∀ parents items, ts = parents ++ ["-"] → d.follow parents = some (arr items) →
        r.follow parents = some (arr (items ++ [value])) := by
  obtain ⟨ts, hts, hassign⟩ := assign_of_setInPlace h
  refine ⟨ts, hts, ?_, fun parents items hsplit hitems => ?_⟩
  · rw [lookup, hts]
    exact follow_assign hassign
  · subst hsplit
    exact follow_assign_append hassign hitems

/-- A member has a position for its name, and the array in it is appended to at a position. -/
theorem lookup_finds_assigned_numbered :
    ∃ r, (obj [("01", arr [null])]).setInPlace "/01/1" (bool true) = (.ok (), r) ∧
      r.lookup "/01/1" = some (bool true) := by
  have hset : (obj [("01", arr [null])]).setInPlace "/01/1" (bool true) =
      (.ok (), obj [("01", arr [null, bool true])]) := rfl
  obtain ⟨ts, hts, hlookup, -⟩ := lookup_finds_assigned hset
  obtain rfl : ["01", "1"] = ts := Option.some.inj hts
  exact ⟨_, hset, hlookup⟩

/-- Positions that an assignment takes and a lookup does not: the value is put into the array, and
is not found. -/
theorem lookup_misses_padded_position :
    (arr [null, null]).setInPlace "/01" (bool true) = (.ok (), arr [null, bool true]) ∧
      (arr [null, bool true]).lookup "/01" = none ∧
      (arr [null, null]).setInPlace "/+1" (bool true) = (.ok (), arr [null, bool true]) ∧
      (arr [null, bool true]).lookup "/+1" = none ∧
      (arr [null, bool true]).lookup "/1" = some (bool true) :=
  ⟨rfl, rfl, rfl, rfl, rfl⟩

end Json

end Codemod
