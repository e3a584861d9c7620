/-!
# Text without line breaks

Most of what is written goes on one line. Of the text of a natural number more can be said without
knowing the number: it is made of digits, does not begin with a zero unless it is one, and the
number can be got back from it.

## Main definitions

* `Unbroken` — no character of a text ends a line.
-/

namespace Codemod.Text

def Unbroken (s : List Char) : Prop :=
  ∀ c ∈ s, c ≠ '\n' ∧ c ≠ '\r'

instance : DecidablePred Unbroken := fun s =>
  List.decidableBAll (fun c => c ≠ '\n' ∧ c ≠ '\r') s

section

variable {c : Char} {s t : List Char}

theorem unbroken_cons : Unbroken (c :: s) ↔ (c ≠ '\n' ∧ c ≠ '\r') ∧ Unbroken s :=
  List.forall_mem_cons

theorem unbroken_append : Unbroken (s ++ t) ↔ Unbroken s ∧ Unbroken t :=
  List.forall_mem_append

theorem Unbroken.newline_notMem (h : Unbroken s) : '\n' ∉ s := fun hmem =>
  (h _ hmem).1 rfl

theorem Unbroken.replicate_flatten (h : Unbroken s) (k : Nat) :
    Unbroken (List.replicate k s).flatten := by
  intro c hc
  simp only [List.mem_flatten, List.mem_replicate] at hc
  obtain ⟨_, ⟨-, rfl⟩, hc⟩ := hc
  exact h c hc

end

/-! ## Decimal digits -/

theorem isDigit_of_mem_toString {n : Nat} {c : Char} (h : c ∈ (toString n).toList) :
    c.isDigit = true := by
  rw [Nat.toString_eq_repr, Nat.toList_repr] at h
  exact Nat.isDigit_of_mem_toDigits (by decide) (by decide) h

theorem ofDigitChars_toString (n : Nat) : Nat.ofDigitChars 10 (toString n).toList 0 = n := by
  rw [Nat.toString_eq_repr, Nat.toList_repr, Nat.ofDigitChars_toDigits (by decide) (by decide)]

theorem unbroken_toString (n : Nat) : Unbroken (toString n).toList := by
  intro c hc
  have hdigit := isDigit_of_mem_toString hc
  constructor <;> (rintro rfl; simp at hdigit)

theorem digitChar_eq_zero : ∀ n < 10, Nat.digitChar n = '0' → n = 0 := by
  decide

/-- Only the number zero begins with a zero. -/
theorem exists_toString_eq_cons (n : Nat) :
    ∃ c s, (toString n).toList = c :: s ∧ (c = '0' → n = 0) := by
  rw [Nat.toString_eq_repr, Nat.toList_repr]
  induction n using Nat.strongRecOn with
  | ind n ih =>
    by_cases hn : n < 10
    · exact ⟨n.digitChar, [], Nat.toDigits_of_lt_base hn, digitChar_eq_zero n hn⟩
    · obtain ⟨c, s, hs, hc⟩ := ih (n / 10) (by omega)
      refine ⟨c, s ++ [(n % 10).digitChar], ?_, fun h => ?_⟩
      · rw [Nat.toDigits_of_base_le (by decide) (by omega), hs, List.cons_append]
      · have := hc h
        omega

end Codemod.Text
