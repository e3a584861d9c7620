import Codemod.Json.Value

/-!
# An object as a map

Looking a name up after a member was given a value, and where that member stands.
-/

namespace Codemod.Json

variable {k l : String} {v : Json} {members : List (String × Json)}

@[simp] theorem get?_insert_self (k : String) (v : Json) (members : List (String × Json)) :
    get? k (insert k v members) = some v := by
  fun_induction insert k v members <;> simp_all [get?]

@[simp] theorem get?_insert_of_ne (h : l ≠ k) (v : Json) (members : List (String × Json)) :
    get? l (insert k v members) = get? l members := by
  fun_induction insert k v members <;> grind [get?]

theorem get?_eq_none : get? k members = none ↔ k ∉ members.map Prod.fst := by
  fun_induction get? k members <;> grind

/-- To give a member the value that it has changes nothing. -/
theorem insert_of_get? (h : get? k members = some v) : insert k v members = members := by
  fun_induction insert k v members <;> grind [get?]

/-- A new member comes last. -/
theorem insert_of_notMem (v : Json) (h : k ∉ members.map Prod.fst) :
    insert k v members = members ++ [(k, v)] := by
  fun_induction insert k v members <;> grind

/-- A member that is there keeps its place among the others, whatever value it is given. -/
theorem exists_insert_eq {old : Json} (h : get? k members = some old) :
    ∃ before after, k ∉ before.map Prod.fst ∧ members = before ++ (k, old) :: after ∧
      ∀ v, insert k v members = before ++ (k, v) :: after := by
  induction members with
  | nil => cases h
  | cons m rest ih =>
    obtain ⟨l, w⟩ := m
    by_cases hl : l = k
    · subst hl
      obtain rfl : w = old := by simpa [get?] using h
      exact ⟨[], rest, by simp, rfl, fun v => by simp [insert]⟩
    · rw [get?, if_neg hl] at h
      obtain ⟨before, after, hnotMem, rfl, hinsert⟩ := ih h
      refine ⟨(l, w) :: before, after, by simp [Ne.symm hl, hnotMem], rfl, fun v => ?_⟩
      rw [insert, if_neg hl, hinsert v]
      rfl

end Codemod.Json
