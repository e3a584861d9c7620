import Codemod.Markup.Printer
import Codemod.Markup.Reference
import Mathlib.Data.List.Infix

/-!
# Names that are read whatever follows

A name that no other name begins with is read as soon as it is complete. Characters that are never
written as they are, are written with such names.

## Main definitions

* `Reference.Stands` — a name of a table that no other name of it begins with.

## Main results

* `Reference.named_of_stands` — what is read where such a name stands.
* `Reference.read_of_escaped` — characters that are written by name.
-/

namespace Codemod.Markup.Reference

/-- The entry is the longest one that its name begins with, and no other name begins with its. -/
structure Stands (entries : List Entry) (e : Entry) : Prop where
  longest : longestOf entries e.name = some e
  alone : ∀ other ∈ entries, e.name.isPrefixOf other.name → other.name = e.name

instance (entries : List Entry) (e : Entry) : Decidable (Stands entries e) :=
  decidable_of_iff (longestOf entries e.name = some e ∧
      ∀ other ∈ entries, e.name.isPrefixOf other.name → other.name = e.name)
    ⟨fun h => ⟨h.1, h.2⟩, fun h => ⟨h.longest, h.alone⟩⟩

variable {entries : List Entry} {e : Entry}

/-- What follows the name adds no names that the text begins with. -/
theorem Stands.isPrefixOf_append (h : Stands entries e) (rest : List Char) {other : Entry}
    (hother : other ∈ entries) :
    other.name.isPrefixOf (e.name ++ rest) = other.name.isPrefixOf e.name := by
  rw [Bool.eq_iff_iff, List.isPrefixOf_iff_prefix, List.isPrefixOf_iff_prefix]
  constructor
  · intro hprefix
    obtain hshort | hlong :=
      List.prefix_or_prefix_of_prefix hprefix (List.prefix_append e.name rest)
    · exact hshort
    · rw [h.alone other hother (List.isPrefixOf_iff_prefix.mpr hlong)]
  · exact fun hprefix => hprefix.trans (List.prefix_append _ _)

theorem Stands.longestOf_append (h : Stands entries e) (rest : List Char) :
    longestOf entries (e.name ++ rest) = some e := by
  rw [← h.longest, longestOf, longestOf]
  refine List.foldl_ext _ _ _ fun best other hother => ?_
  rw [h.isPrefixOf_append rest hother]

/-- A name that ends with a semicolon is read, and nothing after it. -/
theorem named_of_stands {c : Char} {name : List Char} (h : Stands (names c) e)
    (hname : e.name = c :: name) (hend : e.name.getLast? = some ';') (inAttribute : Bool)
    (rest : List Char) : named inAttribute (e.name ++ rest) = some (e.value, e.name.length) := by
  have hlongest : longest? (e.name ++ rest) = some e := by
    have happend := h.longestOf_append rest
    rw [hname] at happend ⊢
    exact happend
  rw [named, hlongest]
  simp [hend]

/-! ## Characters that are written by name -/

/-- What is not written as it is, is written with a name that stands. -/
theorem exists_stands_of_escaped {c : Char} (h : escapeValueChar c ≠ [c]) :
    ∃ letter name, escapeValueChar c = '&' :: letter :: name ∧
      (letter :: name).getLast? = some ';' ∧ Stands (names letter) ⟨letter :: name, [c]⟩ := by
  have hescaped : c = '&' ∨ c = '\u00a0' ∨ c = '\x22' := by
    by_contra hnone
    push Not at hnone
    exact h (by rw [escapeValueChar, if_neg hnone.1, if_neg hnone.2.1, if_neg hnone.2.2])
  obtain rfl | rfl | rfl := hescaped
  on_goal 1 => refine ⟨'a', ['m', 'p', ';'], rfl, rfl, ?_⟩
  on_goal 2 => refine ⟨'n', ['b', 's', 'p', ';'], rfl, rfl, ?_⟩
  on_goal 3 => refine ⟨'q', ['u', 'o', 't', ';'], rfl, rfl, ?_⟩
  all_goals
    simp only [names, nameTable, List.flatMap_cons, List.flatMap_nil]
    -- The kernel reads a list of characters much faster than a text.
    repeat rw [String.toList_ofList]
    decide +kernel

/-- A character that is written by name is read as itself. -/
theorem read_of_escaped {c : Char} (h : escapeValueChar c ≠ [c]) (inAttribute : Bool)
    (rest : List Char) :
    ∃ text, escapeValueChar c = '&' :: text ∧
      read inAttribute (text ++ rest) = some ([c], text.length) := by
  obtain ⟨letter, name, hwritten, hend, hstands⟩ := exists_stands_of_escaped h
  refine ⟨letter :: name, hwritten, ?_⟩
  have hletter : letter ≠ '#' := by
    rintro rfl
    exact absurd hstands.longest (by simp [names, nameTable, longestOf])
  rw [read]
  · exact named_of_stands hstands rfl hend inAttribute rest
  all_goals (intro tail heq; exact hletter (List.cons.inj heq).1)

end Codemod.Markup.Reference
