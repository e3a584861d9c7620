import Codemod.Proofs.Source.Edits
import Codemod.Proofs.Source.Statements

/-!
# Sources that are edited

A source is edited in place or on a copy, as often as one likes, and an edit that is refused leaves
it alone. If the parser can be trusted, the imports that a unit lists stand where they are said to
stand, whatever the edits have made of it. But in a unit with an incomplete string the program may
stop before it has listed them.

## Main definitions

* `SourceUnit.Call` — an edit that is asked for.
* `SourceUnit.performAll` — what becomes of a unit.
* `SourceUnit.ImportsTold` — what is known of the imports of a unit.

## Main results

* `SourceUnit.IsSound.importsTold` — what is known of them in every unit.
* `SourceUnit.importsStand_after_calls` — what is known of them after every edit.
* `SourceUnit.imports_stop_in_open_string` — a source of which the imports cannot be told.
-/

namespace Codemod.SourceUnit

open Source

/-! ## Edits, one after the other -/

/-- A range to be replaced in the unit itself or in a copy of it. -/
structure Call where
  range : Span
  new : String
  inPlace : Bool

/-- The unit after a call. -/
def perform (u : SourceUnit) (c : Call) : SourceUnit :=
  match u.replace c.range c.new with
  | .ok next => if c.inPlace then next else u
  | .error _ => u

def performAll (u : SourceUnit) (calls : List Call) : SourceUnit :=
  calls.foldl perform u

/-! ## Imports -/

/-- The program stops at a statement if the string with the name of the module does not begin and
end with a character of one byte each, as strings do that have both their quotes. In all other units
it lists imports, which stand where they are said to stand. -/
structure ImportsTold (u : SourceUnit) : Prop where
  stops_iff : (∃ cut, u.imports = .error cut) ↔
    ∃ n ∈ u.tree.children, n.kind = "import_statement" ∧ n.IsCut u.text.toList
  stand : ∀ imports, u.imports = .ok imports → ImportsStand u.text.toList imports

/-- The parser can be trusted, and the tree is one that it may have made. -/
structure IsSound (u : SourceUnit) : Prop where
  language : u.language.Sound
  tree : u.tree.Fits u.text.toList

theorem isSound_parse {languages : Languages} (h : languages.Sound) (path text : String) :
    (parse languages path text).IsSound :=
  ⟨h.of path, h.of path none text⟩

namespace IsSound

variable {u v : SourceUnit}

theorem importsTold (h : u.IsSound) : u.ImportsTold :=
  ⟨imports_eq_error_iff h.tree, fun _ => importsStand_of_fits h.tree⟩

/-- The tree of an edited unit is parsed anew. -/
theorem exchange (h : u.IsSound) (front old back : List Char) (new : String) :
    (u.exchange front old back new).IsSound :=
  ⟨h.language, h.language _ _⟩

theorem replace (h : u.IsSound) {r : Span} {new : String} (hok : u.replace r new = .ok v) :
    v.IsSound := by
  obtain ⟨front, old, back, -, -, -, rfl⟩ := replace_eq_ok_iff.mp hok
  exact h.exchange front old back new

theorem perform (h : u.IsSound) (c : Call) : (u.perform c).IsSound := by
  rw [SourceUnit.perform]
  split
  next next hnext =>
    split
    · exact h.replace hnext
    · exact h
  next => exact h

theorem performAll (h : u.IsSound) (calls : List Call) : (u.performAll calls).IsSound := by
  induction calls generalizing u with
  | nil => exact h
  | cons c calls ih => exact ih (h.perform c)

end IsSound

/-- If the parsers make trees that fit their texts, it is known of the imports of a source after any
edits when they are listed and that they stand in the text. One more edit is refused if its range is
not one of whole characters within the text, and then the unit stays as it is. Else the new text
stands between what was before and after the range, and of the result, be it the unit itself or a
copy, the same is known again. -/
theorem importsStand_after_calls {languages : Languages} (hsound : languages.Sound)
    (path text : String) (calls : List Call) :
    (performAll (parse languages path text) calls).ImportsTold ∧
    ∀ c : Call, let u := performAll (parse languages path text) calls
      (∃ next front old back, u.replace c.range c.new = .ok next ∧
        u.text.toList = front ++ (old ++ back) ∧ c.range.start = byteSize front ∧
        c.range.stop = c.range.start + byteSize old ∧ next.path = u.path ∧
        next.text.toList = front ++ (c.new.toList ++ back) ∧ next.ImportsTold ∧
        u.perform c = if c.inPlace then next else u) ∨
      (u.replace c.range c.new = .error ⟨u.path, c.range⟩ ∧
        (∀ part, ¬ Holds u.text.toList c.range part) ∧
        u.perform c = u ∧ (u.perform c).imports = u.imports) := by
  have hunit := (isSound_parse hsound path text).performAll calls
  refine ⟨hunit.importsTold, fun c => ?_⟩
  dsimp only
  generalize performAll (parse languages path text) calls = u at hunit
  cases hreplace : u.replace c.range c.new with
  | ok next =>
    have hnext := hunit.replace hreplace
    obtain ⟨front, old, back, htext, hstart, hstop, rfl⟩ := replace_eq_ok_iff.mp hreplace
    refine .inl ⟨_, front, old, back, rfl, htext, hstart, hstop, rfl, by simp,
      hnext.importsTold, ?_⟩
    rw [perform, hreplace]
  | error e =>
    obtain ⟨rfl, hnone⟩ := replace_eq_error hreplace
    have hsame : u.perform c = u := by rw [perform, hreplace]
    exact .inr ⟨rfl, hnone, hsame, by rw [hsame]⟩

/-- The name of a module is given a character of two bytes, and stands where it did. -/
theorem importsStand_after_renaming :
    let u := performAll (parse .standard "a.ts" "import a from 'b';") [⟨⟨15, 16⟩, "é", true⟩]
    Languages.standard.Sound ∧ u.text = "import a from 'é';" ∧
      u.imports = .ok [⟨"é", ⟨15, 17⟩, ⟨0, 19⟩, []⟩] ∧
      ImportsStand u.text.toList [⟨"é", ⟨15, 17⟩, ⟨0, 19⟩, []⟩] := by
  intro u
  have himports : u.imports = .ok [⟨"é", ⟨15, 17⟩, ⟨0, 19⟩, []⟩] := by
    decide +kernel
  have htold := importsStand_after_calls Languages.sound_standard "a.ts" "import a from 'b';"
    [⟨⟨15, 16⟩, "é", true⟩]
  exact ⟨Languages.sound_standard, by decide +kernel, himports, htold.1.stand _ himports⟩

/-- However much the parser can be trusted, the imports of a source are not always listed: at a
string that is not closed and ends with a character of two bytes the program stops. -/
theorem imports_stop_in_open_string :
    Languages.standard.Sound ∧
      (parse .standard "a.ts" "import a from \"é\n;\n").imports = .error ⟨⟨15, 16⟩⟩ :=
  ⟨Languages.sound_standard, by decide +kernel⟩

end Codemod.SourceUnit
