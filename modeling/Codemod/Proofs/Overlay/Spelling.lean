import Codemod.Proofs.Overlay.View

/-!
# Spellings of a path

A path can be spelled in many ways, and an overlay keeps files and records under its project form.
The project form is reached in one pass, so that it does not matter that some operations bring a
path to it which is in it already: there is one file and one record for all spellings, and another
one for every path with another project form.

## Main definitions

* `Overlay.AsksAlike` — asking at two paths gives the same answers.

## Main results

* `Overlay.asksAlike_of_normalize_eq` — two spellings of a path.
* `Overlay.change?_add`, `Overlay.read?_add` — what is found under one spelling after an edit under
  another.
* `Overlay.one_record_for_spellings` — the project form and what is kept under it.
-/

namespace Codemod.Overlay

variable {o : Overlay} {p q content : String}

/-- Asking at either path gives the same answers. -/
structure AsksAlike (o : Overlay) (p q : String) : Prop where
  change : o.change? q = o.change? p
  baseline : o.baseline? q = o.baseline? p
  read : o.read? q = o.read? p
  contains : o.contains q = o.contains p

theorem asksAlike_of_normalize_eq (o : Overlay) (h : Path.normalize p = Path.normalize q) :
    o.AsksAlike p q where
  change := by rw [change?, ← h, change?]
  baseline := by rw [baseline?, ← h, baseline?]
  read := by rw [read?, ← h, read?]
  contains := by rw [Overlay.contains, read?, ← h, Overlay.contains, read?]

theorem add_of_normalize_eq (o : Overlay) (h : Path.normalize p = Path.normalize q)
    (content : String) : o.add q content = o.add p content := by
  rw [add, ← h, add]

/-- The record of a path takes the content that was given under another spelling. -/
theorem change?_add (o : Overlay) (h : Path.normalize p = Path.normalize q) (content : String) :
    (o.add p content).change? q =
      match o.change? q with
      | some c => some { c with content }
      | none =>
        if ((o.baseline? q).map (·.content)).getD "" = content then none
        else some {
          path := Path.normalize q
          before := ((o.baseline? q).map (·.content)).getD ""
          content } := by
  have hrecord := record?_add_self o p content
  rw [h] at hrecord
  exact hrecord

/-- Content that is not empty is read under every spelling. -/
theorem read?_add (o : Overlay) (h : Path.normalize p = Path.normalize q) (hne : content ≠ "") :
    (o.add p content).read? q = some content := by
  have hrecord := record?_add_self o p content
  rw [h] at hrecord
  rw [read?, current?, hrecord, file?_add]
  cases o.record? (Path.normalize q) with
  | some c => simp [Change.isDeletion, hne]
  | none =>
    by_cases horiginal : o.original (Path.normalize q) = content
    · simp only [if_pos horiginal]
      cases hfile : o.file? (Path.normalize q) with
      | none => exact absurd horiginal.symm (by simpa [original, hfile] using hne)
      | some f => simpa [original, hfile] using horiginal
    · simp [horiginal, Change.isDeletion, hne]

@[simp] theorem baseline?_add (o : Overlay) (p content q : String) :
    (o.add p content).baseline? q = o.baseline? q := by
  rw [baseline?, file?_add, baseline?]

theorem change?_add_of_ne (o : Overlay) (h : Path.normalize p ≠ Path.normalize q)
    (content : String) : (o.add p content).change? q = o.change? q :=
  record?_add_of_ne o p content h

theorem read?_add_of_ne (o : Overlay) (h : Path.normalize p ≠ Path.normalize q)
    (content : String) : (o.add p content).read? q = o.read? q :=
  current?_add_of_ne o p content h

/-- The project form has no backslash, no `./` at the front and no slash at the end; a path of this
look is its own project form, and so is every project form. Two paths with the same project form
are one to an overlay, whatever its state: asked at either of them it answers the same, and changed
at either of them it becomes the same. What is given at the one is then recorded and read at the
other: a record takes the content over, and without a record one is made unless the content is that
of the snapshot. A path with another project form is left alone. The snapshot is left alone anyway.
-/
theorem one_record_for_spellings :
    (∀ path, Path.IsProjectForm (Path.normalize path)) ∧
      (∀ path, Path.IsProjectForm path → Path.normalize path = path) ∧
      (∀ path, Path.normalize (Path.normalize path) = Path.normalize path) ∧
      ∀ (o : Overlay) (p q content : String),
        (Path.normalize p = Path.normalize q →
          o.AsksAlike p q ∧ o.add q content = o.add p content ∧
            (o.add p content).change? q =
              (match o.change? q with
              | some c => some { c with content }
              | none =>
                if ((o.baseline? q).map (·.content)).getD "" = content then none
                else some {
                  path := Path.normalize q
                  before := ((o.baseline? q).map (·.content)).getD ""
                  content }) ∧
            (content ≠ "" → (o.add p content).read? q = some content)) ∧
        (Path.normalize p ≠ Path.normalize q →
          (o.add p content).change? q = o.change? q ∧ (o.add p content).read? q = o.read? q ∧
            (o.add p content).contains q = o.contains q) ∧
        (o.add p content).baseline? q = o.baseline? q := by
  refine ⟨Path.isProjectForm_normalize, fun _ h => h.normalize_eq, Path.normalize_normalize,
    fun o p q content => ⟨fun h => ?_, fun h => ?_, o.baseline?_add p content q⟩⟩
  · exact ⟨o.asksAlike_of_normalize_eq h, o.add_of_normalize_eq h content, o.change?_add h content,
      o.read?_add h⟩
  · have hread := o.read?_add_of_ne h content
    exact ⟨o.change?_add_of_ne h content, hread, by rw [contains, hread, contains]⟩

/-- Three spellings of one path, and a path that is another one in spite of its look. -/
theorem one_record_for_spellings_backslash :
    let o : Overlay := { root := "proj", files := [⟨"src/a", "1", false⟩] }
    Path.IsProjectForm "src/a" ∧ Path.normalize "src/a" = "src/a" ∧
      Path.normalize "././src\\a//" = Path.normalize "src/a" ∧
      (o.add "././src\\a//" "2").change? "src/a" = some ⟨"src/a", "1", "2"⟩ ∧
      Path.normalize "././src\\a//" ≠ Path.normalize "/src/a" ∧
      (o.add "././src\\a//" "2").change? "/src/a" = none := by
  intro o
  obtain ⟨-, hfixed, -, hrecord⟩ := one_record_for_spellings
  have hform : Path.IsProjectForm "src/a" := ⟨by decide, by decide, by decide⟩
  have hsame : Path.normalize "././src\\a//" = Path.normalize "src/a" := by decide
  have hother : Path.normalize "././src\\a//" ≠ Path.normalize "/src/a" := by decide
  obtain ⟨-, -, hchange, -⟩ := (hrecord o "././src\\a//" "src/a" "2").1 hsame
  obtain ⟨hnone, -, -⟩ := (hrecord o "././src\\a//" "/src/a" "2").2.1 hother
  exact ⟨hform, hfixed _ hform, hsame, hchange.trans (by decide), hother, hnone.trans (by decide)⟩

end Codemod.Overlay
