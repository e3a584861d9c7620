import Codemod.Overlay
import Codemod.Proofs.Path

/-!
# What the operations on an overlay do

Snapshot and records are looked up by path in project form. For each operation there is one
equation on each of the two, so that nothing after this module has to look into the lists.

## Main definitions

* `Overlay.original` — the content that a path had before the run.

## Main results

* `Overlay.file?_insert`, `Overlay.record?_add_self`, `Overlay.record?_add_of_ne` — looking up after
  a change.
-/

namespace Codemod

namespace Overlay

/-- What stood at a path in project form before the run; nothing if there was no file. -/
def original (o : Overlay) (path : String) : String :=
  ((o.file? path).map (·.content)).getD ""

/-! ## The lists -/

theorem find?_insertFile (f : ProjectFile) (l : List ProjectFile) (path : String) :
    (insertFile f l).find? (·.path = path) =
      if f.path = path then some f else l.find? (·.path = path) := by
  fun_induction insertFile f l with
  | case1 => by_cases h : f.path = path <;> simp [h]
  | case2 g rest hg =>
    by_cases h : f.path = path
    · simp [h]
    · simp [h, hg]
  | case3 g rest hg ih =>
    by_cases h : g.path = path
    · have hf : f.path ≠ path := fun hf => hg (h.trans hf.symm)
      simp [h, hf]
    · simp [h, ih]

theorem map_path_insertFile (f : ProjectFile) (l : List ProjectFile) :
    (insertFile f l).map (·.path) =
      if f.path ∈ l.map (·.path) then l.map (·.path) else l.map (·.path) ++ [f.path] := by
  fun_induction insertFile f l with
  | case1 => simp
  | case2 g rest hg => simp [hg]
  | case3 g rest hg ih =>
    have hfg : f.path ≠ g.path := fun h => hg h.symm
    simp only [List.map_cons, ih, List.mem_cons, hfg, false_or]
    split <;> rfl

theorem find?_setContent (path content : String) (l : List Change) (q : String) :
    (setContent path content l).find? (·.path = q) =
      if path = q then (l.find? (·.path = q)).map ({ · with content }) else
        l.find? (·.path = q) := by
  fun_induction setContent path content l with
  | case1 => simp
  | case2 c rest hc =>
    by_cases h : path = q
    · simp [h, hc]
    · simp [h, hc]
  | case3 c rest hc ih =>
    by_cases h : c.path = q
    · have hp : path ≠ q := fun hp => hc (h.trans hp.symm)
      simp [h, hp]
    · simp [h, ih]

@[simp] theorem map_path_setContent (path content : String) (l : List Change) :
    (setContent path content l).map (·.path) = l.map (·.path) := by
  fun_induction setContent path content l with
  | case1 => rfl
  | case2 => simp
  | case3 c rest hc ih => simp [ih]

/-! ## Looking up after a change -/

theorem file?_insert (o : Overlay) (f : ProjectFile) (path : String) :
    (o.insert f).file? path =
      if Path.normalize f.path = path then some { f with path := Path.normalize f.path }
      else o.file? path :=
  find?_insertFile _ o.files path

theorem record?_eq_none {o : Overlay} {path : String} :
    o.record? path = none ↔ path ∉ o.records.map (·.path) := by
  simp [record?]

theorem file?_eq_none {o : Overlay} {path : String} :
    o.file? path = none ↔ path ∉ o.files.map (·.path) := by
  simp [file?]

/-- The three ways in which a path can be given a content. -/
theorem add_cases (o : Overlay) (path content : String) :
    (∃ c, o.record? (Path.normalize path) = some c ∧
      o.add path content =
        { o with records := setContent (Path.normalize path) content o.records }) ∨
    (o.record? (Path.normalize path) = none ∧ o.original (Path.normalize path) = content ∧
      o.add path content = o) ∨
    (o.record? (Path.normalize path) = none ∧ o.original (Path.normalize path) ≠ content ∧
      o.add path content =
        { o with records := o.records ++ [{
          path := Path.normalize path
          before := o.original (Path.normalize path)
          content }] }) := by
  cases hr : o.record? (Path.normalize path) with
  | some c => exact .inl ⟨c, rfl, by simp [add, hr]⟩
  | none =>
    by_cases ho : o.original (Path.normalize path) = content
    · refine .inr (.inl ⟨rfl, ho, ?_⟩)
      have ho' := ho
      simp only [original] at ho'
      simp [add, hr, baseline?, ho']
    · refine .inr (.inr ⟨rfl, ho, ?_⟩)
      have ho' := ho
      simp only [original] at ho'
      simp [add, hr, baseline?, ho', original]

@[simp] theorem files_add (o : Overlay) (path content : String) :
    (o.add path content).files = o.files := by
  obtain ⟨_, _, h⟩ | ⟨_, _, h⟩ | ⟨_, _, h⟩ := add_cases o path content <;> rw [h]

@[simp] theorem root_add (o : Overlay) (path content : String) :
    (o.add path content).root = o.root := by
  obtain ⟨_, _, h⟩ | ⟨_, _, h⟩ | ⟨_, _, h⟩ := add_cases o path content <;> rw [h]

@[simp] theorem file?_add (o : Overlay) (path content q : String) :
    (o.add path content).file? q = o.file? q := by
  simp [file?]

@[simp] theorem original_add (o : Overlay) (path content q : String) :
    (o.add path content).original q = o.original q := by
  simp [original]

theorem path_of_record? {o : Overlay} {path : String} {c : Change} (h : o.record? path = some c) :
    c.path = path := by
  simpa using List.find?_some h

/-- The record of a path that is given a content: an old one takes the content over, a new one is
made only for another content than the path had before the run. -/
theorem record?_add_self (o : Overlay) (path content : String) :
    (o.add path content).record? (Path.normalize path) =
      match o.record? (Path.normalize path) with
      | some c => some { c with content }
      | none =>
        if o.original (Path.normalize path) = content then none
        else some {
          path := Path.normalize path
          before := o.original (Path.normalize path)
          content } := by
  obtain ⟨c, hr, ha⟩ | ⟨hr, ho, ha⟩ | ⟨hr, ho, ha⟩ := add_cases o path content
  · have hf := hr
    unfold record? at hf
    simp [ha, record?, find?_setContent, hf]
  · simp [ha, hr, ho]
  · have hf := hr
    unfold record? at hf
    simp [ha, record?, hf, ho]

/-- The records of all other paths stay. -/
theorem record?_add_of_ne (o : Overlay) (path content : String) {q : String}
    (h : Path.normalize path ≠ q) : (o.add path content).record? q = o.record? q := by
  obtain ⟨c, hr, ha⟩ | ⟨hr, ho, ha⟩ | ⟨hr, ho, ha⟩ := add_cases o path content
  · simp [ha, record?, find?_setContent, h]
  · rw [ha]
  · simp [ha, record?, h]

end Overlay

end Codemod
