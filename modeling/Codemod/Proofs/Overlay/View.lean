import Codemod.Proofs.Overlay.History
import Mathlib.Logic.Function.Basic

/-!
# An overlay is a map of contents

What can be read from an overlay is a plain map from paths in project form to contents. The
snapshot, the records and the two meanings of empty content do not show.

## Main definitions

* `Contents` — maps from paths to contents.
* `Contents.ofHistory` — the map that a history leads to.

## Main results

* `Overlay.current?_edit` — what a change does to what is read.
* `Overlay.read_history` — reading at the end of a history.
-/

namespace Codemod

/-- The contents of the files of a project, by path in project form. -/
abbrev Contents := String → Option String

namespace Contents

/-- The last file inserted at a path counts. -/
def ofFiles (files : List ProjectFile) : Contents :=
  files.foldl (fun m f => Function.update m (Path.normalize f.path) (some f.content)) fun _ => none

/-- Without the file at a path; a file that was empty at the start stays as an empty one. -/
def remove (start m : Contents) (path : String) : Contents :=
  Function.update m path (if start path = some "" then some "" else none)

def edit (start m : Contents) : Edit → Contents
  | .add path content =>
    if content = "" then remove start m (Path.normalize path)
    else Function.update m (Path.normalize path) (some content)
  | .delete path => remove start m (Path.normalize path)

/-- The map that starts with the files and takes the edits one after the other. -/
def ofHistory (files : List ProjectFile) (edits : List Edit) : Contents :=
  edits.foldl (edit (ofFiles files)) (ofFiles files)

@[simp] theorem ofFiles_append (fs : List ProjectFile) (f : ProjectFile) :
    ofFiles (fs ++ [f]) =
      Function.update (ofFiles fs) (Path.normalize f.path) (some f.content) := by
  simp [ofFiles]

@[simp] theorem ofHistory_append (fs : List ProjectFile) (es : List Edit) (e : Edit) :
    ofHistory fs (es ++ [e]) = edit (ofFiles fs) (ofHistory fs es) e := by
  simp [ofHistory]

/-- Adding nothing and deleting are the same. -/
theorem edit_eq (start m : Contents) (e : Edit) :
    edit start m e =
      if e.content = "" then remove start m e.target
      else Function.update m e.target (some e.content) := by
  cases e with
  | add path content => rfl
  | delete path => simp [edit, Edit.content, Edit.target, Edit.path]

end Contents

namespace Overlay

theorem map_content_ofFiles (root : String) (fs : List ProjectFile) (path : String) :
    ((ofFiles root fs).file? path).map (·.content) = Contents.ofFiles fs path := by
  induction fs using List.reverseRecOn with
  | nil => rfl
  | append_singleton fs f ih =>
    rw [ofFiles_append, file?_insert, Contents.ofFiles_append, Function.update_apply, ← ih]
    by_cases h : Path.normalize f.path = path
    · simp [h]
    · simp [h, Ne.symm h]

/-- What is read at a path after it has been given a content: that content, and nothing if it was
deleted, unless the snapshot has an empty file there. -/
theorem current?_add_self {o : Overlay} (h : o.Coherent) (path content : String) :
    (o.add path content).current? (Path.normalize path) =
      if content = "" then
        if (o.file? (Path.normalize path)).map (·.content) = some "" then some "" else none
      else some content := by
  set q := Path.normalize path with hq
  have hfile : o.original q = ((o.file? q).map (·.content)).getD "" := rfl
  have hrec := record?_add_self o path content
  rw [← hq] at hrec
  unfold current?
  rw [hrec, file?_add]
  cases hr : o.record? q with
  | some c =>
    have hc : c.before = o.original q := h q c hr
    by_cases he : content = ""
    · cases hf : o.file? q <;> simp_all [Change.isDeletion, Change.isNet]
    · simp [Change.isDeletion, he]
  | none =>
    by_cases ho : o.original q = content
    · cases hf : o.file? q <;> simp_all
    · cases hf : o.file? q <;> by_cases he : content = "" <;>
        simp_all [Change.isDeletion, Change.isNet]

theorem current?_add_of_ne (o : Overlay) (path content : String) {q : String}
    (h : Path.normalize path ≠ q) : (o.add path content).current? q = o.current? q := by
  simp [current?, record?_add_of_ne o path content h]

theorem current?_edit {o : Overlay} (h : o.Coherent) (e : Edit) :
    (o.edit e).current? =
      Contents.edit (fun p => (o.file? p).map (·.content)) o.current? e := by
  funext q
  rw [edit_eq_add, Contents.edit_eq]
  by_cases hq : e.target = q
  · subst hq
    rw [Edit.target, current?_add_self h]
    split <;> simp [Contents.remove]
  · rw [current?_add_of_ne o _ _ hq]
    split <;> simp [Contents.remove, Function.update_of_ne (Ne.symm hq)]

/-- The map of a history is what the overlay shows. -/
theorem current?_history (root : String) (fs : List ProjectFile) (es : List Edit) :
    ((ofFiles root fs).editAll es).current? = Contents.ofHistory fs es := by
  induction es using List.reverseRecOn with
  | nil =>
    funext q
    simp only [Contents.ofHistory, List.foldl_nil, editAll, ← map_content_ofFiles root]
    simp [current?, record?]
  | append_singleton es e ih =>
    have hbase : (fun p => (((ofFiles root fs).editAll es).file? p).map (·.content)) =
        Contents.ofFiles fs := by
      funext p
      rw [file?_editAll, map_content_ofFiles]
    rw [editAll_append, current?_edit (coherent_history root fs es), ih, hbase,
      Contents.ofHistory_append]

/-- At the end of every history, reading a path in whatever spelling gives what the map has at its
project form, a file is there if the map has one, and one more edit is not noticed at any path with
another project form than its own. -/
theorem read_history (root : String) (files : List ProjectFile) (edits : List Edit)
    (path : String) :
    ((ofFiles root files).editAll edits).read? path =
        Contents.ofHistory files edits (Path.normalize path) ∧
      ((ofFiles root files).editAll edits).contains path =
        (Contents.ofHistory files edits (Path.normalize path)).isSome ∧
      ∀ e : Edit, e.target ≠ Path.normalize path →
        ((ofFiles root files).editAll (edits ++ [e])).read? path =
            ((ofFiles root files).editAll edits).read? path ∧
          ((ofFiles root files).editAll (edits ++ [e])).contains path =
            ((ofFiles root files).editAll edits).contains path := by
  have hread : ((ofFiles root files).editAll edits).read? path =
      Contents.ofHistory files edits (Path.normalize path) :=
    congrFun (current?_history root files edits) (Path.normalize path)
  refine ⟨hread, by rw [contains, hread], ?_⟩
  intro e he
  have hsame : ((ofFiles root files).editAll (edits ++ [e])).read? path =
      ((ofFiles root files).editAll edits).read? path := by
    rw [editAll_append, edit_eq_add]
    exact current?_add_of_ne _ _ _ he
  exact ⟨hsame, by rw [contains, hsame, contains]⟩

/-- A file that was empty at the start is edited and deleted again, in three spellings; it stays,
also when another file is deleted. -/
theorem read_history_empty_file :
    let files : List ProjectFile := [⟨"src/a", "", false⟩, ⟨"b", "x", false⟩]
    let edits : List Edit := [.add "./src\\a" "y", .delete "src/a/"]
    ((ofFiles "proj" files).editAll edits).read? "src\\a" = some "" ∧
      (Edit.delete "b").target ≠ Path.normalize "src/a" ∧
      ((ofFiles "proj" files).editAll (edits ++ [.delete "b"])).read? "src/a" = some "" := by
  intro files edits
  have hb : (Edit.delete "b").target ≠ Path.normalize "src/a" := by decide
  have ha := read_history "proj" files edits "src/a"
  have hmap : Contents.ofHistory files edits (Path.normalize "src/a") = some "" := by decide
  have hspelling : Path.normalize "src\\a" = Path.normalize "src/a" := by decide
  refine ⟨?_, hb, ?_⟩
  · rw [(read_history "proj" files edits "src\\a").1, hspelling, hmap]
  · rw [(ha.2.2 (.delete "b") hb).1, ha.1, hmap]

end Overlay

end Codemod
