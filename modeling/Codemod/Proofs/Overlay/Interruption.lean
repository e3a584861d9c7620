import Codemod.Proofs.Disk.Folders
import Codemod.Proofs.Overlay.Commit
import Codemod.Proofs.Path.Ancestors

/-!
# A commit that fails

Changes are brought to the disk one after the other, and the first that fails ends the commit. What
was done before it stays done; of the change that failed there may be folders that were made for
its file, and nothing else. The overlay does not take part in it, so that the same changes can be
looked at and tried again.

## Main definitions

* `Change.Performed`, `Performed` — one change, or one after the other, has been brought to the
  disk.

## Main results

* `Change.performed_of_commit`, `Change.addsFolders_of_commit` — one change that succeeds, and one
  that fails.
* `Overlay.commit_fails_midway` — how far a commit that fails has come.
-/

namespace Codemod

/-! ## One change -/

/-- What it is to bring a change to the disk: the file is removed, or there is none to remove; or
folders are made above it, as far as they are missing, and it is written. -/
inductive Change.Performed (root : String) (c : Change) : Disk → Disk → Prop where
  | removed {d d' : Disk} : c.isDeletion = true → d.remove (Path.join root c.path) = .ok d' →
      Performed root c d d'
  | missing {d : Disk} : c.isDeletion = true →
      d.remove (Path.join root c.path) = .error .noEntry → Performed root c d d
  | written {d e d' : Disk} : c.isDeletion = false →
      d.AddsFolders e (Path.IsAbove · (Path.join root c.path)) →
      e.write (Path.join root c.path) (Bytes.ofText c.content) = .ok d' → Performed root c d d'

theorem Change.addsFolders_prepare (path : String) (d : Disk) :
    d.AddsFolders (Change.prepare path d).1 (Path.IsAbove · path) := by
  unfold Change.prepare
  split
  · exact .refl d _
  next folder hparent =>
    split
    · exact .refl d _
    · have hadded := (d.addsFolders_makeFolders folder).mono fun a ha =>
        Path.isAbove_of_mem_ancestors hparent ha
      split
      next hm => rwa [hm] at hadded
      next hm => rwa [hm] at hadded

section OneChange

variable {root : String} {c : Change} {d d' : Disk}

theorem Change.performed_of_commit (h : c.commit root d = (d', none)) :
    c.Performed root d d' := by
  unfold Change.commit at h
  cases hdel : c.isDeletion with
  | true =>
    rw [if_pos hdel] at h
    obtain hr | ⟨hr, rfl⟩ := Change.commitDeletion_cases h
    · exact .removed hdel hr
    · exact .missing hdel hr
  | false =>
    rw [if_neg (by simp [hdel])] at h
    obtain ⟨e, he, hw⟩ := Change.commitContent_cases h
    have hadded := Change.addsFolders_prepare (Path.join root c.path) d
    rw [he] at hadded
    exact .written hdel hadded hw

/-- A change that fails leaves at most folders behind; a file that cannot be removed leaves
nothing. -/
theorem Change.addsFolders_of_commit {f : Failure} (h : c.commit root d = (d', some f)) :
    d.AddsFolders d' (Path.IsAbove · (Path.join root c.path)) ∧
      (c.isDeletion = true → d' = d) := by
  unfold Change.commit at h
  cases hdel : c.isDeletion with
  | true =>
    rw [if_pos hdel, Change.commitDeletion] at h
    split at h
    next => cases h
    next => cases h
    next =>
      cases h
      exact ⟨.refl d _, fun _ => rfl⟩
  | false =>
    have hadded := Change.addsFolders_prepare (Path.join root c.path) d
    refine ⟨?_, by simp⟩
    rw [if_neg (by simp [hdel]), Change.commitContent] at h
    split at h
    next he =>
      cases h
      rwa [he] at hadded
    next e he =>
      rw [he] at hadded
      split at h
      next => cases h
      next =>
        cases h
        exact hadded

end OneChange

/-! ## Change after change -/

/-- Changes have been brought to the disk, all of them, in order. -/
inductive Performed (root : String) : List Change → Disk → Disk → Prop where
  | nil (d : Disk) : Performed root [] d d
  | cons {c : Change} {rest : List Change} {d e d' : Disk} : c.Performed root d e →
      Performed root rest e d' → Performed root (c :: rest) d d'

/-- Where changes fail, those before have been brought to the disk, and for the one that failed
there may be new folders. -/
theorem commitAll_fails {root : String} {changes : List Change} {d d' : Disk} {report : Report}
    {f : Failure} (h : commitAll root report changes d = (d', .error f)) :
    ∃ k c e, changes[k]? = some c ∧ Performed root (changes.take k) d e ∧
      e.AddsFolders d' (Path.IsAbove · (Path.join root c.path)) ∧
      (c.isDeletion = true → d' = e) := by
  induction changes generalizing d report with
  | nil => cases h
  | cons c rest ih =>
    rw [commitAll] at h
    split at h
    next hc =>
      cases h
      exact ⟨0, c, d, rfl, .nil d, Change.addsFolders_of_commit hc⟩
    next hc =>
      obtain ⟨k, b, e, hb, hperformed, hfailed⟩ := ih h
      exact ⟨k + 1, b, e, hb, .cons (Change.performed_of_commit hc) hperformed, hfailed⟩

/-- A commit that fails leaves the overlay as it is. On the disk the first few changes have been
made, in order, but not all of them; besides, there may be new folders on the way to the next one,
and there are none if that is a deletion. -/
theorem Overlay.commit_fails_midway {o o' : Overlay} {d d' : Disk} {f : Failure}
    (h : o.commit d = (d', o', .error f)) :
    o' = o ∧
      ∃ k c e, o.changes[k]? = some c ∧ Performed o.root (o.changes.take k) d e ∧
        e.AddsFolders d' (Path.IsAbove · (Path.join o.root c.path)) ∧
        (c.isDeletion = true → d' = e) := by
  unfold Overlay.commit at h
  split at h
  next => cases h
  next hc =>
    cases h
    exact ⟨rfl, commitAll_fails hc⟩

namespace Sample

/-- One file is changed; then a folder is made to write to the folder that it is in. -/
def misdirected : Overlay :=
  ((({ root := "proj" : Overlay }.insert ⟨"a", "x", false⟩).insert ⟨"b", "y", false⟩).add
    "a" "z").add "n/.." "w"

end Sample

/-- The first of two changes has been made and the folder for the second, which both stay. -/
theorem Overlay.commit_fails_midway_misdirected :
    ∃ d' o' f, Sample.misdirected.commit Sample.disk = (d', o', .error f) ∧
      o' = Sample.misdirected ∧
      (∃ k, Sample.misdirected.changes[k]?.isSome = true ∧
        ∃ e, Performed "proj" (Sample.misdirected.changes.take k) Sample.disk e) ∧
      d'.read "proj/a" = .ok (Bytes.ofText "z") ∧
      d'.get? ["proj", "n"] = some .folder := by
  have hcommit : Sample.misdirected.commit Sample.disk = (_, _, .error _) := rfl
  obtain ⟨hoverlay, k, c, e, hc, hperformed, -⟩ := Overlay.commit_fails_midway hcommit
  exact ⟨_, _, _, hcommit, hoverlay, ⟨k, by rw [hc]; rfl, e, hperformed⟩, rfl, rfl⟩

end Codemod
