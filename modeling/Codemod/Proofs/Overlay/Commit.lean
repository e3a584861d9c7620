import Codemod.Proofs.Disk.Project
import Codemod.Proofs.Overlay.Valid

/-!
# What a commit does to the disk

Changes are brought to the disk one after the other: files are written, folders made for them, and
other files removed. Each change concerns the file at one place. Paths without detours have places
of their own, so that no change undoes another, in whatever order they come.

## Main definitions

* `Change.bytes?` — the file that a change asks for.
* `Committed` — what the disk is like after changes have been brought to it.

## Main results

* `Change.commit_ok` — one change.
* `commitAll_ok` — one after the other.
* `Overlay.commit_brings_changes` — all changes of an overlay.
-/

namespace Codemod

/-- The bytes of the file that a change asks for; none if the file is to be deleted. -/
def Change.bytes? (c : Change) : Option Bytes :=
  if c.isDeletion then none else some (Bytes.ofText c.content)

section OneChange

variable {d d' : Disk} {root path : String} {r : Disk.Place}

/-- A deletion succeeds if the file can be removed, or is not there. -/
theorem Change.commitDeletion_cases (hc : Change.commitDeletion path d = (d', none)) :
    d.remove path = .ok d' ∨ d.remove path = .error .noEntry ∧ d' = d := by
  unfold Change.commitDeletion at hc
  split at hc
  next hr =>
    cases hc
    exact .inl hr
  next hr =>
    cases hc
    exact .inr ⟨hr, rfl⟩
  next => cases hc

/-- Content is written after the folder for it has been made. -/
theorem Change.commitContent_cases {content : String}
    (hc : Change.commitContent path content d = (d', none)) :
    ∃ e, Change.prepare path d = (e, none) ∧ e.write path (Bytes.ofText content) = .ok d' := by
  unfold Change.commitContent at hc
  split at hc
  next => cases hc
  next e he =>
    split at hc
    next hw =>
      cases hc
      exact ⟨e, he, hw⟩
    next => cases hc

theorem Change.commitDeletion_ok (h : d.IsProject root r) (hp : Path.IsPlain path)
    (hc : Change.commitDeletion (Path.join root path) d = (d', none)) :
    d.FileChange d' (r ++ Disk.Place.of path) none := by
  obtain hr | ⟨hr, rfl⟩ := Change.commitDeletion_cases hc
  · exact h.remove hp hr
  · exact h.remove_noEntry hp hr

theorem Change.prepare_ok (ht : d.IsTree) (hc : Change.prepare path d = (d', none)) :
    d.Grows d' := by
  unfold Change.prepare at hc
  split at hc
  · cases hc
    exact .refl ht
  next folder _ =>
    split at hc
    · cases hc
      exact .refl ht
    · have hg := ht.makeFolders folder
      split at hc
      next hm =>
        cases hc
        rwa [hm] at hg
      next => cases hc

theorem Change.commitContent_ok (h : d.IsProject root r) (hp : Path.IsPlain path)
    {content : String}
    (hc : Change.commitContent (Path.join root path) content d = (d', none)) :
    d.FileChange d' (r ++ Disk.Place.of path) (some (Bytes.ofText content)) ∧
      ∃ t, d'.locate true (Path.join root path) = .ok t := by
  obtain ⟨e, he, hw⟩ := Change.commitContent_cases hc
  have hg := Change.prepare_ok h.tree he
  obtain ⟨hchange, t, ht⟩ := (h.keeps hg.keeps hg.tree).write hp hw
  exact ⟨hg.fileChange hchange, hchange.keeps.locate ht⟩

/-- A change that succeeds has put the file that it asks for at its place. -/
theorem Change.commit_ok (h : d.IsProject root r) {c : Change} (hp : Path.IsPlain c.path)
    (hc : c.commit root d = (d', none)) :
    d.FileChange d' (r ++ Disk.Place.of c.path) c.bytes? ∧
      (c.isDeletion = false → ∃ t, d'.locate true (Path.join root c.path) = .ok t) := by
  unfold Change.commit at hc
  unfold Change.bytes?
  cases hdel : c.isDeletion with
  | true =>
    rw [if_pos hdel] at hc
    exact ⟨by simpa using Change.commitDeletion_ok h hp hc, by simp⟩
  | false =>
    rw [if_neg (by simp [hdel])] at hc
    obtain ⟨hchange, ht⟩ := Change.commitContent_ok h hp hc
    exact ⟨by simpa using hchange, fun _ => ht⟩

end OneChange

/-! ## Change after change -/

/-- What the disk is like after changes have been brought to it: every change has its file, all
other files are as they were, and folders and links have stayed. -/
structure Committed (root : String) (r : Disk.Place) (changes : List Change) (d d' : Disk) :
    Prop where
  tree : d'.IsTree
  keeps : d.Keeps d'
  done : ∀ c ∈ changes, d'.fileAt? (r ++ Disk.Place.of c.path) = c.bytes?
  there : ∀ c ∈ changes, c.isDeletion = false →
    ∃ t, d'.locate true (Path.join root c.path) = .ok t
  others : ∀ p, (∀ c ∈ changes, p ≠ r ++ Disk.Place.of c.path) → d'.fileAt? p = d.fileAt? p

theorem Committed.nil {root : String} {r : Disk.Place} {d : Disk} (h : d.IsTree) :
    Committed root r [] d d :=
  ⟨h, .refl d, by simp, by simp, fun _ _ => rfl⟩

theorem place_injective {r : Disk.Place} {p q : String}
    (h : r ++ Disk.Place.of p = r ++ Disk.Place.of q) : p = q :=
  Disk.Place.of_injective (List.append_cancel_left h)

/-- The changes that come later leave the file of the first one alone. -/
theorem Committed.cons {root : String} {r : Disk.Place} {c : Change} {rest : List Change}
    {d e d' : Disk}
    (hfirst : d.FileChange e (r ++ Disk.Place.of c.path) c.bytes?)
    (hthere : c.isDeletion = false → ∃ t, e.locate true (Path.join root c.path) = .ok t)
    (hrest : Committed root r rest e d') (hnew : c.path ∉ rest.map (·.path)) :
    Committed root r (c :: rest) d d' := by
  have hown : ∀ b ∈ rest, r ++ Disk.Place.of c.path ≠ r ++ Disk.Place.of b.path := by
    intro b hb hplace
    exact hnew (place_injective hplace ▸ List.mem_map_of_mem hb)
  refine ⟨hrest.tree, hfirst.keeps.trans hrest.keeps, ?_, ?_, ?_⟩
  · intro b hb
    rcases List.mem_cons.mp hb with rfl | hb
    · rw [hrest.others _ hown, hfirst.at_place]
    · exact hrest.done b hb
  · intro b hb hdel
    rcases List.mem_cons.mp hb with rfl | hb
    · obtain ⟨t, ht⟩ := hthere hdel
      exact hrest.keeps.locate ht
    · exact hrest.there b hb hdel
  · intro p hp
    rw [hrest.others p fun b hb => hp b (List.mem_cons_of_mem c hb),
      hfirst.elsewhere p (hp c List.mem_cons_self)]

theorem commitAll_ok {root : String} {r : Disk.Place} {changes : List Change} {d d' : Disk}
    {report report' : Report} (hd : d.IsProject root r)
    (hplain : ∀ c ∈ changes, Path.IsPlain c.path) (hnodup : (changes.map (·.path)).Nodup)
    (h : commitAll root report changes d = (d', .ok report')) :
    Committed root r changes d d' := by
  induction changes generalizing d report with
  | nil =>
    cases h
    exact .nil hd.tree
  | cons c rest ih =>
    rw [commitAll] at h
    split at h
    next => cases h
    next e he =>
      obtain ⟨hfirst, hthere⟩ := Change.commit_ok hd (hplain c List.mem_cons_self) he
      rw [List.map_cons, List.nodup_cons] at hnodup
      have hrest := ih (hd.keeps hfirst.keeps hfirst.tree)
        (fun b hb => hplain b (List.mem_cons_of_mem c hb)) hnodup.2 h
      exact .cons hfirst hthere hrest hnodup.1

/-- The report lists the changes in their order. -/
theorem commitAll_report {root : String} {changes : List Change} {d d' : Disk}
    {report report' : Report} (h : commitAll root report changes d = (d', .ok report')) :
    report'.written = report.written ++ (changes.filter (!·.isDeletion)).map (·.path) ∧
      report'.deleted = report.deleted ++ (changes.filter (·.isDeletion)).map (·.path) := by
  induction changes generalizing d report with
  | nil =>
    cases h
    simp
  | cons c rest ih =>
    rw [commitAll] at h
    split at h
    next => cases h
    next e he =>
      obtain ⟨hw, hd⟩ := ih h
      rw [hw, hd]
      cases hc : c.isDeletion <;> simp [Report.add, hc]

/-! ## All changes of an overlay -/

theorem Overlay.changes_of_no_records {o : Overlay} (h : o.records = []) : o.changes = [] := by
  simp [changes, created, record?, h]

/-- The path of an event about a file. -/
def Event.path? : Event → Option String
  | file path _ => some path
  | _ => none

theorem Overlay.map_path?_events (o : Overlay) :
    o.events.map Event.path? = o.changes.map fun c => some c.path := by
  rw [events, List.map_map]
  rfl

/-- A commit that succeeds, in a project without links, of changes to plain paths: no file is left
where one was deleted, the others hold what the changes say, every other file of the disk is as it
was, no folder is gone, the report lists the paths in the order in which events announce them, and
nothing is pending any more. -/
theorem Overlay.commit_brings_changes {o o' : Overlay} {d d' : Disk} {report : Report}
    {r : Disk.Place} (ho : o.Reachable) (hd : d.IsProject o.root r)
    (hplain : ∀ c ∈ o.changes, Path.IsPlain c.path) (h : o.commit d = (d', o', .ok report)) :
    (∀ c ∈ o.changes, c.isDeletion = true →
      d'.fileAt? (r ++ Disk.Place.of c.path) = none ∧
        ∀ b, d'.read (Path.join o.root c.path) ≠ .ok b) ∧
    (∀ c ∈ o.changes, c.isDeletion = false →
      d'.fileAt? (r ++ Disk.Place.of c.path) = some (Bytes.ofText c.content) ∧
        d'.read (Path.join o.root c.path) = .ok (Bytes.ofText c.content)) ∧
    (∀ p, (∀ c ∈ o.changes, p ≠ r ++ Disk.Place.of c.path) → d'.fileAt? p = d.fileAt? p) ∧
    (∀ p, d.get? p = some .folder → d'.get? p = some .folder) ∧
    report.written = (o.changes.filter (!·.isDeletion)).map (·.path) ∧
    report.deleted = (o.changes.filter (·.isDeletion)).map (·.path) ∧
    o.events.map Event.path? = (o.changes.map fun c => some c.path) ∧
    o' = { o with records := [] } ∧ o'.changes = [] := by
  unfold Overlay.commit at h
  split at h
  next e report' hc =>
    cases h
    have hdone := commitAll_ok hd hplain ho.valid.map_path_changes_nodup hc
    have hproject := hd.keeps hdone.keeps hdone.tree
    obtain ⟨hwritten, hdeleted⟩ := commitAll_report hc
    refine ⟨?_, ?_, hdone.others, hdone.keeps.folder, by simpa using hwritten,
      by simpa using hdeleted, o.map_path?_events, rfl, changes_of_no_records rfl⟩
    · intro c hmem hdel
      have hnone : d'.fileAt? (r ++ Disk.Place.of c.path) = none := by
        rw [hdone.done c hmem, Change.bytes?, if_pos hdel]
      refine ⟨hnone, fun b hb => ?_⟩
      rw [hproject.fileAt?_of_read (hplain c hmem) hb] at hnone
      cases hnone
    · intro c hmem hdel
      have hsome : d'.fileAt? (r ++ Disk.Place.of c.path) = some (Bytes.ofText c.content) := by
        rw [hdone.done c hmem, Change.bytes?, if_neg (by simp [hdel])]
      obtain ⟨t, ht⟩ := hdone.there c hmem hdel
      exact ⟨hsome, hproject.read_of_fileAt? (hplain c hmem) ht hsome⟩
  next => cases h

namespace Sample

/-- Two files in a folder. -/
def disk : Disk :=
  { entries := [(["proj"], .folder), (["proj", "a"], .file (Bytes.ofText "x")),
      (["proj", "b"], .file (Bytes.ofText "y"))] }

/-- One of them gives way to a folder of its name. -/
def overlay : Overlay :=
  ((({ root := "proj" : Overlay }.insert ⟨"a", "x", false⟩).insert ⟨"b", "y", false⟩).delete
    "a").add "a/n" "z"

theorem reachable_overlay : overlay.Reachable :=
  .add _ _ (.delete _ (.insert _ (.insert _ (.empty _))))

theorem isProject_disk : disk.IsProject "proj" ["proj"] := by
  have htree : disk.IsTree := .of_entries rfl (by decide)
  have hlocate : disk.locate true "proj" = .ok (.found ["proj"] .folder) := rfl
  exact htree.isProject_of_locate hlocate (by simp [disk])

end Sample

/-- The place of a deleted file can become a folder in the same commit. -/
theorem Overlay.commit_brings_changes_sample :
    ∃ d' o' report, Sample.overlay.commit Sample.disk = (d', o', .ok report) ∧
      d'.fileAt? ["proj", "a"] = none ∧
      d'.read "proj/a/n" = .ok (Bytes.ofText "z") ∧
      d'.fileAt? ["proj", "b"] = some (Bytes.ofText "y") := by
  have hplain : ∀ c ∈ Sample.overlay.changes, Path.IsPlain c.path := by decide
  have hcommit : Sample.overlay.commit Sample.disk = (_, _, .ok _) := rfl
  obtain ⟨hdeleted, hwritten, hothers, -⟩ := Overlay.commit_brings_changes
    Sample.reachable_overlay Sample.isProject_disk hplain hcommit
  refine ⟨_, _, _, hcommit, ?_, ?_, ?_⟩
  · exact (hdeleted ⟨"a", "x", ""⟩ (by decide) (by decide)).1
  · exact (hwritten ⟨"a/n", "", "z"⟩ (by decide) (by decide)).2
  · exact (hothers ["proj", "b"] (by decide)).trans rfl

end Codemod
