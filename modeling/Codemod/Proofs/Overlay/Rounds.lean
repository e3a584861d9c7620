import Codemod.Proofs.Disk.Touched
import Codemod.Proofs.Overlay.Commit
import Codemod.Proofs.Overlay.NetChange

/-!
# Edits and commits in turn

An overlay can be committed more than once, with edits in between. Its snapshot does not follow the
disk: it is what the project was before the run, and a record that comes back to it is no change.
So the last content of a path is on the disk after the last commit, unless it is the content from
before the run and an earlier commit has put another one in its place.

Paths may lead to the same place through links, and then the last one to be written counts.

## Main definitions

* `Action`, `Overlay.Rounds` — edits and commits, one after the other, all of which succeed.
* `Alone` — no other path that was touched leads to the same place.

## Main results

* `Overlay.Rounds.touches` — commits touch the files that their reports name, and no others.
* `Overlay.last_content_is_committed` — what becomes of the last content of a path.
-/

namespace Codemod

/-! ## One commit -/

section OneCommit

variable {root : String} {d d' : Disk}

theorem Change.commitContent_touches (ht : d.IsTree) {path content : String}
    (hc : Change.commitContent path content d = (d', none)) :
    d.Touches d' [path] ∧ d.Keeps d' ∧ d'.read path = .ok (Bytes.ofText content) := by
  obtain ⟨e, he, hw⟩ := Change.commitContent_cases hc
  have hg := Change.prepare_ok ht he
  obtain ⟨htouches, hkeeps, hread⟩ := hg.tree.touches_write hw
  exact ⟨hg.touches.trans htouches, hg.keeps.trans hkeeps, hread⟩

theorem Change.commitDeletion_touches (ht : d.IsTree) {path : String}
    (hc : Change.commitDeletion path d = (d', none)) : d.Touches d' [path] := by
  obtain hr | ⟨-, rfl⟩ := Change.commitDeletion_cases hc
  · exact ht.touches_remove hr
  · exact .refl ht _

theorem Change.commit_touches (ht : d.IsTree) {c : Change} (hc : c.commit root d = (d', none)) :
    d.Touches d' [Path.join root c.path] := by
  unfold Change.commit at hc
  dsimp only at hc
  split at hc
  · exact Change.commitDeletion_touches ht hc
  · exact (Change.commitContent_touches ht hc).1

theorem Change.commit_read (ht : d.IsTree) {c : Change} (hdel : c.isDeletion = false)
    (hc : c.commit root d = (d', none)) :
    d.Keeps d' ∧ d'.read (Path.join root c.path) = .ok (Bytes.ofText c.content) := by
  unfold Change.commit at hc
  rw [if_neg (by simp [hdel])] at hc
  exact (Change.commitContent_touches ht hc).2

variable {changes : List Change} {report report' : Report}

theorem commitAll_touches (ht : d.IsTree)
    (h : commitAll root report changes d = (d', .ok report')) :
    d.Touches d' (changes.map fun c => Path.join root c.path) := by
  induction changes generalizing d report with
  | nil =>
    cases h
    exact .refl ht _
  | cons c rest ih =>
    rw [commitAll] at h
    split at h
    next => cases h
    next e he =>
      have hfirst := Change.commit_touches ht he
      exact hfirst.trans (ih hfirst.tree h)

theorem commitAll_keeps (ht : d.IsTree) (hdel : ∀ c ∈ changes, c.isDeletion = false)
    (h : commitAll root report changes d = (d', .ok report')) : d.Keeps d' := by
  induction changes generalizing d report with
  | nil =>
    cases h
    exact .refl _
  | cons c rest ih =>
    rw [List.forall_mem_cons] at hdel
    rw [commitAll] at h
    split at h
    next => cases h
    next e he =>
      have hfirst := (Change.commit_read ht hdel.1 he).1
      exact hfirst.trans (ih (Change.commit_touches ht he).tree hdel.2 h)

/-- The changes that come later leave the file of a change alone if none of them leads to it. -/
theorem commitAll_read (ht : d.IsTree)
    (h : commitAll root report changes d = (d', .ok report')) (hk : d.KeepsLinks d')
    (hnodup : (changes.map (·.path)).Nodup) {c : Change} (hc : c ∈ changes)
    (hdel : c.isDeletion = false)
    (halone : ∀ b ∈ changes, b.path ≠ c.path → ∀ p, d'.PointsTo (Path.join root b.path) p →
      ¬ d'.PointsTo (Path.join root c.path) p) :
    d'.read (Path.join root c.path) = .ok (Bytes.ofText c.content) := by
  induction changes generalizing d report with
  | nil => cases hc
  | cons b rest ih =>
    rw [List.map_cons, List.nodup_cons] at hnodup
    rw [List.forall_mem_cons] at halone
    rw [commitAll] at h
    split at h
    next => cases h
    next e he =>
      have hfirst := Change.commit_touches ht he
      have hrest := commitAll_touches hfirst.tree h
      have hkrest := (hfirst.folders.keeps_both hrest.folders hk).2
      rcases List.mem_cons.mp hc with rfl | hc
      · refine hrest.read hfirst.tree hkrest ?_ (Change.commit_read ht hdel he).2
        intro q hq
        obtain ⟨a, ha, rfl⟩ := List.mem_map.mp hq
        exact halone.2 a ha fun heq => hnodup.1 (heq ▸ List.mem_map_of_mem ha)
      · exact ih hfirst.tree h hkrest.keepsLinks hnodup.2 hc halone.2

end OneCommit

/-- All paths that a commit has touched. -/
def Report.paths (r : Report) : List String :=
  r.written ++ r.deleted

namespace Overlay

section Commit

variable {o o' : Overlay} {d d' : Disk} {report : Report}

theorem commit_ok (h : o.commit d = (d', o', .ok report)) :
    commitAll o.root {} o.changes d = (d', .ok report) ∧ o' = { o with records := [] } := by
  unfold Overlay.commit at h
  split at h
  next hc =>
    cases h
    exact ⟨hc, rfl⟩
  next => cases h

theorem mem_paths_of_commit (h : o.commit d = (d', o', .ok report)) {path : String} :
    path ∈ report.paths ↔ ∃ c ∈ o.changes, c.path = path := by
  obtain ⟨hwritten, hdeleted⟩ := commitAll_report (commit_ok h).1
  rw [Report.paths, hwritten, hdeleted]
  simp only [List.nil_append, List.mem_append, List.mem_map, List.mem_filter]
  constructor
  · rintro (⟨c, ⟨hc, -⟩, hpath⟩ | ⟨c, ⟨hc, -⟩, hpath⟩) <;> exact ⟨c, hc, hpath⟩
  · rintro ⟨c, hc, hpath⟩
    cases hdel : c.isDeletion with
    | true => exact .inr ⟨c, ⟨hc, hdel⟩, hpath⟩
    | false => exact .inl ⟨c, ⟨hc, by simp [hdel]⟩, hpath⟩

theorem touches_commit (ht : d.IsTree) (h : o.commit d = (d', o', .ok report)) :
    d.Touches d' (report.paths.map (Path.join o.root)) := by
  refine (commitAll_touches ht (commit_ok h).1).mono fun path hpath => ?_
  obtain ⟨c, hc, rfl⟩ := List.mem_map.mp hpath
  exact List.mem_map_of_mem ((mem_paths_of_commit h).mpr ⟨c, hc, rfl⟩)

theorem keeps_commit (ht : d.IsTree) (h : o.commit d = (d', o', .ok report))
    (hdel : report.deleted = []) : d.Keeps d' := by
  obtain ⟨hc, -⟩ := commit_ok h
  have hnone : ∀ c ∈ o.changes, c.isDeletion = false := by
    simpa [hdel] using (commitAll_report hc).2
  exact commitAll_keeps ht hnone hc

end Commit

end Overlay

/-! ## Rounds -/

/-- What can be done to an overlay once it has its snapshot. -/
inductive Action where
  | edit (e : Edit)
  | commit

/-- The edits among actions. -/
def Action.edits : List Action → List Edit
  | [] => []
  | edit e :: rest => e :: edits rest
  | commit :: rest => edits rest

theorem Action.edits_append (a b : List Action) : edits (a ++ b) = edits a ++ edits b := by
  induction a with
  | nil => rfl
  | cons x a ih => cases x <;> simp [edits, ih]

theorem Action.last?_eq_none {e : Edit} {rest : List Action} {path : String} :
    Edit.last? (edits (.edit e :: rest)) path = none ↔
      Edit.last? (edits rest) path = none ∧ e.target ≠ path := by
  rw [edits, Edit.last?_cons]
  simp

/-- Edits and commits, one after the other, all of which succeed: what they make of the disk, and
what the commits report. -/
inductive Overlay.Rounds : Overlay → Disk → List Action → Disk → List Report → Prop where
  | nil (o : Overlay) (d : Disk) : Rounds o d [] d []
  | edit {o : Overlay} {d d' : Disk} {e : Edit} {rest : List Action} {reports : List Report} :
      Rounds (o.edit e) d rest d' reports → Rounds o d (.edit e :: rest) d' reports
  | commit {o o' : Overlay} {d e d' : Disk} {report : Report} {rest : List Action}
      {reports : List Report} : o.commit d = (e, o', .ok report) →
      Rounds o' e rest d' reports → Rounds o d (.commit :: rest) d' (report :: reports)

/-- The edit that gives a path another content than before the run makes a record that is a
change. -/
theorem Overlay.Coherent.exists_net_record {o : Overlay} (h : o.Coherent) {e : Edit}
    (hne : e.content ≠ "") (hnew : e.content ≠ o.original e.target) :
    ∃ c, (o.edit e).record? e.target = some c ∧ c.content = e.content ∧ c.isNet = true ∧
      c.isDeletion = false := by
  obtain ⟨c, hrecord, hcontent⟩ := o.exists_record?_edit hnew
  have hbefore : c.before = o.original e.target := by
    rw [h.edit e _ c hrecord, original_edit]
  refine ⟨c, hrecord, hcontent, ?_, by simpa [Change.isDeletion, hcontent] using hne⟩
  simpa [Change.isNet, hbefore, hcontent] using Ne.symm hnew

/-- None of the other paths that commits have touched leads to the place of this one. -/
def Alone (root path : String) (d : Disk) (reports : List Report) : Prop :=
  ∀ r ∈ reports, ∀ q ∈ r.paths, q ≠ path → ∀ p, d.PointsTo (Path.join root q) p →
    ¬ d.PointsTo (Path.join root path) p

/-- A path that commits have not touched reads what it read. -/
theorem Alone.read {root path : String} {d d' : Disk} {reports : List Report} {b : Bytes}
    (h : Alone root path d' reports)
    (htouches : d.Touches d' (reports.flatMap fun r => r.paths.map (Path.join root)))
    (ht : d.IsTree) (hk : d.Keeps d') (hgone : ∀ r ∈ reports, path ∉ r.paths)
    (hr : d.read (Path.join root path) = .ok b) : d'.read (Path.join root path) = .ok b := by
  refine htouches.read ht hk (fun q hq => ?_) hr
  obtain ⟨r, hmem, hq⟩ := List.mem_flatMap.mp hq
  obtain ⟨s, hs, rfl⟩ := List.mem_map.mp hq
  exact h r hmem s hs fun heq => hgone r hmem (heq ▸ hs)

namespace Overlay.Rounds

variable {o : Overlay} {d d' : Disk} {actions : List Action} {reports : List Report}
  {path : String}

theorem touches (h : o.Rounds d actions d' reports) (ht : d.IsTree) :
    d.Touches d' (reports.flatMap fun r => r.paths.map (Path.join o.root)) := by
  induction h with
  | nil => exact .refl ht _
  | @edit o d d' e rest reports _ ih => simpa using ih ht
  | commit hc _ ih =>
    have hfirst := touches_commit ht hc
    obtain ⟨-, rfl⟩ := commit_ok hc
    exact hfirst.trans (ih hfirst.tree)

/-- Without deletions no link is lost. -/
theorem keeps_of_no_deletion (h : o.Rounds d actions d' reports) (ht : d.IsTree)
    (hdel : ∀ r ∈ reports, r.deleted = []) : d.Keeps d' := by
  induction h with
  | nil => exact .refl _
  | edit _ ih => exact ih ht hdel
  | commit hc _ ih =>
    rw [List.forall_mem_cons] at hdel
    exact (keeps_commit ht hc hdel.1).trans (ih (touches_commit ht hc).tree hdel.2)

/-- A path without a record that is not edited is in no report. -/
theorem notMem_paths (h : o.Rounds d actions d' reports) (hv : o.Valid)
    (hrecord : o.record? path = none)
    (hlast : Edit.last? (Action.edits actions) path = none) :
    ∀ r ∈ reports, path ∉ r.paths := by
  induction h with
  | nil => simp
  | @edit o d d' e rest reports _ ih =>
    obtain ⟨hrest, htarget⟩ := Action.last?_eq_none.mp hlast
    exact ih (hv.edit e) ((record?_edit_of_ne o htarget).trans hrecord) hrest
  | commit hc _ ih =>
    obtain ⟨-, rfl⟩ := commit_ok hc
    refine List.forall_mem_cons.mpr ⟨fun hmem => ?_, ih hv.of_no_records rfl hlast⟩
    obtain ⟨c, hc, hpath⟩ := (mem_paths_of_commit hc).mp hmem
    rw [← hpath, hv.record?_of_mem (hv.mem_changes.mp hc).1] at hrecord
    cases hrecord

/-- A record that is a change reaches the disk with the next commit, and stays. -/
theorem read_pending (h : o.Rounds d actions d' reports) (hv : o.Valid) (ht : d.IsTree)
    (hk : d.KeepsLinks d') (halone : Alone o.root path d' reports) {c : Change}
    (hrecord : o.record? path = some c) (hnet : c.isNet = true) (hdel : c.isDeletion = false)
    (hlast : Edit.last? (Action.edits actions) path = none)
    (hcommit : .commit ∈ actions) :
    d'.read (Path.join o.root path) = .ok (Bytes.ofText c.content) := by
  induction h with
  | nil => simp at hcommit
  | @edit o d d' e rest reports _ ih =>
    obtain ⟨hrest, htarget⟩ := Action.last?_eq_none.mp hlast
    rw [← root_edit o e] at halone ⊢
    exact ih (hv.edit e) ht hk halone ((record?_edit_of_ne o htarget).trans hrecord) hrest
      (by simpa using hcommit)
  | @commit o o' d e d' report rest reports hc hrest _ =>
    obtain ⟨hall, rfl⟩ := commit_ok hc
    have hfirst := touches_commit ht hc
    have hsecond := hrest.touches hfirst.tree
    obtain ⟨hkfirst, hksecond⟩ := hfirst.folders.keeps_both hsecond.folders hk
    obtain rfl : c.path = path := path_of_record? hrecord
    have hmem : c ∈ o.changes :=
      hv.mem_changes.mpr ⟨List.mem_of_find?_eq_some hrecord, hnet⟩
    rw [Alone, List.forall_mem_cons] at halone
    have hread : e.read (Path.join o.root c.path) = .ok (Bytes.ofText c.content) := by
      refine commitAll_read ht hall hkfirst.keepsLinks hv.map_path_changes_nodup hmem hdel ?_
      intro b hb hne p hp hp'
      have hb' : b.path ∈ report.paths := (mem_paths_of_commit hc).mpr ⟨b, hb, rfl⟩
      exact halone.1 b.path hb' hne p (hp.keeps hksecond) (hp'.keeps hksecond)
    -- the record is gone with this commit, so that no later one touches the path
    have hgone := hrest.notMem_paths hv.of_no_records rfl hlast
    have hlater : Alone o.root c.path d' reports := halone.2
    exact hlater.read hsecond hfirst.tree hksecond hgone hread

/-- The last content of a path, if it is not the one from before the run, is on the disk after the
last commit. -/
theorem read_last (h : o.Rounds d (actions ++ [.commit]) d' reports) (hv : o.Valid)
    (hcoherent : o.Coherent) (ht : d.IsTree) (hk : d.KeepsLinks d')
    (halone : Alone o.root path d' reports) {content : String}
    (hlast : Edit.last? (Action.edits actions) path = some content) (hne : content ≠ "")
    (hnew : content ≠ o.original path) :
    d'.read (Path.join o.root path) = .ok (Bytes.ofText content) := by
  induction actions generalizing o d reports with
  | nil => cases hlast
  | cons a rest ih =>
    cases a with
    | edit e =>
      obtain _ | ⟨h⟩ := h
      rw [← root_edit o e] at halone ⊢
      rw [Action.edits, Edit.last?_cons] at hlast
      cases hrest : Edit.last? (Action.edits rest) path with
      | some last =>
        rw [hrest, Option.some_or] at hlast
        exact ih h (hv.edit e) (hcoherent.edit e) ht hk halone (hrest.trans hlast)
          (original_edit o e path ▸ hnew)
      | none =>
        -- this edit is the last one of the path, and a commit is still to come
        rw [hrest, Option.none_or] at hlast
        split at hlast
        next htarget =>
          obtain rfl := htarget
          obtain rfl := Option.some.inj hlast
          obtain ⟨c, hrecord, hcontent, hnet, hdel⟩ := hcoherent.exists_net_record hne hnew
          rw [← hcontent]
          refine h.read_pending (hv.edit e) ht hk halone hrecord hnet hdel ?_ ?_
          · simpa [Action.edits_append, Action.edits] using hrest
          · exact List.mem_append_right _ List.mem_cons_self
        next => cases hlast
    | commit =>
      obtain _ | _ | ⟨hc, hrest⟩ := h
      obtain ⟨-, rfl⟩ := commit_ok hc
      have hfirst := touches_commit ht hc
      have hsecond := hrest.touches hfirst.tree
      have hkrest := (hfirst.folders.keeps_both hsecond.folders hk).2.keepsLinks
      exact ih (o := { o with records := [] }) hrest hv.of_no_records
        (coherent_of_no_records o) hfirst.tree hkrest (List.forall_mem_cons.mp halone).2 hlast hnew

/-- In a project without links, changes to plain paths lose none. -/
theorem keeps_of_isProject (h : o.Rounds d actions d' reports) {r : Disk.Place}
    (hd : d.IsProject o.root r) (hv : o.Valid)
    (hplain : ∀ report ∈ reports, ∀ q ∈ report.paths, Path.IsPlain q) : d.Keeps d' := by
  induction h with
  | nil => exact .refl _
  | @edit o d d' e rest reports _ ih => exact ih (by simpa using hd) (hv.edit e) hplain
  | @commit o o' d e d' report rest reports hc _ ih =>
    obtain ⟨hall, rfl⟩ := commit_ok hc
    rw [List.forall_mem_cons] at hplain
    have hchanges : ∀ c ∈ o.changes, Path.IsPlain c.path := fun c hmem =>
      hplain.1 c.path ((mem_paths_of_commit hc).mpr ⟨c, hmem, rfl⟩)
    have hdone := commitAll_ok hd hchanges hv.map_path_changes_nodup hall
    exact hdone.keeps.trans (ih (hd.keeps hdone.keeps hdone.tree) hv.of_no_records hplain.2)

/-- In a project without links, plain paths have places of their own. -/
theorem alone_of_isProject (h : o.Rounds d actions d' reports) {r : Disk.Place}
    (hd : d.IsProject o.root r) (hv : o.Valid) (hpath : Path.IsPlain path)
    (hplain : ∀ report ∈ reports, ∀ q ∈ report.paths, Path.IsPlain q) :
    Alone o.root path d' reports := by
  have hd' := hd.keeps (h.keeps_of_isProject hd hv hplain) (h.touches hd.tree).tree
  intro report hmem q hq hne p hp hp'
  have hplace : p = r ++ Disk.Place.of path := (hd'.pointsTo hpath).unique hp'
  have hplaceq : p = r ++ Disk.Place.of q := (hd'.pointsTo (hplain report hmem q hq)).unique hp
  exact hne (place_injective (hplaceq.symm.trans hplace))

end Overlay.Rounds

/-- After edits and commits in any order, and a last commit, a path that was edited holds the last
content that it was given. If that is its content from before the run, it must not have been
touched by any commit. -/
theorem Overlay.last_content_is_committed {o : Overlay} {d d' : Disk} {actions : List Action}
    {reports : List Report} {path content : String} (hv : o.Valid) (hcoherent : o.Coherent)
    (ht : d.IsTree) (h : o.Rounds d (actions ++ [.commit]) d' reports)
    (hlast : Edit.last? (Action.edits actions) path = some content) (hne : content ≠ "")
    (hlinks : (∃ r ∈ reports, r.deleted ≠ []) → d.KeepsLinks d')
    (halone : Alone o.root path d' reports)
    (hbaseline : ∀ f, o.file? path = some f →
      d.read (Path.join o.root path) = .ok (Bytes.ofText f.content))
    (hback : content = o.original path → ∀ r ∈ reports, path ∉ r.paths) :
    d'.read (Path.join o.root path) = .ok (Bytes.ofText content) := by
  have hk : d.Keeps d' := by
    by_cases hdel : ∃ r ∈ reports, r.deleted ≠ []
    · exact (h.touches ht).folders.keeps (hlinks hdel)
    · exact h.keeps_of_no_deletion ht (by simpa using hdel)
  by_cases hnew : content = o.original path
  · cases hf : o.file? path with
    | none => exact absurd (by simpa [original, hf] using hnew) hne
    | some f =>
      obtain rfl : content = f.content := by simpa [original, hf] using hnew
      exact halone.read (h.touches ht) ht hk (hback hnew) (hbaseline f hf)
  · exact h.read_last hv hcoherent ht hk.keepsLinks halone hlast hne hnew

namespace Sample

/-- The snapshot of the two files. -/
def twoFiles : Overlay :=
  .ofFiles "proj" [⟨"a", "x", false⟩, ⟨"b", "y", false⟩]

/-- One file is changed twice, with a commit in between; the change of the other is taken back
before it is committed. -/
def actions : List Action :=
  [.edit (.add "a" "z"), .commit, .edit (.add "b" "q"), .edit (.add "a" "w"),
    .edit (.add "b" "y")]

end Sample

theorem Overlay.last_content_is_committed_twice :
    ∃ d' reports, Sample.twoFiles.Rounds Sample.disk (Sample.actions ++ [.commit]) d' reports ∧
      d'.read (Path.join Sample.twoFiles.root "a") = .ok (Bytes.ofText "w") ∧
      d'.read (Path.join Sample.twoFiles.root "b") = .ok (Bytes.ofText "y") := by
  obtain ⟨d', hrounds⟩ : ∃ d', Sample.twoFiles.Rounds Sample.disk
      (Sample.actions ++ [.commit]) d' [⟨["a"], []⟩, ⟨["a"], []⟩] :=
    ⟨_, .edit (.commit rfl (.edit (.edit (.edit (.commit rfl (.nil _ _))))))⟩
  have hv : Sample.twoFiles.Valid := valid_ofFiles _ _
  have hcoherent : Sample.twoFiles.Coherent := coherent_history "proj" _ []
  have hproject : Sample.disk.IsProject Sample.twoFiles.root ["proj"] := Sample.isProject_disk
  have hplain : ∀ report ∈ [(⟨["a"], []⟩ : Report), ⟨["a"], []⟩], ∀ q ∈ report.paths,
      Path.IsPlain q := by decide
  have ha : Sample.twoFiles.file? "a" = some ⟨"a", "x", false⟩ := by decide
  have hb : Sample.twoFiles.file? "b" = some ⟨"b", "y", false⟩ := by decide
  have hlasta : Edit.last? (Action.edits Sample.actions) "a" = some "w" := by decide
  have hlastb : Edit.last? (Action.edits Sample.actions) "b" = some "y" := by decide
  refine ⟨d', _, hrounds, ?_, ?_⟩
  · refine last_content_is_committed hv hcoherent hproject.tree hrounds hlasta (by decide)
      (by simp) (hrounds.alone_of_isProject hproject hv (by decide) hplain) ?_
      (fun h => absurd h (by decide))
    rintro f hf
    obtain rfl := Option.some.inj (ha.symm.trans hf)
    rfl
  · refine last_content_is_committed hv hcoherent hproject.tree hrounds hlastb (by decide)
      (by simp) (hrounds.alone_of_isProject hproject hv (by decide) hplain) ?_ (fun _ => by decide)
    rintro f hf
    obtain rfl := Option.some.inj (hb.symm.trans hf)
    rfl

namespace Sample

/-- A file is changed and committed, and then gets back the content that it had. -/
def takenBack : List Action :=
  [.edit (.add "a" "z"), .commit, .edit (.add "a" "x")]

/-- A file, and a link to it. -/
def linked : Disk :=
  { entries := [(["proj"], .folder), (["proj", "a"], .file (Bytes.ofText "x")),
      (["proj", "l"], .link "a")] }

/-- The file is edited last, and is written first. -/
def crossed : List Action :=
  [.edit (.add "l" "2"), .edit (.add "a" "1")]

end Sample

/-- A content from before the run that comes back after a commit is not written again; and of two
paths that lead to one file, the last to be written counts, not the last to be edited. -/
theorem Overlay.last_content_is_lost :
    (Sample.disk.IsProject "proj" ["proj"] ∧
      (∀ f ∈ Sample.twoFiles.files,
        Sample.disk.read (Path.join "proj" f.path) = .ok (Bytes.ofText f.content)) ∧
      (∀ e ∈ Action.edits Sample.takenBack, Path.IsPlain e.target ∧ e.content ≠ "") ∧
      Edit.last? (Action.edits Sample.takenBack) "a" = some "x" ∧
      ∃ d' reports,
        Sample.twoFiles.Rounds Sample.disk (Sample.takenBack ++ [.commit]) d' reports ∧
        d'.read (Path.join "proj" "a") ≠ .ok (Bytes.ofText "x")) ∧
    (Sample.linked.IsTree ∧
      Sample.linked.read (Path.join "proj" "a") = .ok (Bytes.ofText "x") ∧
      (∀ e ∈ Action.edits Sample.crossed, Path.IsPlain e.target ∧ e.content ≠ "") ∧
      Edit.last? (Action.edits Sample.crossed) "a" = some "1" ∧
      ∃ d' reports,
        (Overlay.ofFiles "proj" [⟨"a", "x", false⟩]).Rounds Sample.linked
          (Sample.crossed ++ [.commit]) d' reports ∧
        d'.read (Path.join "proj" "a") ≠ .ok (Bytes.ofText "1")) := by
  refine ⟨⟨Sample.isProject_disk, ?_, by decide, by decide, _, _,
      .edit (.commit rfl (.edit (.commit rfl (.nil _ _)))), fun h => ?_⟩,
    .of_entries rfl (by decide), rfl, by decide, by decide, _, _,
      .edit (.edit (.commit rfl (.nil _ _))), fun h => ?_⟩
  · intro f hf
    have hfiles : Sample.twoFiles.files = [⟨"a", "x", false⟩, ⟨"b", "y", false⟩] := by decide
    rw [hfiles] at hf
    rcases List.mem_cons.mp hf with rfl | hf
    · rfl
    · obtain rfl := List.mem_singleton.mp hf
      rfl
  · have hread : Except.ok (ε := Disk.Fault) (Bytes.ofText "z") = .ok (Bytes.ofText "x") := h
    exact absurd (Except.ok.inj hread) (by decide)
  · have hread : Except.ok (ε := Disk.Fault) (Bytes.ofText "2") = .ok (Bytes.ofText "1") := h
    exact absurd (Except.ok.inj hread) (by decide)

end Codemod
