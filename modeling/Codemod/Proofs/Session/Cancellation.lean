import Codemod.Proofs.Overlay.Interruption
import Codemod.Proofs.Overlay.Rounds
import Codemod.Proofs.Session.Snapshot

/-!
# Runs that are canceled

Whether a run is to be canceled is looked at once in every turn, after the document has come back
from its updater and before it is merged. However often the wish has been uttered and taken back, by
plugins or from outside, what counts is how things stand at that moment. The first turn that finds
it there is the last of the run: it is neither announced nor merged, and what was merged before it
stays and can be committed.

## Main definitions

* `Turn.isCanceled` — the wish is there when the turn looks for it.
* `OnlyTouches` — what a commit of changes may do to the files of a disk.

## Main results

* `onlyTouches_commitAll` — a commit touches the files that its changes are about.
* `Session.canceled_iff` — which runs are canceled.
* `Session.cancel_keeps_first_files` — what is left of a run that is canceled.
-/

namespace Codemod

/-! ## What a commit touches -/

/-- The path leads to the place, whether or not a link at its end is followed. -/
def Disk.LeadsTo (d : Disk) (path : String) (p : Disk.Place) : Prop :=
  ∃ follow t, d.locate follow path = .ok t ∧ t.place = p

/-- A file that is another one afterwards is where the path of one of the changes has led, after the
changes before it and once there were folders for it. -/
def OnlyTouches (root : String) (changes : List Change) (d d' : Disk) : Prop :=
  ∀ p, d'.fileAt? p ≠ d.fileAt? p →
    ∃ earlier c later e f, changes = earlier ++ c :: later ∧ Performed root earlier d e ∧
      e.Grows f ∧ f.LeadsTo (Path.join root c.path) p

section Commit

variable {root : String} {d d' : Disk} {p : Disk.Place}

theorem Change.leadsTo_of_commitDeletion (ht : d.IsTree) {path : String}
    (hc : Change.commitDeletion path d = (d', none)) (hp : d'.fileAt? p ≠ d.fileAt? p) :
    d.LeadsTo path p := by
  obtain hr | ⟨-, rfl⟩ := Change.commitDeletion_cases hc
  · obtain ⟨q, e, hl, hget, hfolder, rfl⟩ := ht.remove hr
    have hne : d.get? q ≠ some .folder := by
      rw [hget]
      exact fun he => hfolder (Option.some.inj he)
    refine ⟨false, .found q e, hl, ?_⟩
    by_contra hother
    have hpq : p ≠ q := Ne.symm hother
    refine hp (Disk.fileAt?_congr ?_)
    rw [Disk.get?_erase (Disk.ne_nil_of_get?_ne_folder hne), if_neg hpq]
  · exact absurd rfl hp

theorem Change.leadsTo_of_commitContent (ht : d.IsTree) {path content : String}
    (hc : Change.commitContent path content d = (d', none)) (hp : d'.fileAt? p ≠ d.fileAt? p) :
    ∃ e, d.Grows e ∧ e.LeadsTo path p := by
  obtain ⟨e, he, hw⟩ := Change.commitContent_cases hc
  have hgrows := Change.prepare_ok ht he
  obtain ⟨t, hl, hchange⟩ := hgrows.tree.write hw
  refine ⟨e, hgrows, true, t, hl, ?_⟩
  by_contra hother
  exact hp ((hchange.elsewhere p (Ne.symm hother)).trans (hgrows.files p))

theorem Change.leadsTo_of_commit (ht : d.IsTree) {c : Change}
    (hc : c.commit root d = (d', none)) (hp : d'.fileAt? p ≠ d.fileAt? p) :
    ∃ e, d.Grows e ∧ e.LeadsTo (Path.join root c.path) p := by
  unfold Change.commit at hc
  dsimp only at hc
  split at hc
  · exact ⟨d, .refl ht, Change.leadsTo_of_commitDeletion ht hc hp⟩
  · exact Change.leadsTo_of_commitContent ht hc hp

theorem onlyTouches_commitAll (ht : d.IsTree) {changes : List Change} {report report' : Report}
    (h : commitAll root report changes d = (d', .ok report')) : OnlyTouches root changes d d' := by
  induction changes generalizing d report with
  | nil =>
    cases h
    exact fun p hp => absurd rfl hp
  | cons c rest ih =>
    rw [commitAll] at h
    split at h
    next => cases h
    next e he =>
      intro p hp
      by_cases hfirst : e.fileAt? p = d.fileAt? p
      · obtain ⟨earlier, b, later, e', f, rfl, hperformed, hleads⟩ :=
          ih (Change.commit_touches ht he).tree h p (hfirst ▸ hp)
        exact ⟨c :: earlier, b, later, e', f, rfl,
          .cons (Change.performed_of_commit he) hperformed, hleads⟩
      · obtain ⟨f, hgrows, hleads⟩ := Change.leadsTo_of_commit ht he hfirst
        exact ⟨[], c, rest, d, f, rfl, .nil d, hgrows, hleads⟩

end Commit

/-! ## Turns -/

namespace Turn

/-- The wish to cancel is there when the turn looks for it; a turn that has failed does not. -/
def isCanceled (t : Turn) : Bool :=
  match t.result with
  | .error _ => false
  | .ok _ => t.halfway.host.canceled

theorem isCompleted_of_isCanceled {t : Turn} (h : t.isCanceled = true) : t.isCompleted = false := by
  rw [isCanceled] at h
  rw [isCompleted]
  cases hresult : t.result with
  | error e => rfl
  | ok content =>
    rw [hresult] at h
    simp [show t.halfway.host.canceled = true from h]

theorem ending_eq_canceled_iff {t : Turn} (h : t.isCompleted = false) :
    t.ending = .canceled ↔ t.isCanceled = true := by
  rw [isCompleted] at h
  rw [ending, isCanceled]
  cases hresult : t.result with
  | error e => simp
  | ok content =>
    rw [hresult] at h
    simpa using h

end Turn

/-! ## Runs -/

theorem Ending.state_eq_canceled {e : Ending} : e.state = .canceled ↔ e = .canceled := by
  cases e <;> simp [state]

namespace Session

variable {s : Session} {d : Disk} {signals : Signals} {o : Overlay}

/-- A run is canceled if and only if the wish to cancel is there when one of its turns looks for
it. -/
theorem canceled_iff (s : Session) (d : Disk) (signals : Signals) :
    (s.update d signals).session.state = .canceled ↔
      ∃ t ∈ s.course d signals, t.isCanceled = true := by
  cases ho : s.snapshot d with
  | error f =>
    refine iff_of_false ?_ (by simp [course, ho])
    obtain ⟨-, hupdate⟩ | ⟨-, f, events, -, -, hupdate⟩ | ⟨-, o, done, p, ending, hok, -⟩ :=
      s.update_cases d signals
    · simp [hupdate]
    · simp [hupdate, fail]
    · cases ho.symm.trans hok
  | ok o =>
    rw [state_update ho, course_of_snapshot ho, Ending.state_eq_canceled]
    have hends {u : Turn} (hu : u.isCanceled = true) : u.isCompleted ≠ true := by
      simp [Turn.isCompleted_of_isCanceled hu]
    obtain ⟨-, hcompleted, hend⟩ | ⟨before, t, hcourse, ht, hend⟩ :=
      course_cases s.onError signals 0 o.files (s.firstPass o) o.files.length
    · refine iff_of_false (by simp [hend]) ?_
      rintro ⟨u, hu, hcanceled⟩
      exact hends hcanceled (hcompleted u hu)
    · rw [hend, Turn.ending_eq_canceled_iff ht, hcourse]
      refine ⟨fun hcanceled => ⟨t, by simp, hcanceled⟩, ?_⟩
      rintro ⟨u, hu, hcanceled⟩
      rcases List.mem_append.mp hu with hu | hu
      · exact absurd ((place_of_course hcourse).1 u hu) (hends hcanceled)
      · exact List.mem_singleton.mp hu ▸ hcanceled

section Canceled

variable {before later : List Turn} {t : Turn}

/-- A turn that is not completed is the last, and the others are those of the files before. -/
theorem course_of_not_completed (ho : s.snapshot d = .ok o)
    (hcourse : s.course d signals = before ++ t :: later) (ht : t.isCompleted = false) :
    later = [] ∧ (s.course d signals).filter Turn.isCompleted = before ∧
      before.map Turn.file = o.files.take before.length ∧
      o.files[before.length]? = some t.file := by
  have hprefix := map_file_course signals 0 o.files (s.firstPass o) s.onError
  rw [← course_of_snapshot ho, hcourse, List.map_append] at hprefix
  have hcourse' := hcourse
  rw [course_of_snapshot ho] at hcourse'
  obtain ⟨hbefore, -, hfile⟩ := place_of_course hcourse'
  obtain rfl : later = [] := by
    refine List.eq_nil_iff_forall_not_mem.mpr fun u hu => ?_
    obtain ⟨middle, last, rfl⟩ := List.append_of_mem hu
    have hu : Codemod.course s.onError signals 0 o.files (s.firstPass o) =
        (before ++ t :: middle) ++ u :: last := by
      simpa using hcourse'
    have htrue := (place_of_course hu).1 t (by simp)
    rw [ht] at htrue
    cases htrue
  have hfilter : before.filter Turn.isCompleted = before := List.filter_eq_self.mpr hbefore
  refine ⟨rfl, ?_, ?_, hfile⟩
  · simp [hcourse, hfilter, ht]
  · simpa using List.prefix_iff_eq_take.mp ((List.prefix_append _ _).trans hprefix)

/-- The events of a run that is canceled: the files are announced whose turn is completed. -/
theorem events_of_canceled (ho : s.snapshot d = .ok o)
    (hstate : (s.update d signals).session.state = .canceled) :
    (s.update d signals).events =
      phases ++ (turnEvents o.files).take ((s.course d signals).filter Turn.isCompleted).length ++
        changeEvents (s.update d signals).session.changes ++
        [.query .zero "Update canceled."] := by
  have hlength := length_turns s.onError signals 0 o.files (s.firstPass o) o.files.length
  rw [← course_of_snapshot ho] at hlength
  obtain ⟨-, hupdate⟩ | ⟨-, f, events, -, -, hupdate⟩ |
    ⟨-, o', done, p, ending, ho', hturns, hupdate⟩ := s.update_cases d signals
  · simp [hupdate] at hstate
  · simp [hupdate, fail] at hstate
  · obtain rfl : o = o' := Except.ok.inj (ho.symm.trans ho')
    rw [hturns] at hlength
    rw [hupdate] at hstate ⊢
    cases ending with
    | finished => cases hstate
    | failed f => cases hstate
    | canceled =>
      obtain ⟨hend, -⟩ | ⟨-, k, hk, rfl⟩ := (turns_firstPass hturns).2
      · cases hend
      · have hcount : (List.filter Turn.isCompleted (s.course d signals)).length = k := by
          rw [← hlength]
          simp [turnEvents]
          omega
        rw [hcount]
        rfl

/-- No document is handed over after the turn that is not completed. -/
theorem path_of_invocation (ho : s.snapshot d = .ok o)
    (hcourse : s.course d signals = before ++ t :: later) (ht : t.isCompleted = false)
    {x : Invocation} (hx : x ∈ s.invocations d signals) :
    x.path ∈ (o.files.take (before.length + 1)).map (·.path) := by
  obtain ⟨rfl, -, hfiles, hfile⟩ := course_of_not_completed ho hcourse ht
  rw [invocations_eq ho, hcourse] at hx
  obtain ⟨u, hu, hhanded⟩ := List.mem_filterMap.mp hx
  rw [Turn.path_of_handed? hhanded, List.take_add_one, hfile, ← hfiles]
  refine List.mem_map_of_mem ?_
  simpa using List.mem_map_of_mem hu

end Canceled

/-- A commit after a run reports the files that the changes of the run are about, and touches
nothing else. -/
theorem commit_after_update (ho : s.snapshot d = .ok o)
    (hstate : (s.update d signals).session.state ≠ .errored) {e e' : Disk} {s' : Session}
    {report : Report} (ht : e.IsTree)
    (h : (s.update d signals).session.commit e = (e', s', .ok report)) :
    (∀ path, path ∈ report.paths ↔
      ∃ c ∈ (s.update d signals).session.changes, c.path = path) ∧
    OnlyTouches s.root (s.update d signals).session.changes e e' ∧
    ∀ r, e.IsProject s.root r →
      (∀ c ∈ (s.update d signals).session.changes, Path.IsPlain c.path) →
      Committed s.root r (s.update d signals).session.changes e e' :=
  ⟨fun _ => Overlay.mem_paths_of_commit (overlay_commit h),
    onlyTouches_commitAll ht (commitAll_of_commit h),
    fun _ hr hplain => committed_of_commit ho hstate h hr hplain⟩

/-- A run whose plugins edit no file through their host is canceled if and only if the wish to
cancel is there when some turn looks for it. The files before that turn are those whose turns were
announced, and their updaters are the last that were given a document, but for the one of the turn
itself. Of these files the changes are what their updaters have returned, if it is not what was
read; they are announced, and a commit that succeeds touches no file but theirs. -/
theorem cancel_keeps_first_files (d : Disk) (signals : Signals)
    (hs : ∀ u ∈ s.updaters, u.ReadsOnly) :
    ((s.update d signals).session.state = .canceled ↔
      ∃ t ∈ s.course d signals, t.isCanceled = true) ∧
    ∀ o before t later, s.snapshot d = .ok o → s.course d signals = before ++ t :: later →
      t.isCanceled = true →
      before.map Turn.file = o.files.take before.length ∧
      o.files[before.length]? = some t.file ∧
      (s.update d signals).events =
        phases ++ (turnEvents o.files).take before.length ++
          changeEvents (before.filterMap Turn.proposed?) ++ [.query .zero "Update canceled."] ∧
      (∀ x ∈ s.invocations d signals, x.path ∈ (o.files.take (before.length + 1)).map (·.path)) ∧
      (s.update d signals).session.changes = before.filterMap Turn.proposed? ∧
      ∀ e e' s' report, e.IsTree →
        (s.update d signals).session.commit e = (e', s', .ok report) →
        (∀ path, path ∈ report.paths ↔ ∃ c ∈ before.filterMap Turn.proposed?, c.path = path) ∧
        OnlyTouches s.root (before.filterMap Turn.proposed?) e e' ∧
        ∀ r, e.IsProject s.root r →
          (∀ c ∈ before.filterMap Turn.proposed?, Path.IsPlain c.path) →
          Committed s.root r (before.filterMap Turn.proposed?) e e' := by
  refine ⟨canceled_iff s d signals, fun o before t later ho hcourse hcanceled => ?_⟩
  have ht := Turn.isCompleted_of_isCanceled hcanceled
  have hstate : (s.update d signals).session.state = .canceled :=
    (canceled_iff s d signals).mpr ⟨t, by simp [hcourse], hcanceled⟩
  obtain ⟨-, hcompleted, hfiles, hfile⟩ := course_of_not_completed ho hcourse ht
  have hgoes : (s.update d signals).session.state ≠ .errored := by simp [hstate]
  have hchanges := changes_of_readsOnly ho hs hgoes
  have hevents := events_of_canceled ho hstate
  rw [hcompleted] at hchanges hevents
  rw [hchanges] at hevents
  refine ⟨hfiles, hfile, hevents, fun x hx => path_of_invocation ho hcourse ht hx, hchanges,
    fun e e' s' report he hcommit => ?_⟩
  have htouches := commit_after_update ho hgoes he hcommit
  rwa [hchanges] at htouches

end Session

namespace Sample

/-- Deletes every document. It wishes to cancel each time, and takes that back except in the turn of
`b.txt`. -/
def waverer : Plugin N :=
  fun _ path => .cancel true (.cancel (path == "b.txt") (.done (.ok .delete)))

def wavering : Session :=
  { updaters := [{ kind := .text, format := .text, plugins := [waverer] }]
    overlay := { root := "proj" } }

theorem snapshot_wavering : wavering.snapshot (texts ["a.txt", "b.txt"]) = .ok snapshot :=
  snapshot_texts rfl rfl

theorem readsOnly_wavering : ∀ u ∈ wavering.updaters, u.ReadsOnly := by
  intro u hu
  obtain rfl := List.mem_singleton.mp hu
  intro p hp
  obtain rfl := List.mem_singleton.mp hp
  exact fun node path h => trivial

end Sample

/-- Both documents are deleted by the plugin. The second time the wish to cancel is not taken back,
and only the first file is gone after a commit. -/
theorem Session.cancel_keeps_first_files_wavering :
    (Sample.wavering.update (Sample.texts ["a.txt", "b.txt"]) .none).session.state = .canceled ∧
      (Sample.wavering.update (Sample.texts ["a.txt", "b.txt"]) .none).session.changes =
        [⟨"a.txt", "x\n", ""⟩] ∧
      ∃ e' s' report,
        (Sample.wavering.update (Sample.texts ["a.txt", "b.txt"]) .none).session.commit
          (Sample.texts ["a.txt", "b.txt"]) = (e', s', .ok report) ∧
        e'.fileAt? ["proj", "a.txt"] = none ∧
        e'.fileAt? ["proj", "b.txt"] = some (Bytes.ofText "x\n") := by
  let first := Turn.begin .abort .none 0 ⟨"a.txt", "x\n", false⟩
    (Sample.wavering.firstPass Sample.snapshot)
  let t := Turn.begin .abort .none 1 ⟨"b.txt", "x\n", false⟩ first.stop
  obtain ⟨hfirst, hlast, hcanceled⟩ : first.isCompleted = true ∧ t.isCompleted = false ∧
      t.isCanceled = true := by
    decide +kernel
  have hcourse : Sample.wavering.course (Sample.texts ["a.txt", "b.txt"]) .none =
      [first] ++ t :: [] := by
    rw [course, Sample.snapshot_wavering]
    change first :: (if first.isCompleted then t :: (if t.isCompleted then [] else []) else []) = _
    rw [hfirst, hlast]
    rfl
  obtain ⟨hiff, hkeeps⟩ := Session.cancel_keeps_first_files (Sample.texts ["a.txt", "b.txt"]) .none
    Sample.readsOnly_wavering
  obtain ⟨-, -, -, -, hchanges, hcommit⟩ :=
    hkeeps _ _ _ _ Sample.snapshot_wavering hcourse hcanceled
  have hproposed : [first].filterMap Turn.proposed? = [⟨"a.txt", "x\n", ""⟩] := by
    decide +kernel
  rw [hproposed] at hchanges hcommit
  have hstate := hiff.mpr ⟨t, by simp [hcourse], hcanceled⟩
  have hproject := Sample.isProject_texts ["a.txt", "b.txt"]
  obtain ⟨e', report, hall⟩ : ∃ e' report,
      commitAll "proj" {} [⟨"a.txt", "x\n", ""⟩] (Sample.texts ["a.txt", "b.txt"]) =
        (e', .ok report) :=
    ⟨_, _, rfl⟩
  obtain ⟨s', hdone⟩ := exists_commit hchanges hall
  obtain ⟨-, -, hcommitted⟩ := hcommit _ _ _ _ hproject.tree hdone
  have hfiles := hcommitted _ hproject (by decide)
  exact ⟨hstate, hchanges, e', s', report, hdone, hfiles.done ⟨"a.txt", "x\n", ""⟩ (by simp),
    (hfiles.others ["proj", "b.txt"] (by decide)).trans rfl⟩

end Codemod
