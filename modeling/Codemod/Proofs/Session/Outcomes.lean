import Codemod.Proofs.Overlay.Rounds
import Codemod.Proofs.Session.Dispatch

/-!
# The changes of a run whose plugins only read

Where no plugin edits files through its host, all that a run does to its overlay is to merge what
updaters return. Every file is handed over as it was read from the disk, and the changes at the end
of the run are the files, in the order of their turns, for which an updater has returned another
content in a turn that was completed.

## Main definitions

* `Updater.ReadsOnly` — no plugin of the updater edits files through its host.
* `Turn.returned?` — what an updater returns in a turn.
* `Turn.proposed?` — the change that this makes to the file.

## Main results

* `Session.read?_start` — what a turn finds.
* `Session.changes_of_readsOnly` — the changes of a run.
-/

namespace Codemod

/-! ## Plugins that only read -/

theorem Script.ReadsOnly.edits_eq_nil {s : Script α} {h : Host} (hs : s.ReadsOnly h) :
    s.edits h = [] := by
  induction s generalizing h with
  | done a => rfl
  | contains p next ih => exact ih _ hs
  | list p r next ih => exact ih _ hs
  | read p next ih => exact ih _ hs
  | add p c next _ => exact hs.elim
  | delete p next _ => exact hs.elim
  | cancel b next ih => exact ih hs
  | note v next ih => exact ih hs

theorem pluginEdits_of_readsOnly {plugins : List (Plugin N)} (hp : ∀ p ∈ plugins, p.ReadsOnly)
    (path : String) (node : N) (h : Host) : pluginEdits path plugins node h = [] := by
  induction plugins generalizing node h with
  | nil => rfl
  | cons p rest ih =>
    rw [List.forall_mem_cons] at hp
    rw [pluginEdits, (hp.1 node path h).edits_eq_nil, List.nil_append]
    rcases (p node path).run h with ⟨f | (_ | next | _), h'⟩
    · rfl
    · exact ih hp.2 _ _
    · exact ih hp.2 _ _
    · rfl

namespace Updater

/-- No plugin of the updater edits files through its host. -/
def ReadsOnly (u : Updater) : Prop :=
  ∀ p ∈ u.plugins, p.ReadsOnly

/-- What is said of updaters by their setup goes for others with the same setup. -/
theorem forall_of_setup (P : Setup → Prop) {us vs : List Updater}
    (h : us.map setup = vs.map setup) (hvs : ∀ v ∈ vs, P v.setup) : ∀ u ∈ us, P u.setup := by
  intro u hu
  have hmem : u.setup ∈ vs.map setup := h ▸ List.mem_map_of_mem hu
  obtain ⟨v, hv, heq⟩ := List.mem_map.mp hmem
  exact heq ▸ hvs v hv

theorem ReadsOnly.edits_eq_nil {u : Updater} (hu : u.ReadsOnly) (path src : String) (h : Host) :
    u.edits path src h = [] := by
  rw [edits]
  split
  · rfl
  · exact pluginEdits_of_readsOnly hu ..

end Updater

theorem Pass.edits_of_readsOnly {p : Pass} (hp : ∀ u ∈ p.updaters, u.ReadsOnly)
    (f : ProjectFile) : p.edits f = [] := by
  rw [edits]
  split
  · rw [dispatchEdits]
    split
    · rfl
    next u hu => exact (hp u (List.mem_of_find?_eq_some hu)).edits_eq_nil ..
  · rfl

/-! ## What comes back -/

namespace Turn

/-- What the updater that the document is handed to returns. -/
def returned? (t : Turn) : Option (Except Failure String) :=
  match t.file.binary, t.start.overlay.read? t.file.path with
  | false, some src => (dispatch t.file.path src t.start.updaters t.start.host).map (·.1)
  | _, _ => none

/-- The change from what the file was read as to what an updater returns. -/
def proposed? (t : Turn) : Option Change :=
  match t.returned? with
  | some (.ok content) =>
    if content = t.file.content then none
    else some { path := t.file.path, before := t.file.content, content }
  | _ => none

/-- The change from what the file was read as to what is merged. -/
def change? (t : Turn) : Option Change :=
  match t.merged? with
  | some content =>
    if content = t.file.content then none
    else some { path := t.file.path, before := t.file.content, content }
  | none => none

theorem merged?_of_not_completed {t : Turn} (h : t.isCompleted = false) : t.merged? = none := by
  unfold isCompleted at h
  unfold merged?
  split at h
  next => rfl
  next => rw [if_pos (by simpa using h)]

/-- What is merged at the end of a turn that is completed is what an updater returns, if the file
was handed over as it was read. -/
theorem change?_eq {onError : OnError} {signals : Signals} {t : Turn}
    (ht : t = .begin onError signals t.index t.file t.start) (hcompleted : t.isCompleted = true)
    (hsrc : t.start.overlay.read? t.file.path = some t.file.content) :
    t.change? = t.proposed? := by
  have hmerged : ∀ content, t.result = .ok content → t.merged? = content := by
    intro content hresult
    rw [isCompleted, hresult] at hcompleted
    have hgoes : t.halfway.host.canceled = false := by simpa using hcompleted
    rw [merged?, hresult]
    simp [hgoes]
  have hresult : t.result = (t.start.begin onError signals t.index t.file).1 := by
    rw [ht]
    rfl
  rw [Pass.begin] at hresult
  rw [change?, proposed?, returned?, hsrc]
  cases hbinary : t.file.binary with
  | true => rw [hmerged none (by simpa [hbinary] using hresult)]
  | false =>
    rw [hbinary, if_neg Bool.false_ne_true, Pass.transform, hsrc] at hresult
    dsimp only at hresult ⊢
    rcases hd : dispatch t.file.path t.file.content t.start.updaters t.start.host with
      _ | ⟨e | content, us, h⟩ <;> rw [hd] at hresult
    · rw [hmerged _ hresult]
      simp
    · cases onError with
      | abort => simp [isCompleted, hresult] at hcompleted
      | skipFile =>
        rw [hmerged _ hresult]
        rfl
    · rw [hmerged _ hresult]
      rfl

end Turn

/-! ## The overlay after edits of different paths -/

namespace Overlay

/-- Of edits with different targets, each path has at most one that concerns it. -/
theorem record?_editAll_single {o : Overlay} {es fs : List Edit} {path : String}
    (content : String) (hnone : o.record? (Path.normalize path) = none)
    (hes : ∀ e ∈ es, e.target ≠ Path.normalize path)
    (hfs : ∀ e ∈ fs, e.target ≠ Path.normalize path) :
    (o.editAll (es ++ .add path content :: fs)).record? (Path.normalize path) =
      if o.original (Path.normalize path) = content then none
      else some {
        path := Path.normalize path
        before := o.original (Path.normalize path)
        content } := by
  have hbefore : (o.editAll es).record? (Path.normalize path) = none :=
    (o.record?_editAll_of_ne hes).trans hnone
  have hsplit : o.editAll (es ++ .add path content :: fs) =
      ((o.editAll es).add path content).editAll fs := by
    rw [← editAll_editAll]
    rfl
  rw [hsplit, record?_editAll_of_ne _ hfs, record?_add_self, hbefore, original_editAll]

theorem net?_eq_self {o : Overlay} {path : String} {c : Change}
    (h : o.record? path = if c.before = c.content then none else some c) :
    o.net? path = if c.before = c.content then none else some c := by
  rw [net?, h]
  split
  · rfl
  next hne => simp [Change.isNet, hne]

end Overlay

/-! ## Runs -/

namespace Session

variable {s : Session} {d : Disk} {signals : Signals} {o : Overlay}

/-- The paths of a snapshot are in project form. -/
theorem normalize_of_mem_snapshot (ho : s.snapshot d = .ok o) {f : ProjectFile} (hf : f ∈ o.files) :
    Path.normalize f.path = f.path := by
  obtain ⟨paths, -, hpaths⟩ := map_path_snapshot ho
  have hmem : f.path ∈ (paths.map Path.normalize).eraseDups := hpaths ▸ List.mem_map_of_mem hf
  rw [List.mem_eraseDups] at hmem
  obtain ⟨x, -, hx⟩ := List.mem_map.mp hmem
  rw [← hx, Path.normalize_normalize]

theorem records_snapshot (ho : s.snapshot d = .ok o) : o.records = [] := by
  obtain ⟨files, -, rfl⟩ := snapshot_ok ho
  exact Overlay.records_ofFiles s.root files

theorem file?_of_mem_snapshot (ho : s.snapshot d = .ok o) {f : ProjectFile} (hf : f ∈ o.files) :
    o.file? f.path = some f := by
  cases hg : o.file? f.path with
  | none => exact absurd (List.mem_map_of_mem hf) (Overlay.file?_eq_none.mp hg)
  | some g =>
    have hpath : g.path = f.path := by simpa using List.find?_some hg
    rw [List.inj_on_of_nodup_map (valid_snapshot ho).files_nodup (List.mem_of_find?_eq_some hg) hf
      hpath]

theorem original_of_mem_snapshot (ho : s.snapshot d = .ok o) {f : ProjectFile} (hf : f ∈ o.files) :
    o.original f.path = f.content := by
  rw [Overlay.original, file?_of_mem_snapshot ho hf]
  rfl

theorem mem_files_of_mem_course (ho : s.snapshot d = .ok o) {t : Turn}
    (ht : t ∈ s.course d signals) : t.file ∈ o.files := by
  rw [course_of_snapshot ho] at ht
  exact (map_file_course signals 0 o.files (s.firstPass o) s.onError).subset
    (List.mem_map_of_mem ht)

/-- No path has two turns. -/
theorem path_ne_of_course (ho : s.snapshot d = .ok o) {before later : List Turn} {t : Turn}
    (h : s.course d signals = before ++ t :: later) :
    (∀ u ∈ before, u.file.path ≠ t.file.path) ∧ ∀ u ∈ later, u.file.path ≠ t.file.path := by
  have hfiles := (map_file_course signals 0 o.files (s.firstPass o) s.onError).sublist.map (·.path)
  rw [List.map_map, ← course_of_snapshot ho, h] at hfiles
  have hnodup := (valid_snapshot ho).files_nodup.sublist hfiles
  rw [List.map_append, List.map_cons, List.nodup_append, List.nodup_cons] at hnodup
  obtain ⟨-, ⟨hlater, -⟩, hbefore⟩ := hnodup
  refine ⟨fun u hu heq => ?_, fun u hu heq => ?_⟩
  · exact hbefore _ (List.mem_map_of_mem hu) _ List.mem_cons_self heq
  · exact hlater (List.mem_map.mpr ⟨u, hu, heq⟩)

theorem edits_of_readsOnly (ho : s.snapshot d = .ok o) (hs : ∀ u ∈ s.updaters, u.ReadsOnly)
    {t : Turn} (ht : t ∈ s.course d signals) : t.edits = [] := by
  have hturn := Updater.forall_of_setup (fun c => ∀ p ∈ c.plugins, p.ReadsOnly)
    (setup_start ho ht) hs
  exact Pass.edits_of_readsOnly hturn t.file

/-- All that a turn does is to merge. -/
theorem target_of_readsOnly (ho : s.snapshot d = .ok o) (hs : ∀ u ∈ s.updaters, u.ReadsOnly)
    {ts : List Turn} (hts : ∀ t ∈ ts, t ∈ s.course d signals) {path : String}
    (hpath : ∀ t ∈ ts, t.file.path ≠ path) :
    ∀ e ∈ ts.flatMap Turn.allEdits, e.target ≠ path := by
  intro e he
  obtain ⟨t, ht, he⟩ := List.mem_flatMap.mp he
  rw [Turn.allEdits, edits_of_readsOnly ho hs (hts t ht), List.nil_append, Option.mem_toList,
    Option.map_eq_some_iff] at he
  obtain ⟨content, -, rfl⟩ := he
  have hmem := mem_files_of_mem_course ho (hts t ht)
  rw [Edit.target, Edit.path, normalize_of_mem_snapshot ho hmem]
  exact hpath t ht

/-- A turn finds its file as it was read. -/
theorem read?_start (ho : s.snapshot d = .ok o) (hs : ∀ u ∈ s.updaters, u.ReadsOnly)
    {t : Turn} (ht : t ∈ s.course d signals) :
    t.start.overlay.read? t.file.path = some t.file.content := by
  have hmem := mem_files_of_mem_course ho ht
  have hnormal := normalize_of_mem_snapshot ho hmem
  obtain ⟨before, later, hcourse⟩ := List.append_of_mem ht
  have hearlier : ∀ u ∈ before, u ∈ s.course d signals := fun u hu => by simp [hcourse, hu]
  have hothers := target_of_readsOnly ho hs hearlier (path_ne_of_course ho hcourse).1
  rw [course_of_snapshot ho] at hcourse
  have hstart : t.start.overlay = o.editAll (before.flatMap Turn.allEdits) :=
    (start_of_course hcourse).2
  rw [hstart, Overlay.read?_editAll_of_ne o (hnormal.symm ▸ hothers), Overlay.read?, hnormal,
    Overlay.current?, o.record?_of_no_records (records_snapshot ho), file?_of_mem_snapshot ho hmem]
  rfl

/-- At the path of a turn, the run makes the change that the turn merges. -/
theorem net?_of_mem_course (ho : s.snapshot d = .ok o) (hs : ∀ u ∈ s.updaters, u.ReadsOnly)
    {t : Turn} (ht : t ∈ s.course d signals) :
    (o.editAll ((s.course d signals).flatMap Turn.allEdits)).net? t.file.path = t.change? := by
  have hmem := mem_files_of_mem_course ho ht
  have hnormal := normalize_of_mem_snapshot ho hmem
  have hnone := o.record?_of_no_records (records_snapshot ho) (Path.normalize t.file.path)
  have hedits := edits_of_readsOnly ho hs ht
  obtain ⟨before, later, hcourse⟩ := List.append_of_mem ht
  obtain ⟨hnebefore, hnelater⟩ := path_ne_of_course ho hcourse
  have hturns : ∀ u, u ∈ before ∨ u ∈ later → u ∈ s.course d signals := by
    rintro u (hu | hu) <;> simp [hcourse, hu]
  have hbefore := target_of_readsOnly ho hs (fun u hu => hturns u (.inl hu)) hnebefore
  have hlater := target_of_readsOnly ho hs (fun u hu => hturns u (.inr hu)) hnelater
  rw [← hnormal] at hbefore hlater
  rw [hcourse, List.flatMap_append, List.flatMap_cons, Turn.allEdits, hedits, List.nil_append,
    Turn.change?]
  cases t.merged? with
  | none =>
    have hrecord := (o.record?_editAll_of_ne
      (List.forall_mem_append.mpr ⟨hbefore, hlater⟩)).trans hnone
    rw [hnormal] at hrecord
    simp [Overlay.net?, hrecord]
  | some content =>
    have hrecord := Overlay.record?_editAll_single content hnone hbefore hlater
    rw [hnormal, original_of_mem_snapshot ho hmem] at hrecord
    have hnet := Overlay.net?_eq_self (c := ⟨t.file.path, t.file.content, content⟩) hrecord
    simpa [eq_comm] using hnet

/-- A path that no turn is about has no record. -/
theorem record?_of_no_turn (ho : s.snapshot d = .ok o) (hs : ∀ u ∈ s.updaters, u.ReadsOnly)
    {path : String} (hpath : ∀ t ∈ s.course d signals, t.file.path ≠ path) :
    (o.editAll ((s.course d signals).flatMap Turn.allEdits)).record? path = none := by
  have hothers := target_of_readsOnly ho hs (fun t ht => ht) hpath
  exact (o.record?_editAll_of_ne hothers).trans
    (o.record?_of_no_records (records_snapshot ho) path)

theorem created_of_readsOnly (ho : s.snapshot d = .ok o) (hs : ∀ u ∈ s.updaters, u.ReadsOnly) :
    (o.editAll ((s.course d signals).flatMap Turn.allEdits)).created = [] := by
  refine List.eq_nil_iff_forall_not_mem.mpr fun c hc => ?_
  obtain ⟨hrecord, hfile⟩ := Overlay.mem_created.mp hc
  rw [Overlay.file?_editAll] at hfile
  refine Overlay.record?_eq_none.mp ?_ (List.mem_map_of_mem hrecord)
  refine record?_of_no_turn ho hs fun t ht heq => ?_
  rw [← heq, file?_of_mem_snapshot ho (mem_files_of_mem_course ho ht)] at hfile
  cases hfile

/-- The files after the last turn are as they were. -/
theorem filterMap_net?_files (ho : s.snapshot d = .ok o) (hs : ∀ u ∈ s.updaters, u.ReadsOnly)
    {after : Overlay} (hafter : after = o.editAll ((s.course d signals).flatMap Turn.allEdits)) :
    (o.files.map (·.path)).filterMap after.net? =
      (s.course d signals).filterMap fun t => after.net? t.file.path := by
  obtain ⟨rest, hrest⟩ := map_file_course signals 0 o.files (s.firstPass o) s.onError
  rw [← course_of_snapshot ho] at hrest
  have hnone : (rest.map (·.path)).filterMap after.net? = [] := by
    refine List.filterMap_eq_nil_iff.mpr fun path hpath => ?_
    have hnodup := (valid_snapshot ho).files_nodup
    rw [← hrest, List.map_append, List.nodup_append] at hnodup
    have hturn : ∀ t ∈ s.course d signals, t.file.path ≠ path := fun t ht =>
      hnodup.2.2 _ (List.mem_map_of_mem (List.mem_map_of_mem ht)) _ hpath
    rw [Overlay.net?, hafter, record?_of_no_turn ho hs hturn]
    rfl
  rw [← hrest, List.map_append, List.filterMap_append, hnone, List.append_nil, List.map_map,
    List.filterMap_map]
  rfl

/-- A turn changes its file to what it has returned for it, if it was completed. -/
theorem change?_of_mem_course (ho : s.snapshot d = .ok o) (hs : ∀ u ∈ s.updaters, u.ReadsOnly)
    {t : Turn} (ht : t ∈ s.course d signals) :
    t.change? = if t.isCompleted then t.proposed? else none := by
  cases hcompleted : t.isCompleted with
  | true =>
    obtain ⟨before, later, hcourse⟩ := List.append_of_mem ht
    rw [course_of_snapshot ho] at hcourse
    rw [Turn.change?_eq (start_of_course hcourse).1 hcompleted (read?_start ho hs ht)]
    rfl
  | false => simp [Turn.change?, Turn.merged?_of_not_completed hcompleted]

/-- The changes of a run in order: what updaters have returned in the turns that were completed, for
files that were read with another content. -/
theorem changes_of_readsOnly (ho : s.snapshot d = .ok o) (hs : ∀ u ∈ s.updaters, u.ReadsOnly)
    (hstate : (s.update d signals).session.state ≠ .errored) :
    (s.update d signals).session.changes =
      ((s.course d signals).filter Turn.isCompleted).filterMap Turn.proposed? := by
  set after := o.editAll ((s.course d signals).flatMap Turn.allEdits) with hafter
  have hvalid : after.Valid := by
    obtain ⟨files, -, rfl⟩ := snapshot_ok ho
    exact Overlay.valid_history ..
  calc (s.update d signals).session.changes
      = after.changes := congrArg Overlay.changes (overlay_update ho hstate)
    _ = (o.files.map (·.path)).filterMap after.net? := by
        rw [hvalid.changes_eq, Overlay.order, created_of_readsOnly ho hs, hafter,
          Overlay.files_editAll]
        simp
    _ = (s.course d signals).filterMap fun t => after.net? t.file.path :=
        filterMap_net?_files ho hs hafter
    _ = (s.course d signals).filterMap fun t => if t.isCompleted then t.proposed? else none :=
        List.filterMap_congr fun t ht =>
          (net?_of_mem_course ho hs ht).trans (change?_of_mem_course ho hs ht)
    _ = ((s.course d signals).filter Turn.isCompleted).filterMap Turn.proposed? := by
        rw [List.filterMap_filter]

/-! ### Commits -/

theorem exists_snapshot (hstate : (s.update d signals).session.state ≠ .errored) :
    ∃ o, s.snapshot d = .ok o := by
  obtain ⟨-, hupdate⟩ | ⟨-, f, events, -, -, hupdate⟩ | ⟨-, o, -, -, -, ho, -⟩ :=
    s.update_cases d signals
  · simp [hupdate] at hstate
  · simp [hupdate, fail] at hstate
  · exact ⟨o, ho⟩

theorem root_update (s : Session) (d : Disk) (signals : Signals) :
    (s.update d signals).session.root = s.root :=
  congrArg Setup.root (s.setup_update d signals)

/-- If the changes of a run can be brought to the disk, a commit does it. -/
theorem exists_commit {changes : List Change} {e e' : Disk} {report : Report}
    (hchanges : (s.update d signals).session.changes = changes)
    (h : commitAll s.root {} changes e = (e', .ok report)) :
    ∃ s', (s.update d signals).session.commit e = (e', s', .ok report) := by
  rw [← hchanges, ← s.root_update d signals] at h
  have hcommit : (s.update d signals).session.overlay.commit e =
      (e', { (s.update d signals).session.overlay with records := [] }, .ok report) := by
    rw [Overlay.commit, ← root, ← Session.changes, h]
    rfl
  rw [commit, hcommit]
  exact ⟨_, rfl⟩

theorem overlay_commit {e e' : Disk} {s' : Session} {r : Except Failure Report}
    (h : s.commit e = (e', s', r)) : s.overlay.commit e = (e', s'.overlay, r) := by
  unfold commit at h
  rcases hcommit : s.overlay.commit e with ⟨a, o, b⟩
  rw [hcommit] at h
  cases h
  rfl

/-- A commit after a run brings the changes of the run to the disk. -/
theorem commitAll_of_commit {e e' : Disk} {s' : Session} {report : Report}
    (h : (s.update d signals).session.commit e = (e', s', .ok report)) :
    commitAll s.root {} (s.update d signals).session.changes e = (e', .ok report) := by
  have hall := (Overlay.commit_ok (overlay_commit h)).1
  rwa [← root, root_update] at hall

theorem committed_of_commit (ho : s.snapshot d = .ok o)
    (hstate : (s.update d signals).session.state ≠ .errored) {e e' : Disk} {s' : Session}
    {report : Report} (h : (s.update d signals).session.commit e = (e', s', .ok report))
    {r : Disk.Place} (hr : e.IsProject s.root r)
    (hplain : ∀ c ∈ (s.update d signals).session.changes, Path.IsPlain c.path) :
    Committed s.root r (s.update d signals).session.changes e e' := by
  have hvalid : (s.update d signals).session.overlay.Valid := by
    rw [overlay_update ho hstate]
    obtain ⟨files, -, rfl⟩ := snapshot_ok ho
    exact Overlay.valid_history ..
  exact commitAll_ok hr hplain hvalid.map_path_changes_nodup (commitAll_of_commit h)

end Session

end Codemod
