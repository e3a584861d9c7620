import Codemod.Proofs.Rule.Plugins
import Codemod.Proofs.Session.Snapshot
import Codemod.Session.Setup

/-!
# Files that rules delete

That a file is to be deleted is first an outcome of a plugin, then the empty text that an updater
gives back, then a change to empty content, and at last a file that is gone. Of a file that has
text, only a rule that deletes it leaves nothing, so that the way can be gone backwards. For a file
that is empty from the start, to give back nothing is no change, and the file is not deleted.

## Main results

* `Session.ofConfig_ok` — the updaters that settings describe.
* `Session.returned_ok` — no updater has failed in a run that is finished and has skipped nothing.
* `Session.returned_eq_empty_iff` — the turns that give back nothing.
* `Session.deletes_matching_files` — the files that are gone after a run and a commit.
-/

namespace Codemod

/-! ## Updaters that fail -/

theorem dispatch_eq_none {path src : String} {us : List Updater} {h : Host}
    (hd : dispatch path src us h = none) : ∀ u ∈ us, u.supports path = false := by
  induction us with
  | nil => simp
  | cons u rest ih =>
    rw [dispatch] at hd
    split at hd
    · cases hd
    next hu =>
      rw [Option.map_eq_none_iff] at hd
      exact List.forall_mem_cons.mpr ⟨by simpa using hu, ih hd⟩

theorem exists_update_of_dispatch {path src : String} {us us' : List Updater} {h h' : Host}
    {r : Except Failure String} (hd : dispatch path src us h = some (r, us', h')) :
    ∃ u ∈ us, u.supports path = true ∧ (u.update path src h).1 = r := by
  obtain ⟨u, hu, hr, -⟩ := exists_updater_of_dispatch hd
  exact ⟨u, List.mem_of_find?_eq_some hu, by simpa using List.find?_some hu, hr⟩

/-- Updaters with the same setup claim the same paths. -/
theorem Updater.exists_supports {us vs : List Updater} (h : us.map setup = vs.map setup)
    {path : String} (hus : ∃ u ∈ us, u.supports path = true) :
    ∃ v ∈ vs, v.supports path = true := by
  obtain ⟨u, hu, hclaims⟩ := hus
  have hmem : u.setup ∈ vs.map setup := h ▸ List.mem_map_of_mem hu
  obtain ⟨v, hv, heq⟩ := List.mem_map.mp hmem
  exact ⟨v, hv, (supports_congr heq path).trans hclaims⟩

theorem Pass.Fails.begin_abort {p : Pass} {f : ProjectFile} {e : Failure} (h : p.Fails f e)
    (signals : Signals) (i : Nat) : (p.begin .abort signals i f).1 = .error e := by
  obtain ⟨hbinary, src, updaters, host, hsrc, hd⟩ := h
  simp [begin, transform, hbinary, hsrc, hd]

theorem Turn.fails_of_returned? {t : Turn} {e : Failure} (h : t.returned? = some (.error e)) :
    t.start.Fails t.file e := by
  rw [returned?] at h
  split at h
  next src hbinary hsrc =>
    obtain ⟨⟨r, us, host⟩, hd, rfl⟩ := Option.map_eq_some_iff.mp h
    exact ⟨hbinary, src, us, host, hsrc, hd⟩
  next => cases h

theorem Turn.path_of_proposed? {t : Turn} {c : Change} (h : t.proposed? = some c) :
    c.path = t.file.path := by
  rw [proposed?] at h
  split at h
  · split at h
    · cases h
    · exact (congrArg Change.path (Option.some.inj h)).symm
  · cases h

/-- To delete a file is to give back nothing where there was something. -/
theorem Turn.proposes_deletion {t : Turn} :
    (∃ c, t.proposed? = some c ∧ c.isDeletion = true) ↔
      t.returned? = some (.ok "") ∧ t.file.content ≠ "" := by
  rw [proposed?]
  rcases t.returned? with _ | e | content
  · simp
  · simp
  · dsimp only
    split
    next heq => simp [heq]
    next hne =>
      constructor
      · rintro ⟨c, hc, hdeletion⟩
        obtain rfl := Option.some.inj hc
        obtain rfl : content = "" := of_decide_eq_true hdeletion
        exact ⟨rfl, Ne.symm hne⟩
      · rintro ⟨hcontent, -⟩
        obtain rfl : content = "" := by simpa using hcontent
        exact ⟨_, rfl, rfl⟩

namespace Session

variable {engine : Pattern.Engine} {s : Session} {d : Disk} {signals : Signals} {o : Overlay}

theorem returned_ok (ho : s.snapshot d = .ok o)
    (hstate : (s.update d signals).session.state = .finished)
    (hskipped : (s.update d signals).session.skipped = []) {t : Turn}
    (ht : t ∈ s.course d signals) (e : Failure) : t.returned? ≠ some (.error e) := by
  intro he
  have hfails := Turn.fails_of_returned? he
  have hcompleted := (finished_iff ho).mp hstate t ht
  cases honError : s.onError with
  | abort =>
    obtain ⟨before, later, hcourse⟩ := List.append_of_mem ht
    rw [course_of_snapshot ho, honError] at hcourse
    have hresult := congrArg Turn.result (start_of_course hcourse).1
    have herror : t.result = .error e := hresult.trans (hfails.begin_abort signals t.index)
    simp [Turn.isCompleted, herror] at hcompleted
  | skipFile =>
    rw [skipped_update honError ho, List.filterMap_eq_nil_iff] at hskipped
    have hnone : t.start.skip? t.file = none := hskipped t ht
    rw [hfails.skip?_eq] at hnone
    cases hnone

/-! ## Sessions that follow rules -/

theorem foldl_skipDir (names : List String) (s : Session) :
    (names.foldl skipDir s).root = s.root ∧ (names.foldl skipDir s).updaters = s.updaters := by
  induction names generalizing s with
  | nil => exact ⟨rfl, rfl⟩
  | cons name rest ih =>
    have hone : (s.skipDir name).root = s.root ∧ (s.skipDir name).updaters = s.updaters := by
      rw [skipDir]
      split <;> exact ⟨rfl, rfl⟩
    obtain ⟨hroot, hupdaters⟩ := ih (s.skipDir name)
    exact ⟨hroot.trans hone.1, hupdaters.trans hone.2⟩

/-- Every updater of a session has the plugins of the rules that are about its documents. -/
theorem ofConfig_ok {root : String} {c : Config} {skip : List String}
    (h : ofConfig engine root c skip = .ok s) :
    s.root = root ∧ ∀ u ∈ s.updaters, u.Follows engine c.rules := by
  obtain ⟨rules, hrules, h⟩ := ok_of_bind h
  obtain ⟨matcher, -, h⟩ := ok_of_bind h
  obtain rfl := Except.ok.inj h
  have hcompile : RuleSet.compile engine c.rules = .ok rules := by
    cases hc : RuleSet.compile engine c.rules with
    | error e => simp [hc, Except.mapError] at hrules
    | ok set => simpa [hc, Except.mapError] using hrules
  obtain ⟨hroot, hupdaters⟩ := foldl_skipDir (c.skipDirs ++ skip) _
  refine ⟨hroot, fun u hu => ?_⟩
  rw [hupdaters] at hu
  have hplugins := RuleSet.plugins_compile hcompile
  simp only [List.mem_cons, List.not_mem_nil, or_false] at hu
  rcases hu with rfl | rfl | rfl | rfl
  · exact ⟨hplugins .code, rfl⟩
  · exact ⟨hplugins .markup, rfl⟩
  · exact ⟨hplugins .json, rfl⟩
  · exact ⟨hplugins .text, rfl⟩

theorem updaterFor?_isSome {path : String} :
    (s.updaterFor? path).isSome = true ↔ ∃ u ∈ s.updaters, u.supports path = true := by
  simp [updaterFor?]

/-- Of a file that is not empty, nothing is given back if and only if it is text, and there are an
updater that claims it and a rule that deletes it. -/
theorem returned_eq_empty_iff {rules : List Rule} (hs : ∀ u ∈ s.updaters, u.Follows engine rules)
    (ho : s.snapshot d = .ok o) (hstate : (s.update d signals).session.state = .finished)
    (hskipped : (s.update d signals).session.skipped = []) {t : Turn}
    (ht : t ∈ s.course d signals) (hcontent : t.file.content ≠ "") :
    t.returned? = some (.ok "") ↔
      t.file.binary = false ∧ (s.updaterFor? t.file.path).isSome = true ∧
        ∃ rule ∈ rules, rule.deletes engine t.file.path = true := by
  have hsrc := read?_start ho (fun u hu => (hs u hu).readsOnly) ht
  have hsetup := setup_start ho ht
  cases hbinary : t.file.binary with
  | true => simp [Turn.returned?, hbinary]
  | false =>
    have hreturned : t.returned? = (dispatch t.file.path t.file.content t.start.updaters
        t.start.host).map (·.1) := by
      rw [Turn.returned?, hbinary, hsrc]
    have hok := returned_ok ho hstate hskipped ht
    rw [updaterFor?_isSome]
    rw [hreturned] at hok ⊢
    rcases hd : dispatch t.file.path t.file.content t.start.updaters t.start.host with
      _ | ⟨e | content, us, host⟩ <;> rw [hd] at hok
    · refine iff_of_false (by simp) ?_
      rintro ⟨-, hclaimed, -⟩
      obtain ⟨u, hu, hclaims⟩ := Updater.exists_supports hsetup.symm hclaimed
      simp [dispatch_eq_none hd u hu] at hclaims
    · exact absurd rfl (hok e)
    · obtain ⟨u, hu, hclaims, hupdate⟩ := exists_update_of_dispatch hd
      obtain ⟨hplugins, hwriter⟩ := Updater.forall_of_setup
        (fun c => c.plugins = rules.filterMap (Rule.plugin? engine c.kind) ∧ c.writer = .standard)
        hsetup (fun v hv => ⟨(hs v hv).plugins, (hs v hv).writer⟩) u hu
      have hfollows : u.Follows engine rules := ⟨hplugins, hwriter⟩
      have hclaimed := Updater.exists_supports hsetup ⟨u, hu, hclaims⟩
      rw [← hfollows.update_eq_empty_iff hcontent hupdate]
      simp [hclaimed]

end Session

/-! ## The disk -/

/-- The files that are gone after changes have been brought to the disk. -/
theorem Committed.removed_iff {root : String} {r : Disk.Place} {changes : List Change}
    {d d' : Disk} (h : Committed root r changes d d') {p : Disk.Place} :
    d.fileAt? p ≠ none ∧ d'.fileAt? p = none ↔
      ∃ c ∈ changes, c.isDeletion = true ∧ p = r ++ Disk.Place.of c.path ∧
        d.fileAt? p ≠ none := by
  constructor
  · rintro ⟨hbefore, hafter⟩
    obtain ⟨c, hc, hplace⟩ : ∃ c ∈ changes, p = r ++ Disk.Place.of c.path := by
      by_contra hnone
      push Not at hnone
      exact hbefore ((h.others p hnone).symm.trans hafter)
    refine ⟨c, hc, ?_, hplace, hbefore⟩
    have hbytes := h.done c hc
    rw [← hplace, hafter, Change.bytes?] at hbytes
    by_contra hkept
    simp [hkept] at hbytes
  · rintro ⟨c, hc, hdeletion, rfl, hbefore⟩
    refine ⟨hbefore, ?_⟩
    rw [h.done c hc, Change.bytes?, if_pos hdeletion]

namespace Disk.Reads

variable {d : Disk} {root path : String} {r : Disk.Place} {f : ProjectFile}

theorem exists_fileAt? (h : d.Reads root r path f) (ht : d.IsTree) :
    ∃ b, d.fileAt? (r ++ Disk.Place.of path) = some b ∧ f = .ofBytes path b := by
  obtain ⟨b, hl, hf⟩ := h
  exact ⟨b, fileAt?_eq_some.mpr (ht.locate_sound hl), hf⟩

/-- A file of the snapshot has text if the file on disk does. -/
theorem hasText_iff (h : d.Reads root r path f) (ht : d.IsTree) :
    f.binary = false ∧ f.content ≠ "" ↔
      ∃ b text, d.fileAt? (r ++ Disk.Place.of path) = some b ∧ b.toText? = some text ∧
        text ≠ "" := by
  obtain ⟨b, hb, rfl⟩ := h.exists_fileAt? ht
  rw [ProjectFile.ofBytes, hb]
  cases htext : b.toText? with
  | none => simp [htext]
  | some text => simp [htext]

/-- There is no backslash in the path of a file if there is none in the names of its project. -/
theorem no_backslash (h : d.Reads root r path f) (ht : d.IsTree)
    (hnames : ∀ x ∈ d.entries, r <+: x.1 → ∀ name ∈ x.1.drop r.length, '\\' ∉ name.shown.toList) :
    '\\' ∉ path.toList := by
  intro hmem
  obtain ⟨b, hb, -⟩ := h
  have hget : d.get? (r ++ Disk.Place.of path) = some (.file b) := ht.locate_sound hb
  have hentry := Disk.mem_entries_of_get? (by simp [Disk.Place.of_ne_nil]) hget
  obtain ⟨name, hname, hmem⟩ := Path.mem_segment_of_mem hmem (by decide)
  have hlast : Disk.Name.text name ∈ (r ++ Disk.Place.of path).drop r.length := by
    rw [List.drop_left]
    exact List.mem_map_of_mem hname
  exact hnames _ hentry (List.prefix_append _ _) _ hlast hmem

end Disk.Reads

namespace Session

variable {engine : Pattern.Engine} {s : Session} {d : Disk} {signals : Signals} {o : Overlay}
  {r : Disk.Place} {paths : List String}

/-- The files of a snapshot are those at the paths that the walk tells, as they are on disk, if
there is no backslash in the names of the project. -/
theorem files_of_walk (hd : d.IsProject s.root r) (hn : d.IsNamed)
    (hnames : ∀ x ∈ d.entries, r <+: x.1 → ∀ name ∈ x.1.drop r.length, '\\' ∉ name.shown.toList)
    (ho : s.snapshot d = .ok o) (hw : d.walk s.root s.skipDirs = .ok paths) :
    (∀ path, path ∈ o.files.map (·.path) ↔ path ∈ paths) ∧
      ∀ f ∈ o.files, d.Reads s.root r f.path f := by
  obtain ⟨files, hw', hloads, rfl⟩ := exists_loads_of_snapshot ho
  obtain rfl : paths = files.map (·.path) := Except.ok.inj (hw.symm.trans hw')
  have hplain : ∀ f ∈ files, Path.IsPlain f.path := fun f hf =>
    (Disk.tells_of_walk hn hw _ (List.mem_map_of_mem hf)).plain
  have hreads : ∀ f ∈ files, d.Reads s.root r f.path f := fun f hf =>
    (hloads f hf).reads hd (hplain f hf)
  have hforms : ∀ f ∈ files, Path.normalize f.path = f.path := fun f hf =>
    (hplain f hf).normalize_eq ((hreads f hf).no_backslash hd.tree hnames)
  refine ⟨fun path => ?_, fun f hf =>
    hreads f (Overlay.mem_of_mem_files_ofFiles s.root hforms f hf)⟩
  rw [Overlay.map_path_ofFiles, walkOrder, List.map_congr_left hforms, List.mem_eraseDups]

/-- The turns of a run that is finished are those of the paths that the walk tells, with the files
there as they are on disk. -/
theorem course_of_walk (hd : d.IsProject s.root r) (hn : d.IsNamed)
    (hnames : ∀ x ∈ d.entries, r <+: x.1 → ∀ name ∈ x.1.drop r.length, '\\' ∉ name.shown.toList)
    (hw : d.walk s.root s.skipDirs = .ok paths)
    (hstate : (s.update d signals).session.state = .finished) :
    (∀ path, (∃ t ∈ s.course d signals, t.file.path = path) ↔ path ∈ paths) ∧
      ∀ t ∈ s.course d signals, d.Reads s.root r t.file.path t.file := by
  have hgoes : (s.update d signals).session.state ≠ .errored := by simp [hstate]
  obtain ⟨o, ho⟩ := exists_snapshot hgoes
  have hcourse := map_file_of_completed ho ((finished_iff ho).mp hstate)
  obtain ⟨hpaths, hreads⟩ := files_of_walk hd hn hnames ho hw
  refine ⟨fun path => ?_, fun t ht => hreads _ (hcourse ▸ List.mem_map_of_mem ht)⟩
  rw [← hpaths, ← hcourse, List.map_map, List.mem_map]
  rfl

/-- The changes of a run that is finished and follows rules, by the turns that propose them. -/
theorem mem_changes_iff {rules : List Rule} (hs : ∀ u ∈ s.updaters, u.Follows engine rules)
    (ho : s.snapshot d = .ok o) (hstate : (s.update d signals).session.state = .finished)
    {c : Change} :
    c ∈ (s.update d signals).session.changes ↔
      ∃ t ∈ s.course d signals, t.proposed? = some c := by
  have hcompleted := (finished_iff ho).mp hstate
  rw [changes_of_readsOnly ho (fun u hu => (hs u hu).readsOnly) (by simp [hstate]),
    List.filter_eq_self.mpr hcompleted, List.mem_filterMap]

/-- The files that are gone after a run is finished without skipping any file, and its changes are
committed: those that the walk has found, that are text and not empty, that an updater claims and
that a rule deletes. -/
theorem deletes_matching_files {root : String} {c : Config} {skip : List String}
    {d' : Disk} {s' : Session} {report : Report} (hs : ofConfig engine root c skip = .ok s)
    (hd : d.IsProject root r) (hn : d.IsNamed)
    (hnames : ∀ x ∈ d.entries, r <+: x.1 → ∀ name ∈ x.1.drop r.length, '\\' ∉ name.shown.toList)
    (hstate : (s.update d signals).session.state = .finished)
    (hskipped : (s.update d signals).session.skipped = [])
    (hcommit : (s.update d signals).session.commit d = (d', s', .ok report)) :
    ∃ paths, d.walk root s.skipDirs = .ok paths ∧
      ∀ p, (d.fileAt? p ≠ none ∧ d'.fileAt? p = none) ↔
        ∃ path ∈ paths, p = r ++ Disk.Place.of path ∧
          (∃ b text, d.fileAt? p = some b ∧ b.toText? = some text ∧ text ≠ "") ∧
          (s.updaterFor? path).isSome = true ∧
          ∃ rule ∈ c.rules, rule.deletes engine path = true := by
  obtain ⟨rfl, hfollows⟩ := ofConfig_ok hs
  have hgoes : (s.update d signals).session.state ≠ .errored := by simp [hstate]
  obtain ⟨o, ho⟩ := exists_snapshot hgoes
  obtain ⟨paths, hw, -⟩ := map_path_snapshot ho
  obtain ⟨hcourse, hreads⟩ := course_of_walk hd hn hnames hw hstate
  have hchange {b : Change} := mem_changes_iff hfollows ho hstate (c := b)
  have hplain : ∀ b ∈ (s.update d signals).session.changes, Path.IsPlain b.path := by
    intro b hb
    obtain ⟨t, ht, hproposed⟩ := hchange.mp hb
    rw [Turn.path_of_proposed? hproposed]
    exact (Disk.tells_of_walk hn hw _ ((hcourse _).mp ⟨t, ht, rfl⟩)).plain
  have hdone := committed_of_commit ho hgoes hcommit hd hplain
  refine ⟨paths, hw, fun p => hdone.removed_iff.trans ⟨?_, ?_⟩⟩
  · rintro ⟨b, hb, hdeletion, rfl, -⟩
    obtain ⟨t, ht, hproposed⟩ := hchange.mp hb
    obtain ⟨hempty, hcontent⟩ := Turn.proposes_deletion.mp ⟨b, hproposed, hdeletion⟩
    obtain ⟨hbinary, hclaimed, hrule⟩ :=
      (returned_eq_empty_iff hfollows ho hstate hskipped ht hcontent).mp hempty
    rw [Turn.path_of_proposed? hproposed]
    exact ⟨t.file.path, (hcourse _).mp ⟨t, ht, rfl⟩, rfl,
      ((hreads t ht).hasText_iff hd.tree).mp ⟨hbinary, hcontent⟩, hclaimed, hrule⟩
  · rintro ⟨path, hpath, rfl, htext, hclaimed, hrule⟩
    obtain ⟨t, ht, rfl⟩ := (hcourse path).mpr hpath
    obtain ⟨hbinary, hcontent⟩ := ((hreads t ht).hasText_iff hd.tree).mpr htext
    have hempty := (returned_eq_empty_iff hfollows ho hstate hskipped ht hcontent).mpr
      ⟨hbinary, hclaimed, hrule⟩
    obtain ⟨b, hproposed, hdeletion⟩ := Turn.proposes_deletion.mpr ⟨hempty, hcontent⟩
    obtain ⟨bytes, text, hfile, -⟩ := htext
    exact ⟨b, hchange.mpr ⟨t, ht, hproposed⟩, hdeletion,
      by rw [Turn.path_of_proposed? hproposed], by simp [hfile]⟩

end Session

namespace Sample

/-- Files with an `a` in their path are deleted. -/
def deletion : Config :=
  { rules := [.deleteFiles "a"] }

def deleting : Session :=
  (Session.ofConfig .standard "proj" deletion []).toOption.getD
    { updaters := [], overlay := { root := "proj" } }

theorem ofConfig_deletion : Session.ofConfig .standard "proj" deletion [] = .ok deleting := by
  have hok : (Session.ofConfig .standard "proj" deletion []).isOk = true := by decide +kernel
  rw [deleting]
  cases h : Session.ofConfig .standard "proj" deletion [] with
  | error e => simp [h, Except.isOk, Except.toBool] at hok
  | ok s => rfl

/-- A project with one file, which is empty. -/
def blank : Disk :=
  { entries := [(["proj"], .folder), (["proj", "a.txt"], .file (Bytes.ofText ""))] }

end Sample

/-- Of two files with text, the one that the rule is about is deleted. -/
theorem Session.deletes_matching_files_texts :
    ∃ d' s' report, (Sample.deleting.update (Sample.texts ["a.txt", "b.txt"]) .none).session.commit
        (Sample.texts ["a.txt", "b.txt"]) = (d', s', .ok report) ∧
      d'.fileAt? ["proj", "a.txt"] = none ∧ d'.fileAt? ["proj", "b.txt"] ≠ none := by
  obtain ⟨hroot, hskip⟩ :
      Sample.deleting.root = "proj" ∧ Sample.deleting.skipDirs = ["node_modules"] := by
    decide +kernel
  have hwalk : (Sample.texts ["a.txt", "b.txt"]).walk "proj" Sample.deleting.skipDirs =
      .ok ["a.txt", "b.txt"] := by
    rw [hskip, Sample.walk_texts]
  obtain ⟨hstate, hskipped, hchanges⟩ :
      (Sample.deleting.update (Sample.texts ["a.txt", "b.txt"]) .none).session.state = .finished ∧
        (Sample.deleting.update (Sample.texts ["a.txt", "b.txt"]) .none).session.skipped = [] ∧
        (Sample.deleting.update (Sample.texts ["a.txt", "b.txt"]) .none).session.changes =
          [⟨"a.txt", "x\n", ""⟩] := by
    unfold Session.update
    dsimp only
    rw [root_reset, skipDirs_reset, hroot, hwalk]
    decide +kernel
  obtain ⟨d', report, hall⟩ : ∃ d' report,
      commitAll "proj" {} [⟨"a.txt", "x\n", ""⟩] (Sample.texts ["a.txt", "b.txt"]) =
        (d', .ok report) :=
    ⟨_, _, rfl⟩
  rw [← hroot] at hall
  obtain ⟨s', hcommit⟩ := exists_commit hchanges hall
  obtain ⟨paths, hpaths, hgone⟩ := Session.deletes_matching_files Sample.ofConfig_deletion
    (Sample.isProject_texts _) Sample.isTextNamed_texts.toIsNamed (by decide) hstate hskipped
    hcommit
  have hfirst : "a.txt" ∈ paths := by
    simp [← Except.ok.inj (hwalk.symm.trans hpaths)]
  refine ⟨d', s', report, hcommit, ((hgone ["proj", "a.txt"]).mpr ?_).2, fun hnone => ?_⟩
  · exact ⟨"a.txt", hfirst, by decide, ⟨Bytes.ofText "x\n", "x\n", by decide +kernel⟩,
      by decide +kernel⟩
  · obtain ⟨path, -, hplace, -, -, hrule⟩ := (hgone ["proj", "b.txt"]).mp ⟨by decide, hnone⟩
    obtain rfl : "b.txt" = path := place_injective (r := ["proj"]) hplace
    revert hrule
    decide +kernel

/-- A file that is empty is not deleted, although a rule is about it. -/
theorem Session.deletion_spares_empty_file :
    Session.ofConfig .standard "proj" Sample.deletion [] = .ok Sample.deleting ∧
      Sample.blank.walk "proj" Sample.deleting.skipDirs = .ok ["a.txt"] ∧
      (Sample.deleting.update Sample.blank .none).session.state = .finished ∧
      (Sample.deleting.update Sample.blank .none).session.skipped = [] ∧
      (Bytes.ofText "").toText? = some "" ∧
      (Sample.deleting.updaterFor? "a.txt").isSome = true ∧
      (∃ rule ∈ Sample.deletion.rules, rule.deletes .standard "a.txt" = true) ∧
      ∃ d' s' report, (Sample.deleting.update Sample.blank .none).session.commit Sample.blank =
          (d', s', .ok report) ∧
        d'.fileAt? ["proj", "a.txt"] = some (Bytes.ofText "") := by
  obtain ⟨hwalk, hstate, hskipped, hchanges⟩ :
      Sample.blank.walk "proj" Sample.deleting.skipDirs = .ok ["a.txt"] ∧
        (Sample.deleting.update Sample.blank .none).session.state = .finished ∧
        (Sample.deleting.update Sample.blank .none).session.skipped = [] ∧
        (Sample.deleting.update Sample.blank .none).session.changes = [] := by
    decide +kernel
  obtain ⟨s', hcommit⟩ := exists_commit (e := Sample.blank) hchanges rfl
  exact ⟨Sample.ofConfig_deletion, hwalk, hstate, hskipped, by decide +kernel, by decide +kernel,
    by decide +kernel, _, s', _, hcommit, rfl⟩

end Codemod
