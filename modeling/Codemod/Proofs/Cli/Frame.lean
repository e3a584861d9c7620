import Codemod.Proofs.Cli.Consent
import Codemod.Proofs.Overlay.Interruption
import Codemod.Proofs.Session.Deletion

/-!
# What an update leaves alone

An update writes only to files that it has read as text, that a format claims, and that its walk has
come to. All other files of the disk keep their bytes, and there is no file where none was, also
when the changes could be brought to the disk only in part.

## Main definitions

* `Config.claims` — the paths that one of the formats claims.
* `Config.skips` — the names of folders that are not entered.

## Main results

* `fileAt?_commitAll` — the files that no change is about, whether a commit succeeds or not.
* `Session.source_of_mem_changes` — the files that a run changes.
* `Cli.update_leaves_other_files` — the files that an update leaves alone.
-/

namespace Codemod

/-! ## Commits that may fail -/

theorem Disk.AddsFolders.fileAt?_eq {d d' : Disk} {P : String → Prop} (h : d.AddsFolders d' P)
    (p : Disk.Place) : d'.fileAt? p = d.fileAt? p := by
  obtain ⟨places, rfl, -, hplaces⟩ := h
  by_cases hp : p ∈ places
  · simp [fileAt?, get?_withFolders, hp, (hplaces p hp).1]
  · exact fileAt?_congr (by simp [get?_withFolders, hp])

/-- However far a commit comes, files that no change is about are as they were. -/
theorem fileAt?_commitAll {root : String} {r : Disk.Place} {changes : List Change} {d : Disk}
    (hd : d.IsProject root r) (hplain : ∀ c ∈ changes, Path.IsPlain c.path) (report : Report)
    {p : Disk.Place} (hp : ∀ c ∈ changes, p ≠ r ++ Disk.Place.of c.path) :
    (commitAll root report changes d).1.fileAt? p = d.fileAt? p := by
  induction changes generalizing d report with
  | nil => rfl
  | cons c rest ih =>
    rw [List.forall_mem_cons] at hplain hp
    rw [commitAll]
    split
    next e f hc => exact (Change.addsFolders_of_commit hc).1.fileAt?_eq p
    next e hc =>
      obtain ⟨hchange, -⟩ := Change.commit_ok hd hplain.1 hc
      rw [ih (hd.keeps hchange.keeps hchange.tree) hplain.2 _ hp.2, hchange.elsewhere p hp.1]

/-! ## What a run changes -/

theorem Turn.source_of_proposed? {t : Turn} {c : Change} (h : t.proposed? = some c) :
    t.file.binary = false ∧ ∃ u ∈ t.start.updaters, u.supports t.file.path = true := by
  rw [proposed?] at h
  split at h
  next content hreturned =>
    rw [returned?] at hreturned
    split at hreturned
    next src hbinary _ =>
      obtain ⟨⟨_, us, host⟩, hdispatch, -⟩ := Option.map_eq_some_iff.mp hreturned
      obtain ⟨u, hu, hsupports, -⟩ := exists_update_of_dispatch hdispatch
      exact ⟨hbinary, u, hu, hsupports⟩
    next => cases hreturned
  next => cases h

theorem Disk.Reads.exists_text {d : Disk} {root path : String} {r : Disk.Place} {f : ProjectFile}
    (h : d.Reads root r path f) (ht : d.IsTree) (hf : f.binary = false) :
    ∃ b text, d.fileAt? (r ++ Disk.Place.of path) = some b ∧ b.toText? = some text := by
  obtain ⟨b, hb, rfl⟩ := h.exists_fileAt? ht
  cases htext : b.toText? with
  | none => simp [ProjectFile.ofBytes, htext] at hf
  | some text => exact ⟨b, text, hb, htext⟩

namespace Session

variable {engine : Pattern.Engine} {s : Session} {d : Disk} {signals : Signals} {r : Disk.Place}

/-- A run that follows rules and is finished changes only files that the walk has found, that are
text, and that an updater claims. -/
theorem source_of_mem_changes {rules : List Rule}
    (hs : ∀ u ∈ s.updaters, u.Follows engine rules) (hd : d.IsProject s.root r) (hn : d.IsNamed)
    (hnames : ∀ x ∈ d.entries, r <+: x.1 → ∀ name ∈ x.1.drop r.length, '\\' ∉ name.shown.toList)
    (hstate : (s.update d signals).session.state = .finished) {c : Change}
    (hc : c ∈ (s.update d signals).session.changes) :
    d.Finds s.root r c.path ∧ (∀ name ∈ (Path.segments c.path).dropLast, name ∉ s.skipDirs) ∧
      (s.updaterFor? c.path).isSome = true ∧
      ∃ b text, d.fileAt? (r ++ Disk.Place.of c.path) = some b ∧ b.toText? = some text := by
  have hgoes : (s.update d signals).session.state ≠ .errored := by simp [hstate]
  obtain ⟨o, ho⟩ := exists_snapshot hgoes
  obtain ⟨paths, hw, -⟩ := map_path_snapshot ho
  obtain ⟨hcourse, hreads⟩ := course_of_walk hd hn hnames hw hstate
  obtain ⟨t, ht, hproposed⟩ := (mem_changes_iff hs ho hstate).mp hc
  obtain ⟨hbinary, hclaimed⟩ := Turn.source_of_proposed? hproposed
  have htells := Disk.tells_of_walk hn hw _ ((hcourse _).mp ⟨t, ht, rfl⟩)
  obtain ⟨b, hb, -⟩ := hreads t ht
  rw [Turn.path_of_proposed? hproposed, updaterFor?_isSome]
  exact ⟨⟨htells.plain, b, hb⟩, htells.allowed,
    Updater.exists_supports (setup_start ho ht) hclaimed, (hreads t ht).exists_text hd.tree hbinary⟩

theorem disk_commit (s : Session) (d : Disk) :
    (s.commit d).1 = (commitAll s.root {} s.changes d).1 := by
  rw [commit, Overlay.commit, root, changes]
  rcases commitAll s.overlay.root {} s.overlay.changes d with ⟨d', f | report⟩ <;> rfl

end Session

/-! ## Settings -/

namespace Config

/-- The path is claimed by one of the formats. -/
def claims (engine : Pattern.Engine) (c : Config) (path : String) : Bool :=
  Matcher.code.claims path || Matcher.markup.claims path || Matcher.json.claims path ||
    match Session.textMatcher engine c.textPattern with
    | .ok m => m.claims path
    | .error _ => false

/-- The names of folders that are not entered, where `skip` is asked for besides. -/
def skips (c : Config) (skip : List String) : List String :=
  "node_modules" :: (c.skipDirs ++ skip)

end Config

namespace Session

variable {engine : Pattern.Engine} {s : Session} {root : String} {c : Config} {skip : List String}

theorem mem_skipDirs_foldl {names : List String} {name : String} (s : Session) :
    name ∈ (names.foldl skipDir s).skipDirs ↔ name ∈ s.skipDirs ∨ name ∈ names := by
  induction names generalizing s with
  | nil => simp
  | cons first rest ih =>
    have hone : name ∈ (s.skipDir first).skipDirs ↔ name ∈ s.skipDirs ∨ name = first := by
      rw [skipDir]
      split
      next hmem =>
        have hmem : first ∈ s.skipDirs := by simpa using hmem
        grind
      next => simp
    rw [List.foldl_cons, ih, hone, List.mem_cons, or_assoc]

theorem mem_skipDirs_ofConfig (h : ofConfig engine root c skip = .ok s) {name : String} :
    name ∈ s.skipDirs ↔ name ∈ c.skips skip := by
  obtain ⟨rules, -, h⟩ := ok_of_bind h
  obtain ⟨matcher, -, h⟩ := ok_of_bind h
  obtain rfl := Except.ok.inj h
  simp [mem_skipDirs_foldl, Config.skips, or_assoc]

theorem claims_of_ofConfig (h : ofConfig engine root c skip = .ok s) (path : String) :
    (s.updaterFor? path).isSome = c.claims engine path := by
  obtain ⟨rules, -, h⟩ := ok_of_bind h
  obtain ⟨matcher, hmatcher, h⟩ := ok_of_bind h
  obtain rfl := Except.ok.inj h
  rw [Bool.eq_iff_iff, updaterFor?_isSome, (foldl_skipDir _ _).2, Config.claims, hmatcher]
  simp [Updater.supports, Format.supports, Format.code, Format.markup, Format.json, Format.text,
    or_assoc]

end Session

namespace Cli

theorem session_ok {env : Environment} {root : String} {config : Option String}
    {skip : List String} {s : Session} (h : session env root config skip = .ok s) :
    ∃ c, Config.load env.disk (config.getD (Path.join root Config.fileName)) = .ok c ∧
      Session.ofConfig env.engine root c skip = .ok s := by
  rw [session] at h
  split at h
  next => cases h
  next c hc =>
    refine ⟨c, hc, ?_⟩
    cases hs : Session.ofConfig env.engine root c skip with
    | error e => simp [hs, Except.mapError] at h
    | ok s' => simpa [hs, Except.mapError] using h

variable (env : Environment) (o : UpdateOptions) (input : String) {root : String} {r : Disk.Place}

/-- A file that an update makes, changes or removes was there and was text. It is in the project, a
format claims it, and no folder on the way to it is skipped. -/
theorem source_of_update (hd : env.disk.IsProject root r) (hn : env.disk.IsNamed)
    (hnames : ∀ x ∈ env.disk.entries, r <+: x.1 →
      ∀ name ∈ x.1.drop r.length, '\\' ∉ name.shown.toList) {p : Disk.Place}
    (hp : ((update env root o).withInput input).disk.fileAt? p ≠ env.disk.fileAt? p) :
    ∃ c path b text,
      Config.load env.disk (o.config.getD (Path.join root Config.fileName)) = .ok c ∧
      p = r ++ Disk.Place.of path ∧ c.claims env.engine path = true ∧
      (∀ name ∈ (Path.segments path).dropLast, name ∉ c.skips o.skipDirs) ∧
      env.disk.fileAt? p = some b ∧ b.toText? = some text := by
  obtain ⟨run, ⟨s, hs, rfl⟩, hconsents, hdisk⟩ | ⟨-, hdisk⟩ := disk_update_cases env o input root
  · obtain ⟨c, hc, hs⟩ := session_ok hs
    obtain ⟨rfl, hfollows⟩ := Session.ofConfig_ok hs
    have hsource {b : Change} := Session.source_of_mem_changes hfollows hd hn hnames
      hconsents.finished (c := b)
    have hplace : ∃ b ∈ (s.update env.disk env.signals).session.changes,
        p = r ++ Disk.Place.of b.path := by
      by_contra hnone
      push Not at hnone
      rw [hdisk, Session.disk_commit, Session.root_update] at hp
      exact hp (fileAt?_commitAll hd (fun b hb => (hsource hb).1.plain) {} hnone)
    obtain ⟨b, hb, rfl⟩ := hplace
    obtain ⟨-, hskips, hclaims, bytes, text, hbytes, htext⟩ := hsource hb
    refine ⟨c, b.path, bytes, text, hc, rfl, ?_, ?_, hbytes, htext⟩
    · rwa [← Session.claims_of_ofConfig hs]
    · intro name hname
      rw [← Session.mem_skipDirs_ofConfig hs]
      exact hskips name hname
  · exact absurd (congrArg (·.fileAt? p) hdisk) hp

/-- Whatever an update is told and however it ends, a file keeps its bytes if it is no text, or if
no format claims it, or if it is below a folder that is skipped; and no file is where none was. -/
theorem update_leaves_other_files (hd : env.disk.IsProject root r) (hn : env.disk.IsNamed)
    (hnames : ∀ x ∈ env.disk.entries, r <+: x.1 →
      ∀ name ∈ x.1.drop r.length, '\\' ∉ name.shown.toList) :
    (∀ p b, env.disk.fileAt? p = some b →
      (b.toText? = none ∨ ∀ c path,
        Config.load env.disk (o.config.getD (Path.join root Config.fileName)) = .ok c →
        p = r ++ Disk.Place.of path →
        c.claims env.engine path = false ∨
          ∃ name ∈ (Path.segments path).dropLast, name ∈ c.skips o.skipDirs) →
      ((update env root o).withInput input).disk.fileAt? p = some b) ∧
    ∀ p, env.disk.fileAt? p = none →
      ((update env root o).withInput input).disk.fileAt? p = none := by
  have hsource {p : Disk.Place} := source_of_update env o input hd hn hnames (p := p)
  constructor
  · intro p b hb hother
    rw [← hb]
    by_contra hp
    obtain ⟨c, path, b', text, hc, hplace, hclaims, hskips, hb', htext⟩ := hsource hp
    obtain rfl : b = b' := Option.some.inj (hb.symm.trans hb')
    obtain hbinary | hother := hother
    · simp [htext] at hbinary
    · obtain hunclaimed | ⟨name, hname, hskipped⟩ := hother c path hc hplace
      · simp [hclaims] at hunclaimed
      · exact hskips name hname hskipped
  · intro p hnone
    rw [← hnone]
    by_contra hp
    obtain ⟨-, -, b, -, -, -, -, -, hb, -⟩ := hsource hp
    simp [hnone] at hb

end Cli

namespace Sample

/-- A file that no format claims, bytes that are no text, and a text in a folder that is skipped;
settings beside the project have all files deleted. -/
def spared : Cli.Environment :=
  { disk :=
      { entries := [(["proj"], .folder), (["proj", "a.png"], .file (Bytes.ofText "x\n")),
          (["proj", "a.txt"], .file [0xff, 0x61]), (["proj", "node_modules"], .folder),
          (["proj", "node_modules", "a.txt"], .file (Bytes.ofText "x\n")),
          (["rules.yaml"],
            .file (Bytes.ofText "rules:\n  - rule: delete-files\n    pattern: a\n"))] } }

theorem isProject_spared : spared.disk.IsProject "proj" ["proj"] := by
  have htree : spared.disk.IsTree := .of_entries rfl (by decide)
  have hlocate : spared.disk.locate true "proj" = .ok (.found ["proj"] .folder) := rfl
  exact htree.isProject_of_locate hlocate (by simp [spared])

end Sample

/-- None of the files is deleted, although all of them are to be. -/
theorem Cli.update_leaves_other_files_spared :
    ∃ d', ((update Sample.spared "proj"
        { config := some "rules.yaml", write := true, yes := true }).withInput "").disk = d' ∧
      d'.fileAt? ["proj", "a.png"] = some (Bytes.ofText "x\n") ∧
      d'.fileAt? ["proj", "a.txt"] = some [0xff, 0x61] ∧
      d'.fileAt? ["proj", "node_modules", "a.txt"] = some (Bytes.ofText "x\n") ∧
      d'.fileAt? ["proj", "a.txt~"] = none := by
  obtain ⟨hkept, hnone⟩ := update_leaves_other_files Sample.spared
    { config := some "rules.yaml", write := true, yes := true } "" Sample.isProject_spared
    ⟨by decide, by decide⟩ (by decide)
  have hsettings : (Config.load Sample.spared.disk "rules.yaml").toOption.map (·.textPattern) =
      some none := by
    decide +kernel
  refine ⟨_, rfl, hkept _ _ (by decide) (.inr ?_), hkept _ _ (by decide) (.inl (by decide +kernel)),
    hkept _ _ (by decide) (.inr ?_), hnone _ (by decide)⟩
  · intro c path hc hplace
    obtain rfl : "a.png" = path := place_injective (r := ["proj"]) hplace
    have hpattern : c.textPattern = none := by
      have hc : Config.load Sample.spared.disk "rules.yaml" = .ok c := hc
      simpa [hc, Except.toOption] using hsettings
    left
    rw [Config.claims, hpattern]
    decide +kernel
  · intro c path hc hplace
    obtain rfl : "node_modules/a.txt" = path := place_injective (r := ["proj"]) hplace
    exact .inr ⟨"node_modules", by decide, List.mem_cons_self⟩

end Codemod
