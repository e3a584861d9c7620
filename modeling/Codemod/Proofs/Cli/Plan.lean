import Codemod.Proofs.Cli.Frame

/-!
# What a plan foresees

A plan and an update go through a project separately. The plan looks at nothing but the paths that
its walk tells; the update reads the files, keeps them under their paths in project form, and hands
over those that are text when it is their turn. Where rules are all that a session follows, a file
is still as it was read when its turn comes. So of the lines of a plan those that name a format come
true, in their order, but for the files that are not text.

## Main definitions

* `Cli.Row` — a line of a plan.
* `Session.Foresees` — a line comes true.
* `Session.handsOver?` — what is handed over of a file of the snapshot.

## Main results

* `Session.invocations_of_readsOnly` — the documents that are handed over if nobody interferes.
* `Session.files_of_snapshot` — the snapshot of any disk, link or no link.
* `Cli.plan_of_walk` — what a plan prints.
* `Cli.plan_foresees_updates` — the lines that come true.
-/

namespace Codemod

theorem Kind.name_ne_dash (k : Kind) : k.name ≠ "-" := by
  cases k <;> decide

/-- What is kept on one side is mapped on the other. -/
theorem forall₂_filter_filterMap {R : β → γ → Prop} {f : α → β} {keep : β → Bool}
    {g : α → Option γ} {l : List α}
    (h : ∀ a ∈ l, keep (f a) = false ∧ g a = none ∨
      keep (f a) = true ∧ ∃ c, g a = some c ∧ R (f a) c) :
    List.Forall₂ R ((l.map f).filter keep) (l.filterMap g) := by
  induction l with
  | nil => exact .nil
  | cons a l ih =>
    rw [List.forall_mem_cons] at h
    obtain ⟨⟨hkeep, hnone⟩ | ⟨hkeep, c, hc, hR⟩, hrest⟩ := h
    · simpa [hkeep, hnone] using ih hrest
    · simpa [hkeep, hc] using ⟨hR, ih hrest⟩

/-- There is a text to be read at the path. -/
def Disk.isText (d : Disk) (root path : String) : Bool :=
  (d.read (Path.join root path)).toOption.any (·.toText?.isSome)

theorem Disk.Loads.isText_eq {d : Disk} {root : String} {f : ProjectFile} (h : d.Loads root f) :
    d.isText root f.path = !f.binary := by
  obtain ⟨b, hb, hf⟩ := h
  rw [isText, hb, hf, ProjectFile.ofBytes]
  cases htext : b.toText? <;> simp [Except.toOption, htext]

/-- A line of a plan. -/
structure Cli.Row where
  path : String
  format : String
  deriving DecidableEq

namespace Session

variable {s : Session} {d : Disk} {signals : Signals} {o : Overlay}

/-- What a plan says about a path. -/
def row (s : Session) (path : String) : Cli.Row :=
  { path, format := (s.updaterFor? path).getD "-" }

/-- The document of that path goes to the updater with that name. -/
structure Foresees (s : Session) (row : Cli.Row) (x : Invocation) : Prop where
  path_eq : x.path = row.path
  name_eq : (s.updaters[x.updater]?).map Updater.name = some row.format

/-! ## What is handed over -/

/-- What is handed over of a file that is still as it was read. -/
def handsOver? (s : Session) (f : ProjectFile) : Option Invocation :=
  if f.binary then none
  else (s.updaters.findIdx? (·.supports f.path)).map fun i =>
    { updater := i, path := f.path, src := f.content }

theorem handed?_of_read? {t : Turn}
    (h : t.start.overlay.read? t.file.path = some t.file.content) :
    t.handed? s.updaters = s.handsOver? t.file := by
  rw [Turn.handed?, handsOver?, h]
  cases t.file.binary with
  | true => rfl
  | false => cases s.updaters.findIdx? (·.supports t.file.path) <;> rfl

/-- Plugins that only read leave every file as it is until its turn, so that a run which is finished
hands over what can be told from the snapshot. -/
theorem invocations_of_readsOnly (ho : s.snapshot d = .ok o)
    (hs : ∀ u ∈ s.updaters, u.ReadsOnly)
    (hstate : (s.update d signals).session.state = .finished) :
    s.invocations d signals = o.files.filterMap s.handsOver? := by
  have hfiles := map_file_of_completed ho ((finished_iff ho).mp hstate)
  rw [invocations_eq ho, ← hfiles, List.filterMap_map]
  exact List.filterMap_congr fun t ht => handed?_of_read? (read?_start ho hs ht)

/-- The name that a plan gives is that of the updater which the file is handed to. -/
theorem foresees_handsOver? (f : ProjectFile) :
    ((s.row f.path).format = "-" ∨ f.binary = true) ∧ s.handsOver? f = none ∨
      ((s.row f.path).format ≠ "-" ∧ f.binary = false) ∧
        ∃ x, s.handsOver? f = some x ∧ s.Foresees (s.row f.path) x := by
  have hfind : s.updaterFor? f.path =
      ((s.updaters.findIdx? (·.supports f.path)).bind (s.updaters[·]?)).map Updater.name := by
    rw [updaterFor?, List.find?_eq_bind_findIdx?_getElem?]
  cases hbinary : f.binary with
  | true => exact .inl ⟨.inr rfl, by simp [handsOver?, hbinary]⟩
  | false =>
    cases hi : s.updaters.findIdx? (·.supports f.path) with
    | none => exact .inl ⟨.inl (by simp [row, hfind, hi]), by simp [handsOver?, hi]⟩
    | some i =>
      obtain ⟨hlt, -⟩ := List.findIdx?_eq_some_iff_getElem.mp hi
      have hformat : (s.row f.path).format = s.updaters[i].name := by
        simp [row, hfind, hi, hlt]
      refine .inr ⟨⟨hformat ▸ Kind.name_ne_dash _, rfl⟩, ⟨i, f.path, f.content⟩, ?_, rfl, ?_⟩
      · simp [handsOver?, hbinary, hi]
      · simp [hformat, hlt]

/-- The snapshot of a disk with names that are text has the files that the walk tells, as they are
read there, unless there is a backslash in one of their paths. -/
theorem files_of_snapshot (ho : s.snapshot d = .ok o) (hn : d.IsTextNamed) {paths : List String}
    (hw : d.walk s.root s.skipDirs = .ok paths) (hpaths : ∀ path ∈ paths, '\\' ∉ path.toList) :
    o.files.map (·.path) = paths ∧ ∀ f ∈ o.files, d.Loads s.root f := by
  obtain ⟨files, hw', hloads, rfl⟩ := exists_loads_of_snapshot ho
  obtain rfl : paths = files.map (·.path) := Except.ok.inj (hw.symm.trans hw')
  have htold := Disk.toldBelow_walk hn hw
  have hforms : ∀ f ∈ files, Path.normalize f.path = f.path := fun f hf =>
    (htold.plain _ (List.mem_map_of_mem hf)).normalize_eq (hpaths _ (List.mem_map_of_mem hf))
  rw [Overlay.files_ofFiles s.root hforms htold.nodup]
  exact ⟨rfl, hloads⟩

end Session

namespace Cli

variable (env : Environment) (o : PlanOptions) {root : String} {s : Session} {signals : Signals}

/-- A row, as it is printed. -/
def Row.text (color : Bool) (row : Row) : String :=
  line (planLine color row.path row.format)

/-- A plan prints a line for every path that the walk tells, and a summary. -/
theorem plan_of_walk (hs : session env root o.config o.skipDirs = .ok s)
    {paths : List String} (hw : env.disk.walk root s.skipDirs = .ok paths) :
    ∃ summary, plan env root o =
      done env.disk ("".intercalate ((paths.map s.row).map (Row.text env.color)) ++
        line summary) := by
  have hfolder := Session.isFolder_of_walk hw
  have hzip : paths.zip (paths.map fun f => (s.updaterFor? f).getD "-") =
      paths.map fun f => (f, (s.updaterFor? f).getD "-") := by
    simpa using List.zip_map' (f := id) (l := paths)
  simp only [plan, hfolder, hs, hw, hzip, List.map_map]
  exact ⟨_, rfl⟩

/-- If an update with the rules of the settings ends well, a plan of the same project is printed,
with a line for every path that the walk tells. Those lines that name a format, of files that are
text, are in their order the documents that the update hands to updaters, each with the name of its
updater. A file that is not text has the line of its path all the same. -/
theorem plan_foresees_updates (hs : session env root o.config o.skipDirs = .ok s)
    (hstate : (s.update env.disk signals).session.state = .finished) :
    ∃ paths summary, env.disk.walk root s.skipDirs = .ok paths ∧
      plan env root o = done env.disk
        ("".intercalate ((paths.map s.row).map (Row.text env.color)) ++ line summary) ∧
      (env.disk.IsTextNamed → (∀ path ∈ paths, '\\' ∉ path.toList) →
        List.Forall₂ s.Foresees
          ((paths.map s.row).filter fun row =>
            row.format ≠ "-" && env.disk.isText root row.path)
          (s.invocations env.disk signals)) := by
  obtain ⟨c, -, hconfig⟩ := session_ok hs
  obtain ⟨rfl, hfollows⟩ := Session.ofConfig_ok hconfig
  have hgoes : (s.update env.disk signals).session.state ≠ .errored := by simp [hstate]
  obtain ⟨overlay, ho⟩ := Session.exists_snapshot hgoes
  obtain ⟨files, hw, -⟩ := Session.exists_loads_of_snapshot ho
  obtain ⟨summary, hplan⟩ := plan_of_walk env o hs hw
  refine ⟨_, summary, hw, hplan, fun hn hpaths => ?_⟩
  obtain ⟨hmap, hloads⟩ := Session.files_of_snapshot ho hn hw hpaths
  have hreads : ∀ u ∈ s.updaters, u.ReadsOnly := fun u hu => (hfollows u hu).readsOnly
  rw [Session.invocations_of_readsOnly ho hreads hstate, ← hmap, List.map_map]
  refine forall₂_filter_filterMap fun f hf => ?_
  have htext : env.disk.isText s.root (s.row f.path).path = !f.binary := (hloads f hf).isText_eq
  obtain ⟨hnot, hnone⟩ | ⟨⟨hformat, hbinary⟩, hsome⟩ := s.foresees_handsOver? f
  · exact .inl ⟨by grind, hnone⟩
  · exact .inr ⟨by grind, hsome⟩

end Cli

namespace Sample

/-- A text, a file that no format claims, and bytes that are no text where a format expects one. -/
def mixed : Cli.Environment :=
  { disk :=
      { entries := [(["proj"], .folder), (["proj", "a.txt"], .file (Bytes.ofText "x\n")),
          (["proj", "b.png"], .file (Bytes.ofText "x\n")), (["proj", "c.txt"], .file [0xff])] } }

/-- The session for a project without settings. -/
def unruled : Session :=
  { updaters := [
      { kind := .code, format := .code },
      { kind := .markup, format := .markup "div" },
      { kind := .json, format := .json "  " },
      { kind := .text, format := .text .text }]
    overlay := { root := "proj" } }

theorem session_mixed : Cli.session mixed "proj" none [] = .ok unruled := rfl

theorem walk_mixed :
    mixed.disk.walk "proj" ["node_modules"] = .ok ["a.txt", "b.png", "c.txt"] := by
  have hplace : mixed.disk.lookUp true "proj" = .ok (.found ["proj"] .folder) := rfl
  have hsorted : [("a.txt" : Disk.Name), "b.png", "c.txt"].mergeSort
      (fun a b => decide (a.bytes ≤ b.bytes)) = ["a.txt", "b.png", "c.txt"] :=
    List.mergeSort_of_pairwise (by decide +kernel)
  have hnames : mixed.disk.names "proj" = .ok ["a.txt", "b.png", "c.txt"] := by
    rw [Disk.names, hplace]
    exact congrArg Except.ok hsorted
  rw [Disk.walk, Disk.pathLimit, Disk.walkFrom, hnames]
  decide +kernel

theorem snapshot_mixed :
    unruled.snapshot mixed.disk = .ok {
      root := "proj"
      files := [⟨"a.txt", "x\n", false⟩, ⟨"b.png", "x\n", false⟩, ⟨"c.txt", "\uFFFD", true⟩] } := by
  have hwalk : mixed.disk.walk unruled.root unruled.skipDirs = .ok ["a.txt", "b.png", "c.txt"] :=
    walk_mixed
  rw [Session.snapshot, hwalk]
  rfl

theorem finished_mixed : (unruled.update mixed.disk .none).session.state = .finished :=
  (Session.state_update snapshot_mixed).trans (by decide +kernel)

theorem invocations_mixed : unruled.invocations mixed.disk .none = [⟨3, "a.txt", "x\n"⟩] := by
  rw [Session.invocations, snapshot_mixed]
  decide +kernel

/-- All three files are listed, two of them as texts. -/
theorem rows_mixed : ["a.txt", "b.png", "c.txt"].map unruled.row =
    [⟨"a.txt", "text"⟩, ⟨"b.png", "-"⟩, ⟨"c.txt", "text"⟩] := by
  decide +kernel

end Sample

/-- Of two lines that name a format, the one of a text comes true. -/
theorem Cli.plan_foresees_updates_mixed :
    ∃ summary, (plan Sample.mixed "proj" {}).stdout =
        "text     a.txt\n-        b.png\ntext     c.txt\n" ++ line summary ∧
      List.Forall₂ Sample.unruled.Foresees [⟨"a.txt", "text"⟩]
        (Sample.unruled.invocations Sample.mixed.disk .none) := by
  obtain ⟨paths, summary, hw, hplan, hforesees⟩ := plan_foresees_updates Sample.mixed {}
    Sample.session_mixed Sample.finished_mixed
  obtain rfl := Except.ok.inj (Sample.walk_mixed.symm.trans hw)
  have hforesees := hforesees ⟨⟨by decide, by decide⟩, by decide⟩ (by decide)
  rw [Sample.rows_mixed] at hplan hforesees
  exact ⟨summary, congrArg Answer.stdout hplan, hforesees⟩

/-- A file that is not text has a line with the format that claims its path, though the update hands
it to no updater. -/
theorem Cli.plan_lists_file_without_text :
    session Sample.mixed "proj" none [] = .ok Sample.unruled ∧
      (Sample.unruled.update Sample.mixed.disk .none).session.state = .finished ∧
      (∃ summary, (plan Sample.mixed "proj" {}).stdout =
        "text     a.txt\n-        b.png\ntext     c.txt\n" ++ line summary) ∧
      (Sample.unruled.invocations Sample.mixed.disk .none).map (·.path) = ["a.txt"] := by
  obtain ⟨summary, hplan⟩ := plan_of_walk Sample.mixed {} Sample.session_mixed Sample.walk_mixed
  rw [Sample.rows_mixed] at hplan
  refine ⟨Sample.session_mixed, Sample.finished_mixed,
    ⟨summary, congrArg Answer.stdout hplan⟩, ?_⟩
  rw [Sample.invocations_mixed]
  rfl

end Codemod
