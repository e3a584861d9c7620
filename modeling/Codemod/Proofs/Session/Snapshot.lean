import Codemod.Proofs.Disk.Walk
import Codemod.Proofs.Session.Outcomes

/-!
# What a snapshot holds

A run reads the files that a walk has found, one after the other, and keeps them under the project
form of their paths. For a path in which a backslash is part of a name this is the path of another
place, where there may be another file or none. All other paths are in project form already, and
their files are kept as they are on disk, each under the path that leads to it.

## Main definitions

* `Disk.Reads` — a file as it is read where a path leads to.

## Main results

* `Path.IsPlain.normalize_eq` — the plain paths that are in project form.
* `Session.snapshot_of_walk` — what a walk has found can be read.
* `Session.snapshot_is_faithful` — the files of a snapshot are those on disk.
-/

namespace Codemod

/-! ## Paths in project form -/

namespace Path

/-- A plain path is in project form unless there is a backslash in one of its names. -/
theorem IsPlain.normalize_eq {path : String} (h : IsPlain path) (hpath : '\\' ∉ path.toList) :
    normalize path = path := by
  have hfront : hasStart path "./" = false := by
    rw [Bool.eq_false_iff]
    intro hstart
    obtain ⟨t, ht⟩ := List.isPrefixOf_iff_prefix.mp hstart
    have heq : path = "." ++ "/" ++ String.ofList t := by
      apply String.toList_inj.mp
      simpa using ht.symm
    have hmem : "." ∈ segments path := by
      rw [heq, segments_slash]
      exact List.mem_append_left _ (by decide)
    exact absurd (h "." hmem).1 (by decide)
  exact IsProjectForm.normalize_eq ⟨hpath, hfront, h.not_hasEnd_slash⟩

end Path

/-! ## Snapshots of distinct files -/

namespace Overlay

theorem insertFile_of_notMem {f : ProjectFile} {l : List ProjectFile}
    (h : f.path ∉ l.map (·.path)) : insertFile f l = l ++ [f] := by
  induction l with
  | nil => rfl
  | cons g rest ih =>
    rw [List.map_cons, List.mem_cons, not_or] at h
    rw [insertFile, if_neg (Ne.symm h.1), ih h.2]
    rfl

/-- Files with paths of their own, in project form, are all there, in their order. -/
theorem files_ofFiles (root : String) {files : List ProjectFile}
    (hforms : ∀ f ∈ files, Path.normalize f.path = f.path) (hnodup : (files.map (·.path)).Nodup) :
    (ofFiles root files).files = files := by
  induction files using List.reverseRecOn with
  | nil => rfl
  | append_singleton files f ih =>
    rw [List.forall_mem_append, List.forall_mem_singleton] at hforms
    rw [List.map_append, List.nodup_append] at hnodup
    have hbefore := ih hforms.1 hnodup.1
    have hnew : f.path ∉ files.map (·.path) := fun hmem =>
      hnodup.2.2 _ hmem _ (by simp) rfl
    rw [ofFiles_append, insert, hforms.2, hbefore]
    exact insertFile_of_notMem hnew

theorem mem_insertFile {f g : ProjectFile} {l : List ProjectFile} (h : g ∈ insertFile f l) :
    g = f ∨ g ∈ l := by
  induction l with
  | nil => exact .inl (List.mem_singleton.mp h)
  | cons first rest ih =>
    rw [insertFile] at h
    split at h
    · exact (List.mem_cons.mp h).imp_right (List.mem_cons_of_mem first)
    · obtain rfl | h := List.mem_cons.mp h
      · exact .inr List.mem_cons_self
      · exact (ih h).imp_right (List.mem_cons_of_mem first)

/-- Of files in project form no others are kept, also where some have the same path. -/
theorem mem_of_mem_files_ofFiles (root : String) {files : List ProjectFile}
    (hforms : ∀ f ∈ files, Path.normalize f.path = f.path) :
    ∀ f ∈ (ofFiles root files).files, f ∈ files := by
  induction files using List.reverseRecOn with
  | nil => simp [ofFiles]
  | append_singleton files f ih =>
    rw [List.forall_mem_append, List.forall_mem_singleton] at hforms
    intro g hg
    rw [ofFiles_append, insert, hforms.2] at hg
    obtain rfl | hg := mem_insertFile hg
    · exact List.mem_append_right _ (List.mem_singleton_self _)
    · exact List.mem_append_left _ (ih hforms.1 g hg)

end Overlay

/-! ## Reading -/

/-- The path leads to a file at its place in the project, and `f` is that file. -/
def Disk.Reads (d : Disk) (root : String) (r : Disk.Place) (path : String) (f : ProjectFile) :
    Prop :=
  ∃ b, d.locate true (Path.join root path) = .ok (.found (r ++ Disk.Place.of path) (.file b)) ∧
    f = .ofBytes path b

theorem Disk.Reads.path_eq {d : Disk} {root : String} {r : Disk.Place} {path : String}
    {f : ProjectFile} (h : d.Reads root r path f) : f.path = path := by
  obtain ⟨b, -, rfl⟩ := h
  rw [ProjectFile.ofBytes]
  split <;> rfl

/-- What leads to files can be read. -/
theorem Disk.exists_reads {d : Disk} {root : String} {r : Disk.Place} {paths : List String}
    (h : ∀ path ∈ paths, d.Finds root r path) :
    ∃ files, List.Forall₂ (d.Reads root r) paths files := by
  induction paths with
  | nil => exact ⟨[], .nil⟩
  | cons path rest ih =>
    rw [List.forall_mem_cons] at h
    obtain ⟨-, b, hb⟩ := h.1
    obtain ⟨files, hfiles⟩ := ih h.2
    exact ⟨.ofBytes path b :: files, .cons ⟨b, hb, rfl⟩ hfiles⟩

/-- What is read at a plain path of a project is the file at its place. -/
theorem Disk.Loads.reads {d : Disk} {root : String} {r : Disk.Place} {f : ProjectFile}
    (h : d.Loads root f) (hd : d.IsProject root r) (hpath : Path.IsPlain f.path) :
    d.Reads root r f.path f := by
  obtain ⟨b, hb, hf⟩ := h
  rw [Disk.read_eq] at hb
  split at hb
  · cases hb
  next p c hl =>
    obtain rfl := Except.ok.inj hb
    obtain ⟨hplace, -⟩ := hd.locate hpath hl
    obtain rfl : p = r ++ Disk.Place.of f.path := hplace
    exact ⟨c, hl, hf⟩
  · cases hb
  · cases hb

theorem Disk.map_path_of_reads {d : Disk} {root : String} {r : Disk.Place} {paths : List String}
    {files : List ProjectFile} (h : List.Forall₂ (d.Reads root r) paths files) :
    files.map (·.path) = paths := by
  induction h with
  | nil => rfl
  | cons hf _ ih => rw [List.map_cons, hf.path_eq, ih]

namespace Session

variable {s : Session} {d : Disk} {r : Disk.Place} {paths : List String}

theorem readAll_of_reads {root : String} {files : List ProjectFile}
    (h : List.Forall₂ (d.Reads root r) paths files) {o : Overlay} (ho : o.root = root) :
    readAll d o paths = .ok (files.foldl Overlay.insert o) := by
  induction h generalizing o with
  | nil => rfl
  | @cons path f paths files hf _ ih =>
    obtain ⟨b, hb, rfl⟩ := hf
    have hread : d.read (Path.join o.root path) = .ok b := by
      rw [Disk.read_eq, ho, hb]
    unfold readAll
    simp only [hread]
    exact ih ho

/-- Where there is a walk there is a folder. -/
theorem isFolder_of_walk {root : String} {skip : List String} (hw : d.walk root skip = .ok paths) :
    d.isFolder root = true := by
  obtain ⟨-, p, -, -, hnames, -⟩ := Disk.walkFrom_cases hw
  rw [Disk.names, Disk.lookUp_text] at hnames
  obtain ⟨t, hl, hnames⟩ := ok_of_bind hnames
  rcases t with ⟨p, _ | b | l⟩ | p
  · rw [Disk.isFolder, Disk.stat_eq, hl]
  all_goals cases hnames

/-- What a walk has found can be read, and is put together in the order of the walk. -/
theorem snapshot_of_walk (hd : d.IsProject s.root r) (hn : d.IsTextNamed)
    (hw : d.walk s.root s.skipDirs = .ok paths) :
    ∃ files, List.Forall₂ (d.Reads s.root r) paths files ∧
      s.snapshot d = .ok (Overlay.ofFiles s.root files) := by
  obtain ⟨files, hfiles⟩ := Disk.exists_reads (Disk.findsBelow_walk hd hn hw).finds
  refine ⟨files, hfiles, ?_⟩
  rw [snapshot, if_pos (isFolder_of_walk hw), hw]
  exact readAll_of_reads hfiles rfl

theorem files_of_no_backslash (hd : d.IsProject s.root r) (hn : d.IsTextNamed)
    (hw : d.walk s.root s.skipDirs = .ok paths) {files : List ProjectFile}
    (hfiles : List.Forall₂ (d.Reads s.root r) paths files)
    (hpaths : ∀ path ∈ paths, '\\' ∉ path.toList) :
    (Overlay.ofFiles s.root files).files = files := by
  have hfound := Disk.findsBelow_walk hd hn hw
  have hmap := Disk.map_path_of_reads hfiles
  refine Overlay.files_ofFiles s.root (fun f hf => ?_) (hmap ▸ hfound.nodup)
  have hmem : f.path ∈ paths := hmap ▸ List.mem_map_of_mem hf
  exact (hfound.finds _ hmem).plain.normalize_eq (hpaths _ hmem)

/-- A run in a project without links can read all that its walk finds. The snapshot is put together
from the files as they are on disk, in the order of the walk and each once. It has just these files,
each under the path that leads to it, if and only if there is no backslash in their names; and they
are still there after the run. -/
theorem snapshot_is_faithful (hd : d.IsProject s.root r) (hn : d.IsTextNamed)
    (hw : d.walk s.root s.skipDirs = .ok paths) :
    paths.Nodup ∧
    ∃ files o, List.Forall₂ (d.Reads s.root r) paths files ∧ s.snapshot d = .ok o ∧
      o = Overlay.ofFiles s.root files ∧
      (o.files = files ↔ ∀ path ∈ paths, '\\' ∉ path.toList) ∧
      ∀ signals, (s.update d signals).session.state ≠ .errored →
        (s.update d signals).session.overlay.files = o.files ∧
        ((∀ path ∈ paths, '\\' ∉ path.toList) →
          List.Forall₂ (d.Reads s.root r) paths (s.update d signals).session.overlay.files) := by
  obtain ⟨files, hfiles, hsnapshot⟩ := snapshot_of_walk hd hn hw
  have hmap := Disk.map_path_of_reads hfiles
  have hplain := files_of_no_backslash hd hn hw hfiles
  refine ⟨(Disk.findsBelow_walk hd hn hw).nodup, files, _, hfiles, hsnapshot, rfl,
    ⟨fun heq path hpath => ?_, hplain⟩, fun signals hstate => ?_⟩
  · rw [← hmap, ← heq] at hpath
    obtain ⟨f, hf, rfl⟩ := List.mem_map.mp hpath
    rw [← normalize_of_mem_snapshot hsnapshot hf]
    exact Path.backslash_notMem_normalize f.path
  · have hkept : (s.update d signals).session.overlay.files =
        (Overlay.ofFiles s.root files).files := by
      rw [overlay_update hsnapshot hstate, Overlay.files_editAll]
    refine ⟨hkept, fun hpaths => ?_⟩
    rw [hkept, hplain hpaths]
    exact hfiles

end Session

namespace Sample

def rewriter : Plugin (List String) :=
  fun _ _ => .done (.ok (.replace ["y"]))

def rewriting : Session :=
  { updaters := [{ kind := .text, format := .text, plugins := [rewriter] }]
    overlay := { root := "proj" } }

theorem isProject_texts (names : List String) : (texts names).IsProject "proj" ["proj"] := by
  have htree : (texts names).IsTree := by
    refine .of_entries rfl fun x hx => ?_
    rcases List.mem_cons.mp hx with rfl | hx
    · rfl
    · obtain ⟨name, -, rfl⟩ := List.mem_map.mp hx
      rfl
  have hlocate : (texts names).locate true "proj" = .ok (.found ["proj"] .folder) := rfl
  exact htree.isProject_of_locate hlocate (by simp [texts])

theorem isTextNamed_texts : (texts ["a.txt", "b.txt"]).IsTextNamed :=
  ⟨⟨by decide, by decide⟩, by decide⟩

end Sample

/-- Two files are read, and found again where they were read. -/
theorem Session.snapshot_is_faithful_texts :
    (Sample.rewriting.update (Sample.texts ["a.txt", "b.txt"]) .none).session.state = .finished ∧
      List.Forall₂ ((Sample.texts ["a.txt", "b.txt"]).Reads "proj" ["proj"])
        ["a.txt", "b.txt"]
        (Sample.rewriting.update (Sample.texts ["a.txt", "b.txt"])
          .none).session.overlay.files := by
  obtain ⟨-, files, o, -, hsnapshot, -, -, hkept⟩ := Session.snapshot_is_faithful
    (s := Sample.rewriting) (Sample.isProject_texts _) Sample.isTextNamed_texts Sample.walk_texts
  have hread : Sample.rewriting.snapshot (Sample.texts ["a.txt", "b.txt"]) = .ok Sample.snapshot :=
    Sample.snapshot_texts rfl rfl
  have hstate : (Sample.rewriting.update (Sample.texts ["a.txt", "b.txt"]) .none).session.state =
      .finished :=
    (state_update hread).trans (by decide +kernel)
  refine ⟨hstate, (hkept .none (by simp [hstate])).2 ?_⟩
  decide

/-- A name with a backslash in it. The snapshot has the file under a path where there is none; a
commit makes one there, and leaves the file as it is that was to be changed. -/
theorem Session.snapshot_misplaces_backslash :
    (Sample.texts ["a\\b.txt"]).walk "proj" ["node_modules"] = .ok ["a\\b.txt"] ∧
      (Sample.texts ["a\\b.txt"]).read "proj/a\\b.txt" = .ok (Bytes.ofText "x\n") ∧
      (Sample.texts ["a\\b.txt"]).read "proj/a/b.txt" = .error .noEntry ∧
      (Sample.rewriting.update (Sample.texts ["a\\b.txt"]) .none).session.overlay.files =
        [⟨"a/b.txt", "x\n", false⟩] ∧
      ∃ d' s' report, (Sample.rewriting.update (Sample.texts ["a\\b.txt"]) .none).session.commit
          (Sample.texts ["a\\b.txt"]) = (d', s', .ok report) ∧
        d'.read "proj/a\\b.txt" = .ok (Bytes.ofText "x\n") ∧
        d'.read "proj/a/b.txt" = .ok (Bytes.ofText "y\n") := by
  obtain ⟨hwalk, hfiles, hchanges⟩ :
      (Sample.texts ["a\\b.txt"]).walk "proj" ["node_modules"] = .ok ["a\\b.txt"] ∧
        (Sample.rewriting.update (Sample.texts ["a\\b.txt"]) .none).session.overlay.files =
          [⟨"a/b.txt", "x\n", false⟩] ∧
        (Sample.rewriting.update (Sample.texts ["a\\b.txt"]) .none).session.changes =
          [⟨"a/b.txt", "x\n", "y\n"⟩] := by
    decide +kernel
  obtain ⟨d', report, hall, hold, hnew⟩ : ∃ d' report,
      commitAll "proj" {} [⟨"a/b.txt", "x\n", "y\n"⟩] (Sample.texts ["a\\b.txt"]) =
          (d', .ok report) ∧
        d'.read "proj/a\\b.txt" = .ok (Bytes.ofText "x\n") ∧
        d'.read "proj/a/b.txt" = .ok (Bytes.ofText "y\n") :=
    ⟨_, _, rfl, rfl, rfl⟩
  obtain ⟨s', hcommit⟩ := exists_commit hchanges hall
  exact ⟨hwalk, rfl, rfl, hfiles, d', s', report, hcommit, hold, hnew⟩

end Codemod
