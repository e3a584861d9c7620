import Codemod.Proofs.Disk.Route

/-!
# Projects on disk

A project is the tree of folders and files below its root. Every plain path names one place in it,
whatever else is done to the disk, and the operations of the disk change the file at that place and
no other.

## Main definitions

* `Disk.IsProject` — the root of a project stands for a place with no links below it.
* `Disk.FileChange` — one file is another than before, and all else is kept.

## Main results

* `Disk.IsTree.makeFolders` — making folders changes no file.
* `Disk.IsTree.write` — what is written goes where the path leads.
* `Disk.IsProject.write`, `Disk.IsProject.remove` — the change at a plain path of a project.
-/

namespace Codemod.Disk

@[simp] theorem OsPath.join_text (path name : String) :
    OsPath.join path (.text name) = Path.join path name := rfl

@[simp] theorem OsPath.shown_text (path : String) : OsPath.shown path = path := by
  simp [shown]

/-! ## The operations, by what the path leads to -/

section Operations

variable (d : Disk) (path : String)

theorem lookUp_text (follow : Bool) : d.lookUp follow path = d.locate follow path := rfl

theorem locate_eq (follow : Bool) :
    d.locate follow path =
      if path.toList.contains '\x00' then .error .badPath
      else if path = "" then .error .noEntry
      else if pathLimit ≤ path.utf8ByteSize then .error .nameTooLong
      else d.resolve follow linkLimit (start path d.home) (Place.of path) := by
  simp [locate, lookUp, OsPath.size, OsPath.segments]

theorem stat_eq :
    d.stat path =
      match d.locate true path with
      | .error f => .error f
      | .ok (.found _ e) => .ok e
      | .ok (.vacant _) => .error .noEntry := by
  rw [stat, lookUp_text]
  rcases d.locate true path with f | ⟨p, e⟩ | p <;> rfl

theorem read_eq :
    d.read path =
      match d.locate true path with
      | .error f => .error f
      | .ok (.found _ (.file b)) => .ok b
      | .ok (.found _ _) => .error .isFolder
      | .ok (.vacant _) => .error .noEntry := by
  rw [read, stat_eq]
  rcases d.locate true path with f | ⟨p, _ | b | t⟩ | p <;> rfl

theorem write_eq (content : Bytes) :
    d.write path content =
      match d.locate true path with
      | .error f => .error f
      | .ok (.found _ .folder) => .error .isFolder
      | .ok (.found p _) => .ok (d.set p (.file content))
      | .ok (.vacant p) => .ok (d.set p (.file content)) := by
  rw [write]
  rcases d.locate true path with f | ⟨p, _ | b | t⟩ | p <;> rfl

theorem remove_eq :
    d.remove path =
      match d.locate false path with
      | .error f => .error f
      | .ok (.found _ .folder) => .error .isFolder
      | .ok (.found p _) => .ok (d.erase p)
      | .ok (.vacant _) => .error .noEntry := by
  rw [remove]
  rcases d.locate false path with f | ⟨p, _ | b | t⟩ | p <;> rfl

theorem makeFolder_eq :
    d.makeFolder path =
      match d.locate false path with
      | .error f => .error f
      | .ok (.found _ _) => .error .alreadyThere
      | .ok (.vacant p) => .ok (d.set p .folder) := by
  rw [makeFolder]
  rcases d.locate false path with f | ⟨p, e⟩ | p <;> rfl

end Operations

/-! ## Looking up -/

section Locate

variable {d d' : Disk} {follow : Bool} {path : String}

theorem arrives_of_locate {t : Target} (h : d.locate follow path = .ok t) :
    d.Arrives follow linkLimit (start path d.home) (Place.of path) t := by
  rw [locate_eq] at h
  split at h
  · cases h
  · split at h
    · cases h
    · split at h
      · cases h
      · exact resolve_eq_ok_iff.mp h

theorem resolve_of_locate_noEntry (hne : path ≠ "") (h : d.locate follow path = .error .noEntry) :
    d.resolve follow linkLimit (start path d.home) (Place.of path) = .error .noEntry := by
  rw [locate_eq] at h
  rw [if_neg hne] at h
  split at h
  · cases h
  · split at h
    · cases h
    · exact h

theorem IsTree.locate_sound (ht : d.IsTree) {t : Target} (h : d.locate follow path = .ok t) :
    d.Shows t :=
  (arrives_of_locate h).shows ht (get?_start path ht.home)

/-- A path that leads somewhere stands for the place it leads to. -/
theorem IsTree.pointsTo_of_locate (ht : d.IsTree) {t : Target}
    (h : d.locate true path = .ok t) : d.PointsTo path t.place :=
  (arrives_of_locate h).route ht (get?_start path ht.home)

/-- Whether a path is followed at all does not depend on the disk. -/
theorem locate_of_arrives {follow' : Bool} {t t' : Target} (h : d.locate follow path = .ok t)
    (h' : d'.Arrives follow' linkLimit (start path d'.home) (Place.of path) t') :
    d'.locate follow' path = .ok t' := by
  rw [locate_eq] at h ⊢
  split at h
  · cases h
  next h0 =>
    rw [if_neg h0]
    split at h
    · cases h
    next h1 =>
      rw [if_neg h1]
      split at h
      · cases h
      next h2 => rw [if_neg h2, h'.resolve_eq]

theorem Keeps.locate (hk : d.Keeps d') {t : Target} (h : d.locate true path = .ok t) :
    ∃ t', d'.locate true path = .ok t' := by
  obtain ⟨t', ht'⟩ := hk.arrives (arrives_of_locate h)
  exact ⟨t', locate_of_arrives h (hk.home ▸ ht')⟩

end Locate

/-! ## Making folders -/

section Folders

variable {d d' : Disk} {path : String}

/-- Folders are added, and all else is as it was. -/
structure Grows (d d' : Disk) : Prop where
  tree : d'.IsTree
  keeps : d.Keeps d'
  files : ∀ p, d'.fileAt? p = d.fileAt? p

theorem Grows.refl (h : d.IsTree) : d.Grows d :=
  ⟨h, .refl d, fun _ => rfl⟩

theorem Grows.trans {e : Disk} (h : d.Grows d') (g : d'.Grows e) : d.Grows e :=
  ⟨g.tree, h.keeps.trans g.keeps, fun p => (g.files p).trans (h.files p)⟩

theorem IsTree.makeFolder (ht : d.IsTree) (h : d.makeFolder path = .ok d') : d.Grows d' := by
  rw [makeFolder_eq] at h
  split at h
  · cases h
  · cases h
  next p hl =>
    obtain rfl := Except.ok.inj h
    obtain ⟨hnone, hup⟩ := ht.locate_sound hl
    have hp : d.get? p ≠ some .folder := by simp [hnone]
    refine ⟨ht.set .folder hp hup, .set hp (by simp [hnone]) (by simp), fun q => ?_⟩
    by_cases hq : q = p
    · simp [fileAt?, get?_set (ne_nil_of_get?_ne_folder hp), hq, hnone]
    · exact fileAt?_congr (by simp [get?_set (ne_nil_of_get?_ne_folder hp), hq])

/-- What is true of a disk and itself, and from each folder that is made to the next, is true of a
chain of folders. -/
theorem makeChain_of_makeFolder {R : Disk → Disk → Prop} (refl : ∀ d, R d d)
    (trans : ∀ a b c, R a b → R b c → R a c) {paths : List String}
    (made : ∀ path ∈ paths, ∀ d d', d.makeFolder path = .ok d' → R d d') (d : Disk) :
    R d (d.makeChain paths).1 := by
  induction paths generalizing d with
  | nil => exact refl d
  | cons path above ih =>
    rw [List.forall_mem_cons] at made
    have settled (e : Disk) (f : Fault) (he : R d e) :
        R d (if e.isFolder path then (e, none) else (e, some f)).1 := by
      split <;> exact he
    unfold Disk.makeChain
    split
    next d' h => exact made.1 d d' h
    next h =>
      have hg := ih made.2 d
      split
      next d' f hd => simpa [hd] using hg
      next d' hd =>
        have hg : R d d' := by simpa [hd] using hg
        split
        next e he => exact trans d d' e hg (made.1 d' e he)
        next f _ => exact settled d' f hg
    next f _ _ => exact settled d f (refl d)

theorem IsTree.makeChain (ht : d.IsTree) (paths : List String) :
    d.Grows (d.makeChain paths).1 :=
  makeChain_of_makeFolder (R := fun a b => a.IsTree → a.Grows b) (fun _ => .refl)
    (fun _ _ _ h g ha => (h ha).trans (g (h ha).tree)) (fun _ _ _ _ h ha => ha.makeFolder h) d ht

theorem IsTree.makeFolders (ht : d.IsTree) (path : String) : d.Grows (d.makeFolders path).1 :=
  ht.makeChain _

end Folders

/-! ## Projects -/

/-- The root stands for the place `r`, and there are only folders and files from there on down. -/
structure IsProject (d : Disk) (root : String) (r : Place) : Prop where
  tree : d.IsTree
  root : d.PointsTo root r
  unlinked : ∀ p t, r <+: p → d.get? p ≠ some (.link t)

/-- A disk without links is a project from any place on that can be located. -/
theorem IsTree.isProject_of_locate {d : Disk} (ht : d.IsTree) {root : String} {t : Target}
    (hl : d.locate true root = .ok t) (hlinks : ∀ x ∈ d.entries, ∀ target, x.2 ≠ .link target) :
    d.IsProject root t.place := by
  refine ⟨ht, ht.pointsTo_of_locate hl, fun p target _ hget => ?_⟩
  have hfolder : d.get? p ≠ some .folder := by simp [hget]
  have hmem := mem_entries_of_get? (ne_nil_of_get?_ne_folder hfolder) hget
  exact hlinks _ hmem target rfl

namespace IsProject

variable {d d' : Disk} {root path : String} {r : Place}

theorem keeps (h : d.IsProject root r) (hk : d.Keeps d') (ht : d'.IsTree) :
    d'.IsProject root r :=
  ⟨ht, h.root.keeps hk, fun p t hp hl => h.unlinked p t hp ((hk.link p t).mp hl)⟩

theorem route (h : d.IsProject root r) (hp : Path.IsPlain path) (follow : Bool) :
    d.Route follow (start (Path.join root path) d.home)
      ((Place.of (Path.join root path)).filter (!·.isIdle))
      (r ++ Place.of path) := by
  have hnames : (Place.of (Path.join root path)).filter (!·.isIdle) =
      Place.names root ++ Place.of path := Place.names_join root hp
  have hstart : start (Path.join root path) d.home = start root d.home := by
    simp only [start, Path.isAbsolute_join root hp]
  rw [hnames, hstart]
  exact h.root.append (.straight (Place.ne_up_of_isPlain hp) h.unlinked) (Place.of_ne_nil path)

theorem pointsTo (h : d.IsProject root r) (hp : Path.IsPlain path) :
    d.PointsTo (Path.join root path) (r ++ Place.of path) :=
  h.route hp true

/-- Every plain path has one place, however the disk is looked at. -/
theorem locate (h : d.IsProject root r) (hp : Path.IsPlain path) {follow : Bool} {t : Target}
    (ht : d.locate follow (Path.join root path) = .ok t) :
    t.place = r ++ Place.of path ∧ d.Shows t :=
  ⟨(h.route hp follow).place_eq (arrives_of_locate ht), h.tree.locate_sound ht⟩

theorem locate_noEntry (h : d.IsProject root r) (hp : Path.IsPlain path) {follow : Bool}
    (ht : d.locate follow (Path.join root path) = .error .noEntry) :
    d.get? (r ++ Place.of path) = none :=
  Route.resolve_noEntry h.tree _ _ _ _ (h.route hp follow)
    (resolve_of_locate_noEntry (Path.join_ne_empty root hp) ht)

end IsProject

/-! ## Changing one file -/

/-- The file at one place is another one, or none; other files stay, and so do folders and
links. -/
structure FileChange (d d' : Disk) (p : Place) (content : Option Bytes) : Prop where
  tree : d'.IsTree
  keeps : d.Keeps d'
  at_place : d'.fileAt? p = content
  elsewhere : ∀ q, q ≠ p → d'.fileAt? q = d.fileAt? q

theorem Grows.fileChange {d e d' : Disk} {p : Place} {content : Option Bytes} (h : d.Grows e)
    (g : e.FileChange d' p content) : d.FileChange d' p content :=
  ⟨g.tree, h.keeps.trans g.keeps, g.at_place, fun q hq => (g.elsewhere q hq).trans (h.files q)⟩

theorem IsTree.set_fileChange {d : Disk} (ht : d.IsTree) {p : Place} {b : Bytes}
    (hfolder : d.get? p ≠ some .folder) (hlink : ∀ t, d.get? p ≠ some (.link t))
    (hup : d.get? p.dropLast = some .folder) : d.FileChange (d.set p (.file b)) p (some b) := by
  have hnil := ne_nil_of_get?_ne_folder hfolder
  refine ⟨ht.set _ hfolder hup, .set hfolder hlink (by simp), ?_, fun q hq => ?_⟩
  · rw [fileAt?_eq_some, get?_set hnil, if_pos rfl]
  · exact fileAt?_congr (by rw [get?_set hnil, if_neg hq])

theorem IsTree.erase_fileChange {d : Disk} (ht : d.IsTree) {p : Place}
    (hfolder : d.get? p ≠ some .folder) (hlink : ∀ t, d.get? p ≠ some (.link t)) :
    d.FileChange (d.erase p) p none := by
  have hnil := ne_nil_of_get?_ne_folder hfolder
  refine ⟨ht.erase hfolder, .erase hfolder hlink, ?_, fun q hq => ?_⟩
  · rw [fileAt?, get?_erase hnil, if_pos rfl]
  · exact fileAt?_congr (by rw [get?_erase hnil, if_neg hq])

/-- Whatever a path leads to, what is written to it goes there. -/
theorem IsTree.write {d d' : Disk} (ht : d.IsTree) {path : String} {b : Bytes}
    (hw : d.write path b = .ok d') :
    ∃ t, d.locate true path = .ok t ∧ d.FileChange d' t.place (some b) := by
  rw [write_eq] at hw
  split at hw
  · cases hw
  · cases hw
  next p e hfolder hl =>
    obtain rfl := Except.ok.inj hw
    have hget : d.get? p = some e := ht.locate_sound hl
    have hne : d.get? p ≠ some .folder := by
      rw [hget]
      exact fun he => hfolder (Option.some.inj he)
    have hlink : ∀ t, d.get? p ≠ some (.link t) := by
      rw [hget]
      rintro t he
      obtain rfl := Option.some.inj he
      exact (arrives_of_locate hl).ne_link p t rfl
    exact ⟨_, hl, ht.set_fileChange hne hlink (ht.folder_dropLast hget)⟩
  next p hl =>
    obtain rfl := Except.ok.inj hw
    obtain ⟨hnone, hup⟩ := ht.locate_sound hl
    exact ⟨_, hl, ht.set_fileChange (by simp [hnone]) (by simp [hnone]) hup⟩

/-- What can be removed is a file or a link. -/
theorem IsTree.remove {d d' : Disk} (ht : d.IsTree) {path : String}
    (hr : d.remove path = .ok d') :
    ∃ p e, d.locate false path = .ok (.found p e) ∧ d.get? p = some e ∧ e ≠ .folder ∧
      d' = d.erase p := by
  rw [remove_eq] at hr
  split at hr
  · cases hr
  · cases hr
  next p e hfolder hl => exact ⟨p, e, hl, ht.locate_sound hl, hfolder, (Except.ok.inj hr).symm⟩
  · cases hr

/-! ## Reading -/

theorem IsTree.fileAt?_of_read {d : Disk} (ht : d.IsTree) {path : String} {b : Bytes}
    (hr : d.read path = .ok b) :
    ∃ t, d.locate true path = .ok t ∧ d.fileAt? t.place = some b := by
  rw [read_eq] at hr
  split at hr
  · cases hr
  next p c hl =>
    obtain rfl := Except.ok.inj hr
    exact ⟨_, hl, fileAt?_eq_some.mpr (ht.locate_sound hl)⟩
  · cases hr
  · cases hr

theorem IsTree.read_of_fileAt? {d : Disk} (ht : d.IsTree) {path : String} {b : Bytes}
    {t : Target} (hl : d.locate true path = .ok t) (hf : d.fileAt? t.place = some b) :
    d.read path = .ok b := by
  have hshows := ht.locate_sound hl
  rw [fileAt?_eq_some] at hf
  cases t with
  | found p e =>
    obtain rfl : e = .file b := Option.some.inj (hshows.symm.trans hf)
    rw [read_eq, hl]
  | vacant p => exact absurd (hshows.1.symm.trans hf) (by simp)

/-! ## Files of a project -/

namespace IsProject

variable {d d' : Disk} {root path : String} {r : Place}

theorem unlinked_at (h : d.IsProject root r) (path : String) (t : String) :
    d.get? (r ++ Place.of path) ≠ some (.link t) :=
  h.unlinked _ t (List.prefix_append r _)

theorem write (h : d.IsProject root r) (hp : Path.IsPlain path) {b : Bytes}
    (hw : d.write (Path.join root path) b = .ok d') :
    d.FileChange d' (r ++ Place.of path) (some b) ∧
      ∃ t, d.locate true (Path.join root path) = .ok t := by
  obtain ⟨t, hl, hchange⟩ := h.tree.write hw
  rw [(h.locate hp hl).1] at hchange
  exact ⟨hchange, t, hl⟩

theorem remove (h : d.IsProject root r) (hp : Path.IsPlain path)
    (hr : d.remove (Path.join root path) = .ok d') :
    d.FileChange d' (r ++ Place.of path) none := by
  obtain ⟨p, e, hl, hget, hfolder, rfl⟩ := h.tree.remove hr
  obtain rfl : p = r ++ Place.of path := (h.locate hp hl).1
  have hne : d.get? (r ++ Place.of path) ≠ some .folder := by
    rw [hget]
    exact fun he => hfolder (Option.some.inj he)
  exact h.tree.erase_fileChange hne (h.unlinked_at path)

/-- What is not there need not be removed. -/
theorem remove_noEntry (h : d.IsProject root r) (hp : Path.IsPlain path)
    (hr : d.remove (Path.join root path) = .error .noEntry) :
    d.FileChange d (r ++ Place.of path) none := by
  have hnone : d.get? (r ++ Place.of path) = none := by
    rw [remove_eq] at hr
    split at hr
    next f hl =>
      obtain rfl := Except.error.inj hr
      exact h.locate_noEntry hp hl
    · cases hr
    · cases hr
    next p hl =>
      obtain ⟨hplace, hnone, -⟩ := h.locate hp hl
      exact hplace ▸ hnone
  exact ⟨h.tree, .refl d, by rw [fileAt?, hnone], fun _ _ => rfl⟩

/-- What is read at a plain path is the file at its place. -/
theorem fileAt?_of_read (h : d.IsProject root r) (hp : Path.IsPlain path) {b : Bytes}
    (hr : d.read (Path.join root path) = .ok b) :
    d.fileAt? (r ++ Place.of path) = some b := by
  obtain ⟨t, hl, hf⟩ := h.tree.fileAt?_of_read hr
  rwa [(h.locate hp hl).1] at hf

/-- The file at the place of a plain path can be read, if the path can be followed at all. -/
theorem read_of_fileAt? (h : d.IsProject root r) (hp : Path.IsPlain path) {b : Bytes} {t : Target}
    (hl : d.locate true (Path.join root path) = .ok t)
    (hf : d.fileAt? (r ++ Place.of path) = some b) :
    d.read (Path.join root path) = .ok b := by
  rw [← (h.locate hp hl).1] at hf
  exact h.tree.read_of_fileAt? hl hf

end IsProject

end Codemod.Disk
