import Codemod.Proofs.Disk.Project

/-!
# Files that have been touched

The operations of the disk go by paths, and files stand at places. No operation makes a link, and as
long as none is lost every path leads to the same place all the time. Then a file is another one
than before only if a path that was written to, or removed, leads to it.

## Main definitions

* `Disk.KeepsFolders` — folders stay, and no link is made.
* `Disk.Touches` — only files that certain paths lead to are other ones than before.

## Main results

* `Disk.IsTree.touches_write`, `Disk.IsTree.touches_remove` — the operations.
* `Disk.Touches.read` — a file that no other path leads to is read as before.
-/

namespace Codemod.Disk

/-! ## Folders and links -/

/-- Folders stay, and no link is made; a link may be lost. -/
structure KeepsFolders (d d' : Disk) : Prop where
  home : d'.home = d.home
  folder : ∀ p, d.get? p = some .folder → d'.get? p = some .folder
  link : ∀ p t, d'.get? p = some (.link t) → d.get? p = some (.link t)

/-- No link is lost. -/
def KeepsLinks (d d' : Disk) : Prop :=
  ∀ p t, d.get? p = some (.link t) → d'.get? p = some (.link t)

section Keeping

variable {d e d' : Disk}

theorem Keeps.keepsFolders (h : d.Keeps d') : d.KeepsFolders d' :=
  ⟨h.home, h.folder, fun p t => (h.link p t).mp⟩

theorem Keeps.keepsLinks (h : d.Keeps d') : d.KeepsLinks d' :=
  fun p t => (h.link p t).mpr

theorem KeepsFolders.trans (h : d.KeepsFolders e) (g : e.KeepsFolders d') :
    d.KeepsFolders d' :=
  ⟨g.home.trans h.home, fun p hp => g.folder p (h.folder p hp),
    fun p t hp => h.link p t (g.link p t hp)⟩

theorem KeepsFolders.keeps (h : d.KeepsFolders d') (hl : d.KeepsLinks d') : d.Keeps d' :=
  ⟨h.home, h.folder, fun p t => ⟨h.link p t, hl p t⟩⟩

/-- A link that is there in the end was there all the time. -/
theorem KeepsFolders.keeps_both (h : d.KeepsFolders e) (g : e.KeepsFolders d')
    (hl : d.KeepsLinks d') : d.Keeps e ∧ e.Keeps d' :=
  ⟨h.keeps fun p t hp => g.link p t (hl p t hp), g.keeps fun p t hp => hl p t (h.link p t hp)⟩

theorem KeepsFolders.erase {p : Place} (hfolder : d.get? p ≠ some .folder) :
    d.KeepsFolders (d.erase p) := by
  have hnil := ne_nil_of_get?_ne_folder hfolder
  refine ⟨rfl, fun q hq => ?_, fun q t hq => ?_⟩
  · have hqp : q ≠ p := fun hqp => hfolder (hqp ▸ hq)
    rw [get?_erase hnil, if_neg hqp, hq]
  · rw [get?_erase hnil] at hq
    split at hq
    · cases hq
    · exact hq

end Keeping

/-! ## Files -/

/-- Folders stay, and unless a link is lost only files that the paths lead to are other ones than
before. -/
structure Touches (d d' : Disk) (paths : List String) : Prop where
  tree : d'.IsTree
  folders : d.KeepsFolders d'
  files : d.Keeps d' → ∀ p, d'.fileAt? p ≠ d.fileAt? p → ∃ path ∈ paths, d'.PointsTo path p

section Touching

variable {d e d' : Disk} {path : String} {paths : List String} {b : Bytes}

theorem Touches.refl (h : d.IsTree) (paths : List String) : d.Touches d paths :=
  ⟨h, (Keeps.refl d).keepsFolders, fun _ _ hp => absurd rfl hp⟩

theorem Touches.trans {more : List String} (h : d.Touches e paths) (g : e.Touches d' more) :
    d.Touches d' (paths ++ more) := by
  refine ⟨g.tree, h.folders.trans g.folders, fun hk p hp => ?_⟩
  obtain ⟨hfirst, hsecond⟩ := h.folders.keeps_both g.folders hk.keepsLinks
  by_cases he : e.fileAt? p = d.fileAt? p
  · obtain ⟨path, hmem, hpoints⟩ := g.files hsecond p (he ▸ hp)
    exact ⟨path, List.mem_append_right _ hmem, hpoints⟩
  · obtain ⟨path, hmem, hpoints⟩ := h.files hfirst p he
    exact ⟨path, List.mem_append_left _ hmem, hpoints.keeps hsecond⟩

theorem Touches.mono {more : List String} (h : d.Touches d' paths) (hsub : paths ⊆ more) :
    d.Touches d' more := by
  refine ⟨h.tree, h.folders, fun hk p hp => ?_⟩
  obtain ⟨path, hmem, hpoints⟩ := h.files hk p hp
  exact ⟨path, hsub hmem, hpoints⟩

theorem Grows.touches (h : d.Grows d') : d.Touches d' [] :=
  ⟨h.tree, h.keeps.keepsFolders, fun _ p hp => absurd (h.files p) hp⟩

theorem FileChange.touches {p : Place} {content : Option Bytes} (h : d.FileChange d' p content)
    (hpath : d'.PointsTo path p) : d.Touches d' [path] := by
  refine ⟨h.tree, h.keeps.keepsFolders, fun _ q hq => ⟨path, by simp, ?_⟩⟩
  by_cases hqp : q = p
  · rwa [hqp]
  · exact absurd (h.elsewhere q hqp) hq

/-- A path leads where it led, so that the file there is what it reads. -/
theorem IsTree.read_of_keeps (ht : d.IsTree) (ht' : d'.IsTree) (hk : d.Keeps d') {t : Target}
    (hl : d.locate true path = .ok t) (hf : d'.fileAt? t.place = some b) :
    d'.read path = .ok b := by
  obtain ⟨t', hl'⟩ := hk.locate hl
  have hplace : t'.place = t.place :=
    ((ht.pointsTo_of_locate hl).keeps hk).unique (ht'.pointsTo_of_locate hl')
  exact ht'.read_of_fileAt? hl' (hplace ▸ hf)

theorem IsTree.touches_write (ht : d.IsTree) (hw : d.write path b = .ok d') :
    d.Touches d' [path] ∧ d.Keeps d' ∧ d'.read path = .ok b := by
  obtain ⟨t, hl, hchange⟩ := ht.write hw
  have hpath := (ht.pointsTo_of_locate hl).keeps hchange.keeps
  exact ⟨hchange.touches hpath, hchange.keeps,
    ht.read_of_keeps hchange.tree hchange.keeps hl hchange.at_place⟩

theorem IsTree.touches_remove (ht : d.IsTree) (hr : d.remove path = .ok d') :
    d.Touches d' [path] := by
  obtain ⟨p, e, hl, hget, hfolder, rfl⟩ := ht.remove hr
  have hne : d.get? p ≠ some .folder := by
    rw [hget]
    exact fun he => hfolder (Option.some.inj he)
  have hgone : (d.erase p).get? p = none := by
    rw [get?_erase (ne_nil_of_get?_ne_folder hne), if_pos rfl]
  refine ⟨ht.erase hne, .erase hne, fun hk => ?_⟩
  -- a link would have been lost, so what was removed is a file, and links have been followed
  have hlink : ∀ t, e ≠ .link t := by
    rintro t rfl
    exact absurd (hgone.symm.trans ((hk.link p t).mpr hget)) (by simp)
  have hfollowed : d.locate true path = .ok (.found p e) := by
    refine locate_of_arrives hl ((arrives_of_locate hl).followed ?_)
    rintro q t heq
    cases heq
    exact hlink t rfl
  have hchange : d.FileChange (d.erase p) p none := by
    refine ht.erase_fileChange hne fun t ht' => hlink t ?_
    exact Option.some.inj (hget.symm.trans ht')
  exact (hchange.touches ((ht.pointsTo_of_locate hfollowed).keeps hk)).files hk

/-- A path whose place no other path leads to reads what it read. -/
theorem Touches.read (h : d.Touches d' paths) (ht : d.IsTree) (hk : d.Keeps d')
    (halone : ∀ q ∈ paths, ∀ p, d'.PointsTo q p → ¬ d'.PointsTo path p)
    (hr : d.read path = .ok b) : d'.read path = .ok b := by
  obtain ⟨t, hl, hf⟩ := ht.fileAt?_of_read hr
  have hpath := (ht.pointsTo_of_locate hl).keeps hk
  have hsame : d'.fileAt? t.place = d.fileAt? t.place := by
    by_contra hne
    obtain ⟨q, hq, hpoints⟩ := h.files hk t.place hne
    exact halone q hq t.place hpoints hpath
  exact ht.read_of_keeps h.tree hk hl (hsame.trans hf)

end Touching

end Codemod.Disk
