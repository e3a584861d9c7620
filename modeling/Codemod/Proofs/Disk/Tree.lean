import Codemod.Disk
import Mathlib.Data.List.Induction

/-!
# The disk as a tree

Entries are kept in a list, and read back by place. On a real disk every entry is in a folder; the
operations on the disk see to it that this stays so.

## Main definitions

* `Disk.fileAt?` — the bytes of the file at a place.
* `Disk.IsTree` — every entry is in a folder.
* `Disk.Keeps` — folders stay, and links are neither made nor lost.

## Main results

* `Disk.get?_set`, `Disk.get?_erase` — reading back after a change.
* `Disk.IsTree.set`, `Disk.IsTree.erase` — which changes keep a disk a tree.
-/

namespace Codemod.Disk

/-- The bytes of the file at a place. -/
def fileAt? (d : Disk) (p : Place) : Option Bytes :=
  match d.get? p with
  | some (.file b) => some b
  | _ => none

theorem fileAt?_eq_some {d : Disk} {p : Place} {b : Bytes} :
    d.fileAt? p = some b ↔ d.get? p = some (.file b) := by
  unfold fileAt?
  split <;> simp_all

theorem fileAt?_congr {d d' : Disk} {p : Place} (h : d'.get? p = d.get? p) :
    d'.fileAt? p = d.fileAt? p := by
  rw [fileAt?, h, fileAt?]

/-! ## Reading back -/

theorem find_replace (p : Place) (e : Entry) (l : List (Place × Entry)) (q : Place) :
    find q (replace p e l) = if q = p then some e else find q l := by
  fun_induction replace p e l with
  | case1 => simp [find, eq_comm]
  | case2 f rest =>
    by_cases h : q = p
    · simp [find, h]
    · simp [find, h, Ne.symm h]
  | case3 r f rest hr ih =>
    by_cases h : r = q
    · have hq : q ≠ p := fun hq => hr (h.trans hq)
      simp [find, h, hq]
    · simp [find, h, ih]

theorem find_filter_ne (p : Place) (l : List (Place × Entry)) (q : Place) :
    find q (l.filter (·.1 ≠ p)) = if q = p then none else find q l := by
  induction l with
  | nil => simp [find]
  | cons x l ih =>
    obtain ⟨r, e⟩ := x
    by_cases hr : r = p
    · by_cases hq : q = p
      · simpa [hr, hq] using ih
      · simpa [hr, hq, find, Ne.symm hq] using ih
    · by_cases hq : r = q
      · have hqp : q ≠ p := fun h => hr (hq.trans h)
        simp [find, hq, hqp]
      · simpa [hr, find, hq] using ih

theorem ne_nil_of_get?_ne_folder {d : Disk} {p : Place} (h : d.get? p ≠ some .folder) :
    p ≠ [] := by
  rintro rfl
  exact h rfl

theorem mem_of_find {p : Place} {e : Entry} {l : List (Place × Entry)} (h : find p l = some e) :
    (p, e) ∈ l := by
  fun_induction find p l with
  | case1 => cases h
  | case2 f rest =>
    obtain rfl := Option.some.inj h
    exact List.mem_cons_self
  | case3 q f rest hq ih => exact List.mem_cons_of_mem _ (ih h)

theorem mem_entries_of_get? {d : Disk} {p : Place} {e : Entry} (hp : p ≠ [])
    (h : d.get? p = some e) : (p, e) ∈ d.entries :=
  mem_of_find (by rwa [get?, if_neg hp] at h)

theorem get?_set {d : Disk} {p : Place} (hp : p ≠ []) (e : Entry) (q : Place) :
    (d.set p e).get? q = if q = p then some e else d.get? q := by
  unfold get? set
  by_cases hq : q = []
  · simp [hq, Ne.symm hp]
  · simp [hq, find_replace]

theorem get?_erase {d : Disk} {p : Place} (hp : p ≠ []) (q : Place) :
    (d.erase p).get? q = if q = p then none else d.get? q := by
  unfold get? erase
  by_cases hq : q = []
  · simp [hq, Ne.symm hp]
  · simpa [hq] using find_filter_ne p d.entries q

/-! ## Trees -/

structure IsTree (d : Disk) : Prop where
  home : d.get? d.home = some .folder
  parent : ∀ p name e, d.get? (p ++ [name]) = some e → d.get? p = some .folder

theorem IsTree.of_entries {d : Disk} (home : d.get? d.home = some .folder)
    (parent : ∀ x ∈ d.entries, d.get? x.1.dropLast = some .folder) : d.IsTree := by
  refine ⟨home, fun p name e he => ?_⟩
  have hp := parent _ (mem_entries_of_get? (by simp) he)
  rwa [List.dropLast_concat] at hp

/-- Everything on the way to an entry is a folder. -/
theorem IsTree.folder_above {d : Disk} (h : d.IsTree) {p t : Place} {e : Entry} (ht : t ≠ [])
    (he : d.get? (p ++ t) = some e) : d.get? p = some .folder := by
  induction t using List.reverseRecOn generalizing e with
  | nil => exact absurd rfl ht
  | append_singleton t name ih =>
    rw [← List.append_assoc] at he
    have hp := h.parent _ _ _ he
    by_cases hn : t = []
    · simpa [hn] using hp
    · exact ih hn hp

/-- There is nothing below a place where there is no folder. -/
theorem IsTree.nothing_below {d : Disk} (h : d.IsTree) {p q : Place}
    (hp : d.get? p ≠ some .folder) (hpq : p <+: q) (hne : p ≠ q) : d.get? q = none := by
  obtain ⟨t, rfl⟩ := hpq
  have ht : t ≠ [] := by
    rintro rfl
    simp at hne
  cases he : d.get? (p ++ t) with
  | none => rfl
  | some e => exact absurd (h.folder_above ht he) hp

theorem IsTree.nothing_at_or_below {d : Disk} (h : d.IsTree) {p q : Place} (hp : d.get? p = none)
    (hpq : p <+: q) : d.get? q = none := by
  by_cases hne : p = q
  · exact hne ▸ hp
  · exact h.nothing_below (by simp [hp]) hpq hne

theorem IsTree.folder_dropLast {d : Disk} (h : d.IsTree) {p : Place} {e : Entry}
    (hp : d.get? p = some e) : d.get? p.dropLast = some .folder := by
  rcases List.eq_nil_or_concat p with rfl | ⟨q, name, rfl⟩
  · rfl
  · simpa using h.parent q name e (by simpa using hp)

/-- There may be anything in a folder, as long as nothing else was to be found through it. -/
theorem IsTree.set {d : Disk} (h : d.IsTree) {p : Place} (e : Entry)
    (hp : d.get? p ≠ some .folder) (hup : d.get? p.dropLast = some .folder) :
    (d.set p e).IsTree := by
  have hnil := ne_nil_of_get?_ne_folder hp
  have other : ∀ q, d.get? q = some .folder → (d.set p e).get? q = some .folder := by
    intro q hq
    have hqp : q ≠ p := fun hqp => hp (hqp ▸ hq)
    rw [get?_set hnil, if_neg hqp, hq]
  refine ⟨other _ h.home, ?_⟩
  intro q name f hf
  apply other
  rw [get?_set hnil] at hf
  split at hf
  next heq => rwa [← heq, List.dropLast_concat] at hup
  next => exact h.parent q name f hf

theorem IsTree.erase {d : Disk} (h : d.IsTree) {p : Place} (hp : d.get? p ≠ some .folder) :
    (d.erase p).IsTree := by
  have hnil := ne_nil_of_get?_ne_folder hp
  have other : ∀ q, d.get? q = some .folder → (d.erase p).get? q = some .folder := by
    intro q hq
    have hqp : q ≠ p := fun hqp => hp (hqp ▸ hq)
    rw [get?_erase hnil, if_neg hqp, hq]
  refine ⟨other _ h.home, ?_⟩
  intro q name f hf
  rw [get?_erase hnil] at hf
  split at hf
  · simp at hf
  · exact other q (h.parent q name f hf)

/-! ## What stays -/

/-- Folders stay, and links are neither made nor lost, so that paths still lead where they led. -/
structure Keeps (d d' : Disk) : Prop where
  home : d'.home = d.home
  folder : ∀ p, d.get? p = some .folder → d'.get? p = some .folder
  link : ∀ p t, d'.get? p = some (.link t) ↔ d.get? p = some (.link t)

theorem Keeps.refl (d : Disk) : d.Keeps d :=
  ⟨rfl, fun _ h => h, fun _ _ => Iff.rfl⟩

theorem Keeps.trans {a b c : Disk} (h : a.Keeps b) (g : b.Keeps c) : a.Keeps c :=
  ⟨g.home.trans h.home, fun p hp => g.folder p (h.folder p hp),
    fun p t => (g.link p t).trans (h.link p t)⟩

/-- A change at a place that is, before and after, neither a folder that goes nor a link. -/
theorem Keeps.of_change {d d' : Disk} {p : Place} (hhome : d'.home = d.home)
    (hother : ∀ q, q ≠ p → d'.get? q = d.get? q) (hfolder : d.get? p ≠ some .folder)
    (hbefore : ∀ t, d.get? p ≠ some (.link t)) (hafter : ∀ t, d'.get? p ≠ some (.link t)) :
    d.Keeps d' := by
  refine ⟨hhome, fun q hq => ?_, fun q t => ?_⟩
  · rw [hother q fun h => hfolder (h ▸ hq), hq]
  · by_cases h : q = p
    · subst h
      exact iff_of_false (hafter t) (hbefore t)
    · rw [hother q h]

theorem Keeps.set {d : Disk} {p : Place} {e : Entry} (hfolder : d.get? p ≠ some .folder)
    (hlink : ∀ t, d.get? p ≠ some (.link t)) (he : ∀ t, e ≠ .link t) : d.Keeps (d.set p e) := by
  have hnil := ne_nil_of_get?_ne_folder hfolder
  refine .of_change rfl (fun q hq => ?_) hfolder hlink fun t => ?_
  · rw [get?_set hnil, if_neg hq]
  · rw [get?_set hnil, if_pos rfl]
    exact fun h => he t (Option.some.inj h)

theorem Keeps.erase {d : Disk} {p : Place} (hfolder : d.get? p ≠ some .folder)
    (hlink : ∀ t, d.get? p ≠ some (.link t)) : d.Keeps (d.erase p) := by
  have hnil := ne_nil_of_get?_ne_folder hfolder
  refine .of_change rfl (fun q hq => ?_) hfolder hlink fun t => ?_
  · rw [get?_erase hnil, if_neg hq]
  · rw [get?_erase hnil, if_pos rfl]
    simp

end Codemod.Disk
