import Codemod.Overlay.Commit
import Codemod.Proofs.Overlay.Lookup
import Mathlib.Data.List.Nodup

/-!
# Valid overlays

Whatever is done to an overlay, no path gets a second file or a second record. On such an overlay
the changes are the records that differ from the snapshot, each of them once.

## Main definitions

* `Overlay.Valid` — no path has two files or two records.
* `Overlay.Reachable` — the overlays that the operations lead to.

## Main results

* `Overlay.Reachable.valid` — the operations keep an overlay valid.
* `Overlay.Valid.changes_eq`, `Overlay.Valid.mem_changes` — order and members of the changes.
-/

namespace Codemod.Overlay

/-- No path has two files or two records. -/
structure Valid (o : Overlay) : Prop where
  files_nodup : (o.files.map (·.path)).Nodup
  records_nodup : (o.records.map (·.path)).Nodup

theorem Valid.of_no_records {o : Overlay} (h : o.Valid) : Valid { o with records := [] } :=
  ⟨h.files_nodup, List.nodup_nil⟩

theorem valid_empty (root : String) : Valid { root } :=
  ⟨List.nodup_nil, List.nodup_nil⟩

theorem Valid.insert {o : Overlay} (h : o.Valid) (f : ProjectFile) : (o.insert f).Valid := by
  refine ⟨?_, h.records_nodup⟩
  simp only [Overlay.insert, map_path_insertFile]
  split
  next => exact h.files_nodup
  next hf => simpa using List.Nodup.concat hf h.files_nodup

theorem Valid.add {o : Overlay} (h : o.Valid) (path content : String) :
    (o.add path content).Valid := by
  refine ⟨by simpa using h.files_nodup, ?_⟩
  obtain ⟨_, _, ha⟩ | ⟨_, _, ha⟩ | ⟨hr, _, ha⟩ := add_cases o path content
  · simpa [ha] using h.records_nodup
  · simpa [ha] using h.records_nodup
  · simpa [ha] using List.Nodup.concat (record?_eq_none.mp hr) h.records_nodup

theorem Valid.commit {o : Overlay} (h : o.Valid) (d : Disk) : (o.commit d).2.1.Valid := by
  unfold Overlay.commit
  split
  · exact h.of_no_records
  · exact h

/-- With one record a path, a record is what is found under its path. -/
theorem Valid.record?_of_mem {o : Overlay} (h : o.Valid) {c : Change} (hc : c ∈ o.records) :
    o.record? c.path = some c := by
  cases hb : o.record? c.path with
  | none => exact absurd (List.mem_map_of_mem hc) (record?_eq_none.mp hb)
  | some b =>
    have hmem : b ∈ o.records := List.mem_of_find?_eq_some hb
    rw [List.inj_on_of_nodup_map h.records_nodup hmem hc (path_of_record? hb)]

/-! ## The changes of a valid overlay -/

theorem mem_created {o : Overlay} {c : Change} :
    c ∈ o.created ↔ c ∈ o.records ∧ o.file? c.path = none := by
  simp [created]

theorem mem_map_path_created {o : Overlay} {path : String} :
    path ∈ o.created.map (·.path) ↔ path ∈ o.records.map (·.path) ∧ o.file? path = none := by
  simp only [List.mem_map, mem_created]
  constructor
  · rintro ⟨c, ⟨hc, hf⟩, rfl⟩
    exact ⟨⟨c, hc, rfl⟩, hf⟩
  · rintro ⟨⟨c, hc, rfl⟩, hf⟩
    exact ⟨c, ⟨hc, hf⟩, rfl⟩

/-- The paths that may have changed, in the order in which their changes are told. -/
def order (o : Overlay) : List String :=
  o.files.map (·.path) ++ o.created.map (·.path)

theorem Valid.order_nodup {o : Overlay} (h : o.Valid) : o.order.Nodup := by
  refine List.nodup_append.mpr ⟨h.files_nodup, ?_, ?_⟩
  · exact h.records_nodup.sublist (List.filter_sublist.map _)
  · rintro p hp q hq rfl
    exact file?_eq_none.mp (mem_map_path_created.mp hq).2 hp

/-- The record of a path, if it differs from the snapshot. -/
def net? (o : Overlay) (path : String) : Option Change :=
  (o.record? path).filter Change.isNet

theorem net?_eq_some {o : Overlay} {path : String} {c : Change} :
    o.net? path = some c ↔ o.record? path = some c ∧ c.isNet = true := by
  simp [net?, Option.filter_eq_some_iff]

/-- The changes are what the paths in order have to tell. -/
theorem Valid.changes_eq {o : Overlay} (h : o.Valid) : o.changes = o.order.filterMap o.net? := by
  have hcreated : (o.created.map (·.path)).filterMap o.record? = o.created := by
    rw [List.filterMap_map]
    exact (List.filterMap_congr fun c hc => h.record?_of_mem (mem_created.mp hc).1).trans
      (List.filterMap_some ..)
  have hfiles : (o.files.map (·.path)).filterMap o.record? =
      o.files.filterMap (o.record? ·.path) := by
    rw [List.filterMap_map]
    rfl
  calc o.changes
      = ((o.files.map (·.path)).filterMap o.record? ++
          (o.created.map (·.path)).filterMap o.record?).filter Change.isNet := by
        rw [hfiles, hcreated, changes]
    _ = (o.order.filterMap o.record?).filter Change.isNet := by
        rw [order, List.filterMap_append]
    _ = o.order.filterMap o.net? := List.filter_filterMap

/-- Each path has its change in its own place. -/
theorem map_path_filterMap_sublist {g : String → Option Change}
    (hg : ∀ p c, g p = some c → c.path = p) (l : List String) :
    ((l.filterMap g).map (·.path)).Sublist l := by
  induction l with
  | nil => exact .slnil
  | cons p l ih =>
    cases hp : g p with
    | none => simpa [hp] using ih.cons p
    | some c => simpa [hp, hg p c hp] using ih.cons_cons p

theorem Valid.map_path_changes_sublist {o : Overlay} (h : o.Valid) :
    (o.changes.map (·.path)).Sublist o.order := by
  rw [h.changes_eq]
  exact map_path_filterMap_sublist (fun p c hc => path_of_record? (net?_eq_some.mp hc).1) _

theorem Valid.map_path_changes_nodup {o : Overlay} (h : o.Valid) :
    (o.changes.map (·.path)).Nodup :=
  h.order_nodup.sublist h.map_path_changes_sublist

/-- The changes are the records that differ from the snapshot. -/
theorem Valid.mem_changes {o : Overlay} (h : o.Valid) {c : Change} :
    c ∈ o.changes ↔ c ∈ o.records ∧ c.isNet = true := by
  rw [h.changes_eq, List.mem_filterMap]
  constructor
  · rintro ⟨p, -, hc⟩
    obtain ⟨hr, hn⟩ := net?_eq_some.mp hc
    exact ⟨List.mem_of_find?_eq_some hr, hn⟩
  · rintro ⟨hc, hn⟩
    refine ⟨c.path, ?_, net?_eq_some.mpr ⟨h.record?_of_mem hc, hn⟩⟩
    cases hf : o.file? c.path with
    | none => exact List.mem_append_right _ (mem_map_path_created.mpr ⟨List.mem_map_of_mem hc, hf⟩)
    | some f =>
      refine List.mem_append_left _ (Decidable.not_not.mp fun hn => ?_)
      simp [file?_eq_none.mpr hn] at hf

theorem Valid.mem_changes_iff_net? {o : Overlay} (h : o.Valid) {c : Change} :
    c ∈ o.changes ↔ o.net? c.path = some c := by
  rw [h.mem_changes, net?_eq_some]
  constructor
  · rintro ⟨hc, hn⟩
    exact ⟨h.record?_of_mem hc, hn⟩
  · rintro ⟨hr, hn⟩
    exact ⟨List.mem_of_find?_eq_some hr, hn⟩

theorem Valid.hasChanges_iff {o : Overlay} (h : o.Valid) :
    o.hasChanges = true ↔ o.changes ≠ [] := by
  rw [hasChanges, List.any_eq_true]
  constructor
  · rintro ⟨c, hc⟩
    exact List.ne_nil_of_mem (h.mem_changes.mpr hc)
  · intro hne
    obtain ⟨c, hc⟩ := List.exists_mem_of_ne_nil _ hne
    exact ⟨c, h.mem_changes.mp hc⟩

/-! ## Reachable overlays -/

/-- The overlays that the operations lead to. -/
inductive Reachable : Overlay → Prop where
  | empty (root : String) : Reachable { root }
  | insert {o : Overlay} (f : ProjectFile) : Reachable o → Reachable (o.insert f)
  | add {o : Overlay} (path content : String) : Reachable o → Reachable (o.add path content)
  | delete {o : Overlay} (path : String) : Reachable o → Reachable (o.delete path)
  | clear {o : Overlay} : Reachable o → Reachable o.clear
  | commit {o : Overlay} (d : Disk) : Reachable o → Reachable (o.commit d).2.1

theorem Reachable.valid {o : Overlay} (h : o.Reachable) : o.Valid := by
  induction h with
  | empty root => exact valid_empty root
  | insert f _ ih => exact ih.insert f
  | add path content _ ih => exact ih.add path content
  | delete path _ ih => exact ih.add path ""
  | clear _ _ => exact valid_empty _
  | commit d _ ih => exact ih.commit d

end Codemod.Overlay
