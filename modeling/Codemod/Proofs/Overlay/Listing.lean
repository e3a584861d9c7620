import Codemod.Proofs.Overlay.NetChange
import Codemod.Proofs.Path.Ancestors

/-!
# Listing folders

The paths that are known to an overlay have an order: first those of the snapshot as they were
inserted, then the new ones. A folder is listed by passing over the known paths that are not in it
and those at which nothing can be read any more. So whatever was deleted and made again in the
meantime, a path is listed if there is a file at it, once, and in the place that it has had from the
first.

## Main definitions

* `Path.IsIn` — a path is in a folder, or below it.
* `PendsBefore` — one path had a change before another one had.

## Main results

* `Overlay.mem_list` — a folder lists the files that can be read in it.
* `pairwise_creationOrder` — the order of the new paths is that of their first changes.
* `Overlay.list_of_history` — listing at the end of a history.
-/

namespace Codemod

/-- Whether a path is in the folder `dir`, which is `""` for the root: just below it or, if
`recursive`, anywhere below it. What stands before the last segment of the path decides. -/
def Path.IsIn (path dir : String) (recursive : Bool) : Prop :=
  let above := "/".intercalate (segments path).dropLast
  if recursive then dir = "" ∨ segments dir <+: segments above else above = dir

/-- The paths with a change at the end of a history. -/
def pending (root : String) (files : List ProjectFile) (edits : List Edit) : List String :=
  ((Overlay.ofFiles root files).editAll edits).changes.map (·.path)

/-- The path `p` had a change at a time at which `q` had never had one. -/
def PendsBefore (root : String) (files : List ProjectFile) (edits : List Edit) (p q : String) :
    Prop :=
  ∃ now, now <+: edits ∧ p ∈ pending root files now ∧
    ∀ earlier, earlier <+: now → q ∉ pending root files earlier

/-! ## The order of the new paths -/

section Creation

variable {root : String} {files : List ProjectFile} {edits : List Edit} {p q : String}

theorem mem_creationOrder :
    p ∈ creationOrder files edits ↔
      Contents.ofFiles files p = none ∧ ∃ e ∈ edits, e.target = p ∧ e.content ≠ "" := by
  simp only [creationOrder, List.mem_eraseDups, List.mem_map, List.mem_filter, decide_eq_true_eq]
  constructor
  · rintro ⟨e, ⟨he, hc, hnew⟩, rfl⟩
    exact ⟨hnew, e, he, rfl, hc⟩
  · rintro ⟨hnew, e, he, rfl, hc⟩
    exact ⟨e, ⟨he, hc, hnew⟩, rfl⟩

theorem originalOf_of_new (hnew : Contents.ofFiles files p = none) :
    Contents.originalOf files p = "" := by
  rw [Contents.originalOf, hnew, Option.getD_none]

theorem Edit.exists_of_last? {content : String} (h : Edit.last? edits p = some content) :
    ∃ e ∈ edits, e.target = p ∧ e.content = content := by
  obtain ⟨e, he, hcontent⟩ := Option.map_eq_some_iff.mp h
  obtain ⟨hmem, htarget⟩ := List.mem_filter.mp (List.mem_of_getLast? he)
  exact ⟨e, hmem, of_decide_eq_true htarget, hcontent⟩

/-- A new path with a change has been created. -/
theorem mem_creationOrder_of_pending (hnew : Contents.ofFiles files p = none)
    (h : p ∈ pending root files edits) : p ∈ creationOrder files edits := by
  obtain ⟨c, hc, rfl⟩ := List.mem_map.mp h
  obtain ⟨-, hlast, hne⟩ := Overlay.mem_changes_history.mp hc
  rw [originalOf_of_new hnew] at hne
  obtain ⟨e, he, htarget, hcontent⟩ := Edit.exists_of_last? hlast
  exact mem_creationOrder.mpr ⟨hnew, e, he, htarget, hcontent ▸ hne⟩

/-- What has been created has had a change, at the latest with the edit that created it. -/
theorem exists_pending_of_mem_creationOrder (root : String)
    (h : p ∈ creationOrder files edits) : ∃ now, now <+: edits ∧ p ∈ pending root files now := by
  obtain ⟨hnew, e, he, htarget, hcontent⟩ := mem_creationOrder.mp h
  obtain ⟨before, after, rfl⟩ := List.append_of_mem he
  refine ⟨before ++ [e], ⟨after, by simp⟩, List.mem_map.mpr ⟨⟨p, "", e.content⟩, ?_, rfl⟩⟩
  refine Overlay.mem_changes_history.mpr ⟨(originalOf_of_new hnew).symm, ?_, ?_⟩
  · rw [Edit.last?_append, if_pos htarget]
  · rwa [originalOf_of_new hnew]

theorem PendsBefore.append (h : PendsBefore root files edits p q) (e : Edit) :
    PendsBefore root files (edits ++ [e]) p q := by
  obtain ⟨now, hnow, hp, hq⟩ := h
  exact ⟨now, hnow.trans (List.prefix_append _ _), hp, hq⟩

/-- New paths are in the order of their first changes. -/
theorem pairwise_creationOrder (root : String) (files : List ProjectFile) (edits : List Edit) :
    (creationOrder files edits).Pairwise (PendsBefore root files edits) := by
  induction edits using List.reverseRecOn with
  | nil => simp [creationOrder]
  | append_singleton edits e ih =>
    have hold : (creationOrder files edits).Pairwise (PendsBefore root files (edits ++ [e])) :=
      ih.imp fun h => h.append e
    rw [creationOrder_append]
    split
    next h =>
      obtain ⟨-, hnew, hnot⟩ := h
      refine List.pairwise_append.mpr ⟨hold, List.pairwise_singleton _ _, fun p hp q hq => ?_⟩
      obtain rfl := List.mem_singleton.mp hq
      obtain ⟨now, hnow, hpending⟩ := exists_pending_of_mem_creationOrder root hp
      refine ⟨now, hnow.trans (List.prefix_append _ _), hpending, fun earlier hearlier hq => ?_⟩
      -- what had a change before this edit would have been created before it
      apply hnot
      obtain ⟨-, d, hd, hcreates⟩ := mem_creationOrder.mp (mem_creationOrder_of_pending hnew hq)
      exact mem_creationOrder.mpr ⟨hnew, d, (hearlier.trans hnow).subset hd, hcreates⟩
    next => exact hold

end Creation

namespace Overlay

/-! ## Folders -/

/-- What can be read is at a path that is known. -/
theorem mem_order_of_current? {o : Overlay} {path : String}
    (h : (o.current? path).isSome = true) : path ∈ o.order := by
  rw [order, List.mem_append, mem_map_path_created, or_iff_not_imp_left]
  intro hfile
  have hnone := file?_eq_none.mpr hfile
  refine ⟨Decidable.not_not.mp fun hrecord => ?_, hnone⟩
  simp [current?, record?_eq_none.mpr hrecord, hnone] at h

/-- A file can be read if and only if its folder lists it. -/
theorem mem_list {o : Overlay} {dir path : String} {recursive : Bool} :
    path ∈ o.list dir recursive ↔ (o.current? path).isSome = true ∧
      Path.IsIn path (if Path.normalize dir = "." then "" else Path.normalize dir) recursive := by
  have hfilter : path ∈ o.list dir recursive ↔ path ∈ o.order ∧
      Path.IsIn path (if Path.normalize dir = "." then "" else Path.normalize dir) recursive ∧
        (o.current? path).isSome = true := by
    rw [list, List.mem_filter, Bool.and_eq_true, order]
    cases recursive <;> simp only [Path.IsIn, Path.isWithin_iff, Path.folder_eq,
      decide_eq_true_eq, if_true, Bool.false_eq_true, if_false]
  rw [hfilter]
  constructor
  · rintro ⟨-, hin, hsome⟩
    exact ⟨hsome, hin⟩
  · rintro ⟨hsome, hin⟩
    exact ⟨mem_order_of_current? hsome, hin, hsome⟩

/-- A listing passes over known paths. -/
theorem list_sublist_order (o : Overlay) (dir : String) (recursive : Bool) :
    (o.list dir recursive).Sublist o.order :=
  List.filter_sublist

/-! ## Histories -/

theorem order_history (root : String) (files : List ProjectFile) (edits : List Edit) :
    ((ofFiles root files).editAll edits).order =
      walkOrder files ++ creationOrder files edits := by
  rw [order, files_editAll, map_path_ofFiles, map_path_created_history]

theorem normalize_of_mem_order {root : String} {files : List ProjectFile} {edits : List Edit}
    {path : String} (h : path ∈ ((ofFiles root files).editAll edits).order) :
    Path.normalize path = path := by
  rw [order_history, List.mem_append] at h
  rcases h with h | h
  · obtain ⟨f, -, rfl⟩ := List.mem_map.mp (List.mem_eraseDups.mp h)
    exact Path.normalize_normalize f.path
  · obtain ⟨-, e, -, rfl, -⟩ := mem_creationOrder.mp h
    exact Path.normalize_normalize e.path

theorem mem_walkOrder_iff {files : List ProjectFile} {path : String} :
    path ∈ walkOrder files ↔ Contents.ofFiles files path ≠ none := by
  rw [← map_path_ofFiles "", ← map_content_ofFiles "", Ne, Option.map_eq_none_iff, file?_eq_none,
    Decidable.not_not]

/-- Listing a folder at the end of a history, where the folder may be spelled in any way and the
root is also called `.`: no path occurs twice; what occurs are the paths in project form at which
there is a file and which are in the folder; the paths of the snapshot come first, in the order of
their first insertion; and after them come the new ones, in the order of their first changes. -/
theorem list_of_history (root : String) (files : List ProjectFile) (edits : List Edit)
    (dir : String) (recursive : Bool) :
    let o := (ofFiles root files).editAll edits
    let folder := if Path.normalize dir = "." then "" else Path.normalize dir
    (o.list dir recursive).Nodup ∧
      (∀ path, path ∈ o.list dir recursive ↔
        Path.normalize path = path ∧ o.contains path = true ∧ Path.IsIn path folder recursive) ∧
      ∃ old new, o.list dir recursive = old ++ new ∧ old.Sublist (walkOrder files) ∧
        (∀ path ∈ new, path ∉ walkOrder files) ∧
        new.Pairwise (PendsBefore root files edits) := by
  intro o folder
  have hsublist := o.list_sublist_order dir recursive
  refine ⟨(valid_history root files edits).order_nodup.sublist hsublist, fun path => ?_, ?_⟩
  · constructor
    · intro h
      have hform := normalize_of_mem_order (hsublist.subset h)
      obtain ⟨hsome, hin⟩ := mem_list.mp h
      exact ⟨hform, by rwa [contains, read?, hform], hin⟩
    · rintro ⟨hform, hsome, hin⟩
      rw [contains, read?, hform] at hsome
      exact mem_list.mpr ⟨hsome, hin⟩
  · rw [order_history] at hsublist
    obtain ⟨old, new, hlist, hold, hnew⟩ := List.sublist_append_iff.mp hsublist
    refine ⟨old, new, hlist, hold, fun path hpath => ?_,
      (pairwise_creationOrder root files edits).sublist hnew⟩
    rw [mem_walkOrder_iff, Decidable.not_not]
    exact (mem_creationOrder.mp (hnew.subset hpath)).1

/-- A file of the snapshot is deleted, a new one is deleted and made again, and there is a folder
whose name begins like that of the one listed. -/
theorem list_of_history_made_again :
    let files : List ProjectFile :=
      [⟨"src/a", "1", false⟩, ⟨"src/b/c", "2", false⟩, ⟨"src2/d", "3", false⟩]
    let edits : List Edit := [.add "src/z" "z", .add "src\\b\\y" "y", .delete "src/z",
      .delete "./src/a", .add "./src/z" "Z"]
    let o := (ofFiles "proj" files).editAll edits
    o.list "./src/" true = ["src/b/c", "src/z", "src/b/y"] ∧
      (o.contains "src/b/y" = true ∧ Path.IsIn "src/b/y" "src" true ∧
        "src/b/y" ∈ o.list "./src/" true) ∧
      "src2/d" ∉ o.list "./src/" true ∧ (o.list "./src/" true).Nodup := by
  intro files edits o
  have hfolder : (if Path.normalize "./src/" = "." then "" else Path.normalize "./src/") =
      "src" := by decide
  obtain ⟨hnodup, hmem, -⟩ := list_of_history "proj" files edits "./src/" true
  rw [hfolder] at hmem
  have hread : o.contains "src/b/y" = true := by decide
  have hin : Path.IsIn "src/b/y" "src" true := by
    unfold Path.IsIn
    decide
  have hout : ¬ Path.IsIn "src2/d" "src" true := by
    unfold Path.IsIn
    decide
  exact ⟨by decide, ⟨hread, hin, (hmem _).mpr ⟨by decide, hread, hin⟩⟩,
    fun h => hout ((hmem _).mp h).2.2, hnodup⟩

end Overlay

end Codemod
