import Codemod.Proofs.Overlay.View

/-!
# The changes are the net difference

Edits may be repeated, taken back and overruled. At the end of every history the changes tell, for
each path, the difference between the snapshot and the last content that the path was given, and
nothing else.

## Main definitions

* `Edit.last?` — the content that a path was given last.
* `walkOrder`, `creationOrder` — the order of the snapshot, and of the paths that are new.
* `netChange?` — the difference at one path.

## Main results

* `Overlay.changes_history` — the changes at the end of a history, in order.
* `Overlay.changes_are_net_difference` — what this says about each path.
-/

namespace Codemod

/-- What the files have at a path in project form; nothing if there is no file. -/
def Contents.originalOf (files : List ProjectFile) (path : String) : String :=
  (Contents.ofFiles files path).getD ""

/-- What was given last to a path in project form. -/
def Edit.last? (edits : List Edit) (path : String) : Option String :=
  (edits.filter (·.target = path)).getLast?.map Edit.content

/-- The paths of the files, in the order in which they were first inserted. -/
def walkOrder (files : List ProjectFile) : List String :=
  (files.map fun f => Path.normalize f.path).eraseDups

/-- The paths without a file, in the order in which they were first given a content that is not
empty. -/
def creationOrder (files : List ProjectFile) (edits : List Edit) : List String :=
  ((edits.filter fun e =>
    e.content ≠ "" ∧ Contents.ofFiles files e.target = none).map Edit.target).eraseDups

/-- How the last content of a path differs from what the files have there. -/
def netChange? (files : List ProjectFile) (edits : List Edit) (path : String) : Option Change :=
  match Edit.last? edits path with
  | none => none
  | some content =>
    if content = Contents.originalOf files path then none
    else some { path, before := Contents.originalOf files path, content }

theorem netChange?_eq_some {files : List ProjectFile} {edits : List Edit} {path : String}
    {c : Change} :
    netChange? files edits path = some c ↔
      c.path = path ∧ c.before = Contents.originalOf files path ∧
        Edit.last? edits path = some c.content ∧ c.content ≠ Contents.originalOf files path := by
  obtain ⟨p, before, content⟩ := c
  unfold netChange?
  cases Edit.last? edits path with
  | none => simp
  | some last =>
    by_cases h : last = Contents.originalOf files path
    · simp only [h, if_true]
      grind
    · simp only [h, if_false, Option.some.injEq, Change.mk.injEq]
      grind

/-! ## One more file, one more edit -/

theorem eraseDups_concat (l : List String) (a : String) :
    (l ++ [a]).eraseDups = if a ∈ l.eraseDups then l.eraseDups else l.eraseDups ++ [a] := by
  rw [List.eraseDups_append]
  by_cases h : a ∈ l <;> simp [List.removeAll, h, List.eraseDups_cons]

theorem walkOrder_append (files : List ProjectFile) (f : ProjectFile) :
    walkOrder (files ++ [f]) =
      if Path.normalize f.path ∈ walkOrder files then walkOrder files
      else walkOrder files ++ [Path.normalize f.path] := by
  simp [walkOrder, eraseDups_concat]

theorem creationOrder_append (files : List ProjectFile) (edits : List Edit) (e : Edit) :
    creationOrder files (edits ++ [e]) =
      if e.content ≠ "" ∧ Contents.ofFiles files e.target = none ∧
        e.target ∉ creationOrder files edits
      then creationOrder files edits ++ [e.target] else creationOrder files edits := by
  by_cases h : e.content ≠ "" ∧ Contents.ofFiles files e.target = none
  · by_cases hm : e.target ∈ creationOrder files edits
    · simp_all [creationOrder, eraseDups_concat]
    · simp_all [creationOrder, eraseDups_concat]
  · have hnot : ¬ (e.content ≠ "" ∧ Contents.ofFiles files e.target = none ∧
        e.target ∉ creationOrder files edits) := fun hc => h ⟨hc.1, hc.2.1⟩
    rw [if_neg hnot]
    simp [creationOrder, h]

theorem Edit.last?_append (edits : List Edit) (e : Edit) (path : String) :
    Edit.last? (edits ++ [e]) path =
      if e.target = path then some e.content else Edit.last? edits path := by
  by_cases h : e.target = path <;> simp [Edit.last?, h]

theorem Edit.last?_cons (e : Edit) (edits : List Edit) (path : String) :
    Edit.last? (e :: edits) path =
      (Edit.last? edits path).or (if e.target = path then some e.content else none) := by
  by_cases h : e.target = path
  · cases hl : (edits.filter (·.target = path)).getLast? with
    | none => simp [Edit.last?, h, List.getLast?_cons, hl]
    | some last => simp [Edit.last?, h, List.getLast?_cons, hl]
  · simp [Edit.last?, h]

namespace Overlay

/-! ## Order -/

theorem map_path_ofFiles (root : String) (fs : List ProjectFile) :
    (ofFiles root fs).files.map (·.path) = walkOrder fs := by
  induction fs using List.reverseRecOn with
  | nil => rfl
  | append_singleton fs f ih =>
    rw [ofFiles_append, insert, map_path_insertFile, ih, walkOrder_append]

theorem map_path_created (o : Overlay) :
    o.created.map (·.path) = (o.records.map (·.path)).filter fun p => (o.file? p).isNone := by
  rw [created, List.filter_map]
  rfl

/-- A path joins the new ones when it is first given a content that is not empty. -/
theorem map_path_created_edit (o : Overlay) (e : Edit) :
    (o.edit e).created.map (·.path) =
      if e.content ≠ "" ∧ (o.file? e.target).map (·.content) = none ∧
        e.target ∉ o.created.map (·.path)
      then o.created.map (·.path) ++ [e.target] else o.created.map (·.path) := by
  rw [map_path_created (o.edit e), edit_eq_add]
  simp only [file?_add, Option.map_eq_none_iff]
  obtain ⟨c, hr, ha⟩ | ⟨hr, ho, ha⟩ | ⟨hr, ho, ha⟩ := add_cases o e.path e.content
  · rw [if_neg]
    · rw [ha, map_path_setContent, map_path_created]
    · rintro ⟨-, hf, hn⟩
      refine hn (mem_map_path_created.mpr ⟨?_, hf⟩)
      exact List.mem_map.mpr ⟨c, List.mem_of_find?_eq_some hr, path_of_record? hr⟩
  · rw [if_neg]
    · rw [ha, map_path_created]
    · rintro ⟨hc, hf, -⟩
      apply hc
      rw [← ho, original, ← Edit.target, hf]
      rfl
  · rw [ha, List.map_append, List.filter_append, ← map_path_created, ← Edit.target]
    have hnew : e.target ∉ o.created.map (·.path) := fun h =>
      record?_eq_none.mp hr (mem_map_path_created.mp h).1
    cases hf : o.file? e.target with
    | none =>
      have hc : e.content ≠ "" := by
        rw [original, ← Edit.target, hf] at ho
        exact Ne.symm ho
      simp [hf, hc, hnew]
    | some f => simp [hf]

theorem map_path_created_history (root : String) (fs : List ProjectFile) (es : List Edit) :
    ((ofFiles root fs).editAll es).created.map (·.path) = creationOrder fs es := by
  induction es using List.reverseRecOn with
  | nil => simp [editAll, created, creationOrder]
  | append_singleton es e ih =>
    rw [editAll_append, map_path_created_edit, ih, file?_editAll, map_content_ofFiles,
      creationOrder_append]

/-! ## Contents -/

/-- The records know what was given last: a record has it as its content, and a path without one
was given what it had. -/
def Tracks (o : Overlay) (edits : List Edit) : Prop :=
  ∀ path, match o.record? path with
    | some c => Edit.last? edits path = some c.content
    | none => ∀ content, Edit.last? edits path = some content → content = o.original path

theorem Tracks.edit {o : Overlay} {es : List Edit} (h : o.Tracks es) (e : Edit) :
    (o.edit e).Tracks (es ++ [e]) := by
  intro path
  rw [edit_eq_add, Edit.last?_append]
  by_cases hp : e.target = path
  · subst hp
    rw [Edit.target, record?_add_self]
    cases o.record? (Path.normalize e.path) with
    | some c => simp
    | none =>
      by_cases ho : o.original (Path.normalize e.path) = e.content
      · simp [ho]
      · simp [ho]
  · rw [record?_add_of_ne o _ _ hp]
    simpa [hp] using h path

theorem tracks_history (root : String) (fs : List ProjectFile) (es : List Edit) :
    ((ofFiles root fs).editAll es).Tracks es := by
  induction es using List.reverseRecOn with
  | nil =>
    intro path
    simp [editAll, record?, Edit.last?]
  | append_singleton es e ih => exact editAll_append _ es e ▸ ih.edit e

theorem original_history (root : String) (fs : List ProjectFile) (es : List Edit) (path : String) :
    ((ofFiles root fs).editAll es).original path = Contents.originalOf fs path := by
  rw [original_editAll, original, map_content_ofFiles, Contents.originalOf]

/-- At one path, what differs from the snapshot is the last content. -/
theorem net?_history (root : String) (fs : List ProjectFile) (es : List Edit) :
    ((ofFiles root fs).editAll es).net? = netChange? fs es := by
  funext path
  set o := (ofFiles root fs).editAll es with ho
  have horig : o.original path = Contents.originalOf fs path := original_history root fs es path
  have htracks := tracks_history root fs es path
  rw [← ho] at htracks
  unfold net? netChange?
  cases hr : o.record? path with
  | some c =>
    have hbefore : c.before = Contents.originalOf fs path :=
      (coherent_history root fs es path c hr).trans horig
    have hpath : c.path = path := path_of_record? hr
    simp only [hr] at htracks
    obtain ⟨p, before, content⟩ := c
    dsimp only at hbefore hpath htracks
    subst hbefore hpath
    rw [htracks]
    by_cases h : content = Contents.originalOf fs p
    · simp [Change.isNet, h]
    · simp [Change.isNet, h, Ne.symm h]
  | none =>
    simp only [hr, horig] at htracks
    cases hl : Edit.last? es path with
    | none => rfl
    | some content => simp [htracks content hl]

/-- The changes at the end of a history, first the files of the snapshot, then the new ones. -/
theorem changes_history (root : String) (fs : List ProjectFile) (es : List Edit) :
    ((ofFiles root fs).editAll es).changes =
      (walkOrder fs ++ creationOrder fs es).filterMap (netChange? fs es) := by
  rw [(valid_history root fs es).changes_eq, order, files_editAll, map_path_ofFiles,
    map_path_created_history, net?_history]

theorem mem_changes_history {root : String} {fs : List ProjectFile} {es : List Edit}
    {c : Change} :
    c ∈ ((ofFiles root fs).editAll es).changes ↔
      c.before = Contents.originalOf fs c.path ∧ Edit.last? es c.path = some c.content ∧
        c.content ≠ Contents.originalOf fs c.path := by
  rw [(valid_history root fs es).mem_changes_iff_net?, net?_history, netChange?_eq_some]
  simp

/-- The changes at the end of a history: no path occurs twice; a path occurs if the last content it
was given is another than before; its change tells both; there are changes if and only if this is
so for some path; and the paths of the snapshot come first, in the order of their first insertion,
before the new ones, in the order of their creation. -/
theorem changes_are_net_difference (root : String) (files : List ProjectFile)
    (edits : List Edit) :
    let o := (ofFiles root files).editAll edits
    (o.changes.map (·.path)).Nodup ∧
      (∀ path, path ∈ o.changes.map (·.path) ↔
        ∃ content, Edit.last? edits path = some content ∧
          content ≠ Contents.originalOf files path) ∧
      (∀ c ∈ o.changes, c.before = Contents.originalOf files c.path ∧
        Edit.last? edits c.path = some c.content) ∧
      (o.hasChanges = true ↔ o.changes ≠ []) ∧
      (o.changes.map (·.path)).Sublist (walkOrder files ++ creationOrder files edits) := by
  intro o
  have hvalid : o.Valid := valid_history root files edits
  refine ⟨hvalid.map_path_changes_nodup, ?_, ?_, hvalid.hasChanges_iff, ?_⟩
  · intro path
    rw [List.mem_map]
    constructor
    · rintro ⟨c, hc, rfl⟩
      obtain ⟨-, hlast, hne⟩ := mem_changes_history.mp hc
      exact ⟨c.content, hlast, hne⟩
    · rintro ⟨content, hlast, hne⟩
      exact ⟨⟨path, Contents.originalOf files path, content⟩,
        mem_changes_history.mpr ⟨rfl, hlast, hne⟩, rfl⟩
  · intro c hc
    obtain ⟨hbefore, hlast, -⟩ := mem_changes_history.mp hc
    exact ⟨hbefore, hlast⟩
  · rw [changes_history root files edits]
    exact map_path_filterMap_sublist (fun p c hc => (netChange?_eq_some.mp hc).1) _

/-- One file is changed, the edit of another is taken back, and of two new ones the first to be
asked for is the last to be created. -/
theorem changes_are_net_difference_taken_back :
    let files : List ProjectFile := [⟨"b", "1", false⟩, ⟨"a", "2", false⟩]
    let edits : List Edit := [.add "n" "", .add "z" "z", .add "./a" "A", .add "b" "9",
      .add "n" "N", .add "b" "1", .delete "z", .add "z" "Z"]
    let o := (ofFiles "proj" files).editAll edits
    ⟨"a", "2", "A"⟩ ∈ o.changes ∧ Edit.last? edits "a" = some "A" ∧
      "b" ∉ o.changes.map (·.path) ∧
      (o.changes.map (·.path)).Sublist ["b", "a", "z", "n"] := by
  intro files edits o
  have hmem : (⟨"a", "2", "A"⟩ : Change) ∈ o.changes := by decide
  obtain ⟨-, hiff, hchange, -, horder⟩ := changes_are_net_difference "proj" files edits
  refine ⟨hmem, (hchange _ hmem).2, ?_, horder⟩
  intro hb
  obtain ⟨content, hlast, hne⟩ := (hiff "b").mp hb
  have hback : Edit.last? edits "b" = some "1" := by decide
  rw [hback] at hlast
  exact hne (Option.some.inj hlast).symm

end Overlay

end Codemod
