import Codemod.Overlay.Indexed
import Codemod.Proofs.Overlay.Valid
import Mathlib.Data.List.Nodup

/-!
# Overlays with indexes are overlays

An index tells at which place of a list each path stands. The operations keep it so, whatever they
do to the lists, and then nothing that is looked up by an index differs from what a search through
the list finds. Changes that are sorted by such places come in the order of the snapshot, and the
new ones in the order in which they were made.

## Main definitions

* `Indexes` — a map tells the places of keys.
* `Indexed.Consistent` — both indexes do so.
* `Indexed.Refines` — an overlay with indexes cannot be told from one without.

## Main results

* `Indexes.find?_eq` — looking up.
* `Indexed.Consistent.changes_eq` — sorting.
* `Indexed.Consistent.perform` — one operation.
* `Indexed.refines_performAll` — all of them.
-/

namespace Codemod.Overlay

/-! ## Indexes -/

/-- The map tells at which place of the list a key stands. -/
def Indexes (m : Std.HashMap String Nat) (keys : List String) : Prop :=
  ∀ (key : String) (n : Nat), m[key]? = some n ↔ keys[n]? = some key

namespace Indexes

variable {m : Std.HashMap String Nat} {keys : List String} {key : String}

theorem empty : Indexes {} [] := by
  intro key n
  simp

/-- No key stands at two places. -/
theorem nodup (h : Indexes m keys) : keys.Nodup := by
  rw [List.nodup_iff_getElem?_ne_getElem?]
  intro i j hij hj heq
  have hkey : keys[j]? = some keys[j] := List.getElem?_eq_getElem hj
  have hi := (h _ i).mpr (heq.trans hkey)
  rw [(h _ j).mpr hkey] at hi
  exact absurd (Option.some.inj hi) (by omega)

theorem eq_none_iff (h : Indexes m keys) : m[key]? = none ↔ key ∉ keys := by
  rw [Option.eq_none_iff_forall_ne_some, List.mem_iff_getElem?, not_exists]
  exact forall_congr' fun n => not_congr (h key n)

theorem contains_iff (h : Indexes m keys) : m.contains key = true ↔ key ∈ keys := by
  rw [Std.HashMap.contains_eq_isSome_getElem?, Option.isSome_iff_ne_none, ne_eq, h.eq_none_iff,
    not_not]

/-- One more key, at the end. -/
theorem concat (h : Indexes m keys) (hnew : m[key]? = none) :
    Indexes (m.insert key keys.length) (keys ++ [key]) := by
  have hkey : key ∉ keys := h.eq_none_iff.mp hnew
  intro k n
  rw [Std.HashMap.getElem?_insert, List.getElem?_append]
  by_cases hk : key = k
  · subst hk
    have hnot : keys[n]? ≠ some key := fun hn => hkey (List.mem_of_getElem? hn)
    grind
  · have hold := h k n
    have hlt : keys[n]? = some k → n < keys.length := fun hn =>
      (List.getElem?_eq_some_iff.mp hn).1
    grind

variable {α : Type} {xs : List α} {name : α → String}

/-- What is looked up by the index is what is found in the list. -/
theorem find?_eq (h : Indexes m (xs.map name)) (key : String) :
    xs.find? (name · = key) = m[key]?.bind fun n => xs[n]? := by
  cases hm : m[key]? with
  | none =>
    have hkey := h.eq_none_iff.mp hm
    rw [Option.bind_none, List.find?_eq_none]
    intro x hx hname
    exact hkey (List.mem_map.mpr ⟨x, hx, by simpa using hname⟩)
  | some n =>
    have hn := (h key n).mp hm
    rw [List.getElem?_map, Option.map_eq_some_iff] at hn
    obtain ⟨x, hx, rfl⟩ := hn
    rw [Option.bind_some, hx]
    have hmem : x ∈ xs := List.mem_of_getElem? hx
    cases hfind : xs.find? (name · = name x) with
    | none => exact absurd (List.find?_eq_none.mp hfind x hmem) (by simp)
    | some y =>
      have hname : name y = name x := by simpa using List.find?_some hfind
      exact congrArg some
        (List.inj_on_of_nodup_map h.nodup (List.mem_of_find?_eq_some hfind) hmem hname)

end Indexes

/-! ## Lists -/

theorem insertFile_eq_set {f : ProjectFile} {l : List ProjectFile} {n : Nat}
    (hnodup : (l.map (·.path)).Nodup) (hn : (l.map (·.path))[n]? = some f.path) :
    insertFile f l = l.set n f := by
  induction l generalizing n with
  | nil => simp at hn
  | cons g l ih =>
    rw [List.map_cons, List.nodup_cons] at hnodup
    cases n with
    | zero =>
      have hpath : g.path = f.path := by simpa using hn
      rw [insertFile, if_pos hpath, List.set_cons_zero]
    | succ n =>
      rw [List.map_cons, List.getElem?_cons_succ] at hn
      have hpath : g.path ≠ f.path := fun heq =>
        hnodup.1 (heq ▸ List.mem_of_getElem? hn)
      rw [insertFile, if_neg hpath, ih hnodup.2 hn, List.set_cons_succ]

theorem insertFile_eq_concat {f : ProjectFile} {l : List ProjectFile}
    (h : f.path ∉ l.map (·.path)) : insertFile f l = l ++ [f] := by
  induction l with
  | nil => rfl
  | cons g l ih =>
    rw [List.map_cons, List.mem_cons, not_or] at h
    rw [insertFile, if_neg (Ne.symm h.1), ih h.2, List.cons_append]

theorem setContent_eq_modify {path content : String} {l : List Change} {n : Nat}
    (hnodup : (l.map (·.path)).Nodup) (hn : (l.map (·.path))[n]? = some path) :
    setContent path content l = l.modify n ({ · with content }) := by
  induction l generalizing n with
  | nil => simp at hn
  | cons c l ih =>
    rw [List.map_cons, List.nodup_cons] at hnodup
    cases n with
    | zero =>
      have hpath : c.path = path := by simpa using hn
      rw [setContent, if_pos hpath, List.modify_zero_cons]
    | succ n =>
      rw [List.map_cons, List.getElem?_cons_succ] at hn
      have hpath : c.path ≠ path := fun heq => hnodup.1 (heq ▸ List.mem_of_getElem? hn)
      rw [setContent, if_neg hpath, ih hnodup.2 hn, List.modify_succ_cons]

/-! ## Consistent overlays -/

namespace Indexed

/-- The overlay without its indexes. -/
def toOverlay (o : Indexed) : Overlay :=
  { root := o.root, files := o.files, records := o.records }

/-- The indexes tell the places of files and records. -/
structure Consistent (o : Indexed) : Prop where
  files : Indexes o.index (o.files.map (·.path))
  records : Indexes o.recordIndex (o.records.map (·.path))

theorem consistent_empty (root : String) : Consistent { root } :=
  ⟨.empty, .empty⟩

namespace Consistent

variable {o : Indexed} (h : o.Consistent)

include h

theorem valid : o.toOverlay.Valid :=
  ⟨h.files.nodup, h.records.nodup⟩

theorem file?_eq (path : String) : o.file? path = o.toOverlay.file? path :=
  (h.files.find?_eq path).symm

theorem record?_eq (path : String) : o.record? path = o.toOverlay.record? path :=
  (h.records.find?_eq path).symm

theorem contains_index (path : String) :
    o.index.contains path = (o.toOverlay.file? path).isSome := by
  rw [Bool.eq_iff_iff, h.files.contains_iff, Option.isSome_iff_ne_none, ne_eq, file?_eq_none,
    not_not]
  rfl

theorem current?_eq (path : String) : o.current? path = o.toOverlay.current? path := by
  cases hrecord : o.toOverlay.record? path <;>
    simp only [current?, Overlay.current?, h.file?_eq, h.record?_eq, h.contains_index, hrecord]

theorem list_eq (path : String) (recursive : Bool) :
    o.list path recursive = o.toOverlay.list path recursive := by
  have hcreated : (o.records.filter fun c => !o.index.contains c.path) = o.toOverlay.created := by
    rw [created]
    refine List.filter_congr fun c _ => ?_
    rw [h.contains_index, Option.not_isSome]
  unfold list Overlay.list
  simp only [h.current?_eq, hcreated]
  rfl

end Consistent

/-! ## Sorting -/

/-- The rank of a record, which the index has a place for. -/
def rankOf (o : Indexed) (c : Change) : Rank :=
  o.rank ((o.recordIndex[c.path]?).getD 0) c

theorem rank_of_file {o : Indexed} {c : Change} {n : Nat} (hn : o.index[c.path]? = some n)
    (created : Nat) : o.rank created c = toLex (WithTop.some n, created) := by
  rw [rank, hn]

theorem rank_of_new {o : Indexed} {c : Change} (hn : o.index[c.path]? = none) (created : Nat) :
    o.rank created c = toLex ((⊤ : WithTop Nat), created) := by
  rw [rank, hn]

theorem exists_place {o : Indexed} {c : Change} {path : String}
    (hc : o.toOverlay.record? path = some c) :
    ∃ n : Nat, o.records[n]? = some c ∧ c.path = path := by
  obtain ⟨n, hn⟩ := List.mem_iff_getElem?.mp (List.mem_of_find?_eq_some hc)
  exact ⟨n, hn, path_of_record? hc⟩

namespace Consistent

variable {o : Indexed} (h : o.Consistent)

include h

/-- A record stands where the index says. -/
theorem recordIndex_of_getElem? {n : Nat} {c : Change} (hc : o.records[n]? = some c) :
    o.recordIndex[c.path]? = some n := by
  rw [h.records, List.getElem?_map, hc, Option.map_some]

theorem index_of_getElem? {n : Nat} {f : ProjectFile} (hf : o.files[n]? = some f) :
    o.index[f.path]? = some n := by
  rw [h.files, List.getElem?_map, hf, Option.map_some]

theorem rankOf_eq {n : Nat} {c : Change} (hc : o.records[n]? = some c) :
    o.rankOf c = o.rank n c := by
  rw [rankOf, h.recordIndex_of_getElem? hc, Option.getD_some]

/-- No two records have one rank. -/
theorem rankOf_inj {c d : Change} (hc : c ∈ o.records) (hd : d ∈ o.records)
    (heq : o.rankOf c = o.rankOf d) : c = d := by
  obtain ⟨m, hm⟩ := List.mem_iff_getElem?.mp hc
  obtain ⟨n, hn⟩ := List.mem_iff_getElem?.mp hd
  rw [h.rankOf_eq hm, h.rankOf_eq hn] at heq
  obtain rfl : m = n := congrArg (fun r : Rank => (ofLex r).2) heq
  exact Option.some.inj (hm.symm.trans hn)

/-- The records of files are sorted by the places of their files. -/
theorem pairwise_files :
    (o.files.filterMap (o.toOverlay.record? ·.path)).Pairwise
      fun c d => o.rankOf c ≤ o.rankOf d := by
  rw [List.pairwise_filterMap, List.pairwise_iff_getElem]
  intro i j hi hj hij c hc d hd
  obtain ⟨m, hm, hcpath⟩ := exists_place hc
  obtain ⟨n, hn, hdpath⟩ := exists_place hd
  have hci : o.index[c.path]? = some i := by
    rw [hcpath]
    exact h.index_of_getElem? (List.getElem?_eq_getElem hi)
  have hdj : o.index[d.path]? = some j := by
    rw [hdpath]
    exact h.index_of_getElem? (List.getElem?_eq_getElem hj)
  rw [h.rankOf_eq hm, h.rankOf_eq hn, rank_of_file hci, rank_of_file hdj]
  exact Prod.Lex.toLex_le_toLex.mpr (.inl (WithTop.coe_lt_coe.mpr hij))

theorem index_of_created {c : Change} (hc : c ∈ o.toOverlay.created) :
    o.index[c.path]? = none := by
  rw [h.files.eq_none_iff]
  exact file?_eq_none.mp (mem_created.mp hc).2

/-- The other records are sorted by their own places. -/
theorem pairwise_created :
    o.toOverlay.created.Pairwise fun c d => o.rankOf c ≤ o.rankOf d := by
  have hrecords : o.records.Pairwise fun c d =>
      c ∈ o.toOverlay.created → d ∈ o.toOverlay.created → o.rankOf c ≤ o.rankOf d := by
    rw [List.pairwise_iff_getElem]
    intro i j hi hj hij hc hd
    rw [h.rankOf_eq (List.getElem?_eq_getElem hi), h.rankOf_eq (List.getElem?_eq_getElem hj),
      rank_of_new (h.index_of_created hc), rank_of_new (h.index_of_created hd)]
    exact Prod.Lex.toLex_le_toLex.mpr (.inr ⟨rfl, Nat.le_of_lt hij⟩)
  exact (hrecords.sublist List.filter_sublist).imp_of_mem fun hc hd hle => hle hc hd

/-- The records of files come before the others. -/
theorem rankOf_file_le_created {c d : Change} {f : ProjectFile} (hf : f ∈ o.files)
    (hc : o.toOverlay.record? f.path = some c) (hd : d ∈ o.toOverlay.created) :
    o.rankOf c ≤ o.rankOf d := by
  obtain ⟨i, hi⟩ := List.mem_iff_getElem?.mp hf
  obtain ⟨m, hm, hpath⟩ := exists_place hc
  obtain ⟨n, hn⟩ := List.mem_iff_getElem?.mp (mem_created.mp hd).1
  have hci : o.index[c.path]? = some i := hpath ▸ h.index_of_getElem? hi
  rw [h.rankOf_eq hm, h.rankOf_eq hn, rank_of_file hci, rank_of_new (h.index_of_created hd)]
  exact Prod.Lex.toLex_le_toLex.mpr (.inl (WithTop.coe_lt_top i))

theorem pairwise_changes :
    o.toOverlay.changes.Pairwise fun c d => o.rankOf c ≤ o.rankOf d := by
  refine List.Pairwise.sublist List.filter_sublist
    (List.pairwise_append.mpr ⟨h.pairwise_files, h.pairwise_created, fun c hc d hd => ?_⟩)
  obtain ⟨f, hf, hrecord⟩ := List.mem_filterMap.mp hc
  exact h.rankOf_file_le_created hf hrecord hd

/-- The records that are sorted, with their ranks. -/
theorem ranked_eq :
    (o.records.zipIdx.filter fun x => x.1.isNet).map (fun x => (o.rank x.2 x.1, x.1)) =
      (o.records.filter Change.isNet).map fun c => (o.rankOf c, c) := by
  have hrank : (o.records.zipIdx.filter fun x => x.1.isNet).map
        (fun x => (o.rank x.2 x.1, x.1)) =
      (o.records.zipIdx.filter fun x => x.1.isNet).map fun x => (o.rankOf x.1, x.1) := by
    refine List.map_congr_left fun x hx => ?_
    rw [h.rankOf_eq (List.mem_zipIdx_iff_getElem?.mp (List.mem_filter.mp hx).1)]
  have hplain : (o.records.zipIdx.filter fun x => x.1.isNet).map Prod.fst =
      o.records.filter Change.isNet := by
    conv_rhs => rw [← List.zipIdx_map_fst 0 o.records, List.filter_map]
    rfl
  rw [hrank, ← hplain, List.map_map]
  rfl

/-- The changes in the order of their ranks are those of the overlay without indexes, in order. -/
theorem changes_eq : o.changes = o.toOverlay.changes := by
  have hsorted := h.pairwise_changes
  have hperm : (o.records.filter Change.isNet).Perm o.toOverlay.changes := by
    refine (List.perm_ext_iff_of_nodup ?_ (.of_map _ h.valid.map_path_changes_nodup)).mpr
      fun c => ?_
    · exact (List.Nodup.of_map _ h.records.nodup).filter _
    · rw [h.valid.mem_changes, List.mem_filter]
      rfl
  have hranked : (((o.records.filter Change.isNet).map fun c => (o.rankOf c, c)).mergeSort
      fun x y => decide (x.1 ≤ y.1)) = o.toOverlay.changes.map fun c => (o.rankOf c, c) := by
    refine List.Perm.eq_of_pairwise ?_ (List.pairwise_mergeSort ?_ ?_ _) ?_
      ((List.mergeSort_perm _ _).trans (hperm.map _))
    · intro x y hx hy hle hle'
      obtain ⟨c, hc, rfl⟩ := List.mem_map.mp ((List.mergeSort_perm _ _).mem_iff.mp hx)
      obtain ⟨d, hd, rfl⟩ := List.mem_map.mp hy
      have hrank := le_antisymm (of_decide_eq_true hle) (of_decide_eq_true hle')
      rw [h.rankOf_inj (List.mem_filter.mp hc).1 (h.valid.mem_changes.mp hd).1 hrank]
    · intro x y z hxy hyz
      exact decide_eq_true ((of_decide_eq_true hxy).trans (of_decide_eq_true hyz))
    · intro x y
      simpa using le_total x.1 y.1
    · exact List.pairwise_map.mpr (hsorted.imp fun hle => decide_eq_true hle)
  rw [changes, h.ranked_eq, hranked, List.map_map]
  exact List.map_id _

end Consistent

/-! ## Operations -/

namespace Consistent

variable {o : Indexed} (h : o.Consistent)

include h

theorem insert (f : ProjectFile) :
    (o.insert f).Consistent ∧ (o.insert f).toOverlay = o.toOverlay.insert f := by
  rw [Indexed.insert, Overlay.insert]
  generalize ({ f with path := Path.normalize f.path } : ProjectFile) = f
  cases hm : o.index[f.path]? with
  | some n =>
    have hn := (h.files f.path n).mp hm
    have hset := insertFile_eq_set h.files.nodup hn
    refine ⟨⟨?_, h.records⟩, ?_⟩
    · have hsame := map_path_insertFile f o.files
      rw [if_pos (List.mem_of_getElem? hn), hset] at hsame
      exact hsame.symm ▸ h.files
    · rw [toOverlay, toOverlay, hset]
  | none =>
    refine ⟨⟨?_, h.records⟩, ?_⟩
    · simpa using h.files.concat hm
    · rw [toOverlay, toOverlay, insertFile_eq_concat (h.files.eq_none_iff.mp hm)]

theorem add (path content : String) :
    (o.add path content).Consistent ∧
      (o.add path content).toOverlay = o.toOverlay.add path content := by
  rw [Indexed.add, Overlay.add, baseline?, Overlay.baseline?, ← h.file?_eq, ← h.record?_eq]
  generalize Path.normalize path = path
  cases hm : o.recordIndex[path]? with
  | some n =>
    have hn := (h.records path n).mp hm
    have hset : setContent path content o.records = o.records.modify n ({ · with content }) :=
      setContent_eq_modify h.records.nodup hn
    have hrecord : (o.record? path).isSome = true := by
      rw [List.getElem?_map, Option.map_eq_some_iff] at hn
      obtain ⟨c, hc, -⟩ := hn
      rw [record?, hm, Option.bind_some, hc, Option.isSome_some]
    rw [if_pos hrecord]
    dsimp only
    rw [← hset]
    refine ⟨⟨h.files, ?_⟩, rfl⟩
    rw [map_path_setContent]
    exact h.records
  | none =>
    have hrecord : ¬ (o.record? path).isSome = true := by
      rw [record?, hm]
      exact Bool.false_ne_true
    rw [if_neg hrecord]
    dsimp only
    split
    · exact ⟨h, rfl⟩
    · refine ⟨⟨h.files, ?_⟩, rfl⟩
      simpa using h.records.concat hm

theorem commit (d : Disk) :
    (o.commit d).1 = (o.toOverlay.commit d).1 ∧ (o.commit d).2.1.Consistent ∧
      (o.commit d).2.1.toOverlay = (o.toOverlay.commit d).2.1 ∧
      (o.commit d).2.2 = (o.toOverlay.commit d).2.2 := by
  have hroot : o.toOverlay.root = o.root := rfl
  rw [Indexed.commit, Overlay.commit, h.changes_eq, hroot]
  rcases commitAll o.root {} o.toOverlay.changes d with ⟨d', e | r⟩
  · exact ⟨rfl, h, rfl, rfl⟩
  · exact ⟨rfl, ⟨h.files, .empty⟩, rfl, rfl⟩

/-- An operation keeps the indexes, and does to the lists what it does without them. -/
theorem perform (c : Call) :
    (o.perform c).Consistent ∧ (o.perform c).toOverlay = o.toOverlay.perform c := by
  cases c with
  | insert f => exact h.insert f
  | add path content => exact h.add path content
  | delete path => exact h.add path ""
  | clear => exact ⟨consistent_empty o.root, rfl⟩
  | commit d =>
    obtain ⟨-, hconsistent, hoverlay, -⟩ := h.commit d
    exact ⟨hconsistent, hoverlay⟩

end Consistent

/-- The overlay with indexes holds what the other holds, and tells the same of it. -/
structure Refines (o : Indexed) (v : Overlay) : Prop where
  toOverlay : o.toOverlay = v
  baseline : ∀ path, o.baseline? path = v.baseline? path
  change : ∀ path, o.change? path = v.change? path
  read : ∀ path, o.read? path = v.read? path
  contains : ∀ path, o.contains path = v.contains path
  list : ∀ path recursive, o.list path recursive = v.list path recursive
  changes : o.changes = v.changes
  hasChanges : o.hasChanges = v.hasChanges
  events : o.events = v.events
  commit : ∀ d, (o.commit d).1 = (v.commit d).1 ∧ (o.commit d).2.2 = (v.commit d).2.2

theorem Consistent.refines {o : Indexed} (h : o.Consistent) : o.Refines o.toOverlay where
  toOverlay := rfl
  baseline _ := h.file?_eq _
  change _ := h.record?_eq _
  read _ := h.current?_eq _
  contains _ := congrArg Option.isSome (h.current?_eq _)
  list := h.list_eq
  changes := h.changes_eq
  hasChanges := rfl
  events := congrArg (List.map Change.toEvent) h.changes_eq
  commit d := ⟨(h.commit d).1, (h.commit d).2.2.2⟩

/-- After any calls, an overlay with indexes tells what one without them tells after the same
calls. -/
theorem refines_performAll (root : String) (calls : List Call) :
    (calls.foldl Indexed.perform { root }).Consistent ∧
      (calls.foldl Indexed.perform { root }).Refines (calls.foldl Overlay.perform { root }) := by
  suffices hall : ∀ o : Indexed, o.Consistent →
      (calls.foldl Indexed.perform o).Consistent ∧
        (calls.foldl Indexed.perform o).toOverlay = calls.foldl Overlay.perform o.toOverlay by
    obtain ⟨hconsistent, hoverlay⟩ := hall { root } (consistent_empty root)
    have hempty : toOverlay { root } = ({ root } : Overlay) := rfl
    rw [hempty] at hoverlay
    exact ⟨hconsistent, hoverlay ▸ hconsistent.refines⟩
  induction calls with
  | nil => exact fun o h => ⟨h, rfl⟩
  | cons c calls ih =>
    intro o h
    obtain ⟨hconsistent, hoverlay⟩ := h.perform c
    obtain ⟨hall, hlists⟩ := ih _ hconsistent
    exact ⟨hall, by rw [List.foldl_cons, List.foldl_cons, hlists, hoverlay]⟩

end Indexed

end Codemod.Overlay
