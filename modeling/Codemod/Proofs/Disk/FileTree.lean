import Codemod.Proofs.Disk.Walk

/-!
# Trees of folders and files

Below the root of a project without links, every path leads where its names say, as long as it is
not longer than paths may be. The way to the root itself may have links in it.

## Main definitions

* `Disk.IsFileTree` — a root with only folders and files below it.
* `Disk.IsTooLong` — the paths that are longer than paths may be.

## Main results

* `Disk.Arrives.append` — segments that go on from a folder.
* `Disk.arrives_straight` — names that lead straight down.
* `Disk.IsFileTree.locate_join`, `Disk.IsFileTree.stat_join` — where paths below the root lead.
-/

namespace Codemod.Disk

/-! ## Following names -/

section Follow

variable {d : Disk} {follow : Bool}

theorem Arrives.idles {idles : List Name} (hidles : ∀ s ∈ idles, s.isIdle = true)
    {links : Nat} {here : Place} {rest : List Name} {t : Target}
    (h : d.Arrives follow links here rest t) : d.Arrives follow links here (idles ++ rest) t := by
  induction idles with
  | nil => exact h
  | cons s idles ih =>
    rw [List.forall_mem_cons] at hidles
    exact .idle hidles.1 (ih hidles.2)

/-- Segments whose names begin with `s` have idle segments, and then `s`. -/
theorem arrives_of_filter {segments names : List Name} {s : Name}
    (hfilter : segments.filter (!·.isIdle) = s :: names) :
    ∃ rest, rest.filter (!·.isIdle) = names ∧
      ∀ links here more t, d.Arrives follow links here (s :: (rest ++ more)) t →
        d.Arrives follow links here (segments ++ more) t := by
  obtain ⟨idles, rest, rfl, hidles, -, hrest⟩ := List.filter_eq_cons_iff.mp hfilter
  refine ⟨rest, hrest, fun links here more t h => ?_⟩
  rw [List.append_assoc]
  exact .idles (by simpa using hidles) h

/-- Segments that lead to a folder lead from there on where more segments lead. The number of links
that may still be followed is smaller, and idle segments make no difference. -/
theorem Arrives.append {links : Nat} {here r : Place} {segments segments' : List Name}
    (h : d.Arrives true links here segments (.found r .folder))
    (hfilter : segments'.filter (!·.isIdle) = segments.filter (!·.isIdle))
    (more : List Name) :
    ∃ left, ∀ t, d.Arrives true left r more t →
      d.Arrives true links here (segments' ++ more) t := by
  generalize ht : Target.found r .folder = t at h
  induction h generalizing segments' with
  | here links here =>
    cases ht
    exact ⟨links, fun t => .idles (by simpa using hfilter)⟩
  | idle hs _ ih =>
    rw [filter_idle hs] at hfilter
    exact ih hfilter ht
  | up _ ih =>
    rw [filter_name (by decide)] at hfilter
    obtain ⟨rest, hrest, hsegments⟩ := arrives_of_filter hfilter
    exact (ih hrest ht).imp fun left hleft t h => hsegments _ _ _ _ (.up (hleft t h))
  | folder hs hg _ ih =>
    rw [filter_name hs.not_idle] at hfilter
    obtain ⟨rest, hrest, hsegments⟩ := arrives_of_filter hfilter
    exact (ih hrest ht).imp fun left hleft t h => hsegments _ _ _ _ (.folder hs hg (hleft t h))
  | file | vacant | kept => cases ht
  | @jump _ _ _ l names _ hs hg _ _ ih =>
    rw [filter_name hs.not_idle] at hfilter
    obtain ⟨rest, hrest, hsegments⟩ := arrives_of_filter hfilter
    have hlink : (Place.of l ++ rest).filter (!·.isIdle) =
        (Place.of l ++ names).filter (!·.isIdle) := by
      rw [List.filter_append, List.filter_append, hrest]
    refine (ih hlink ht).imp fun left hleft t h => hsegments _ _ _ _ (.jump hs hg (.inl rfl) ?_)
    simpa using hleft t h

/-- Names lead straight to what is there, if that is no link. -/
theorem arrives_straight (ht : d.IsTree) {names : List Name} {e : Entry}
    (hnames : ∀ s ∈ names, s.IsProper ∧ s.size ≤ nameLimit)
    (hlink : ∀ t, e ≠ .link t) (links : Nat) {here : Place} (hhere : d.get? here = some .folder)
    (he : d.get? (here ++ names) = some e) :
    d.Arrives follow links here names (.found (here ++ names) e) := by
  induction names generalizing here with
  | nil =>
    obtain rfl : e = .folder := by simpa [hhere] using he.symm
    simpa using Arrives.here links here
  | cons s rest ih =>
    rw [List.forall_mem_cons] at hnames
    obtain ⟨⟨hname, hshort⟩, hnames⟩ := hnames
    have hs : IsStep s := ⟨hname.not_idle, hname.ne_up, Nat.not_lt_of_le hshort⟩
    cases rest with
    | nil =>
      cases e with
      | folder => exact .folder hs he (.here _ _)
      | file b => exact .file hs he
      | link t => exact absurd rfl (hlink t)
    | cons s' rest =>
      rw [List.append_cons] at he ⊢
      have hfolder := ht.folder_above (List.cons_ne_nil _ _) he
      exact .folder hs hfolder (ih hnames hfolder he)

/-- A path goes on to lead to a folder with an idle segment at its end. -/
theorem locate_here {path : String} {p : Place} (h : d.locate true path = .ok (.found p .folder))
    (hsize : (path ++ "/" ++ ".").utf8ByteSize < pathLimit) :
    d.locate true (path ++ "/" ++ ".") = .ok (.found p .folder) := by
  have hne : path ≠ "" := by
    rintro rfl
    cases h
  have hstart : start (path ++ "/" ++ ".") d.home = start path d.home := by
    obtain ⟨c, s, hs⟩ := List.exists_cons_of_ne_nil (mt String.toList_eq_nil_iff.mp hne)
    simp [start, Path.isAbsolute, hasStart, hs, List.isPrefixOf]
  obtain ⟨left, hleft⟩ := (arrives_of_locate h).append rfl ["."]
  have harrives := hleft _ (.idle (by decide) (.here left p))
  have hnul : ¬ (path ++ "/" ++ ".").toList.contains '\x00' := by
    intro hmem
    have hpath : path.toList.contains '\x00' = true := by simpa using hmem
    rw [locate_eq, if_pos hpath] at h
    cases h
  have hsegments : Place.of (path ++ "/" ++ ".") = Place.of path ++ [.text "."] :=
    Place.of_slash path "."
  rw [locate_eq, if_neg hnul, if_neg (by simp), if_neg (by omega), hstart, hsegments,
    harrives.resolve_eq]

end Follow

/-! ## Trees of folders and files -/

/-- The root leads to the folder `r`, and there are only folders and files from there on down. All
names are such as entries have. -/
structure IsFileTree (d : Disk) (root : String) (r : Place) : Prop where
  tree : d.IsTree
  named : d.IsTextNamed
  short : ∀ x ∈ d.entries, ∀ s ∈ x.1, s.size ≤ nameLimit
  proper : ∀ x ∈ d.entries, ∀ s ∈ x.1, '\x00' ∉ s.shown.toList
  root : d.locate true root = .ok (.found r .folder)
  unlinked : ∀ p t, r <+: p → d.get? p ≠ some (.link t)

/-- Whether the file system refuses the path, seen from the root, for its length. -/
def IsTooLong (root path : String) : Prop :=
  pathLimit ≤ (Path.join root path).utf8ByteSize

instance (root path : String) : Decidable (IsTooLong root path) :=
  inferInstanceAs (Decidable (pathLimit ≤ (Path.join root path).utf8ByteSize))

theorem mem_entries_of_segments {d : Disk} {r : Place} {path : String} {e : Entry}
    (he : d.get? (r ++ Place.of path) = some e) : (r ++ Place.of path, e) ∈ d.entries :=
  mem_entries_of_get? (by simp [Place.of_ne_nil]) he

/-- A path that is joined ends with its segments. -/
theorem exists_segments_join (base : String) {path : String} (hpath : Path.IsPlain path) :
    ∃ front, Place.of (Path.join base path) = front ++ Place.of path ∧
      front.filter (!·.isIdle) = Place.names base := by
  have hnames := Place.names_join base hpath
  suffices h : ∃ front, Place.of (Path.join base path) = front ++ Place.of path by
    obtain ⟨front, hfront⟩ := h
    refine ⟨front, hfront, ?_⟩
    rw [Place.names, hfront, List.filter_append, ← Place.names,
      Place.names_of_isPlain hpath] at hnames
    exact List.append_cancel_right hnames
  unfold Path.join
  by_cases hb : base = ""
  · exact ⟨[], by simp [hb]⟩
  · rw [if_neg (by simp [hpath.not_isAbsolute, hb])]
    split
    next he =>
      obtain ⟨t, rfl⟩ := Path.exists_of_hasEnd_slash he
      exact ⟨_, Place.of_slash t path⟩
    next => exact ⟨_, Place.of_slash base path⟩

theorem mem_join {base path : String} {c : Char} (h : c ∈ (Path.join base path).toList) :
    c ∈ base.toList ∨ c = '/' ∨ c ∈ path.toList := by
  unfold Path.join at h
  split at h
  · exact .inr (.inr h)
  · split at h <;> simp at h <;> tauto

namespace IsFileTree

variable {d : Disk} {root path : String} {r : Place}

theorem isProject (h : d.IsFileTree root r) : d.IsProject root r :=
  ⟨h.tree, h.tree.pointsTo_of_locate h.root, h.unlinked⟩

theorem folder (h : d.IsFileTree root r) : d.get? r = some .folder :=
  h.tree.locate_sound h.root

theorem isProper (h : d.IsFileTree root r) {e : Entry}
    (he : d.get? (r ++ Place.of path) = some e) :
    ∀ s ∈ Place.of path, s.IsProper :=
  fun s hs => h.named.names _ (mem_entries_of_segments he) s (List.mem_append_right r hs)

theorem isPlain (h : d.IsFileTree root r) {e : Entry}
    (he : d.get? (r ++ Place.of path) = some e) : Path.IsPlain path :=
  fun s hs =>
    have hname : Path.IsName s := h.isProper he _ (List.mem_map_of_mem hs)
    ⟨hname.1, hname.2.1⟩

theorem nul_notMem_join (h : d.IsFileTree root r) {e : Entry}
    (he : d.get? (r ++ Place.of path) = some e) :
    '\x00' ∉ (Path.join root path).toList := by
  intro hmem
  obtain hroot | heq | hpath := mem_join hmem
  · have hlocate := h.root
    rw [locate_eq, if_pos (by simpa using hroot)] at hlocate
    cases hlocate
  · exact absurd heq (by decide)
  · obtain ⟨s, hs, hin⟩ := Path.mem_segment_of_mem hpath (by decide)
    exact h.proper _ (mem_entries_of_segments he) s
      (List.mem_append_right r (List.mem_map_of_mem hs)) hin

/-- A path below the root leads where its names say, if it is not too long. -/
theorem locate_join (h : d.IsFileTree root r) {e : Entry}
    (he : d.get? (r ++ Place.of path) = some e) :
    d.locate true (Path.join root path) =
      if IsTooLong root path then .error .nameTooLong
      else .ok (.found (r ++ Place.of path) e) := by
  have hplain := h.isPlain he
  have hnames : ∀ s ∈ Place.of path, s.IsProper ∧ s.size ≤ nameLimit := fun s hs =>
    ⟨h.isProper he s hs, h.short _ (mem_entries_of_segments he) s (List.mem_append_right r hs)⟩
  have hlink : ∀ t, e ≠ .link t := by
    rintro t rfl
    exact h.unlinked _ t (List.prefix_append r _) he
  obtain ⟨front, hfront, hfilter⟩ := exists_segments_join root hplain
  obtain ⟨left, hleft⟩ := (arrives_of_locate h.root).append hfilter (Place.of path)
  have harrives := hleft _ (arrives_straight h.tree hnames hlink left h.folder he)
  have hstart : start (Path.join root path) d.home = start root d.home := by
    simp only [start, Path.isAbsolute_join root hplain]
  rw [locate_eq, if_neg (by simpa using h.nul_notMem_join he),
    if_neg (Path.join_ne_empty root hplain), hstart, hfront, harrives.resolve_eq]
  rfl

theorem stat_join (h : d.IsFileTree root r) {e : Entry}
    (he : d.get? (r ++ Place.of path) = some e) :
    d.stat (Path.join root path) = if IsTooLong root path then .error .nameTooLong else .ok e := by
  rw [stat_eq, h.locate_join he]
  by_cases hlong : IsTooLong root path <;> simp [hlong]

end IsFileTree

end Codemod.Disk
