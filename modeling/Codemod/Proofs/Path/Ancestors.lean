import Codemod.Proofs.Path

/-!
# The folders above a path

In a project the folder of a path has the segments of the path but the last. A path on disk leads
through folders. They are known by their names: the first few of the names on the way to the path,
but not all of them.

## Main definitions

* `Path.IsAbove` — one path names a folder on the way to another.

## Main results

* `Path.segments_intercalate` — segments, joined, have themselves as segments.
* `Path.folder_eq`, `Path.isWithin_iff` — the folders of a project by their segments.
* `Path.names_parent?` — the folder that a path is in.
* `Path.isAbove_of_mem_ancestors` — all folders that may have to be made for a path are above it.
-/

namespace Codemod.Path

/-! ## Joined segments -/

theorem slash_notMem_of_mem_segments {s path : String} (h : s ∈ segments path) :
    '/' ∉ s.toList := by
  obtain ⟨p, hp, rfl⟩ := List.mem_map.mp h
  rw [String.toList_ofList]
  exact Text.notMem_of_mem_splitOn hp

theorem segments_of_notMem {s : String} (h : '/' ∉ s.toList) : segments s = [s] := by
  have hsplit : Text.splitOn "/".toList s.toList = [s.toList] := Text.splitOn_of_notMem h
  rw [segments, pieces, hsplit, List.map_singleton, String.ofList_toList]

theorem segments_intercalate {l : List String} (hne : l ≠ []) (h : ∀ s ∈ l, '/' ∉ s.toList) :
    segments ("/".intercalate l) = l := by
  induction l with
  | nil => exact absurd rfl hne
  | cons s l ih =>
    rw [List.forall_mem_cons] at h
    cases l with
    | nil => exact segments_of_notMem h.1
    | cons t l =>
      rw [String.intercalate_cons_cons, segments_slash, segments_of_notMem h.1,
        ih (List.cons_ne_nil t l) h.2, List.singleton_append]

theorem intercalate_segments (path : String) : "/".intercalate (segments path) = path :=
  segments_injective
    (segments_intercalate (segments_ne_nil path) fun _ => slash_notMem_of_mem_segments)

theorem names_intercalate {l : List String} (h : ∀ s ∈ l, '/' ∉ s.toList) :
    names ("/".intercalate l) = l.filter (!isIdle ·) := by
  by_cases hl : l = []
  · rw [hl]
    exact names_empty
  · rw [names, segments_intercalate hl h]

/-! ## Folders of a project -/

/-- A path is cut at its last slash, if there is one. -/
theorem exists_of_slash_mem {path : String} (h : '/' ∈ path.toList) :
    ∃ above name, '/' ∉ name.toList ∧ path = above ++ "/" ++ name := by
  have hplain : ∀ s ∈ segments path, '/' ∉ s.toList := fun s => slash_notMem_of_mem_segments
  have hpath := intercalate_segments path
  obtain hnil | ⟨init, name, hsegments⟩ := List.eq_nil_or_concat (segments path)
  · exact absurd hnil (segments_ne_nil path)
  rw [List.concat_eq_append] at hsegments
  rw [hsegments] at hplain hpath
  rw [List.forall_mem_append, List.forall_mem_singleton] at hplain
  by_cases hinit : init = []
  · rw [hinit] at hpath
    have hname : name = path := hpath
    exact absurd h (hname ▸ hplain.2)
  · refine ⟨"/".intercalate init, name, hplain.2, segments_injective ?_⟩
    rw [segments_slash, segments_intercalate hinit hplain.1, segments_of_notMem hplain.2,
      hsegments]

theorem folder_slash (above : String) {name : String} (h : '/' ∉ name.toList) :
    folder (above ++ "/" ++ name) = above := by
  have hname : ∀ c ∈ name.toList.reverse, decide (c ≠ '/') = true := by
    intro c hc
    rw [List.mem_reverse] at hc
    exact decide_eq_true fun heq => h (heq ▸ hc)
  have hreverse : (above ++ "/" ++ name).toList.reverse =
      name.toList.reverse ++ '/' :: above.toList.reverse := by
    simp
  rw [folder, hreverse, List.dropWhile_append_of_pos hname, List.dropWhile_cons_of_neg (by simp)]
  simp

theorem folder_of_notMem {path : String} (h : '/' ∉ path.toList) : folder path = "" := by
  have hpath : path.toList.reverse.dropWhile (· ≠ '/') = [] := by
    rw [List.dropWhile_eq_nil_iff]
    intro c hc
    rw [List.mem_reverse] at hc
    exact decide_eq_true fun heq => h (heq ▸ hc)
  rw [folder, hpath]
  rfl

/-- The folder of a path has all segments of the path but the last. -/
theorem folder_eq (path : String) : folder path = "/".intercalate (segments path).dropLast := by
  by_cases h : '/' ∈ path.toList
  · obtain ⟨above, name, hname, rfl⟩ := exists_of_slash_mem h
    rw [folder_slash above hname, segments_slash, segments_of_notMem hname, List.dropLast_concat,
      intercalate_segments]
  · rw [folder_of_notMem h, segments_of_notMem h]
    rfl

/-- A folder is within another one if its segments begin with those of the other one. -/
theorem isWithin_iff {path base : String} :
    isWithin path base = true ↔ base = "" ∨ segments base <+: segments path := by
  have hbelow : path = base ∨ hasStart path (base ++ "/") = true ↔
      segments base <+: segments path := by
    constructor
    · rintro (rfl | h)
      · exact List.prefix_rfl
      · obtain ⟨t, ht⟩ := List.isPrefixOf_iff_prefix.mp h
        have hpath : path = base ++ "/" ++ String.ofList t :=
          String.toList_inj.mp (by rw [← ht]; simp)
        rw [hpath, segments_slash]
        exact List.prefix_append _ _
    · rintro ⟨rest, hrest⟩
      by_cases hnil : rest = []
      · rw [hnil, List.append_nil] at hrest
        exact .inl (segments_injective hrest.symm)
      · have hplain : ∀ s ∈ rest, '/' ∉ s.toList := fun s hs =>
          slash_notMem_of_mem_segments (hrest ▸ List.mem_append_right _ hs)
        have hpath : path = base ++ "/" ++ "/".intercalate rest := by
          apply segments_injective
          rw [segments_slash, segments_intercalate hnil hplain, hrest]
        exact .inr (List.isPrefixOf_iff_prefix.mpr (by simp [hpath]))
  simp only [isWithin, Bool.or_eq_true, decide_eq_true_eq, or_assoc, hbelow]

/-! ## Idle segments -/

theorem filter_dropFinalIdle (l : List String) :
    (dropFinalIdle l).filter (!isIdle ·) = l.filter (!isIdle ·) := by
  induction l using List.reverseRecOn with
  | nil => rfl
  | append_singleton l s ih =>
    by_cases hs : isIdle s = true
    · have hdrop : dropFinalIdle (l ++ [s]) = dropFinalIdle l :=
        List.rdropWhile_concat_pos isIdle l s hs
      rw [hdrop, ih, List.filter_append]
      simp [hs]
    · have hdrop : dropFinalIdle (l ++ [s]) = l ++ [s] :=
        List.rdropWhile_concat_neg isIdle l s hs
      rw [hdrop]

theorem isIdle_of_dropFinalIdle {l init : List String} {s : String}
    (h : dropFinalIdle l = init ++ [s]) : isIdle s = false := by
  have hne : List.rdropWhile isIdle l ≠ [] := by
    change dropFinalIdle l ≠ []
    simp [h]
  have hlast : (List.rdropWhile isIdle l).getLast hne = s := by
    simp only [show List.rdropWhile isIdle l = init ++ [s] from h, List.getLast_append_singleton]
  simpa [hlast] using List.rdropWhile_last_not isIdle l hne

theorem mem_of_mem_dropFinalIdle {l : List String} {s : String} (h : s ∈ dropFinalIdle l) :
    s ∈ l :=
  (List.rdropWhile_prefix isIdle l).subset h

/-! ## The folder that a path on disk is in -/

/-- A path that is in a folder is one name, or it goes on to a last name `s` from `first`. -/
theorem parent?_cases {path folder : String} (h : parent? path = some folder) :
    ∃ first rest, segments path = first :: rest ∧
      ((dropFinalIdle rest = [] ∧ first ≠ "" ∧ folder = "") ∨
        ∃ init s, dropFinalIdle rest = init ++ [s] ∧ isIdle s = false ∧
          (∀ t ∈ first :: dropFinalIdle init, '/' ∉ t.toList) ∧
          folder =
            if "/".intercalate (first :: dropFinalIdle init) = "" ∧ isAbsolute path = true then "/"
            else "/".intercalate (first :: dropFinalIdle init)) := by
  have hplain : ∀ s ∈ segments path, '/' ∉ s.toList := fun s => slash_notMem_of_mem_segments
  rw [parent?] at h
  split at h
  · cases h
  next first rest hsegments =>
    refine ⟨first, rest, hsegments, ?_⟩
    rw [hsegments, List.forall_mem_cons] at hplain
    split at h
    next hnil =>
      split at h
      · cases h
      next hfirst =>
        cases h
        exact .inl ⟨hnil, hfirst, rfl⟩
    next hne =>
      obtain ⟨init, s, hs⟩ : ∃ init s, dropFinalIdle rest = init ++ [s] :=
        ⟨_, _, (List.dropLast_append_getLast hne).symm⟩
      refine .inr ⟨init, s, hs, isIdle_of_dropFinalIdle hs, ?_, ?_⟩
      · refine List.forall_mem_cons.mpr ⟨hplain.1, fun t ht => hplain.2 t ?_⟩
        refine mem_of_mem_dropFinalIdle (hs ▸ ?_)
        exact List.mem_append_left _ (mem_of_mem_dropFinalIdle ht)
      · rw [hs, List.dropLast_concat] at h
        simpa using (Option.some.inj h).symm

/-- The folder that a path is in has all names of the path but the last. -/
theorem names_parent? {path folder : String} (h : parent? path = some folder) :
    names folder = (names path).dropLast := by
  obtain ⟨first, rest, hsegments, hcases⟩ := parent?_cases h
  have hnames : names path = (first :: dropFinalIdle rest).filter (!isIdle ·) := by
    rw [names, hsegments, List.filter_cons, List.filter_cons, filter_dropFinalIdle]
  obtain ⟨hnil, -, rfl⟩ | ⟨init, s, hinit, hidle, hplain, rfl⟩ := hcases
  · rw [hnames, hnil]
    cases hi : isIdle first <;> simp [hi]
  · have habove : names ("/".intercalate (first :: dropFinalIdle init)) =
        (names path).dropLast := by
      rw [names_intercalate hplain, hnames, hinit, ← List.cons_append, List.filter_append,
        List.filter_cons, List.filter_cons, filter_dropFinalIdle]
      simp [hidle]
    split
    next htop =>
      rw [← habove, htop.1]
      decide
    next => exact habove

theorem isAbsolute_eq_true {path : String} :
    isAbsolute path = true ↔ ∃ rest, rest ≠ [] ∧ segments path = "" :: rest := by
  constructor
  · intro h
    obtain ⟨t, rfl⟩ := exists_of_hasStart_slash h
    exact ⟨segments t, segments_ne_nil t, segments_slash "" t⟩
  · rintro ⟨rest, hne, hsegments⟩
    have hplain : ∀ s ∈ rest, '/' ∉ s.toList := by
      intro s hs
      have hmem : s ∈ segments path := hsegments ▸ List.mem_cons_of_mem _ hs
      exact slash_notMem_of_mem_segments hmem
    have hpath : path = "" ++ "/" ++ "/".intercalate rest := by
      apply segments_injective
      rw [hsegments, segments_slash, segments_intercalate hne hplain]
      rfl
    rw [hpath]
    simp [isAbsolute, hasStart, List.isPrefixOf]

theorem isAbsolute_intercalate {first : String} {rest : List String}
    (h : ∀ s ∈ first :: rest, '/' ∉ s.toList) :
    isAbsolute ("/".intercalate (first :: rest)) = true ↔ first = "" ∧ rest ≠ [] := by
  rw [isAbsolute_eq_true, segments_intercalate (List.cons_ne_nil first rest) h]
  constructor
  · rintro ⟨rest', hne, heq⟩
    obtain ⟨rfl, rfl⟩ := List.cons.inj heq
    exact ⟨rfl, hne⟩
  · rintro ⟨rfl, hne⟩
    exact ⟨rest, hne, rfl⟩

theorem isAbsolute_parent? {path folder : String} (h : parent? path = some folder) :
    isAbsolute folder = isAbsolute path := by
  obtain ⟨first, rest, hsegments, hcases⟩ := parent?_cases h
  have habsolute : isAbsolute path = true ↔ rest ≠ [] ∧ first = "" := by
    rw [isAbsolute_eq_true, hsegments]
    constructor
    · rintro ⟨rest', hne, heq⟩
      obtain ⟨rfl, rfl⟩ := List.cons.inj heq
      exact ⟨hne, rfl⟩
    · rintro ⟨hne, rfl⟩
      exact ⟨rest, hne, rfl⟩
  rw [Bool.eq_iff_iff, habsolute]
  obtain ⟨-, hfirst, rfl⟩ | ⟨init, s, hinit, -, hplain, rfl⟩ := hcases
  · simp [hfirst, isAbsolute, hasStart]
  · have hrest : rest ≠ [] := by
      rintro rfl
      simp [dropFinalIdle] at hinit
    split
    next htop => exact ⟨fun _ => habsolute.mp htop.2, fun _ => by decide⟩
    next htop =>
      -- a folder below the topmost one is not written as a slash, but begins with one
      rw [isAbsolute_intercalate hplain]
      refine ⟨fun habove => ⟨hrest, habove.1⟩, fun hpath => ⟨hpath.2, fun hnil => htop ?_⟩⟩
      exact ⟨by simp [hpath.2, hnil], habsolute.mpr hpath⟩

/-! ## All folders above -/

/-- The path names a folder on the way to the other path. -/
structure IsAbove (folder path : String) : Prop where
  isAbsolute_eq : isAbsolute folder = isAbsolute path
  names_isPrefix : names folder <+: names path
  names_ne : names folder ≠ names path

theorem mem_ancestors_go {front a : String} {above found rest : List String}
    (h : a ∈ ancestors.go front above found rest) :
    a ∈ found ∨ ∃ more, more ≠ [] ∧ more <+: rest ∧
      a = front ++ "/".intercalate (above ++ more) := by
  induction rest generalizing above found with
  | nil => exact .inl h
  | cons s rest ih =>
    rw [ancestors.go] at h
    rcases ih h with hfound | ⟨more, hne, hmore, rfl⟩
    · rcases List.mem_cons.mp hfound with rfl | hfound
      · exact .inr ⟨[s], List.cons_ne_nil s [], ⟨rest, rfl⟩, rfl⟩
      · exact .inl hfound
    · refine .inr ⟨s :: more, List.cons_ne_nil s more, (List.prefix_cons_inj s).mpr hmore, ?_⟩
      rw [List.append_assoc, List.singleton_append]

/-- The folders that are made for a folder have some of its names, in order and from the first
on. -/
theorem names_of_mem_ancestors {a folder : String} (h : a ∈ ancestors folder) :
    names a <+: names folder ∧ names a ≠ [] ∧ isAbsolute a = isAbsolute folder := by
  rw [ancestors] at h
  rcases mem_ancestors_go h with hnone | ⟨more, hne, hmore, rfl⟩
  · cases hnone
  · rw [List.nil_append]
    have hmem : ∀ s ∈ more, s ∈ segments folder ∧ isIdle s = false := by
      intro s hs
      simpa using List.mem_filter.mp (hmore.subset hs)
    have hplain : ∀ s ∈ more, '/' ∉ s.toList :=
      fun s hs => slash_notMem_of_mem_segments (hmem s hs).1
    have hnames : names ("/".intercalate more) = more := by
      rw [names_intercalate hplain]
      exact List.filter_eq_self.mpr fun s hs => by simp [(hmem s hs).2]
    cases habsolute : isAbsolute folder with
    | true =>
      have hslash : "/" ++ "/".intercalate more = "" ++ "/" ++ "/".intercalate more := rfl
      rw [if_pos rfl, hslash, names_slash, names_empty, List.nil_append, hnames]
      exact ⟨hmore, hne, by simp [isAbsolute, hasStart, List.isPrefixOf]⟩
    | false =>
      rw [if_neg Bool.false_ne_true, String.empty_append, hnames]
      refine ⟨hmore, hne, ?_⟩
      obtain ⟨s, rest, rfl⟩ := List.exists_cons_of_ne_nil hne
      rw [Bool.eq_false_iff, ne_eq, isAbsolute_intercalate hplain]
      rintro ⟨rfl, -⟩
      exact absurd (hmem "" List.mem_cons_self).2 (by decide)

/-- All folders that are made for the folder of a path are above the path. -/
theorem isAbove_of_mem_ancestors {path folder a : String} (hparent : parent? path = some folder)
    (ha : a ∈ ancestors folder) : IsAbove a path := by
  obtain ⟨hnames, hne, habsolute⟩ := names_of_mem_ancestors ha
  rw [names_parent? hparent] at hnames
  refine ⟨habsolute.trans (isAbsolute_parent? hparent),
    hnames.trans (List.dropLast_prefix (names path)), fun heq => ?_⟩
  rw [heq] at hnames hne
  have hlength := hnames.length_le
  rw [List.length_dropLast] at hlength
  have hpos := List.length_pos_of_ne_nil hne
  omega

end Codemod.Path
