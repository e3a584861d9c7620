import Codemod.Proofs.Disk.FileTree
import Codemod.Proofs.Text.Bytes
import Mathlib.Data.List.Lex

/-!
# What a walk lists

Below a root with only folders and files, a walk lists all files but those in folders with certain
names, in one order whichever order the entries of the disk are in. If a path that it looks at is
too long, this is the failure that it ends with.

## Main definitions

* `Disk.Reaches` — the paths of the entries that a walk looks at.
* `Disk.Lists` — a list of all files that a walk has to find.
* `Disk.Enters` — a folder that a walk has come to.

## Main results

* `Disk.complete_of_walkFrom`, `Disk.tooLong_of_walkFrom` — how a walk ends.
* `Disk.IsNamed.walk_perm` — the order of entries does not matter.
* `Disk.walk_lists` — all of this.
-/

namespace Codemod.Disk

/-- The path is that of an entry below `r`, and no folder on the way to it is to be skipped. -/
def Reaches (d : Disk) (r : Place) (skip : List String) (path : String) : Prop :=
  d.get? (r ++ Place.of path) ≠ none ∧
    ∀ name ∈ (Path.segments path).dropLast, name ∉ skip

/-- A list of the paths of all files below `r` that are in no folder to be skipped. Paths are in
order by the bytes of their segments. -/
structure Lists (d : Disk) (r : Place) (skip found : List String) : Prop where
  mem_iff : ∀ path, path ∈ found ↔ (∃ b, d.get? (r ++ Place.of path) = some (.file b)) ∧
    ∀ name ∈ (Path.segments path).dropLast, name ∉ skip
  sorted : found.Pairwise fun a b =>
    (Path.segments a).map Bytes.ofText < (Path.segments b).map Bytes.ofText
  nodup : found.Nodup

/-! ## Walks that fail -/

theorem exists_of_mapM_error {f : α → Except ε β} {xs : List α} {e : ε}
    (h : xs.mapM f = .error e) : ∃ x ∈ xs, f x = .error e := by
  induction xs with
  | nil => cases h
  | cons x xs ih =>
    rw [List.mapM_cons] at h
    cases hx : f x with
    | error e' =>
      rw [hx] at h
      cases h
      exact ⟨x, List.mem_cons_self, hx⟩
    | ok y =>
      cases hxs : xs.mapM f with
      | error e' =>
        rw [hx, hxs] at h
        cases h
        obtain ⟨z, hz, hez⟩ := ih hxs
        exact ⟨z, List.mem_cons_of_mem x hz, hez⟩
      | ok ys =>
        rw [hx, hxs] at h
        cases h

theorem error_of_bind_ok {x : Except ε α} {f : α → β} {e : ε}
    (h : (do return f (← x) : Except ε β) = .error e) : x = .error e := by
  cases x with
  | error e' =>
    cases h
    rfl
  | ok a => cases h

/-- A walk through a folder fails at an entry that cannot be looked at, or below one. -/
theorem walkFrom_error_cases {d : Disk} {skip : List String} {depth : Nat} {path : OsPath}
    {rel : String} {names : List Name} {f : Failure} (hnames : d.names path = .ok names)
    (h : d.walkFrom skip (depth + 1) path rel = .error f) :
    ∃ name ∈ names,
      (∃ g, d.stat (path.join name) = .error g ∧ f = .io (path.join name).shown g) ∨
        (d.stat (path.join name) = .ok .folder ∧
          Path.isSkipped (Path.child rel name.shown) skip = false ∧
          d.walkFrom skip depth (path.join name) (Path.child rel name.shown) = .error f) := by
  rw [walkFrom_succ, hnames] at h
  obtain ⟨name, hname, hvisit⟩ := exists_of_mapM_error (error_of_bind_ok h)
  refine ⟨name, hname, ?_⟩
  split at hvisit
  next g hstat =>
    cases hvisit
    exact .inl ⟨g, hstat, rfl⟩
  next hstat =>
    split at hvisit
    · cases hvisit
    next hskipped => exact .inr ⟨hstat, by simpa using hskipped, hvisit⟩
  · cases hvisit

/-! ## Through a project -/

theorem exists_of_mem_of_forall₂ {R : α → β → Prop} {xs : List α} {ys : List β}
    (h : List.Forall₂ R xs ys) {x : α} (hx : x ∈ xs) : ∃ y ∈ ys, R x y := by
  induction h with
  | nil => simp at hx
  | @cons x' y xs ys hxy _ ih =>
    obtain rfl | hx := List.mem_cons.mp hx
    · exact ⟨y, List.mem_cons_self, hxy⟩
    · obtain ⟨z, hz, hxz⟩ := ih hx
      exact ⟨z, List.mem_cons_of_mem y hz, hxz⟩

section Visit

variable {d : Disk} {skip : List String} {depth : Nat} {child : OsPath} {rel : String}
  {l : List String}

theorem Visit.exists_stat (h : d.Visit skip depth child rel l) : ∃ e, d.stat child = .ok e := by
  cases h with
  | passed hstat => exact ⟨_, hstat⟩
  | entered _ hstat => exact ⟨_, hstat⟩
  | told e hstat => exact ⟨e, hstat⟩

theorem Visit.eq_told (h : d.Visit skip depth child rel l) {e : Entry}
    (hstat : d.stat child = .ok e) (he : e ≠ .folder) : l = [rel] := by
  cases h with
  | passed hstat' => exact absurd (Except.ok.inj (hstat.symm.trans hstat')) he
  | entered _ hstat' => exact absurd (Except.ok.inj (hstat.symm.trans hstat')) he
  | told => rfl

theorem Visit.walkFrom_eq (h : d.Visit skip depth child rel l) (hstat : d.stat child = .ok .folder)
    (hskipped : Path.isSkipped rel skip = false) : d.walkFrom skip depth child rel = .ok l := by
  cases h with
  | passed _ hskipped' => exact Bool.noConfusion (hskipped.symm.trans hskipped')
  | entered _ _ _ hwalk => exact hwalk
  | told _ hstat' he => exact absurd (Except.ok.inj (hstat'.symm.trans hstat)) he

end Visit

theorem exists_find_of_mem {p : Place} {l : List (Place × Entry)} (h : p ∈ l.map Prod.fst) :
    ∃ e, find p l = some e := by
  induction l with
  | nil => simp at h
  | cons x l ih =>
    obtain ⟨q, e⟩ := x
    by_cases hq : q = p
    · exact ⟨e, if_pos hq⟩
    · rw [List.map_cons, List.mem_cons] at h
      obtain ⟨f, hf⟩ := ih (h.resolve_left (Ne.symm hq))
      exact ⟨f, (if_neg hq).trans hf⟩

theorem IsTextNamed.mem_textsAt_iff {d : Disk} (h : d.IsTextNamed) {p : Place} {name : String} :
    name ∈ d.textsAt p ↔ ∃ e, d.get? (p ++ [.text name]) = some e := by
  have hne : p ++ [.text name] ≠ [] := by simp
  rw [h.mem_textsAt, get?, if_neg hne]
  refine ⟨exists_find_of_mem, ?_⟩
  rintro ⟨e, he⟩
  exact List.mem_map_of_mem (mem_of_find he)

theorem size_le_size_join (base : String) {path : String} (h : Path.IsPlain path) :
    base.utf8ByteSize + path.utf8ByteSize ≤ (Path.join base path).utf8ByteSize := by
  unfold Path.join
  by_cases hb : base = ""
  · simp [hb]
  · rw [if_neg (by simp [h.not_isAbsolute, hb])]
    split <;> simp only [String.utf8ByteSize_append] <;> omega

theorem size_lt_size_join (base : String) {path : String} (h : Path.IsPlain path) :
    base.utf8ByteSize < (Path.join base path).utf8ByteSize := by
  have hle := size_le_size_join base h
  have hne : path.utf8ByteSize ≠ 0 := mt String.utf8ByteSize_eq_zero_iff.mp h.ne_empty
  omega

/-- A walk comes to the folder `rel`. -/
structure Enters (d : Disk) (root : String) (r : Place) (skip : List String) (rel : String) :
    Prop where
  plain : rel = "" ∨ Path.IsPlain rel
  folder : d.get? (r ++ Place.names rel) = some .folder
  allowed : ∀ name ∈ Path.names rel, name ∉ skip
  short : (Path.below root rel).utf8ByteSize < pathLimit

section Walk

variable {d : Disk} {root : String} {r : Place} {skip : List String} {rel name : String}

theorem IsFileTree.enters (h : d.IsFileTree root r) (skip : List String) :
    d.Enters root r skip "" := by
  refine ⟨.inl rfl, by simpa using h.folder, by simp, ?_⟩
  have hlocate := h.root
  rw [locate_eq] at hlocate
  split at hlocate
  · cases hlocate
  · split at hlocate
    · cases hlocate
    · split at hlocate
      · cases hlocate
      next hshort => exact Nat.lt_of_not_le hshort

theorem Enters.names (h : d.IsFileTree root r) (hn : d.Enters root r skip rel) :
    d.names (Path.below root rel) = .ok (d.namesAt (r ++ Place.names rel)) := by
  have hlocate : d.locate true (Path.below root rel) =
      .ok (.found (r ++ Place.names rel) .folder) := by
    obtain ⟨hplain, hfolder, -, hshort⟩ := hn
    rcases hplain with rfl | hplain
    · simpa [Path.below] using h.root
    · rw [Path.below, if_neg hplain.ne_empty] at hshort ⊢
      rw [Place.names_of_isPlain hplain] at hfolder ⊢
      rw [h.locate_join hfolder]
      exact if_neg (Nat.not_le_of_lt hshort)
  rw [Disk.names, lookUp_text, hlocate]
  rfl

section Child

variable (h : d.IsFileTree root r) (hn : d.Enters root r skip rel)

include h hn

theorem Enters.segments_child (hname : name ∈ d.textsAt (r ++ Place.names rel)) :
    Path.segments (Path.child rel name) = Path.names rel ++ [name] :=
  Path.segments_child hn.plain (h.named.isName hname)

theorem Enters.of_child (hname : name ∈ d.textsAt (r ++ Place.names rel)) :
    Place.of (Path.child rel name) = Place.names rel ++ [.text name] :=
  Place.of_child hn.plain (h.named.isName hname)

/-- What a walk learns about an entry of the folder. -/
theorem Enters.stat_child {e : Entry}
    (he : d.get? (r ++ Place.names rel ++ [.text name]) = some e) :
    d.stat (Path.join (Path.below root rel) name) =
      if IsTooLong root (Path.child rel name) then .error .nameTooLong else .ok e := by
  have hname := h.named.mem_textsAt_iff.mpr ⟨e, he⟩
  rw [List.append_assoc, ← hn.of_child h hname] at he
  rw [Path.join_below root hn.plain (h.named.isName hname), h.stat_join he]

theorem Enters.reaches_child {e : Entry}
    (he : d.get? (r ++ Place.names rel ++ [.text name]) = some e) :
    d.Reaches r skip (Path.child rel name) := by
  have hname := h.named.mem_textsAt_iff.mpr ⟨e, he⟩
  rw [Reaches, hn.of_child h hname, hn.segments_child h hname, ← List.append_assoc, he,
    List.dropLast_concat]
  exact ⟨Option.some_ne_none e, hn.allowed⟩

/-- The next entry on the way to a path. If it is not the last, the walk has to enter it. -/
theorem Enters.exists_step {path : String} (hreaches : d.Reaches r skip path)
    {rest : List String} (hbelow : Path.segments path = Path.names rel ++ name :: rest) :
    ∃ e, d.get? (r ++ Place.names rel ++ [.text name]) = some e ∧
      (rest ≠ [] → e = .folder ∧ Path.isSkipped (Path.child rel name) skip = false) := by
  obtain ⟨hthere, hallowed⟩ := hreaches
  obtain ⟨e, he⟩ := Option.ne_none_iff_exists'.mp hthere
  have hplace : r ++ Place.of path = r ++ Place.names rel ++ [.text name] ++ rest.map .text := by
    simp [Place.of, hbelow, Place.names_eq]
  rw [hplace] at he
  by_cases hrest : rest = []
  · exact ⟨e, by simpa [hrest] using he, fun hne => absurd hrest hne⟩
  · have hfolder := h.tree.folder_above (mt List.map_eq_nil_iff.mp hrest) he
    have hname := h.named.mem_textsAt_iff.mpr ⟨_, hfolder⟩
    refine ⟨.folder, hfolder, fun _ => ⟨rfl, ?_⟩⟩
    rw [hbelow, List.append_cons, List.dropLast_append_of_ne_nil hrest] at hallowed
    have hfree : ∀ s ∈ Path.segments (Path.child rel name), s ∉ skip := fun s hs =>
      hallowed s (List.mem_append_left _ (hn.segments_child h hname ▸ hs))
    simpa only [Path.isSkipped, List.any_eq_false, List.contains_iff_mem] using hfree

theorem Enters.child (he : d.get? (r ++ Place.names rel ++ [.text name]) = some .folder)
    (hshort : ¬ IsTooLong root (Path.child rel name))
    (hskipped : Path.isSkipped (Path.child rel name) skip = false) :
    d.Enters root r skip (Path.child rel name) := by
  have hname := h.named.mem_textsAt_iff.mpr ⟨_, he⟩
  have hplain := Path.isPlain_child hn.plain (h.named.isName hname)
  refine ⟨.inr hplain, ?_, ?_, ?_⟩
  · rwa [Place.names_of_isPlain hplain, hn.of_child h hname, ← List.append_assoc]
  · simpa [Path.isSkipped, hplain.names_eq] using hskipped
  · rw [Path.below, if_neg hplain.ne_empty]
    exact Nat.lt_of_not_le hshort

/-- A walk that succeeds has visited all entries of the folder, and learnt what they are. -/
theorem Enters.exists_visit {depth : Nat} {found : List String}
    (hw : d.walkFrom skip (depth + 1) (Path.below root rel) rel = .ok found) {e : Entry}
    (he : d.get? (r ++ Place.names rel ++ [.text name]) = some e) :
    ∃ l, d.Visit skip depth (Path.join (Path.below root rel) name) (Path.child rel name) l ∧
      l ⊆ found ∧
      ¬ IsTooLong root (Path.child rel name) ∧
      d.stat (Path.join (Path.below root rel) name) = .ok e := by
  obtain ⟨n, p, lists, hdepth, hnames, hvisits, rfl⟩ := h.named.walkFrom_cases hw
  obtain rfl := Nat.succ.inj hdepth
  rw [hn.names h] at hnames
  rw [textsAt, ← Except.ok.inj hnames] at hvisits
  obtain ⟨l, hl, hvisit⟩ :=
    exists_of_mem_of_forall₂ hvisits (h.named.mem_textsAt_iff.mpr ⟨e, he⟩)
  have hstat := hn.stat_child h he
  have hshort : ¬ IsTooLong root (Path.child rel name) := by
    obtain ⟨e', hok⟩ := hvisit.exists_stat
    intro hlong
    rw [hstat, if_pos hlong] at hok
    cases hok
  rw [if_neg hshort] at hstat
  exact ⟨l, hvisit, fun _ hpath => List.mem_flatten.mpr ⟨l, hl, hpath⟩, hshort, hstat⟩

end Child

/-- A walk that fails has come to a path that is too long, unless it ran out of depth. -/
theorem tooLong_of_walkFrom (h : d.IsFileTree root r) {depth : Nat}
    (hn : d.Enters root r skip rel)
    (hdepth : pathLimit ≤ depth + (Path.below root rel).utf8ByteSize) {f : Failure}
    (hw : d.walkFrom skip depth (Path.below root rel) rel = .error f) :
    ∃ path, d.Reaches r skip path ∧ IsTooLong root path ∧
      f = .io (Path.join root path) .nameTooLong := by
  induction depth generalizing rel with
  | zero =>
    have := hn.short
    omega
  | succ depth ih =>
    obtain ⟨name, hname, hfails⟩ := walkFrom_error_cases (hn.names h) hw
    rw [h.named.namesAt_eq, List.mem_map] at hname
    obtain ⟨name, hname, rfl⟩ := hname
    simp only [OsPath.join_text, OsPath.shown_text] at hfails
    obtain ⟨e, he⟩ := h.named.mem_textsAt_iff.mp hname
    have hisName := h.named.isName hname
    have hstat := hn.stat_child h he
    by_cases hlong : IsTooLong root (Path.child rel name)
    · refine ⟨Path.child rel name, hn.reaches_child h he, hlong, ?_⟩
      rw [if_pos hlong] at hstat
      obtain ⟨g, hg, rfl⟩ | ⟨hfolder, -, -⟩ := hfails
      · rw [hstat] at hg
        cases hg
        rw [Path.join_below root hn.plain hisName]
      · rw [hstat] at hfolder
        cases hfolder
    · rw [if_neg hlong] at hstat
      obtain ⟨g, hg, -⟩ | ⟨hfolder, hskipped, hbelow⟩ := hfails
      · rw [hstat] at hg
        cases hg
      · rw [hstat] at hfolder
        cases hfolder
        have hlonger := size_lt_size_join (Path.below root rel) hisName.isPlain
        rw [← Path.below_child root hn.plain hisName] at hbelow hlonger
        exact ih (hn.child h he hlong hskipped) (by omega) hbelow

/-- A walk that succeeds has come to no path that is too long, and has found all files. -/
theorem complete_of_walkFrom (h : d.IsFileTree root r) {depth : Nat}
    (hn : d.Enters root r skip rel) {found : List String}
    (hw : d.walkFrom skip depth (Path.below root rel) rel = .ok found) {path : String}
    (hreaches : d.Reaches r skip path) {more : List String}
    (hbelow : Path.segments path = Path.names rel ++ more) (hmore : more ≠ []) :
    ¬ IsTooLong root path ∧
      ((∃ b, d.get? (r ++ Place.of path) = some (.file b)) → path ∈ found) := by
  induction depth generalizing rel found more with
  | zero => cases hw
  | succ depth ih =>
    obtain ⟨name, rest, rfl⟩ := List.exists_cons_of_ne_nil hmore
    obtain ⟨e, he, hfolder⟩ := hn.exists_step h hreaches hbelow
    obtain ⟨l, hvisit, hl, hshort, hstat⟩ := hn.exists_visit h hw he
    have hname := h.named.mem_textsAt_iff.mpr ⟨e, he⟩
    have hsegments := hn.segments_child h hname
    cases rest with
    | nil =>
      obtain rfl : path = Path.child rel name :=
        Path.segments_injective (hbelow.trans hsegments.symm)
      refine ⟨hshort, fun ⟨b, hb⟩ => hl ?_⟩
      rw [hn.of_child h hname, ← List.append_assoc, he] at hb
      obtain rfl := Option.some.inj hb
      rw [hvisit.eq_told hstat (by simp)]
      exact List.mem_singleton_self _
    | cons name' rest =>
      obtain ⟨rfl, hskipped⟩ := hfolder (List.cons_ne_nil _ _)
      have hisName := h.named.isName hname
      have hwalk := hvisit.walkFrom_eq hstat hskipped
      rw [← Path.below_child root hn.plain hisName] at hwalk
      have hrest : Path.segments path = Path.names (Path.child rel name) ++ name' :: rest := by
        rw [(Path.isPlain_child hn.plain hisName).names_eq, hsegments, hbelow, List.append_cons]
      obtain ⟨hpath, hfound⟩ :=
        ih (hn.child h he hshort hskipped) hwalk hrest (List.cons_ne_nil _ _)
      exact ⟨hpath, fun hfile => hl (hfound hfile)⟩

end Walk

/-! ## The order of entries -/

section Perm

variable {d d' : Disk}

theorem find_eq_some_iff {p : Place} {e : Entry} {l : List (Place × Entry)}
    (hl : (l.map Prod.fst).Nodup) : find p l = some e ↔ (p, e) ∈ l := by
  refine ⟨mem_of_find, fun h => ?_⟩
  induction l with
  | nil => simp at h
  | cons x l ih =>
    rw [List.map_cons, List.nodup_cons] at hl
    obtain rfl | h := List.mem_cons.mp h
    · exact if_pos rfl
    · have hne : x.1 ≠ p := by
        rintro rfl
        exact hl.1 (List.mem_map.mpr ⟨_, h, rfl⟩)
      exact (if_neg hne).trans (ih hl.2 h)

theorem IsNamed.perm (h : d.IsNamed) (hperm : d'.entries.Perm d.entries) : d'.IsNamed :=
  ⟨fun x hx => h.names x (hperm.mem_iff.mp hx), (hperm.map _).nodup_iff.mpr h.nodup⟩

theorem IsNamed.get?_perm (h : d.IsNamed) (hperm : d'.entries.Perm d.entries) (p : Place) :
    d'.get? p = d.get? p := by
  rw [get?, get?]
  split
  · rfl
  · ext e
    rw [find_eq_some_iff h.nodup, find_eq_some_iff (h.perm hperm).nodup, hperm.mem_iff]

theorem namesAt_congr (hperm : d'.entries.Perm d.entries) (p : Place) :
    d'.namesAt p = d.namesAt p := by
  have hnames : (d'.namesAt p).Perm (d.namesAt p) :=
    (d'.namesAt_perm p).trans (((hperm.map _).filterMap _).trans (d.namesAt_perm p).symm)
  refine hnames.eq_of_pairwise (fun a b _ _ hab hba => ?_) (d'.pairwise_namesAt p)
    (d.pairwise_namesAt p)
  exact Name.bytes_injective (List.le_antisymm hab hba)

theorem resolve_congr (hget : ∀ p, d'.get? p = d.get? p) {follow : Bool} (links : Nat)
    (here : Place) (segments : List Name) :
    d'.resolve follow links here segments = d.resolve follow links here segments := by
  induction links, here, segments using resolve_induction with
  | nil links here => rw [resolve_nil, resolve_nil]
  | idle links here s rest hs ih => rw [resolve_idle hs, resolve_idle hs, ih]
  | up links here rest ih => rw [resolve_up, resolve_up, ih]
  | name links here s rest hi hu ih jump =>
    rw [resolve_name hi hu, resolve_name hi hu, hget, ih]
    cases links with
    | zero => rfl
    | succ m =>
      have hjump := fun t => jump m t rfl
      simp only [hjump]

theorem lookUp_congr (hhome : d'.home = d.home) (hget : ∀ p, d'.get? p = d.get? p) (follow : Bool)
    (path : OsPath) : d'.lookUp follow path = d.lookUp follow path := by
  rw [lookUp, lookUp, hhome, resolve_congr hget]

theorem walkFrom_congr (hnames : ∀ path, d'.names path = d.names path)
    (hstat : ∀ path, d'.stat path = d.stat path) (skip : List String) (depth : Nat)
    (path : OsPath) (rel : String) :
    d'.walkFrom skip depth path rel = d.walkFrom skip depth path rel := by
  induction depth generalizing path rel with
  | zero => rfl
  | succ depth ih =>
    rw [walkFrom, walkFrom, hnames]
    simp only [hstat, ih]

/-- A walk is the same in whichever order the entries of the disk are. -/
theorem IsNamed.walk_perm (h : d.IsNamed) (hhome : d'.home = d.home)
    (hperm : d'.entries.Perm d.entries) (root : String) (skip : List String) :
    d'.walk root skip = d.walk root skip := by
  have hlookUp := lookUp_congr hhome (h.get?_perm hperm) true
  refine walkFrom_congr (fun path => ?_) (fun path => ?_) skip pathLimit root ""
  · rw [Disk.names, Disk.names, hlookUp]
    simp only [namesAt_congr hperm]
  · rw [stat, stat, hlookUp]

end Perm

/-! ## All files -/

theorem map_ofText_lt {a b : List String} (h : a < b) :
    a.map Bytes.ofText < b.map Bytes.ofText := by
  induction a generalizing b with
  | nil =>
    cases b with
    | nil => exact absurd h (List.lt_irrefl _)
    | cons t b => exact List.nil_lt_cons _ _
  | cons s a ih =>
    cases b with
    | nil => exact absurd h (List.not_lt_nil _)
    | cons t b =>
      rw [List.map_cons, List.map_cons, List.cons_lt_cons_iff]
      obtain hlt | ⟨rfl, hlt⟩ := List.cons_lt_cons_iff.mp h
      · exact .inl (Bytes.ofText_lt hlt)
      · exact .inr ⟨rfl, ih hlt⟩

section Lists

variable {d : Disk} {root : String} {r : Place} {skip : List String}

/-- A walk that succeeds has found the files that it has to find. -/
theorem IsFileTree.lists_of_walk (h : d.IsFileTree root r) {found : List String}
    (hw : d.walk root skip = .ok found) : d.Lists r skip found := by
  have hfinds := findsBelow_walk h.isProject h.named hw
  refine ⟨fun path => ⟨fun hpath => ⟨?_, ?_⟩, fun ⟨⟨b, hb⟩, hallowed⟩ => ?_⟩, ?_, ?_⟩
  · obtain ⟨-, b, hlocate⟩ := hfinds.finds path hpath
    exact ⟨b, h.tree.locate_sound hlocate⟩
  · exact (tells_of_walk h.named.toIsNamed hw path hpath).allowed
  · refine (complete_of_walkFrom h (h.enters skip) hw ⟨by simp [hb], hallowed⟩ (by simp)
      (Path.segments_ne_nil path)).2 ⟨b, hb⟩
  · exact hfinds.sorted.imp map_ofText_lt
  · exact hfinds.nodup

end Lists

namespace Sample

/-- A project of a folder, a file whose name goes on from that of the folder, and a folder that is
usually skipped. -/
def pages : Disk :=
  { entries := [
      (["proj"], .folder),
      (["proj", "pages.txt"], .file (Bytes.ofText "x\n")),
      (["proj", "pages"], .folder),
      (["proj", "pages", "x"], .file (Bytes.ofText "x\n")),
      (["proj", "node_modules"], .folder),
      (["proj", "node_modules", "y"], .file (Bytes.ofText "x\n"))] }

theorem isFileTree_pages {root : String}
    (hroot : pages.locate true root = .ok (.found ["proj"] .folder)) :
    pages.IsFileTree root ["proj"] := by
  have htree : pages.IsTree := .of_entries rfl (by decide)
  exact ⟨htree, ⟨⟨by decide, by decide⟩, by decide⟩, by decide, by decide, hroot,
    (htree.isProject_of_locate hroot (by simp [pages])).unlinked⟩

/-- The root of the project with idle segments at its end. -/
def idleRoot (n : Nat) : String :=
  Nat.repeat (· ++ "/" ++ ".") n "proj"

theorem size_idleRoot (n : Nat) : (idleRoot n).utf8ByteSize = 4 + 2 * n := by
  induction n with
  | zero => rfl
  | succ n ih =>
    have hstep : idleRoot (n + 1) = idleRoot n ++ "/" ++ "." := rfl
    rw [hstep, String.utf8ByteSize_append, String.utf8ByteSize_append, ih]
    rfl

theorem locate_idleRoot (n : Nat) (hn : 4 + 2 * n < pathLimit) :
    pages.locate true (idleRoot n) = .ok (.found ["proj"] .folder) := by
  induction n with
  | zero => rfl
  | succ n ih => exact locate_here (ih (by omega)) (by rwa [← size_idleRoot] at hn)

end Sample

section Lists

variable {d : Disk} {root : String} {r : Place}

/-- Below a root with only folders and files, a walk lists all files but those in folders to be
skipped, each once and in the order of their names, if no path that it looks at is too long. If one
is, the walk fails at such a path. The order of the entries of the disk does not matter. -/
theorem walk_lists (h : d.IsFileTree root r) (skip : List String) :
    ((∀ path, d.Reaches r skip path → ¬ IsTooLong root path) →
      ∃ found, d.walk root skip = .ok found ∧ d.Lists r skip found) ∧
    (∀ path, d.Reaches r skip path → IsTooLong root path →
      ∃ long, d.Reaches r skip long ∧ IsTooLong root long ∧
        d.walk root skip = .error (.io (Path.join root long) .nameTooLong)) ∧
    ∀ d' : Disk, d'.home = d.home → d'.entries.Perm d.entries →
      d'.walk root skip = d.walk root skip := by
  refine ⟨fun hshort => ?_, fun path hreaches hlong => ?_, fun d' hhome hperm =>
    h.named.toIsNamed.walk_perm hhome hperm root skip⟩
  · cases hw : d.walk root skip with
    | ok found => exact ⟨found, rfl, h.lists_of_walk hw⟩
    | error f =>
      obtain ⟨path, hreaches, hlong, -⟩ :=
        tooLong_of_walkFrom h (h.enters skip) (Nat.le_add_right _ _) hw
      exact absurd hlong (hshort path hreaches)
  · cases hw : d.walk root skip with
    | ok found =>
      have hshort := (complete_of_walkFrom h (h.enters skip) hw hreaches (by simp)
        (Path.segments_ne_nil path)).1
      exact absurd hlong hshort
    | error f =>
      obtain ⟨long, hreaches, hlong, rfl⟩ :=
        tooLong_of_walkFrom h (h.enters skip) (Nat.le_add_right _ _) hw
      exact ⟨long, hreaches, hlong, rfl⟩

end Lists

/-- All paths are short, so that the walk finds `pages/x` and `pages.txt`. -/
theorem walk_lists_pages :
    Sample.pages.IsFileTree "proj" ["proj"] ∧
      (∀ path, Sample.pages.Reaches ["proj"] ["node_modules"] path → ¬ IsTooLong "proj" path) ∧
      (∃ found, Sample.pages.walk "proj" ["node_modules"] = .ok found ∧
        Sample.pages.Lists ["proj"] ["node_modules"] found ∧ "pages/x" ∈ found) ∧
      Disk.walk { Sample.pages with entries := Sample.pages.entries.reverse } "proj"
        ["node_modules"] = Sample.pages.walk "proj" ["node_modules"] := by
  have htree : Sample.pages.IsFileTree "proj" ["proj"] := Sample.isFileTree_pages rfl
  have hshort : ∀ path, Sample.pages.Reaches ["proj"] ["node_modules"] path →
      ¬ IsTooLong "proj" path := by
    intro path hreaches
    obtain ⟨e, he⟩ := Option.ne_none_iff_exists'.mp hreaches.1
    have hentry := List.mem_map_of_mem (f := Prod.fst) (mem_entries_of_segments he)
    have hpaths : ["pages.txt", "pages", "pages/x", "node_modules", "node_modules/y"].map
        Place.of = ([["pages.txt"], ["pages"], ["pages", "x"], ["node_modules"],
          ["node_modules", "y"]] : List Place) := by
      decide
    have hplace : Place.of path ∈
        ["pages.txt", "pages", "pages/x", "node_modules", "node_modules/y"].map Place.of := by
      rw [hpaths]
      simpa [Sample.pages, Place.of_ne_nil] using hentry
    have hall : ∀ path ∈ ["pages.txt", "pages", "pages/x", "node_modules", "node_modules/y"],
        ¬ IsTooLong "proj" path := by
      decide
    exact hall path ((List.mem_map_of_injective Place.of_injective).mp hplace)
  obtain ⟨hlists, -, hperm⟩ := walk_lists htree ["node_modules"]
  obtain ⟨found, hwalk, hfound⟩ := hlists hshort
  have hmem : "pages/x" ∈ found := (hfound.mem_iff "pages/x").mpr ⟨⟨_, rfl⟩, by decide⟩
  exact ⟨htree, hshort, ⟨found, hwalk, hfound, hmem⟩, hperm _ rfl (List.reverse_perm _)⟩

/-- The root has so many idle segments at its end that the files in it cannot be looked at. -/
theorem walk_fails_below_long_root :
    Sample.pages.IsFileTree (Sample.idleRoot 2044) ["proj"] ∧
      Sample.pages.Reaches ["proj"] ["node_modules"] "pages.txt" ∧
      ∀ found, Sample.pages.walk (Sample.idleRoot 2044) ["node_modules"] ≠ .ok found := by
  have htree := Sample.isFileTree_pages (Sample.locate_idleRoot 2044 (by decide))
  have hreaches : Sample.pages.Reaches ["proj"] ["node_modules"] "pages.txt" :=
    ⟨by decide, by decide⟩
  have hplain : Path.IsPlain "pages.txt" := by decide
  have hlong : IsTooLong (Sample.idleRoot 2044) "pages.txt" := by
    have hle := size_le_size_join (Sample.idleRoot 2044) hplain
    rw [Sample.size_idleRoot] at hle
    exact Nat.le_trans (by decide) hle
  have hsegments : Path.segments "pages.txt" = Path.names "" ++ ["pages.txt"] := by decide
  refine ⟨htree, hreaches, fun found hwalk => ?_⟩
  exact (complete_of_walkFrom htree (htree.enters _) hwalk hreaches hsegments (by decide)).1 hlong

end Codemod.Disk
