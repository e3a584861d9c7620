import Codemod.Disk.Walk
import Codemod.Proofs.Disk.Project
import Codemod.Proofs.Text.Bytes
import Mathlib.Data.List.Forall2
import Mathlib.Data.List.Nodup

/-!
# What a walk finds

A walk goes from folder to folder, and tells every file by the names on the way from the root. Each
of its paths is plain, also where a name is no text and is told as it is shown. If all names are
text, each path is told once, and in a project without links it leads to the file that it was told
for.

## Main definitions

* `Path.IsName`, `Disk.Name.IsProper` — the names that entries can have.
* `Disk.IsNamed`, `Disk.IsTextNamed` — a disk that has no other names, and one with texts only.
* `Disk.Visit` — what a walk finds at one entry of a folder.
* `Disk.Tells` — a path as a walk tells it.
* `Disk.ToldBelow` — paths in the order of a walk.
* `Disk.Finds`, `Disk.FindsBelow` — paths as a walk is to find them.

## Main results

* `Disk.walkFrom_cases` — one folder of a walk.
* `Disk.tells_of_walk` — what a walk tells, on every disk.
* `Disk.toldBelow_walk` — the order of a walk.
* `Disk.findsBelow_walk` — the paths that a walk finds in a project.
-/

namespace Codemod

/-! ## Names -/

namespace Path

/-- A name that an entry can have. -/
def IsName (s : String) : Prop :=
  isIdle s = false ∧ s ≠ ".." ∧ '/' ∉ s.toList

instance (s : String) : Decidable (IsName s) :=
  inferInstanceAs (Decidable (isIdle s = false ∧ s ≠ ".." ∧ '/' ∉ s.toList))

theorem IsName.segments_eq {s : String} (h : IsName s) : segments s = [s] := by
  simp [segments, pieces, Text.splitOn_of_notMem h.2.2]

theorem IsName.isPlain {s : String} (h : IsName s) : IsPlain s := by
  intro t ht
  rw [h.segments_eq, List.mem_singleton] at ht
  exact ht ▸ ⟨h.1, h.2.1⟩

/-- A plain path does not end where another segment would begin. -/
theorem IsPlain.not_hasEnd_slash {path : String} (h : IsPlain path) : hasEnd path "/" = false := by
  rw [Bool.eq_false_iff]
  intro hend
  obtain ⟨t, rfl⟩ := exists_of_hasEnd_slash hend
  have hmem : "" ∈ segments (t ++ "/") := by
    have hsegments : segments (t ++ "/") = segments t ++ segments "" := by
      simpa using segments_slash t ""
    rw [hsegments]
    exact List.mem_append_right _ (by decide)
  exact absurd (h "" hmem).1 (by decide)

/-- The path of an entry of the folder `rel`, where the root itself is the folder `""`. -/
def child (rel name : String) : String :=
  if rel = "" then name else rel ++ "/" ++ name

section Child

variable {rel name : String}

theorem segments_child (hrel : rel = "" ∨ IsPlain rel) (hname : IsName name) :
    segments (child rel name) = names rel ++ [name] := by
  rcases hrel with rfl | hrel
  · rw [child, if_pos rfl, hname.segments_eq]
    rfl
  · rw [child, if_neg hrel.ne_empty, segments_slash, hname.segments_eq, hrel.names_eq]

theorem isPlain_child (hrel : rel = "" ∨ IsPlain rel) (hname : IsName name) :
    IsPlain (child rel name) := by
  intro s hs
  rw [segments_child hrel hname] at hs
  rcases List.mem_append.mp hs with hs | hs
  · rcases hrel with rfl | hrel
    · simp at hs
    · exact hrel s (hrel.names_eq ▸ hs)
  · exact List.mem_singleton.mp hs ▸ ⟨hname.1, hname.2.1⟩

/-- The folder at `rel`, on disk. -/
def below (root rel : String) : String :=
  if rel = "" then root else join root rel

/-- To join is to put the same text in front of all paths that are not absolute. -/
theorem exists_join_eq (base : String) :
    ∃ front, ∀ path, isAbsolute path = false → join base path = front ++ path := by
  by_cases hb : base = ""
  · exact ⟨"", fun path _ => by simp [join, hb]⟩
  · cases he : hasEnd base "/" with
    | true => exact ⟨base, fun path hpath => by simp [join, hb, he, hpath]⟩
    | false => exact ⟨base ++ "/", fun path hpath => by simp [join, hb, he, hpath]⟩

theorem IsPlain.not_hasEnd_slash_append {path : String} (h : IsPlain path) (front : String) :
    hasEnd (front ++ path) "/" = false := by
  rw [Bool.eq_false_iff]
  intro hend
  have hsuffix : ['/'] <:+ front.toList ++ path.toList := by
    simpa [hasEnd, List.isSuffixOf_iff_suffix] using hend
  have hlength : 1 ≤ path.toList.length :=
    List.length_pos_iff.mpr (mt String.toList_eq_nil_iff.mp h.ne_empty)
  have hpath : ['/'] <:+ path.toList :=
    List.suffix_of_suffix_length_le hsuffix (List.suffix_append _ _) hlength
  have hslash : hasEnd path "/" = true := List.isSuffixOf_iff_suffix.mpr hpath
  simp [h.not_hasEnd_slash] at hslash

theorem join_below (root : String) (hrel : rel = "" ∨ IsPlain rel) (hname : IsName name) :
    join (below root rel) name = join root (child rel name) := by
  rcases hrel with rfl | hrel
  · rfl
  · obtain ⟨front, hfront⟩ := exists_join_eq root
    have hchild := (isPlain_child (.inr hrel) hname).not_isAbsolute
    have hend := hrel.not_hasEnd_slash_append front
    rw [below, if_neg hrel.ne_empty, hfront _ hrel.not_isAbsolute, hfront _ hchild, child,
      if_neg hrel.ne_empty, join]
    simp [hname.isPlain.not_isAbsolute, hrel.ne_empty, hend, String.append_assoc]

theorem below_child (root : String) (hrel : rel = "" ∨ IsPlain rel) (hname : IsName name) :
    below root (child rel name) = join (below root rel) name := by
  rw [below, if_neg (isPlain_child hrel hname).ne_empty, join_below root hrel hname]

end Child

end Path

/-! ## Results -/

theorem ok_of_bind {x : Except ε α} {f : α → Except ε β} {b : β} (h : x >>= f = .ok b) :
    ∃ a, x = .ok a ∧ f a = .ok b := by
  cases x with
  | error e => cases h
  | ok a => exact ⟨a, rfl, h⟩

theorem forall₂_of_mapM {f : α → Except ε β} {xs : List α} {ys : List β}
    (h : xs.mapM f = .ok ys) : List.Forall₂ (fun x y => f x = .ok y) xs ys := by
  induction xs generalizing ys with
  | nil =>
    cases h
    exact .nil
  | cons x xs ih =>
    rw [List.mapM_cons] at h
    obtain ⟨y, hy, h⟩ := ok_of_bind h
    obtain ⟨zs, hzs, h⟩ := ok_of_bind h
    cases h
    exact .cons hy (ih hzs)

theorem exists_of_mem_flatten {R : α → List β → Prop} {xs : List α} {lists : List (List β)}
    (h : List.Forall₂ R xs lists) {y : β} (hy : y ∈ lists.flatten) :
    ∃ x ∈ xs, ∃ l, R x l ∧ y ∈ l := by
  induction h with
  | nil => simp at hy
  | @cons x l xs lists hl _ ih =>
    rw [List.flatten_cons, List.mem_append] at hy
    obtain hy | hy := hy
    · exact ⟨x, List.mem_cons_self, l, hl, hy⟩
    · obtain ⟨z, hz, hrest⟩ := ih hy
      exact ⟨z, List.mem_cons_of_mem x hz, hrest⟩

namespace Disk

/-- A name that an entry can have: one segment of a path, or bytes without a slash. -/
def Name.IsProper : Name → Prop
  | text s => Path.IsName s
  | other b _ => 0x2f ∉ b

instance : (n : Name) → Decidable n.IsProper
  | .text s => inferInstanceAs (Decidable (Path.IsName s))
  | .other b _ => inferInstanceAs (Decidable (0x2f ∉ b))

def Name.isText : Name → Bool
  | text _ => true
  | other _ _ => false

theorem Name.text_shown {n : Name} (h : n.isText = true) : .text n.shown = n := by
  cases n with
  | text s => rfl
  | other b hb => cases h

theorem Name.toText?_bytes (n : Name) :
    n.bytes.toText? = if n.isText then some n.shown else none := by
  cases n with
  | text s => exact Bytes.toText?_ofText s
  | other b hb => exact hb

theorem Name.bytes_injective : Function.Injective Name.bytes := by
  intro m n h
  have hshown := n.toText?_bytes
  rw [← h, m.toText?_bytes] at hshown
  cases m with
  | text s =>
    cases n with
    | text t => exact congrArg text (Option.some.inj hshown)
    | other b hb => cases hshown
  | other a ha =>
    cases n with
    | text t => cases hshown
    | other b hb => cases h; rfl

/-- Also a name that is no text is shown as one segment that leads to an entry. -/
theorem Name.IsProper.isName {n : Name} (h : n.IsProper) : Path.IsName n.shown := by
  cases n with
  | text s => exact h
  | other b hb =>
    have hne {s : String} (hs : ∀ c ∈ s.toList, c ≠ '\x00' ∧ c.toNat < 0x80) :
        b.toLossyText ≠ s := by
      rintro rfl
      exact Bytes.not_ascii_of_toText?_eq_none hb hs
    have hidle : Path.isIdle b.toLossyText = false := by
      simp [Path.isIdle, hne (s := "") (by simp), hne (s := ".") (by simp)]
    exact ⟨hidle, hne (by simp), Bytes.slash_notMem_toLossyText h⟩

theorem Name.IsProper.not_idle {n : Name} (h : n.IsProper) : n.isIdle = false := by
  cases n with
  | text s => exact h.1
  | other b hb => rfl

theorem Name.IsProper.ne_up {n : Name} (h : n.IsProper) : n ≠ ".." := by
  rintro rfl
  exact h.2.1 rfl

/-- Entries have names that they can have, and no two entries are at one place. -/
structure IsNamed (d : Disk) : Prop where
  names : ∀ x ∈ d.entries, ∀ name ∈ x.1, name.IsProper
  nodup : (d.entries.map Prod.fst).Nodup

/-- All names are text besides. -/
structure IsTextNamed (d : Disk) : Prop extends IsNamed d where
  text : ∀ x ∈ d.entries, ∀ name ∈ x.1, name.isText = true

/-- The name of a place, if it is in the folder `p`. -/
def nameIn (p q : Place) : Option Name :=
  match q.getLast? with
  | some name => if q.dropLast = p then some name else none
  | none => none

theorem nameIn_eq_some {p q : Place} {name : Name} :
    nameIn p q = some name ↔ q = p ++ [name] := by
  rcases List.eq_nil_or_concat q with rfl | ⟨front, last, rfl⟩
  · simp [nameIn]
  · simp [nameIn, and_comm]

theorem Place.of_child {rel name : String} (hrel : rel = "" ∨ Path.IsPlain rel)
    (hname : Path.IsName name) : of (Path.child rel name) = names rel ++ [.text name] := by
  rw [of, Path.segments_child hrel hname, List.map_append, names_eq]
  rfl

section Names

variable {d : Disk} {p : Place}

theorem namesAt_perm (d : Disk) (p : Place) :
    (d.namesAt p).Perm ((d.entries.map Prod.fst).filterMap (nameIn p)) := by
  rw [List.filterMap_map]
  exact List.mergeSort_perm _ _

theorem mem_namesAt {name : Name} :
    name ∈ d.namesAt p ↔ p ++ [name] ∈ d.entries.map Prod.fst := by
  rw [(d.namesAt_perm p).mem_iff, List.mem_filterMap]
  simp [nameIn_eq_some]

/-- The names in the folder at a place, as text. -/
def textsAt (d : Disk) (p : Place) : List String :=
  (d.namesAt p).map Name.shown

theorem IsNamed.isProper (h : d.IsNamed) {name : Name} (hname : name ∈ d.namesAt p) :
    name.IsProper := by
  obtain ⟨x, hx, hplace⟩ := List.mem_map.mp (mem_namesAt.mp hname)
  exact h.names x hx name (by simp [hplace])

theorem IsTextNamed.namesAt_eq (h : d.IsTextNamed) (p : Place) :
    d.namesAt p = (d.textsAt p).map .text := by
  rw [textsAt, List.map_map]
  refine (List.map_id _).symm.trans (List.map_congr_left fun name hname => ?_)
  obtain ⟨x, hx, hplace⟩ := List.mem_map.mp (mem_namesAt.mp hname)
  exact (Name.text_shown (h.text x hx name (by simp [hplace]))).symm

theorem IsTextNamed.mem_textsAt (h : d.IsTextNamed) {name : String} :
    name ∈ d.textsAt p ↔ p ++ [.text name] ∈ d.entries.map Prod.fst := by
  rw [← mem_namesAt, h.namesAt_eq, List.mem_map_of_injective fun _ _ => Name.text.inj]

theorem IsNamed.isName (h : d.IsNamed) {name : String} (hname : name ∈ d.textsAt p) :
    Path.IsName name := by
  obtain ⟨n, hn, rfl⟩ := List.mem_map.mp hname
  exact (h.isProper hn).isName

/-- The names in a folder are in the order of their bytes. -/
theorem pairwise_namesAt (d : Disk) (p : Place) :
    (d.namesAt p).Pairwise fun a b => a.bytes ≤ b.bytes := by
  have hsorted : (d.namesAt p).Pairwise fun a b => decide (a.bytes ≤ b.bytes) = true :=
    List.pairwise_mergeSort (fun a b c => by simpa using List.le_trans)
      (fun a b => by simpa using List.le_total a.bytes b.bytes) _
  exact hsorted.imp of_decide_eq_true

theorem IsNamed.nodup_namesAt (h : d.IsNamed) (p : Place) : (d.namesAt p).Nodup := by
  rw [(d.namesAt_perm p).nodup_iff]
  refine List.Nodup.filterMap (fun a b name ha hb => ?_) h.nodup
  exact (nameIn_eq_some.mp ha).trans (nameIn_eq_some.mp hb).symm

/-- Names that are text are in order, and none is there twice. -/
theorem IsTextNamed.pairwise_textsAt (h : d.IsTextNamed) (p : Place) :
    (d.textsAt p).Pairwise (· < ·) := by
  have hboth := (d.pairwise_namesAt p).and (h.nodup_namesAt p)
  rw [h.namesAt_eq, List.pairwise_map] at hboth
  refine hboth.imp fun {a b} ⟨hle, hne⟩ => ?_
  refine String.not_le.mp fun hge => ?_
  rcases Decidable.em (b < a) with hlt | hnlt
  · exact hle (Bytes.ofText_lt hlt)
  · exact hne (congrArg Name.text (String.le_antisymm (String.not_lt.mp hnlt) hge))

end Names

/-! ## One folder -/

theorem exists_names_eq {d : Disk} {path : OsPath} {names : List Name}
    (h : d.names path = .ok names) : ∃ p, names = d.namesAt p := by
  rw [Disk.names] at h
  obtain ⟨t, -, h⟩ := ok_of_bind h
  rcases t with ⟨p, _ | b | l⟩ | p
  · exact ⟨p, (Except.ok.inj h).symm⟩
  all_goals cases h

theorem walkFrom_succ (d : Disk) (skip : List String) (depth : Nat) (path : OsPath)
    (rel : String) :
    d.walkFrom skip (depth + 1) path rel =
      match d.names path with
      | .error f => .error (.io path.shown f)
      | .ok names => do
        let found ← names.mapM fun name =>
          match d.stat (path.join name) with
          | .error f => .error (.io (path.join name).shown f)
          | .ok .folder =>
            if Path.isSkipped (Path.child rel name.shown) skip then .ok []
            else d.walkFrom skip depth (path.join name) (Path.child rel name.shown)
          | .ok _ => .ok [Path.child rel name.shown]
        return found.flatten := by
  rw [walkFrom]
  rfl

/-- What a walk finds at the entry `child`, which it tells as `rel`: nothing in a folder that is not
entered, all that is in another, and a file. -/
inductive Visit (d : Disk) (skip : List String) (depth : Nat) (child : OsPath) (rel : String) :
    List String → Prop
  | passed : d.stat child = .ok .folder → Path.isSkipped rel skip = true →
      Visit d skip depth child rel []
  | entered (found : List String) : d.stat child = .ok .folder →
      Path.isSkipped rel skip = false → d.walkFrom skip depth child rel = .ok found →
      Visit d skip depth child rel found
  | told (e : Entry) : d.stat child = .ok e → e ≠ .folder → Visit d skip depth child rel [rel]

section Cases

variable {d : Disk} {skip : List String} {depth : Nat} {rel : String} {found : List String}

/-- A walk through a folder visits its entries one after the other. -/
theorem walkFrom_cases {path : OsPath} (h : d.walkFrom skip depth path rel = .ok found) :
    ∃ n p lists, depth = n + 1 ∧ d.names path = .ok (d.namesAt p) ∧
      List.Forall₂ (fun name => d.Visit skip n (path.join name) (Path.child rel name.shown))
        (d.namesAt p) lists ∧
      found = lists.flatten := by
  cases depth with
  | zero => cases h
  | succ n =>
    rw [walkFrom_succ] at h
    split at h
    · cases h
    next names hnames =>
      obtain ⟨p, rfl⟩ := exists_names_eq hnames
      obtain ⟨lists, hlists, h⟩ := ok_of_bind h
      cases h
      refine ⟨n, p, lists, rfl, hnames, ?_, rfl⟩
      refine (forall₂_of_mapM hlists).imp fun name l hl => ?_
      split at hl
      · cases hl
      next hstat =>
        split at hl
        next hskipped =>
          cases hl
          exact .passed hstat hskipped
        next hskipped => exact .entered l hstat (by simpa using hskipped) hl
      next e hfolder hstat =>
        cases hl
        exact .told e hstat hfolder

/-- Where all names are text, a walk goes by paths that are text. -/
theorem IsTextNamed.walkFrom_cases (hd : d.IsTextNamed) {path : String}
    (h : d.walkFrom skip depth path rel = .ok found) :
    ∃ n p lists, depth = n + 1 ∧ d.names path = .ok (d.namesAt p) ∧
      List.Forall₂ (fun name => d.Visit skip n (Path.join path name) (Path.child rel name))
        (d.textsAt p) lists ∧
      found = lists.flatten := by
  obtain ⟨n, p, lists, hn, hnames, hvisits, hfound⟩ := Disk.walkFrom_cases h
  rw [hd.namesAt_eq, List.forall₂_map_left_iff] at hvisits
  exact ⟨n, p, lists, hn, hnames, hvisits, hfound⟩

end Cases

/-! ## What a walk tells

This much holds of every disk. Names that are no text are told as they are shown, so that different
files may be told by one path, and a path may be told that leads nowhere. -/

/-- The path tells the names on the way from the folder `path` to a file, as they are shown. -/
structure Tells (d : Disk) (skip : List String) (path : OsPath) (base : List String)
    (told : String) : Prop where
  plain : Path.IsPlain told
  leads : ∃ (names : List Name) (e : Entry), Path.segments told = base ++ names.map Name.shown ∧
    d.stat (names.foldl OsPath.join path) = .ok e ∧ e ≠ .folder
  allowed : ∀ name ∈ (Path.segments told).dropLast, name ∉ skip

theorem tells_of_walkFrom {d : Disk} (hd : d.IsNamed) {skip : List String} {depth : Nat}
    {path : OsPath} {rel : String} (hrel : rel = "" ∨ Path.IsPlain rel)
    (hentered : ∀ name ∈ Path.names rel, name ∉ skip) {found : List String}
    (hw : d.walkFrom skip depth path rel = .ok found) :
    ∀ told ∈ found, d.Tells skip path (Path.names rel) told := by
  induction depth generalizing path rel found with
  | zero => cases hw
  | succ depth ih =>
    intro told htold
    obtain ⟨n, p, lists, hn, hnames, hvisits, rfl⟩ := walkFrom_cases hw
    obtain rfl := Nat.succ.inj hn
    obtain ⟨name, hname, l, hvisit, htold⟩ := exists_of_mem_flatten hvisits htold
    have hname := (hd.isProper hname).isName
    have hsegments := Path.segments_child hrel hname
    have hplain := Path.isPlain_child hrel hname
    cases hvisit with
    | passed => simp at htold
    | entered _ _ hskipped hwalk =>
      have hallowed : ∀ name' ∈ Path.names (Path.child rel name.shown), name' ∉ skip := by
        simpa [Path.isSkipped, hplain.names_eq] using hskipped
      obtain ⟨htold, ⟨names, e, hnames, hstat, he⟩, hbelow⟩ :=
        ih (.inr hplain) hallowed hwalk told htold
      rw [hplain.names_eq, hsegments, List.append_assoc] at hnames
      exact ⟨htold, ⟨name :: names, e, hnames, hstat, he⟩, hbelow⟩
    | told e hstat he =>
      obtain rfl := List.mem_singleton.mp htold
      refine ⟨hplain, ⟨[name], e, hsegments, hstat, he⟩, ?_⟩
      rwa [hsegments, List.dropLast_concat]

/-- A walk tells files by the names on the way to them, past no folder that is to be skipped. -/
theorem tells_of_walk {d : Disk} (hd : d.IsNamed) {root : String} {skip found : List String}
    (hw : d.walk root skip = .ok found) : ∀ told ∈ found, d.Tells skip root [] told :=
  tells_of_walkFrom hd (.inl rfl) (by simp) hw

namespace Sample

/-- A project with a file whose name is no text. -/
def unreadable : Disk :=
  { entries := [(["proj"], .folder), (["proj", .other [0xff] (by decide)], .file [])] }

end Sample

/-- A file is told by a path that leads nowhere if its name is no text. -/
example : Sample.unreadable.IsNamed ∧ Sample.unreadable.walk "proj" [] = .ok ["\uFFFD"] ∧
    Sample.unreadable.stat "proj/\uFFFD" = .error .noEntry :=
  ⟨⟨by decide, by decide⟩, by decide +kernel⟩

/-! ## The order of a walk

Where all names are text, paths are told in their order, also where links lead from one folder to
another. -/

/-- What a walk tells below a folder: plain paths, in the order of the names on the way. -/
structure ToldBelow (base found : List String) : Prop where
  plain : ∀ path ∈ found, Path.IsPlain path
  below : ∀ path ∈ found, base <+: Path.segments path
  sorted : found.Pairwise fun a b => Path.segments a < Path.segments b

theorem ToldBelow.nil (base : List String) : ToldBelow base [] :=
  ⟨by simp, by simp, by simp⟩

theorem ToldBelow.nodup {base found : List String} (h : ToldBelow base found) :
    found.Nodup := by
  refine h.sorted.imp fun {a b} hlt heq => ?_
  rw [heq] at hlt
  exact List.lt_irrefl _ hlt

theorem segments_lt {base : List String} {a b x y : String} (hab : a < b)
    (hx : base ++ [a] <+: Path.segments x) (hy : base ++ [b] <+: Path.segments y) :
    Path.segments x < Path.segments y := by
  obtain ⟨u, hu⟩ := hx
  obtain ⟨v, hv⟩ := hy
  rw [← hu, ← hv, List.append_assoc, List.append_assoc]
  exact List.append_left_lt (List.cons_lt_cons_iff.mpr (.inl hab))

/-- What is told below the entries of a folder, one after the other, is told below the folder. -/
theorem ToldBelow.flatten {base names : List String} {lists : List (List String)}
    (hnames : names.Pairwise (· < ·))
    (h : List.Forall₂ (fun name l => ToldBelow (base ++ [name]) l) names lists) :
    ToldBelow base lists.flatten ∧
      ∀ path ∈ lists.flatten, ∃ name ∈ names, base ++ [name] <+: Path.segments path := by
  induction h with
  | nil => exact ⟨.nil base, by simp⟩
  | @cons name l names lists hl _ ih =>
    rw [List.pairwise_cons] at hnames
    obtain ⟨⟨hplain, hbelow, hsorted⟩, hfrom⟩ := ih hnames.2
    have hfirst : ∀ path ∈ l, base <+: Path.segments path := fun path hpath =>
      (List.prefix_append _ _).trans (hl.below path hpath)
    rw [List.flatten_cons]
    refine ⟨⟨?_, ?_, ?_⟩, ?_⟩
    · exact List.forall_mem_append.mpr ⟨hl.plain, hplain⟩
    · exact List.forall_mem_append.mpr ⟨hfirst, hbelow⟩
    · refine List.pairwise_append.mpr ⟨hl.sorted, hsorted, fun x hx y hy => ?_⟩
      obtain ⟨other, hother, hy⟩ := hfrom y hy
      exact segments_lt (hnames.1 other hother) (hl.below x hx) hy
    · refine List.forall_mem_append.mpr ⟨fun path hpath => ?_, fun path hpath => ?_⟩
      · exact ⟨name, List.mem_cons_self, hl.below path hpath⟩
      · obtain ⟨other, hother, hpath⟩ := hfrom path hpath
        exact ⟨other, List.mem_cons_of_mem _ hother, hpath⟩

theorem toldBelow_walkFrom {d : Disk} (hd : d.IsTextNamed) {skip : List String} {depth : Nat}
    {path rel : String} (hrel : rel = "" ∨ Path.IsPlain rel) {found : List String}
    (hw : d.walkFrom skip depth path rel = .ok found) : ToldBelow (Path.names rel) found := by
  induction depth generalizing path rel found with
  | zero => cases hw
  | succ depth ih =>
    obtain ⟨n, p, lists, hn, -, hvisits, rfl⟩ := hd.walkFrom_cases hw
    obtain rfl := Nat.succ.inj hn
    refine (ToldBelow.flatten (hd.pairwise_textsAt p) ?_).1
    have hall := (List.forall₂_and_left _ _).mpr ⟨fun name hname => hd.isName hname, hvisits⟩
    refine hall.imp fun name l hboth => ?_
    obtain ⟨hname, hvisit⟩ := hboth
    have hsegments := Path.segments_child hrel hname
    have hplain := Path.isPlain_child hrel hname
    cases hvisit with
    | passed => exact .nil _
    | entered _ _ _ hwalk =>
      have hfound := ih (.inr hplain) hwalk
      rwa [hplain.names_eq, hsegments] at hfound
    | told => exact ⟨by simpa using hplain, by simp [hsegments], by simp⟩

/-- The paths that a walk tells are plain, and in the order of the names on the way. -/
theorem toldBelow_walk {d : Disk} (hd : d.IsTextNamed) {root : String} {skip : List String}
    {found : List String} (hw : d.walk root skip = .ok found) : ToldBelow [] found :=
  toldBelow_walkFrom hd (.inl rfl) hw

/-! ## Projects -/

/-- The path is plain and leads to a file at its place. -/
structure Finds (d : Disk) (root : String) (r : Place) (path : String) : Prop where
  plain : Path.IsPlain path
  leads : ∃ b, d.locate true (Path.join root path) =
    .ok (.found (r ++ Place.of path) (.file b))

section Walk

variable {d : Disk} {root : String} {r : Place} {skip : List String}

theorem IsProject.finds_of_stat (h : d.IsProject root r) {path : String}
    (hpath : Path.IsPlain path) {e : Entry} (hstat : d.stat (Path.join root path) = .ok e)
    (he : e ≠ .folder) : d.Finds root r path := by
  rw [stat_eq] at hstat
  split at hstat
  · cases hstat
  next p f hl =>
    obtain rfl := Except.ok.inj hstat
    obtain ⟨hplace, -⟩ := h.locate hpath hl
    obtain rfl : p = r ++ Place.of path := hplace
    cases f with
    | folder => exact absurd rfl he
    | file b => exact ⟨hpath, b, hl⟩
    | link t => exact absurd rfl ((arrives_of_locate hl).ne_link _ t)
  · cases hstat

/-- What is told below a place leads to files there. -/
structure FindsBelow (d : Disk) (root : String) (r : Place) (base found : List String) : Prop
    extends ToldBelow base found where
  finds : ∀ path ∈ found, d.Finds root r path

/-- All that is found from a folder on leads to files. -/
theorem finds_of_walkFrom (h : d.IsProject root r) (hd : d.IsTextNamed) {depth : Nat} {rel : String}
    (hrel : rel = "" ∨ Path.IsPlain rel) {found : List String}
    (hw : d.walkFrom skip depth (Path.below root rel) rel = .ok found) :
    ∀ path ∈ found, d.Finds root r path := by
  induction depth generalizing rel found with
  | zero => cases hw
  | succ depth ih =>
    intro path hpath
    obtain ⟨n, p, lists, hn, -, hvisits, rfl⟩ := hd.walkFrom_cases hw
    obtain rfl := Nat.succ.inj hn
    obtain ⟨name, hname, l, hvisit, hpath⟩ := exists_of_mem_flatten hvisits hpath
    have hname := hd.isName hname
    have hplain := Path.isPlain_child hrel hname
    cases hvisit with
    | passed => simp at hpath
    | entered _ _ _ hwalk =>
      rw [← Path.below_child root hrel hname] at hwalk
      exact ih (.inr hplain) hwalk path hpath
    | told e hstat he =>
      obtain rfl := List.mem_singleton.mp hpath
      rw [Path.join_below root hrel hname] at hstat
      exact h.finds_of_stat hplain hstat he

/-- The paths that a walk finds lead to files, in the order of the names on the way. -/
theorem findsBelow_walk (h : d.IsProject root r) (hd : d.IsTextNamed) {found : List String}
    (hw : d.walk root skip = .ok found) : d.FindsBelow root r [] found :=
  ⟨toldBelow_walk hd hw, finds_of_walkFrom h hd (.inl rfl) hw⟩

end Walk

end Disk

end Codemod
