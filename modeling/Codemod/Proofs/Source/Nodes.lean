import Codemod.Proofs.Source.Excerpts

/-!
# Imports in trees that fit their text

A parser is trusted to make trees whose nodes stand in the text, with whole characters, in order and
inside one another. Nothing more is asked of it, so a string may well be one that does not end with
a quote. Imports are read from such a tree, unless the first or the last byte of the string that
names a module is only a part of a character; then the program stops.

## Main definitions

* `Node.Fits`, `Languages.Sound` — what parsers are trusted with.
* `Node.IsCut` — a statement at which the program stops.
* `ImportsStand` — ranges of imports fit the text and one another.

## Main results

* `imports_eq_error_iff` — when the program stops.
* `importsStand_of_fits` — the imports of a tree.
* `ImportsStand.occur` — the names of modules in a text.
-/

namespace Codemod.Source

/-! ## Trees -/

/-- The node begins and ends with whole characters of the text, and its children stand in it one
after the other. So it is with all nodes below. -/
inductive Node.Fits (s : List Char) : Node → Prop
  | intro {n : Node} {part : List Char} (hspan : Holds s n.span part)
      (hinside : ∀ c ∈ n.children, n.span.start ≤ c.span.start ∧ c.span.stop ≤ n.span.stop)
      (hordered : n.children.Pairwise fun c d => c.span.stop ≤ d.span.start)
      (hchildren : ∀ c ∈ n.children, c.Fits s) : n.Fits s

/-- Whatever was parsed before, the tree of a text fits it. -/
def Language.Sound (l : Language) : Prop :=
  ∀ previous text, (l.parse previous text).Fits text.toList

structure Languages.Sound (ls : Languages) : Prop where
  typescript : ls.typescript.Sound
  tsx : ls.tsx.Sound

theorem Languages.Sound.of {ls : Languages} (h : ls.Sound) (path : String) :
    (ls.of path).Sound := by
  rw [Languages.of]
  split
  · exact h.tsx
  · exact h.typescript

namespace Node

variable {s : List Char} {n c : Node} {field : String}

theorem mem_of_child? (h : n.child? field = some c) : c ∈ n.children :=
  List.mem_of_find?_eq_some h

theorem Fits.holds (h : n.Fits s) : ∃ part, Holds s n.span part := by
  obtain ⟨hspan, -, -, -⟩ := h
  exact ⟨_, hspan⟩

theorem Fits.inside (h : n.Fits s) (hc : c ∈ n.children) :
    n.span.start ≤ c.span.start ∧ c.span.stop ≤ n.span.stop := by
  obtain ⟨-, hinside, -, -⟩ := h
  exact hinside c hc

theorem Fits.ordered (h : n.Fits s) :
    n.children.Pairwise fun c d => c.span.stop ≤ d.span.start := by
  obtain ⟨-, -, hordered, -⟩ := h
  exact hordered

theorem Fits.child (h : n.Fits s) (hc : c ∈ n.children) : c.Fits s := by
  obtain ⟨-, -, -, hchildren⟩ := h
  exact hchildren c hc

/-! ## Names -/

theorem exists_below {text : String} {nodes : List Node} (hfits : ∀ c ∈ nodes, c.Fits text.toList)
    (hnames : ∀ c ∈ nodes, ∃ names, c.importedNames text = .ok names) :
    ∃ names, importedNames.below text nodes = .ok names := by
  induction nodes with
  | nil => exact ⟨[], rfl⟩
  | cons c rest ih =>
    rw [List.forall_mem_cons] at hfits hnames
    obtain ⟨more, hmore⟩ := ih hfits.2 hnames.2
    obtain ⟨names, hhere⟩ := hnames.1
    rw [importedNames.below, hmore, hhere]
    split
    next =>
      cases hname : c.child? "name" with
      | none => exact ⟨_, rfl⟩
      | some name =>
        obtain ⟨part, hpart⟩ := (hfits.1.child (mem_of_child? hname)).holds
        dsimp only
        rw [hpart.slice_eq]
        exact ⟨_, rfl⟩
    next =>
      split
      · exact ⟨_, rfl⟩
      · exact ⟨_, rfl⟩

/-- The imported names can always be read. -/
theorem Fits.exists_importedNames {text : String} {n : Node} (h : n.Fits text.toList) :
    ∃ names, n.importedNames text = .ok names := by
  induction h with
  | @intro n _ _ _ _ hchildren ih =>
    obtain ⟨kind, field?, span, hasError, children⟩ := n
    rw [importedNames]
    exact exists_below hchildren ih

/-! ## Statements -/

/-- The string that names a module has two bytes or more, but does not begin and end with a
character of one byte. -/
def IsCut (s : List Char) (n : Node) : Prop :=
  ∃ source part, n.child? "source" = some source ∧ Holds s source.span part ∧ 2 ≤ byteSize part ∧
    ¬ IsEdged part

end Node

/-- The import is read from a statement. -/
structure Import.IsReadFrom (text : String) (i : Import) (n : Node) : Prop where
  statement : i.statementSpan = n.span
  name : Holds text.toList i.moduleSpan i.moduleName.toList
  inside : n.span.start < i.moduleSpan.start ∧ i.moduleSpan.stop < n.span.stop

theorem Node.isCut_iff {s part : List Char} {n source : Node}
    (hsource : n.child? "source" = some source) (hpart : Holds s source.span part) :
    n.IsCut s ↔ 2 ≤ byteSize part ∧ ¬ IsEdged part := by
  rw [IsCut, hsource]
  constructor
  · rintro ⟨source', part', hsome, hpart', hcut⟩
    cases hsome
    rwa [hpart.unique hpart']
  · exact fun hcut => ⟨source, part, rfl, hpart, hcut⟩

section Statements

variable {text : String} {n : Node}

theorem slice_eq_error {r : Span} (h : ∀ t, slice text r ≠ .ok t) : slice text r = .error ⟨r⟩ := by
  rw [slice] at h ⊢
  split
  next t ht => simp [ht] at h
  next => rfl

/-- The program stops if it takes off a first and a last byte that are no characters. -/
theorem Holds.slice_inner_eq_error {r : Span} {part : List Char} (h : Holds text.toList r part)
    (hedged : ¬ IsEdged part) :
    slice text ⟨r.start + 1, r.stop - 1⟩ = .error ⟨⟨r.start + 1, r.stop - 1⟩⟩ := by
  refine slice_eq_error fun t ht => hedged ?_
  obtain ⟨a, b, hmid⟩ := h.inner_iff.mp (slice_eq_ok_iff.mp ht)
  exact ⟨a, _, b, hmid⟩

/-- What the program makes of a statement: it stops, finds no import, or finds one. -/
theorem importOf?_cases (h : n.Fits text.toList) :
    (∃ cut, importOf? text n = .error cut ∧ n.IsCut text.toList) ∨
    (importOf? text n = .ok none ∧ ¬ n.IsCut text.toList) ∨
    ∃ i, importOf? text n = .ok (some i) ∧ ¬ n.IsCut text.toList ∧ i.IsReadFrom text n := by
  rw [importOf?]
  cases hsource : n.child? "source" with
  | none => exact .inr (.inl ⟨rfl, by simp [Node.IsCut, hsource]⟩)
  | some source =>
    have hmem := Node.mem_of_child? hsource
    obtain ⟨part, hpart⟩ := (h.child hmem).holds
    have hsize : source.span.size = byteSize part := by
      obtain ⟨_, _, -, -, hstop⟩ := hpart
      rw [Span.size]
      omega
    rw [Node.isCut_iff hsource hpart]
    dsimp only
    split
    next hsmall => exact .inr (.inl ⟨rfl, by omega⟩)
    next hlarge =>
      obtain ⟨names, hnames⟩ := h.exists_importedNames
      rw [hnames]
      by_cases hedged : IsEdged part
      · obtain ⟨a, mid, b, hmid⟩ := hedged
        have hinner := hpart.inner_iff.mpr ⟨a, b, hmid⟩
        rw [hinner.slice_eq]
        refine .inr (.inr ⟨_, rfl, by simp [IsEdged, hmid], rfl, ?_, ?_⟩)
        · rwa [String.toList_ofList]
        · have hinside := h.inside hmem
          rw [Span.size] at hlarge
          dsimp only
          omega
      · rw [hpart.slice_inner_eq_error hedged]
        exact .inl ⟨_, rfl, by omega, hedged⟩

/-- Whatever the tree, a quote comes before the name of a module. -/
theorem start_pos_of_importOf? {i : Import} (h : importOf? text n = .ok (some i)) :
    0 < i.moduleSpan.start := by
  rw [importOf?] at h
  split at h
  · cases h
  next source _ =>
    split at h
    · cases h
    · cases hnames : n.importedNames text with
      | error cut => simp [hnames, Bind.bind, Except.bind] at h
      | ok named =>
        cases hslice : slice text ⟨source.span.start + 1, source.span.stop - 1⟩ with
        | error cut => simp [hnames, hslice, Bind.bind, Except.bind] at h
        | ok name =>
          simp only [hnames, hslice, Bind.bind, Except.bind, Pure.pure, Except.pure] at h
          cases h
          exact Nat.succ_pos _

variable {nodes : List Node}

/-- Imports are listed if all statements can be read. -/
theorem exists_of_importsOf_cons {imports : List Import}
    (h : importsOf text (n :: nodes) = .ok imports) :
    ∃ found more, importOf? text n = .ok found ∧ importsOf text nodes = .ok more ∧
      imports = found.toList ++ more := by
  rw [importsOf] at h
  cases hfound : importOf? text n with
  | error cut =>
    rw [hfound] at h
    cases h
  | ok found =>
    cases hmore : importsOf text nodes with
    | error cut =>
      rw [hfound, hmore] at h
      cases h
    | ok more =>
      rw [hfound, hmore] at h
      exact ⟨found, more, rfl, rfl, (Except.ok.inj h).symm⟩

theorem start_pos_of_importsOf {imports : List Import} (h : importsOf text nodes = .ok imports) :
    ∀ i ∈ imports, 0 < i.moduleSpan.start := by
  induction nodes generalizing imports with
  | nil =>
    cases h
    simp
  | cons n nodes ih =>
    obtain ⟨found, more, hfound, hmore, rfl⟩ := exists_of_importsOf_cons h
    intro i hi
    rw [List.mem_append, Option.mem_toList] at hi
    obtain rfl | hi := hi
    · exact start_pos_of_importOf? hfound
    · exact ih hmore i hi

/-- The program stops if and only if it comes to a statement at which it does. -/
theorem importsOf_eq_error_iff (h : ∀ n ∈ nodes, n.Fits text.toList) :
    (∃ cut, importsOf text nodes = .error cut) ↔ ∃ n ∈ nodes, n.IsCut text.toList := by
  induction nodes with
  | nil => simp [importsOf]
  | cons n nodes ih =>
    rw [List.forall_mem_cons] at h
    have hlater := ih h.2
    rw [importsOf]
    obtain ⟨cut, hstops, hcut⟩ | ⟨hnone, hcut⟩ | ⟨i, hsome, hcut, -⟩ := importOf?_cases h.1
    · rw [hstops]
      exact iff_of_true ⟨cut, rfl⟩ ⟨n, List.mem_cons_self, hcut⟩
    all_goals
      simp only [List.mem_cons, exists_eq_or_imp, hcut, false_or, ← hlater]
    · rw [hnone]
      cases importsOf text nodes <;> simp [Bind.bind, Except.bind, Pure.pure, Except.pure]
    · rw [hsome]
      cases importsOf text nodes <;> simp [Bind.bind, Except.bind, Pure.pure, Except.pure]

/-- The imports are read from statements, in order. -/
theorem readFrom_of_importsOf {imports : List Import} (h : ∀ n ∈ nodes, n.Fits text.toList)
    (hok : importsOf text nodes = .ok imports) :
    (∀ i ∈ imports, ∃ n ∈ nodes, i.IsReadFrom text n) ∧
      (imports.map (·.statementSpan)).Sublist (nodes.map (·.span)) := by
  induction nodes generalizing imports with
  | nil =>
    cases hok
    exact ⟨by simp, .slnil⟩
  | cons n nodes ih =>
    rw [List.forall_mem_cons] at h
    obtain ⟨found, more, hfound, hmore, rfl⟩ := exists_of_importsOf_cons hok
    obtain ⟨hread, hspans⟩ := ih h.2 hmore
    have hlater : ∀ i ∈ more, ∃ n' ∈ n :: nodes, i.IsReadFrom text n' := fun i hi => by
      obtain ⟨n', hn', hi'⟩ := hread i hi
      exact ⟨n', List.mem_cons_of_mem n hn', hi'⟩
    obtain ⟨cut, hstops, -⟩ | ⟨hnone, -⟩ | ⟨i, hsome, -, hi⟩ := importOf?_cases h.1
    · rw [hstops] at hfound
      cases hfound
    · obtain rfl : none = found := Except.ok.inj (hnone.symm.trans hfound)
      exact ⟨hlater, hspans.cons n.span⟩
    · obtain rfl : some i = found := Except.ok.inj (hsome.symm.trans hfound)
      refine ⟨List.forall_mem_cons.mpr ⟨⟨n, List.mem_cons_self, hi⟩, hlater⟩, ?_⟩
      rw [Option.toList_some, List.singleton_append, List.map_cons, hi.statement]
      exact hspans.cons_cons n.span

end Statements

/-! ## Imports -/

/-- The name of the module. -/
def Import.excerpt (i : Import) : Excerpt :=
  ⟨i.moduleSpan, i.moduleName.toList⟩

/-- The name of the module stands within the statement, with something of it on either side. -/
def Import.Encloses (i : Import) : Prop :=
  i.statementSpan.start < i.moduleSpan.start ∧ i.moduleSpan.stop < i.statementSpan.stop

/-- Ranges of imports begin and end with whole characters of the text, and do not overlap. Each name
of a module is the text at its range, and stands within its statement. -/
structure ImportsStand (s : List Char) (imports : List Import) : Prop where
  statements : ∀ i ∈ imports, ∃ part, Holds s i.statementSpan part
  names : ∀ i ∈ imports, Holds s i.moduleSpan i.moduleName.toList
  encloses : ∀ i ∈ imports, i.Encloses
  ordered : imports.Pairwise fun i j =>
    i.statementSpan.start < j.statementSpan.start ∧ i.statementSpan.stop ≤ j.statementSpan.start

namespace ImportsStand

variable {s : List Char} {imports : List Import}

theorem sublist (h : ImportsStand s imports) {some : List Import} (hsome : some.Sublist imports) :
    ImportsStand s some :=
  ⟨fun i hi => h.statements i (hsome.mem hi), fun i hi => h.names i (hsome.mem hi),
    fun i hi => h.encloses i (hsome.mem hi), h.ordered.sublist hsome⟩

/-- The names of modules stand one after the other. -/
theorem apart (h : ImportsStand s imports) :
    imports.Pairwise fun i j => i.moduleSpan.stop < j.moduleSpan.start := by
  refine h.ordered.imp_of_mem fun {i j} hi hj hle => ?_
  have hbefore := (h.encloses i hi).2
  have hafter := (h.encloses j hj).1
  omega

/-- The names of modules occur in the text in the order of the imports. -/
theorem occur (h : ImportsStand s imports) : Occur 0 s (imports.map Import.excerpt) := by
  have hholds : ∀ x ∈ imports.map Import.excerpt, Holds ([] ++ s) x.span x.text := by
    intro x hx
    obtain ⟨i, hi, rfl⟩ := List.mem_map.mp hx
    exact h.names i hi
  refine occur_of_holds hholds (fun x _ => Nat.zero_le _) ?_
  exact List.pairwise_map.mpr (h.apart.imp fun hlt => Nat.le_of_lt hlt)

end ImportsStand

section Trees

variable {text : String} {root : Node} {imports : List Import}

theorem forall_fits_statements (h : root.Fits text.toList) :
    ∀ n ∈ root.children.filter (·.kind = "import_statement"), n.Fits text.toList :=
  fun _ hn => h.child (List.mem_filter.mp hn).1

/-- Imports cannot be told from a tree if and only if there is a statement at which the program
stops. -/
theorem imports_eq_error_iff (h : root.Fits text.toList) :
    (∃ cut, root.imports text = .error cut) ↔
      ∃ n ∈ root.children, n.kind = "import_statement" ∧ n.IsCut text.toList := by
  rw [Node.imports, importsOf_eq_error_iff (forall_fits_statements h)]
  simp [and_assoc]

/-- The imports of a tree stand in the text. -/
theorem importsStand_of_fits (h : root.Fits text.toList) (hok : root.imports text = .ok imports) :
    ImportsStand text.toList imports := by
  have hfits := forall_fits_statements h
  obtain ⟨hread, hspans⟩ := readFrom_of_importsOf hfits hok
  have hencloses : ∀ i ∈ imports, i.Encloses := fun i hi => by
    obtain ⟨n, -, hi⟩ := hread i hi
    rw [Import.Encloses, hi.statement]
    exact hi.inside
  have hnames : ∀ i ∈ imports, Holds text.toList i.moduleSpan i.moduleName.toList := fun i hi => by
    obtain ⟨n, -, hi⟩ := hread i hi
    exact hi.name
  refine ⟨fun i hi => ?_, hnames, hencloses, ?_⟩
  · obtain ⟨n, hn, hi⟩ := hread i hi
    rw [hi.statement]
    exact (hfits n hn).holds
  · have hapart : imports.Pairwise fun i j => i.statementSpan.stop ≤ j.statementSpan.start := by
      have hordered : ((root.children.filter (·.kind = "import_statement")).map (·.span)).Pairwise
          fun r r' => r.stop ≤ r'.start :=
        List.pairwise_map.mpr (h.ordered.sublist List.filter_sublist)
      exact List.pairwise_map.mp (hordered.sublist hspans)
    refine hapart.imp_of_mem fun {i j} hi _ hle => ⟨?_, hle⟩
    -- the name of the module stands in the statement
    have hname := (hnames i hi).start_le_stop
    have hinside := hencloses i hi
    rw [Import.Encloses] at hinside
    omega

end Trees

end Codemod.Source
