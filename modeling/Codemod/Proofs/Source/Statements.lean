import Codemod.Proofs.Source.Nodes
import Codemod.Proofs.Source.Tokens
import Codemod.Source.Statement

/-!
# The trees that the program works with

A statement is read from tokens that follow one another, and the next statement from tokens after
those. Its nodes are made of some of its tokens, in order. Since the tokens stand in the source one
after the other, the trees fit the texts that they are made of.

## Main definitions

* `IsStatementOf` — the tokens of a statement.
* `ReadAlong` — statements are read one after the other.

## Main results

* `Statement.exists_of_read?` — what is read of one statement.
* `ReadAlong.fits` — statements fit where their tokens stand.
* `Languages.sound_standard` — the parsers of the program can be trusted.
-/

namespace Codemod.Source

namespace Statement

variable {tokens rest named : List Token}

/-! ## What is imported -/

theorem mem_of_specifier {part : List Token} {name : Token} (h : specifier part = some name) :
    name ∈ part := by
  revert h
  fun_cases specifier part <;> grind

/-- The names are some of the tokens that were read, in order. -/
theorem exists_of_names {part : List Token} (h : names part tokens = some (named, rest)) :
    ∃ used, tokens = used ++ rest ∧ named.Sublist (part ++ used) := by
  fun_induction names part tokens generalizing named with
  | case1 => cases h
  | case2 part t =>
    cases h
    exact ⟨[t], rfl, List.nil_sublist _⟩
  | case3 part t =>
    obtain ⟨name, hname, heq⟩ := Option.map_eq_some_iff.mp h
    cases heq
    refine ⟨[t], rfl, .trans ?_ (List.sublist_append_left part [t])⟩
    exact List.singleton_sublist.mpr (mem_of_specifier hname)
  | case4 part t tokens _ _ name more rest' hmore hname ih =>
    cases h
    obtain ⟨used, rfl, hsublist⟩ := ih hmore
    refine ⟨t :: used, rfl, ?_⟩
    have hfirst : [name].Sublist part := List.singleton_sublist.mpr (mem_of_specifier hname)
    exact hfirst.append (.cons t (by simpa using hsublist))
  | case5 => cases h
  | case6 part t tokens _ _ _ ih =>
    obtain ⟨used, rfl, hsublist⟩ := ih h
    exact ⟨t :: used, rfl, by simpa using hsublist⟩
  | case7 => cases h

theorem exists_of_bindings (h : bindings tokens = some (named, rest)) :
    ∃ used, tokens = used ++ rest ∧ named.Sublist used := by
  revert h
  fun_cases bindings tokens with
  | case1 t _ comma close =>
    rintro ⟨⟩
    exact ⟨[t, comma, close], rfl, List.nil_sublist _⟩
  | case2 t =>
    intro h
    obtain ⟨used, hused, hsublist⟩ := exists_of_names h
    exact ⟨t :: used, congrArg (t :: ·) hused, .cons t (by simpa using hsublist)⟩
  | case4 t _ _ joint name =>
    rintro ⟨⟩
    exact ⟨[t, joint, name], rfl, List.nil_sublist _⟩
  | _ => simp

theorem exists_of_clause (h : clause tokens = some (named, rest)) :
    ∃ used, tokens = used ++ rest ∧ named.Sublist used := by
  revert h
  fun_cases clause tokens with
  | case1 => simp
  | case2 t _ comma =>
    intro h
    obtain ⟨used, rfl, hsublist⟩ := exists_of_bindings h
    exact ⟨t :: comma :: used, rfl, (hsublist.cons comma).cons t⟩
  | case3 t =>
    rintro ⟨⟩
    exact ⟨[t], rfl, List.nil_sublist _⟩
  | case4 t =>
    rintro ⟨⟩
    exact ⟨[t], rfl, List.nil_sublist _⟩
  | case5 t tokens => exact exists_of_bindings

/-! ## What comes after the name of the module -/

/-- Where the last of some tokens ends, or else what comes before them. -/
def stopAfter (stop : Nat) (tokens : List Token) : Nat :=
  tokens.foldl (fun _ t => t.stop) stop

theorem exists_of_afterObject {depth stop : Nat}
    (h : afterObject depth tokens = some (stop, rest)) :
    ∃ used t, tokens = used ++ t :: rest ∧ stop = t.stop := by
  fun_induction afterObject depth tokens with
  | case1 => cases h
  | case2 depth t tokens hopen ih =>
    obtain ⟨used, t', rfl, hstop⟩ := ih h
    exact ⟨t :: used, t', rfl, hstop⟩
  | case3 depth t tokens hopen hclose hlast =>
    cases h
    exact ⟨[], t, rfl, rfl⟩
  | case4 depth t tokens hopen hclose hlast ih =>
    obtain ⟨used, t', rfl, hstop⟩ := ih h
    exact ⟨t :: used, t', rfl, hstop⟩
  | case5 depth t tokens hopen hclose ih =>
    obtain ⟨used, t', rfl, hstop⟩ := ih h
    exact ⟨t :: used, t', rfl, hstop⟩

theorem exists_of_attributes (stop : Nat) (tokens : List Token) :
    ∃ used, tokens = used ++ (attributes stop tokens).2 ∧
      (attributes stop tokens).1 = stopAfter stop used := by
  unfold attributes
  split
  next word brace tokens =>
    split
    · cases hafter : afterObject 1 tokens with
      | none => exact ⟨[], rfl, rfl⟩
      | some found =>
        obtain ⟨used, t, rfl, hstop⟩ := exists_of_afterObject hafter
        exact ⟨word :: brace :: (used ++ [t]), by simp, by simp [stopAfter, hstop]⟩
    · exact ⟨[], rfl, rfl⟩
  · exact ⟨[], rfl, rfl⟩

theorem exists_of_finish (stop : Nat) (tokens : List Token) :
    ∃ used, tokens = used ++ (finish stop tokens).2 ∧
      (finish stop tokens).1 = stopAfter stop used := by
  obtain ⟨used, htokens, hstop⟩ := exists_of_attributes stop tokens
  unfold finish
  dsimp only
  split
  next t rest hrest =>
    split
    · exact ⟨used ++ [t], by simpa [hrest] using htokens, by simp [stopAfter]⟩
    · exact ⟨used, htokens, hstop⟩
  next hnil => exact ⟨used, by simpa [hnil] using htokens, hstop⟩

end Statement

/-! ## One statement -/

/-- The statement is read from these tokens: the word that begins it, what it imports, the name of
the module, and what belongs to it after that. -/
def IsStatementOf (n : Node) (tokens : List Token) : Prop :=
  ∃ (t : Token) (front : List Token) (m : Token) (back named : List Token),
    tokens = t :: (front ++ m :: back) ∧ named.Sublist front ∧
    n.span = ⟨t.start, Statement.stopAfter m.stop back⟩ ∧
    n.children = named.map Statement.nameNode ++
      [{ kind := "string", field? := some "source", span := m.span }]

namespace Statement

variable {tokens rest named : List Token} {start : Nat} {n : Node}

theorem exists_of_ofSource (h : ofSource start named tokens = some (n, rest)) :
    ∃ m back, tokens = m :: (back ++ rest) ∧ n.span = ⟨start, stopAfter m.stop back⟩ ∧
      n.children = named.map nameNode ++
        [{ kind := "string", field? := some "source", span := m.span }] := by
  cases tokens with
  | nil => cases h
  | cons m tokens =>
    obtain ⟨back, htokens, hstop⟩ := exists_of_finish m.stop tokens
    rcases hfinish : finish m.stop tokens with ⟨stop, rest'⟩
    rw [hfinish] at htokens hstop
    simp only [ofSource, hfinish] at h
    split at h
    next =>
      cases h
      exact ⟨m, back, congrArg (m :: ·) htokens, congrArg (Span.mk start) hstop, rfl⟩
    next => cases h

/-- What is read of a statement, whatever it begins with. -/
theorem exists_of_read? {t : Token} (h : read? t.start tokens = some (n, rest)) :
    ∃ used, t :: tokens = used ++ rest ∧ IsStatementOf n used := by
  rw [read?] at h
  split at h
  next found hfound =>
    cases h
    obtain ⟨m, back, rfl, hspan, hchildren⟩ := exists_of_ofSource hfound
    exact ⟨t :: m :: back, rfl, t, [], m, back, [], rfl, .slnil, hspan, hchildren⟩
  next =>
    split at h
    next named source rest' hclause =>
      split at h
      · obtain ⟨m, back, rfl, hspan, hchildren⟩ := exists_of_ofSource h
        obtain ⟨used, hused, hsublist⟩ := exists_of_clause hclause
        -- a word that marks an import of types is passed over
        obtain ⟨mark, hmark⟩ :
            ∃ mark, tokens = mark ++ (used ++ source :: m :: (back ++ rest)) := by
          rw [← hused]
          split
          · exact ⟨tokens.take 1, (List.take_append_drop 1 tokens).symm⟩
          · exact ⟨[], rfl⟩
        refine ⟨t :: (mark ++ used ++ [source] ++ m :: back), by simp [hmark], t,
          mark ++ used ++ [source], m, back, named, rfl, ?_, hspan, hchildren⟩
        exact (hsublist.trans (List.sublist_append_right mark used)).trans
          (List.sublist_append_left _ _)
      · cases h
    · cases h

end Statement

/-! ## All statements -/

/-- Each statement is read from tokens that follow one another, in order. -/
inductive ReadAlong : List Node → List Token → Prop
  | nil (tokens : List Token) : ReadAlong [] tokens
  | skip {nodes : List Node} (t : Token) {tokens : List Token} (h : ReadAlong nodes tokens) :
      ReadAlong nodes (t :: tokens)
  | cons {n : Node} {nodes : List Node} {used tokens : List Token} (hn : IsStatementOf n used)
      (h : ReadAlong nodes tokens) : ReadAlong (n :: nodes) (used ++ tokens)

theorem readAlong_statementsFrom (fuel depth : Nat) (previous : Option Token)
    (tokens : List Token) : ReadAlong (statementsFrom fuel depth previous tokens) tokens := by
  fun_induction statementsFrom fuel depth previous tokens with
  | case1 => exact .nil _
  | case2 => exact .nil _
  | case3 fuel depth previous t tokens _ _ n rest hread ih =>
    obtain ⟨used, hused, hn⟩ := Statement.exists_of_read? hread
    rw [hused]
    exact .cons hn ih
  | case4 fuel depth previous t tokens _ _ _ ih => exact .skip t ih
  | case5 fuel depth previous t tokens _ _ _ ih => exact .skip t ih

/-! ## Where nodes stand -/

/-- Excerpts that follow one another lie between the start of the first and the end of the last. -/
theorem Occur.between {offset : Nat} {s : List Char} {x : Excerpt} {xs : List Excerpt}
    (h : Occur offset s (x :: xs)) :
    ∀ y ∈ x :: xs, x.span.start ≤ y.span.start ∧
      y.span.stop ≤ xs.foldl (fun _ z => z.span.stop) x.span.stop := by
  induction xs generalizing offset s x with
  | nil => simp
  | cons z xs ih =>
    have hsizes := h.stop_eq
    cases h with
    | cons gap hstart hstop hrest =>
      have hlater := ih hrest
      have hz := hlater z List.mem_cons_self
      have hnext := hrest.offset_le z List.mem_cons_self
      have hsize := hsizes z (by simp)
      refine List.forall_mem_cons.mpr ⟨⟨Nat.le_refl _, ?_⟩, fun y hy => ?_⟩
      · rw [List.foldl_cons]
        omega
      · obtain ⟨hafter, hbefore⟩ := hlater y hy
        exact ⟨by omega, hbefore⟩

/-- A range ends within the text. -/
theorem Holds.stop_le {s part : List Char} {r : Span} (h : Holds s r part) :
    r.stop ≤ byteSize s := by
  obtain ⟨front, back, rfl, hstart, hstop⟩ := h
  simp only [byteSize_append]
  omega

section Fits

variable {s : List Char}

theorem fits_of_children_eq_nil {n : Node} {part : List Char} (hspan : Holds s n.span part)
    (hnone : n.children = []) : n.Fits s :=
  .intro hspan (by simp [hnone]) (by simp [hnone]) (by simp [hnone])

theorem fits_nameNode {t : Token} {part : List Char} (h : Holds s t.span part) :
    (Statement.nameNode t).Fits s := by
  refine .intro h (by simp [Statement.nameNode]) (by simp [Statement.nameNode]) fun c hc => ?_
  obtain rfl := List.mem_singleton.mp hc
  exact fits_of_children_eq_nil h rfl

theorem Statement.foldl_stop (stop : Nat) (tokens : List Token) :
    (tokens.map Token.excerpt).foldl (fun _ x => x.span.stop) stop = stopAfter stop tokens := by
  rw [List.foldl_map]
  rfl

/-- A statement takes up the text from its first token to its last. -/
theorem IsStatementOf.merge {n : Node} {used tokens : List Token} (h : IsStatementOf n used)
    {offset : Nat} (hoccur : Occur offset s ((used ++ tokens).map Token.excerpt)) :
    ∃ text, Occur offset s (⟨n.span, text⟩ :: tokens.map Token.excerpt) := by
  obtain ⟨t, front, m, back, named, rfl, -, hspan, -⟩ := h
  rw [List.cons_append, List.map_cons, List.map_append] at hoccur
  obtain ⟨more, hmerged⟩ := hoccur.merge
  rw [Statement.foldl_stop] at hmerged
  refine ⟨t.excerpt.text ++ more, ?_⟩
  rw [hspan]
  simpa [Statement.stopAfter, Token.excerpt] using hmerged

/-- A statement fits the text that its tokens stand in. -/
theorem IsStatementOf.fits {n : Node} {used : List Token} (h : IsStatementOf n used)
    {front s : List Char} (hoccur : Occur (byteSize front) s (used.map Token.excerpt)) :
    n.Fits (front ++ s) := by
  have hall : Occur (byteSize front) s ((used ++ []).map Token.excerpt) := by
    rwa [List.append_nil]
  obtain ⟨text, hmerged⟩ := h.merge hall
  have hholds := hmerged.holds front rfl _ List.mem_cons_self
  obtain ⟨t, before, m, back, named, rfl, hnamed, hspan, hchildren⟩ := h
  -- the nodes below the statement are made of these tokens
  have hsublist : (named ++ [m]).Sublist (t :: (before ++ m :: back)) :=
    (hnamed.append (.cons_cons m (List.nil_sublist back))).cons t
  have hspans : n.children.map (·.span) = (named ++ [m]).map Token.span := by
    simp [hchildren, Statement.nameNode, Function.comp_def]
  have hspanOf : ∀ c ∈ n.children, ∃ u ∈ named ++ [m], c.span = u.span := fun c hc => by
    have hc' : c.span ∈ (named ++ [m]).map Token.span := hspans ▸ List.mem_map_of_mem hc
    obtain ⟨u, hu, hspan⟩ := List.mem_map.mp hc'
    exact ⟨u, hu, hspan.symm⟩
  have hbetween : ∀ u ∈ t :: (before ++ m :: back),
      n.span.start ≤ u.start ∧ u.stop ≤ n.span.stop := by
    intro u hu
    have hall := hoccur.between u.excerpt (List.mem_map_of_mem hu)
    rw [Statement.foldl_stop] at hall
    rw [hspan]
    simpa [Statement.stopAfter, Token.excerpt] using hall
  have hholdsOf : ∀ u ∈ t :: (before ++ m :: back), Holds (front ++ s) u.span u.text.toList :=
    fun u hu => hoccur.holds front rfl u.excerpt (List.mem_map_of_mem hu)
  refine .intro hholds (fun c hc => ?_) ?_ (fun c hc => ?_)
  · obtain ⟨u, hu, hcu⟩ := hspanOf c hc
    rw [hcu]
    exact hbetween u (hsublist.mem hu)
  · have hordered : ((named ++ [m]).map Token.span).Pairwise fun r r' => r.stop ≤ r'.start := by
      have hapart := (hoccur.sublist (hsublist.map Token.excerpt)).pairwise
      exact List.pairwise_map.mpr (List.pairwise_map.mp hapart)
    rw [← hspans] at hordered
    exact List.pairwise_map.mp hordered
  · rw [hchildren, List.mem_append, List.mem_map, List.mem_singleton] at hc
    obtain ⟨u, hu, rfl⟩ | rfl := hc
    · exact fits_nameNode (hholdsOf u (hsublist.mem (List.mem_append_left _ hu)))
    · exact fits_of_children_eq_nil (hholdsOf m (by simp)) rfl

theorem IsStatementOf.exists_start {n : Node} {used : List Token} (h : IsStatementOf n used) :
    ∃ t ∈ used, n.span.start = t.start := by
  obtain ⟨t, front, m, back, named, rfl, -, hspan, -⟩ := h
  exact ⟨t, List.mem_cons_self, by rw [hspan]⟩

end Fits

namespace ReadAlong

variable {nodes : List Node} {tokens : List Token}

/-- Every statement begins with a token. -/
theorem exists_start (h : ReadAlong nodes tokens) :
    ∀ n ∈ nodes, ∃ t ∈ tokens, n.span.start = t.start := by
  induction h with
  | nil => simp
  | skip t h ih =>
    intro n hn
    obtain ⟨t', ht', hstart⟩ := ih n hn
    exact ⟨t', List.mem_cons_of_mem t ht', hstart⟩
  | cons hn h ih =>
    refine List.forall_mem_cons.mpr ⟨?_, fun n' hn' => ?_⟩
    · obtain ⟨t, ht, hstart⟩ := hn.exists_start
      exact ⟨t, List.mem_append_left _ ht, hstart⟩
    · obtain ⟨t, ht, hstart⟩ := ih n' hn'
      exact ⟨t, List.mem_append_right _ ht, hstart⟩

/-- Where tokens stand in a text, the statements that are read from them fit it, and do not
overlap. -/
theorem fits (h : ReadAlong nodes tokens) {front s : List Char}
    (hoccur : Occur (byteSize front) s (tokens.map Token.excerpt)) :
    (∀ n ∈ nodes, n.Fits (front ++ s)) ∧
      nodes.Pairwise fun c d => c.span.stop ≤ d.span.start := by
  induction h generalizing front s with
  | nil => exact ⟨by simp, .nil⟩
  | skip t h ih => exact ih (hoccur.sublist (List.sublist_cons_self _ _))
  | @cons n nodes used tokens hn h ih =>
    obtain ⟨text, hmerged⟩ := hn.merge hoccur
    rw [List.map_append] at hoccur
    have hfits : n.Fits (front ++ s) := hn.fits (hoccur.sublist (List.sublist_append_left _ _))
    cases hmerged with
    | @cons _ _ back _ gap hstart hstop hrest =>
      have hread : n.span.stop = byteSize (front ++ (gap ++ text)) := by
        simp only [byteSize_append]
        simp only at hstart hstop
        omega
      have hback : Occur (byteSize (front ++ (gap ++ text))) back (tokens.map Token.excerpt) :=
        hread ▸ hrest
      have hlater := ih hback
      refine ⟨List.forall_mem_cons.mpr ⟨hfits, by simpa using hlater.1⟩,
        List.pairwise_cons.mpr ⟨fun n' hn' => ?_, hlater.2⟩⟩
      obtain ⟨t, ht, hbegin⟩ := h.exists_start n' hn'
      rw [hbegin]
      exact hrest.offset_le t.excerpt (List.mem_map_of_mem ht)

end ReadAlong

/-! ## Languages -/

/-- The text after the first of some excerpts began. -/
theorem Occur.holds_rest {s : List Char} {x : Excerpt} {xs : List Excerpt}
    (h : Occur 0 s (x :: xs)) : ∃ part, Holds s ⟨x.span.start, byteSize s⟩ part := by
  cases h with
  | @cons _ _ rest _ gap hstart hstop hrest =>
    refine ⟨x.text ++ rest, gap, [], by simp, by simpa using hstart, ?_⟩
    simp only [byteSize_append]
    omega

/-- The tree of a text fits it. -/
theorem Language.sound_ofDialect (d : Dialect) : (Language.ofDialect d).Sound := by
  intro previous text
  have hoccur := occur_scan d text
  have hfiltered : Occur (byteSize []) text.toList
      (((scan d text).1.filter (·.kind ≠ .comment)).map Token.excerpt) :=
    hoccur.sublist (List.filter_sublist.map Token.excerpt)
  have hread : ReadAlong (statementsOf (scan d text).1)
      ((scan d text).1.filter (·.kind ≠ .comment)) :=
    readAlong_statementsFrom _ _ _ _
  obtain ⟨hfits, hordered⟩ := hread.fits hfiltered
  rw [List.nil_append] at hfits
  -- the root begins where the first token does
  have hstarts : ∀ t ∈ (scan d text).1,
      (((scan d text).1.head?.map (·.start)).getD text.utf8ByteSize) ≤ t.start := by
    intro t ht
    cases htokens : (scan d text).1 with
    | nil => simp [htokens] at ht
    | cons first rest =>
      rw [htokens] at hoccur ht
      exact (hoccur.between t.excerpt (List.mem_map_of_mem ht)).1
  have hroot : ∃ part, Holds text.toList
      ⟨((scan d text).1.head?.map (·.start)).getD text.utf8ByteSize, text.utf8ByteSize⟩ part := by
    rw [utf8ByteSize_eq]
    cases htokens : (scan d text).1 with
    | nil => exact ⟨[], text.toList, [], by simp, rfl, rfl⟩
    | cons first rest =>
      rw [htokens] at hoccur
      exact hoccur.holds_rest
  obtain ⟨part, hpart⟩ := hroot
  refine .intro hpart (fun n hn => ⟨?_, ?_⟩) hordered hfits
  · obtain ⟨t, ht, hstart⟩ := hread.exists_start n hn
    rw [hstart]
    exact hstarts t (List.mem_filter.mp ht).1
  · obtain ⟨part, hn⟩ := (hfits n hn).holds
    have hle := hn.stop_le
    rw [← utf8ByteSize_eq] at hle
    exact hle

/-- The parsers of the program can be trusted. -/
theorem Languages.sound_standard : Languages.standard.Sound :=
  ⟨Language.sound_ofDialect .plain, Language.sound_ofDialect .markup⟩

end Codemod.Source
