import Codemod.Markup.Reader
import Codemod.Proofs.Markup.Elements
import Codemod.Proofs.Markup.StartTag
import Mathlib.Data.List.Nodup

/-!
# Attributes that are renamed to others

In a tree that has just been read no element has two attributes of one name. To rename attributes
keeps it so unless an element already has the new name, or has the old one in several vocabularies.
After that it has two attributes of one name for good.

## Main definitions

* `Element.IsDistinct`, `Tree.IsDistinct` — no two attributes have one name in one vocabulary.
* `Element.Collides`, `Tree.Collides` — where renaming makes two attributes have one name.

## Main results

* `Tree.isDistinct_parse` — trees that have just been read.
* `Tree.isDistinct_renameAttribute_iff`, `Tree.isDistinct_renameAll_iff` — renaming once and again.
-/

namespace Codemod.Markup

/-! ## Distinct names -/

/-- No two attributes have one name in one vocabulary. -/
def Element.IsDistinct (e : Element) : Prop :=
  (e.attributes.map Attribute.key).Nodup

instance (e : Element) : Decidable e.IsDistinct :=
  inferInstanceAs (Decidable (e.attributes.map Attribute.key).Nodup)

def Tree.IsDistinct (t : Tree) : Prop :=
  ∀ e ∈ t.elements, e.IsDistinct

theorem elementsIn_eq_flatMap (nodes : List Node) :
    elementsIn nodes = nodes.flatMap Node.elements := by
  induction nodes with
  | nil => rfl
  | cons n rest ih => rw [elementsIn, ih, List.flatMap_cons]

/-- A draft has only elements with distinct attributes. -/
theorem isDistinct_nodesBelow (d : Draft) (depth : Nat) (id : CellId) :
    ∀ e ∈ elementsIn (d.nodesBelow depth id), e.IsDistinct := by
  induction depth generalizing id with
  | zero => simp [Draft.nodesBelow, elementsIn]
  | succ depth ih =>
    intro e he
    rw [elementsIn_eq_flatMap, Draft.nodesBelow, List.flatMap_map, List.mem_flatMap] at he
    obtain ⟨child, -, he⟩ := he
    cases hdata : (d.cell child).data with
    | element name attributes content =>
      rw [hdata, Node.elements, List.mem_cons] at he
      obtain rfl | he := he
      · exact attributes.distinct
      · exact ih child e he
    | _ => simp [hdata, Node.elements] at he

/-- In a tree that has just been read no element has two attributes of one name. -/
theorem Tree.isDistinct_parse (context src : String) : (Tree.parse context src).IsDistinct := by
  intro e he
  rw [elements_eq, parse] at he
  split at he
  · exact isDistinct_nodesBelow _ _ _ e he
  · exact isDistinct_nodesBelow _ _ _ e he

/-! ## Collisions -/

/-- Renaming `source` to `target` makes two attributes have one name: two that are called `source`,
or one that is called so and the plain attribute `target`. -/
def Element.Collides (source target : String) (e : Element) : Prop :=
  ∃ a ∈ e.attributes, ∃ b ∈ e.attributes,
    a.key ≠ b.key ∧ a.name = source ∧ (b.name = source ∨ b.key = (.plain, target))

instance (source target : String) (e : Element) : Decidable (e.Collides source target) :=
  inferInstanceAs (Decidable (∃ a ∈ e.attributes, ∃ b ∈ e.attributes,
    a.key ≠ b.key ∧ a.name = source ∧ (b.name = source ∨ b.key = (.plain, target))))

section Rename

variable {source target : String}

theorem Attribute.key_rename_of_name_eq {a : Attribute} (h : a.name = source) :
    (a.rename source target).key = (.plain, target) := by
  rw [rename, if_pos h]
  rfl

theorem Attribute.rename_of_name_ne {a : Attribute} (h : a.name ≠ source) :
    a.rename source target = a :=
  if_neg h

/-- What an attribute is called after renaming depends on what it was called before. -/
theorem Attribute.key_rename_congr {a b : Attribute} (h : a.key = b.key) :
    (a.rename source target).key = (b.rename source target).key := by
  have hname : a.name = b.name := congrArg Prod.snd h
  by_cases ha : a.name = source
  · rw [key_rename_of_name_eq ha, key_rename_of_name_eq (hname ▸ ha)]
  · rw [rename_of_name_ne ha, rename_of_name_ne (hname ▸ ha), h]

theorem Element.pairwise_rename (e : Element) :
    (e.rename source target).IsDistinct ↔ e.attributes.Pairwise fun a b =>
      (a.rename source target).key ≠ (b.rename source target).key := by
  rw [IsDistinct, rename, List.map_map, List.Nodup, List.pairwise_map]
  rfl

theorem Element.pairwise_key (e : Element) :
    e.IsDistinct ↔ e.attributes.Pairwise fun a b => a.key ≠ b.key := by
  rw [IsDistinct, List.Nodup, List.pairwise_map]

/-- Attributes that have one name keep having one. -/
theorem Element.isDistinct_of_rename {e : Element} (h : (e.rename source target).IsDistinct) :
    e.IsDistinct :=
  e.pairwise_key.mpr (e.pairwise_rename.mp h |>.imp (mt Attribute.key_rename_congr))

/-- Two attributes of different names are given one name if both are renamed, or if one is renamed
to the name of the other. -/
theorem Attribute.key_rename_eq_iff {a b : Attribute} (hne : a.key ≠ b.key) :
    (a.rename source target).key = (b.rename source target).key ↔
      (a.name = source ∧ (b.name = source ∨ b.key = (.plain, target))) ∨
        (b.name = source ∧ (a.name = source ∨ a.key = (.plain, target))) := by
  by_cases ha : a.name = source <;> by_cases hb : b.name = source
  · simp [ha, hb, key_rename_of_name_eq]
  · simp [ha, hb, key_rename_of_name_eq, rename_of_name_ne, eq_comm]
  · simp [ha, hb, key_rename_of_name_eq, rename_of_name_ne]
  · simp [ha, hb, hne, rename_of_name_ne]

/-- Attributes of distinct names keep having distinct names where renaming does not collide. -/
theorem Element.isDistinct_rename_iff {e : Element} (h : e.IsDistinct) :
    (e.rename source target).IsDistinct ↔ ¬ e.Collides source target := by
  rw [pairwise_rename]
  constructor
  · rintro hpairwise ⟨a, ha, b, hb, hne, hcollides⟩
    have hsymm : Std.Symm fun a b : Attribute =>
        (a.rename source target).key ≠ (b.rename source target).key := ⟨fun _ _ => Ne.symm⟩
    refine hpairwise.forall ha hb (fun heq => hne (heq ▸ rfl)) ?_
    exact (Attribute.key_rename_eq_iff hne).mpr (.inl hcollides)
  · intro hnone
    refine (e.pairwise_key.mp h).imp_of_mem fun {a b} ha hb hne heq => hnone ?_
    obtain hcollides | hcollides := (Attribute.key_rename_eq_iff hne).mp heq
    · exact ⟨a, ha, b, hb, hne, hcollides⟩
    · exact ⟨b, hb, a, ha, hne.symm, hcollides⟩

theorem Tree.isDistinct_of_renameAttribute {t : Tree}
    (h : (t.renameAttribute source target).IsDistinct) : t.IsDistinct := by
  intro e he
  rw [IsDistinct, elements_renameAttribute, List.forall_mem_map] at h
  exact Element.isDistinct_of_rename (h e he)

theorem Tree.isDistinct_renameAttribute_iff {t : Tree} (h : t.IsDistinct) :
    (t.renameAttribute source target).IsDistinct ↔
      ∀ e ∈ t.elements, ¬ e.Collides source target := by
  rw [IsDistinct, elements_renameAttribute, List.forall_mem_map]
  exact forall₂_congr fun e he => Element.isDistinct_rename_iff (h e he)

end Rename

/-! ## One renaming after the other -/

namespace Tree

def renameAll (renames : List (String × String)) (t : Tree) : Tree :=
  renames.foldl (fun t r => t.renameAttribute r.1 r.2) t

/-- One of several renamings, each done to what the last has left, collides at an element. -/
def Collides (renames : List (String × String)) (t : Tree) : Prop :=
  ∃ before source target after, renames = before ++ (source, target) :: after ∧
    ∃ e ∈ (t.renameAll before).elements, e.Collides source target

theorem isDistinct_of_renameAll {renames : List (String × String)} {t : Tree}
    (h : (t.renameAll renames).IsDistinct) : t.IsDistinct := by
  induction renames generalizing t with
  | nil => exact h
  | cons r rest ih => exact isDistinct_of_renameAttribute (ih h)

theorem renameAll_append (front back : List (String × String)) (t : Tree) :
    t.renameAll (front ++ back) = (t.renameAll front).renameAll back :=
  List.foldl_append

theorem collides_cons_iff {r : String × String} {rest : List (String × String)} {t : Tree} :
    t.Collides (r :: rest) ↔
      (∃ e ∈ t.elements, e.Collides r.1 r.2) ∨ (t.renameAttribute r.1 r.2).Collides rest := by
  constructor
  · rintro ⟨before, source, target, after, heq, hcollides⟩
    cases before with
    | nil =>
      cases heq
      exact .inl hcollides
    | cons s before =>
      cases heq
      exact .inr ⟨before, source, target, after, rfl, hcollides⟩
  · rintro (hcollides | ⟨before, source, target, after, rfl, hcollides⟩)
    · exact ⟨[], r.1, r.2, rest, rfl, hcollides⟩
    · exact ⟨r :: before, source, target, after, rfl, hcollides⟩

/-- Names stay distinct as long as no renaming collides. -/
theorem isDistinct_renameAll_iff {t : Tree} (h : t.IsDistinct) (renames : List (String × String)) :
    (t.renameAll renames).IsDistinct ↔ ¬ t.Collides renames := by
  induction renames generalizing t with
  | nil => exact iff_of_true h (by rintro ⟨before, _, _, _, heq, -⟩; simp at heq)
  | cons r rest ih =>
    rw [collides_cons_iff, not_or]
    have hstep : (t.renameAttribute r.1 r.2).IsDistinct ↔
        ∀ e ∈ t.elements, ¬ e.Collides r.1 r.2 :=
      isDistinct_renameAttribute_iff h
    constructor
    · intro hall
      have hnext : (t.renameAttribute r.1 r.2).IsDistinct := isDistinct_of_renameAll hall
      exact ⟨by simpa using hstep.mp hnext, (ih hnext).mp hall⟩
    · rintro ⟨hnone, hrest⟩
      exact (ih (hstep.mpr (by simpa using hnone))).mpr hrest

end Tree

/-! ## Trees that have been read -/

/-- In a tree that has been read, no element ever has two attributes of one name unless a renaming
collides, and if one does, there is such an element at the end. While names are distinct, a start
tag of simple names is read again with all its attributes. -/
theorem Tree.renaming_keeps_attributes (context src : String) (renames : List (String × String)) :
    (¬ (Tree.parse context src).Collides renames →
      ∀ before, before <+: renames → ((Tree.parse context src).renameAll before).IsDistinct) ∧
    ((Tree.parse context src).Collides renames →
      ¬ ((Tree.parse context src).renameAll renames).IsDistinct) ∧
    (¬ (Tree.parse context src).Collides renames →
      ∀ e ∈ ((Tree.parse context src).renameAll renames).elements, e.IsSimple →
        ∀ (l : Lexer) (space : Space) (rest : List Char) (sections : Bool), l.content = .data →
          l.rest = (startTagText ⟨space, e.tag⟩ e.attributes).toList ++ rest →
          ∃ t : Tag, l.next sections = ([.startTag t], { l with lastStart := some t.name, rest }) ∧
            t.attributes.list = e.attributes) := by
  have hall := isDistinct_renameAll_iff (isDistinct_parse context src) renames
  refine ⟨?_, fun hcollides hdistinct => hall.mp hdistinct hcollides, ?_⟩
  · rintro hnone before ⟨after, rfl⟩
    have hend := hall.mpr hnone
    rw [renameAll_append] at hend
    exact isDistinct_of_renameAll hend
  · intro hnone e he hsimple l space rest sections hcontent hrest
    have hreadable := hsimple.isReadable (hall.mpr hnone e he)
    obtain ⟨t, hnext, -, hlist⟩ :=
      Lexer.next_startTagText hcontent hreadable space hrest sections
    exact ⟨t, hnext, hlist.trans hsimple.map_reread⟩

/-- Where no element has an attribute `c`, attributes can be renamed to it. -/
theorem Tree.renaming_keeps_attributes_unless_taken :
    ¬ (Tree.parse "div" "<p a=1 b=2></p>").Collides [("a", "c")] ∧
      ((Tree.parse "div" "<p a=1 b=2></p>").renameAll [("a", "c")]).IsDistinct ∧
      ∃ t : Tag, (Lexer.ofSource .data "<p c=\"1\" b=\"2\">").next false =
          ([.startTag t], { content := .data, lastStart := some t.name, rest := [] }) ∧
        t.attributes.list = [⟨.plain, "c", "1"⟩, ⟨.plain, "b", "2"⟩] := by
  have helements : (Tree.parse "div" "<p a=1 b=2></p>").elements =
      [⟨"p", [⟨.plain, "a", "1"⟩, ⟨.plain, "b", "2"⟩]⟩] := by
    rw [elements_eq]
    decide +kernel
  have hnone : ¬ (Tree.parse "div" "<p a=1 b=2></p>").Collides [("a", "c")] := by
    rw [collides_cons_iff, helements, not_or]
    refine ⟨by decide, ?_⟩
    rintro ⟨before, _, _, _, heq, -⟩
    simp at heq
  obtain ⟨hdistinct, -, hread⟩ := renaming_keeps_attributes "div" "<p a=1 b=2></p>" [("a", "c")]
  have hmem : ⟨"p", [⟨.plain, "c", "1"⟩, ⟨.plain, "b", "2"⟩]⟩ ∈
      ((Tree.parse "div" "<p a=1 b=2></p>").renameAll [("a", "c")]).elements := by
    rw [renameAll, List.foldl_cons, List.foldl_nil, elements_renameAttribute, helements]
    decide
  refine ⟨hnone, hdistinct hnone _ List.prefix_rfl, ?_⟩
  have hsimple : Element.IsSimple ⟨"p", [⟨.plain, "c", "1"⟩, ⟨.plain, "b", "2"⟩]⟩ :=
    { letter := ⟨'p', [], by decide, by decide⟩
      tag := by simp [endsTagName, isSpace]
      attributes := by
        refine List.forall_mem_cons.mpr ⟨⟨by decide, ?_, by decide⟩,
          List.forall_mem_singleton.mpr ⟨by decide, ?_, by decide⟩⟩
        all_goals simp [Attribute.writtenName, endsAttributeName, endsTagName, isSpace]
      plain := by decide
      lowered := by decide }
  exact hread hnone _ hmem hsimple (Lexer.ofSource .data "<p c=\"1\" b=\"2\">") .html [] false rfl
    (by decide)

/-- Renaming to a name that is taken: the attribute that was renamed hides the other one from the
next reader. Names that differ in case alone are distinct, but not to a reader either. -/
theorem Tree.renaming_hides_attribute :
    ¬ ((Tree.parse "div" "<p a=1 b=2></p>").renameAttribute "a" "b").IsDistinct ∧
      ((Tree.parse "div" "<p a=1 b=2></p>").renameAttribute "a" "b").render =
        "<p b=\"1\" b=\"2\"></p>" ∧
      (Tree.parse "div" "<p b=\"1\" b=\"2\"></p>").elements = [⟨"p", [⟨.plain, "b", "1"⟩]⟩] ∧
      ((Tree.parse "div" "<p a=1 b=2></p>").renameAttribute "b" "A").IsDistinct ∧
      ((Tree.parse "div" "<p a=1 b=2></p>").renameAttribute "b" "A").render =
        "<p a=\"1\" A=\"2\"></p>" ∧
      (Tree.parse "div" "<p a=\"1\" A=\"2\"></p>").elements = [⟨"p", [⟨.plain, "a", "1"⟩]⟩] := by
  have helements : (Tree.parse "div" "<p a=1 b=2></p>").elements =
      [⟨"p", [⟨.plain, "a", "1"⟩, ⟨.plain, "b", "2"⟩]⟩] := by
    rw [elements_eq]
    decide +kernel
  simp only [IsDistinct, elements_renameAttribute, helements]
  simp only [renameAttribute_eq, elements_eq]
  decide +kernel

end Codemod.Markup
