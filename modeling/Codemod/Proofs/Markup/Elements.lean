import Codemod.Markup.Tree
import Mathlib.Data.List.Lex
import Mathlib.Data.List.Pairwise

/-!
# The elements of a tree

Elements are listed with the help of a stack, and attributes are renamed at one listed element
after the other. Here both are described by recursion over the nodes of a tree, and the two
descriptions agree.

## Main definitions

* `addressesFrom`, `elementsIn` — elements in document order: each before those below it.
* `renameIn` — attributes renamed in all nodes.

## Main results

* `Tree.addresses_eq` — what the stack lists.
* `pairwise_addressesFrom`, `mem_addressesFrom` — each element is listed once.
* `Tree.renameAndCount_eq` — what is renamed.
* `Tree.listing_and_renaming` — all of this.
-/

namespace Codemod.Markup

/-! ## Document order -/

mutual

/-- The addresses, from a node on, of the elements of that node: itself, if it is one, and those
below it. -/
def Node.addresses : Node → List Address
  | .element _ _ children => [] :: addressesFrom 0 children
  | _ => []

/-- The addresses of the elements of nodes, of which the first is child `i`. -/
def addressesFrom : (i : Nat) → List Node → List Address
  | _, [] => []
  | i, n :: rest => n.addresses.map (i :: ·) ++ addressesFrom (i + 1) rest

end

mutual

/-- The elements of a node in the same order. -/
def Node.elements : Node → List Element
  | .element name attributes children => { tag := name.tag, attributes } :: elementsIn children
  | _ => []

def elementsIn : List Node → List Element
  | [] => []
  | n :: rest => n.elements ++ elementsIn rest

end

theorem Node.element?_eq_none {n : Node} (h : n.element? = none) :
    n.children = [] ∧ n.addresses = [] ∧ n.elements = [] := by
  cases n with
  | element => cases h
  | _ => exact ⟨rfl, by rw [addresses]; simp, by rw [elements]; simp⟩

/-! ## The stack -/

theorem flatMap_placed (a : Address) (i : Nat) (nodes : List Node) :
    ((placed a i nodes).flatMap fun x => x.2.addresses.map (x.1 ++ ·)) =
      (addressesFrom i nodes).map (a ++ ·) := by
  induction nodes generalizing i with
  | nil => rfl
  | cons n rest ih =>
    rw [placed, addressesFrom, List.flatMap_cons, ih, List.map_append, List.map_map]
    simp [Function.comp_def]

/-- What is on the stack is listed from the top, each node with all that is below it. -/
theorem listFrom_eq (stack : List (Address × Node)) :
    listFrom stack = stack.flatMap fun x => x.2.addresses.map (x.1 ++ ·) := by
  fun_induction listFrom stack with
  | case1 => rfl
  | case2 a n rest stack helement ih =>
    obtain ⟨name, attributes, children, rfl⟩ : ∃ name attributes children,
        n = .element name attributes children := by
      cases n with
      | element name attributes children => exact ⟨_, _, _, rfl⟩
      | _ => cases helement
    have hstack : stack = placed a 0 children ++ rest := pushAll_eq _ _
    rw [ih, hstack, List.flatMap_append, flatMap_placed, List.flatMap_cons, Node.addresses]
    simp
  | case3 a n rest stack hnone ih =>
    obtain ⟨hchildren, haddresses, -⟩ := Node.element?_eq_none (by simpa using hnone)
    have hstack : stack = rest := by simp [stack, hchildren, placed]
    rw [ih, hstack, List.flatMap_cons, haddresses]
    rfl

theorem Tree.addresses_eq (t : Tree) : t.addresses = addressesFrom 0 t.nodes := by
  rw [addresses, listFrom_eq, pushAll_eq, List.append_nil, flatMap_placed]
  simp

/-! ## Each element once -/

theorem exists_of_mem_addressesFrom {i : Nat} {nodes : List Node} {a : Address}
    (h : a ∈ addressesFrom i nodes) : ∃ j n rest, a = (i + j) :: rest ∧ nodes[j]? = some n ∧
      rest ∈ n.addresses := by
  induction nodes generalizing i with
  | nil => simp [addressesFrom] at h
  | cons n nodes ih =>
    rw [addressesFrom, List.mem_append, List.mem_map] at h
    obtain ⟨rest, hrest, rfl⟩ | h := h
    · exact ⟨0, n, rest, rfl, rfl, hrest⟩
    · obtain ⟨j, m, rest, rfl, hm, hrest⟩ := ih h
      exact ⟨j + 1, m, rest, by rw [Nat.add_right_comm, Nat.add_assoc], hm, hrest⟩

theorem mem_addressesFrom_of_getElem? {i j : Nat} {nodes : List Node} {n : Node} {rest : Address}
    (hn : nodes[j]? = some n) (hrest : rest ∈ n.addresses) :
    (i + j) :: rest ∈ addressesFrom i nodes := by
  induction nodes generalizing i j with
  | nil => simp at hn
  | cons m nodes ih =>
    rw [addressesFrom, List.mem_append]
    cases j with
    | zero =>
      obtain rfl : m = n := by simpa using hn
      exact .inl (List.mem_map_of_mem hrest)
    | succ j =>
      have hlater := ih (i := i + 1) (by simpa using hn)
      exact .inr (by rwa [Nat.add_right_comm, Nat.add_assoc] at hlater)

/-- The elements of a node are those that are found by an address. -/
theorem Node.mem_addresses {n : Node} {a : Address} :
    a ∈ n.addresses ↔ ∃ e, (n.at? a).bind Node.element? = some e := by
  induction a generalizing n with
  | nil =>
    cases n with
    | element => simp [addresses, at?, element?]
    | _ => simp [addresses, at?, element?]
  | cons i rest ih =>
    cases n with
    | element name attributes children =>
      rw [addresses, List.mem_cons]
      constructor
      · rintro (h | h)
        · cases h
        · obtain ⟨j, m, rest', heq, hm, hrest⟩ := exists_of_mem_addressesFrom h
          obtain ⟨rfl, rfl⟩ : i = j ∧ rest = rest' := by simpa using heq
          simpa [at?, Node.children, hm] using ih.mp hrest
      · rintro ⟨e, he⟩
        refine .inr ?_
        cases hm : children[i]? with
        | none => simp [at?, Node.children, hm] at he
        | some m =>
          have hrest : rest ∈ m.addresses := ih.mpr ⟨e, by simpa [at?, Node.children, hm] using he⟩
          simpa using mem_addressesFrom_of_getElem? (i := 0) hm hrest
    | _ => simp [addresses, at?, Node.children]

theorem mem_addressesFrom {nodes : List Node} {a : Address} :
    a ∈ addressesFrom 0 nodes ↔ ∃ e, elementIn? nodes a = some e := by
  cases a with
  | nil =>
    have hnot : [] ∉ addressesFrom 0 nodes := by
      intro h
      obtain ⟨_, _, _, heq, -, -⟩ := exists_of_mem_addressesFrom h
      cases heq
    simp [elementIn?, hnot]
  | cons i rest =>
    constructor
    · intro h
      obtain ⟨j, n, rest', heq, hn, hrest⟩ := exists_of_mem_addressesFrom h
      obtain ⟨rfl, rfl⟩ : i = j ∧ rest = rest' := by simpa using heq
      simpa [elementIn?, hn] using Node.mem_addresses.mp hrest
    · rintro ⟨e, he⟩
      cases hn : nodes[i]? with
      | none => simp [elementIn?, hn] at he
      | some n =>
        have hrest : rest ∈ n.addresses :=
          Node.mem_addresses.mpr ⟨e, by simpa [elementIn?, hn] using he⟩
        simpa using mem_addressesFrom_of_getElem? (i := 0) hn hrest

mutual

theorem Node.pairwise_addresses : (n : Node) → n.addresses.Pairwise (· < ·)
  | .element _ _ children => by
    rw [Node.addresses, List.pairwise_cons]
    refine ⟨fun a ha => ?_, pairwise_addressesFrom 0 children⟩
    obtain ⟨j, _, rest, rfl, -, -⟩ := exists_of_mem_addressesFrom ha
    exact List.nil_lt_cons _ _
  | .doctype _ | .comment _ | .text _ => by simp [Node.addresses]

/-- Addresses are listed in their order, and so none twice. -/
theorem pairwise_addressesFrom (i : Nat) : (nodes : List Node) →
    (addressesFrom i nodes).Pairwise (· < ·)
  | [] => .nil
  | n :: rest => by
    rw [addressesFrom, List.pairwise_append]
    refine ⟨?_, pairwise_addressesFrom (i + 1) rest, ?_⟩
    · exact List.pairwise_map.mpr
        (n.pairwise_addresses.imp fun h => List.cons_lt_cons_iff.mpr (.inr ⟨rfl, h⟩))
    · intro a ha b hb
      obtain ⟨_, -, rfl⟩ := List.mem_map.mp ha
      obtain ⟨j, _, _, rfl, -, -⟩ := exists_of_mem_addressesFrom hb
      exact List.cons_lt_cons_iff.mpr (.inl (by omega))

end

/-! ## Their tags and attributes -/

theorem elementIn?_append_cons (front rest : List Node) (n : Node) (a : Address) :
    elementIn? (front ++ n :: rest) (front.length :: a) = (n.at? a).bind Node.element? := by
  simp [elementIn?]

mutual

theorem Node.filterMap_addresses : (n : Node) →
    n.addresses.filterMap (fun a => (n.at? a).bind Node.element?) = n.elements
  | .element name attributes children => by
    have hbelow : (addressesFrom 0 children).filterMap
        (fun a => ((Node.element name attributes children).at? a).bind Node.element?) =
          (addressesFrom 0 children).filterMap (elementIn? children) := by
      refine List.filterMap_congr fun a ha => ?_
      obtain ⟨j, _, rest, rfl, -, -⟩ := exists_of_mem_addressesFrom ha
      rfl
    rw [Node.addresses, Node.elements, ← filterMap_addressesFrom [] children, List.filterMap_cons,
      hbelow]
    rfl
  | .doctype _ | .comment _ | .text _ => by simp [Node.addresses, Node.elements]

theorem filterMap_addressesFrom (front : List Node) : (nodes : List Node) →
    (addressesFrom front.length nodes).filterMap (elementIn? (front ++ nodes)) = elementsIn nodes
  | [] => rfl
  | n :: rest => by
    have hlater := filterMap_addressesFrom (front ++ [n]) rest
    rw [List.length_append, List.length_singleton, List.append_assoc, List.singleton_append]
      at hlater
    rw [addressesFrom, elementsIn, List.filterMap_append, hlater, List.filterMap_map,
      ← n.filterMap_addresses]
    simp only [Function.comp_def, elementIn?_append_cons]

end

theorem Tree.elements_eq (t : Tree) : t.elements = elementsIn t.nodes := by
  rw [elements, addresses_eq]
  exact filterMap_addressesFrom [] t.nodes

/-! ## Renaming -/

mutual

/-- A node with all attributes called `source` renamed, its own and those below it. -/
def Node.renameAttribute (source target : String) : Node → Node
  | .element name attributes children =>
    .element name (attributes.map (Attribute.rename source target))
      (renameIn source target children)
  | n => n

def renameIn (source target : String) : List Node → List Node
  | [] => []
  | n :: rest => n.renameAttribute source target :: renameIn source target rest

end

/-- How many attributes of elements are called `name`. -/
def countIn (name : String) : List Element → Nat
  | [] => 0
  | e :: es => e.countNamed name + countIn name es

theorem countIn_append (name : String) (es fs : List Element) :
    countIn name (es ++ fs) = countIn name es + countIn name fs := by
  induction es with
  | nil => simp [countIn]
  | cons e es ih => rw [List.cons_append, countIn, countIn, ih, Nat.add_assoc]

section Fold

variable (source target : String)

theorem renameAt_append_cons (front rest : List Node) (n : Node) (k : Nat) (a : Address) :
    renameAt source target (front ++ n :: rest, k) (front.length :: a) =
      (front ++ n.modifyAt (·.map (Attribute.rename source target)) a :: rest,
        k + (((n.at? a).bind Node.element?).map (·.countNamed source)).getD 0) := by
  rw [renameAt, elementIn?_append_cons, modifyIn, List.modify_eq_take_cons_drop (by simp)]
  simp

/-- At addresses below an element only its children change. -/
theorem foldl_renameAt_below (front rest : List Node) (name : Name) (attributes : List Attribute)
    {as : List Address} (has : ∀ a ∈ as, a ≠ []) (children : List Node) (k : Nat) :
    (as.map (front.length :: ·)).foldl (renameAt source target)
        (front ++ .element name attributes children :: rest, k) =
      (front ++ .element name attributes
          (as.foldl (renameAt source target) (children, k)).1 :: rest,
        (as.foldl (renameAt source target) (children, k)).2) := by
  induction as generalizing children k with
  | nil => rfl
  | cons a as ih =>
    rw [List.forall_mem_cons] at has
    cases a with
    | nil => exact absurd rfl has.1
    | cons i b =>
      rw [List.map_cons, List.foldl_cons, List.foldl_cons, renameAt_append_cons]
      exact ih has.2 _ _

mutual

theorem Node.foldl_renameAt (front rest : List Node) (k : Nat) : (n : Node) →
    (n.addresses.map (front.length :: ·)).foldl (renameAt source target)
        (front ++ n :: rest, k) =
      (front ++ n.renameAttribute source target :: rest, k + countIn source n.elements)
  | .element name attributes children => by
    have hcons : ∀ a ∈ addressesFrom 0 children, a ≠ [] := by
      intro a ha
      obtain ⟨_, _, _, rfl, -, -⟩ := exists_of_mem_addressesFrom ha
      exact List.cons_ne_nil _ _
    have hchildren := foldl_renameAt_addressesFrom []
      (k + Element.countNamed source { tag := name.tag, attributes }) children
    rw [Node.addresses, List.map_cons, List.foldl_cons, renameAt_append_cons]
    simp only [Node.modifyAt, Node.at?, Node.element?, Option.bind_some, Option.map_some,
      Option.getD_some]
    rw [foldl_renameAt_below source target front rest _ _ hcons]
    rw [List.length_nil, List.nil_append] at hchildren
    rw [hchildren, Node.renameAttribute, Node.elements, countIn, ← Nat.add_assoc]
    rfl
  | .doctype _ | .comment _ | .text _ => by
    simp [Node.addresses, Node.elements, Node.renameAttribute, countIn]

/-- Renaming at one element after the other is renaming everywhere. -/
theorem foldl_renameAt_addressesFrom (front : List Node) (k : Nat) : (nodes : List Node) →
    (addressesFrom front.length nodes).foldl (renameAt source target) (front ++ nodes, k) =
      (front ++ renameIn source target nodes, k + countIn source (elementsIn nodes))
  | [] => rfl
  | n :: rest => by
    have hlater := foldl_renameAt_addressesFrom (front ++ [n.renameAttribute source target])
      (k + countIn source n.elements) rest
    rw [List.length_append, List.length_singleton, List.append_assoc, List.append_assoc,
      List.singleton_append, List.singleton_append] at hlater
    rw [addressesFrom, List.foldl_append, n.foldl_renameAt front rest k, hlater, renameIn,
      elementsIn, countIn_append, Nat.add_assoc]

end

end Fold

theorem Tree.renameAndCount_eq (source target : String) (t : Tree) :
    t.renameAndCount source target =
      ({ t with nodes := renameIn source target t.nodes }, countIn source t.elements) := by
  have hfold := foldl_renameAt_addressesFrom source target [] 0 t.nodes
  rw [List.length_nil, List.nil_append, Nat.zero_add] at hfold
  rw [renameAndCount, addresses_eq, elements_eq, hfold]
  rfl

theorem Tree.renameAttribute_eq (source target : String) (t : Tree) :
    t.renameAttribute source target = { t with nodes := renameIn source target t.nodes } := by
  rw [renameAttribute, renameAndCount_eq]

theorem foldl_countNamed (name : String) (es : List Element) (k : Nat) :
    es.foldl (fun n e => n + e.countNamed name) k = k + countIn name es := by
  induction es generalizing k with
  | nil => rfl
  | cons e es ih => rw [List.foldl_cons, ih, countIn, Nat.add_assoc]

theorem Tree.countAttribute_eq (name : String) (t : Tree) :
    t.countAttribute name = countIn name t.elements := by
  rw [countAttribute, foldl_countNamed, Nat.zero_add]

/-! ## Renaming again -/

/-- An element with its attributes called `source` renamed. -/
def Element.rename (source target : String) (e : Element) : Element :=
  { e with attributes := e.attributes.map (Attribute.rename source target) }

section Again

variable (source target : String)

mutual

theorem Node.elements_renameAttribute : (n : Node) →
    (n.renameAttribute source target).elements = n.elements.map (Element.rename source target)
  | .element name attributes children => by
    rw [Node.renameAttribute, Node.elements, Node.elements, elementsIn_renameIn children]
    rfl
  | .doctype _ | .comment _ | .text _ => by simp [Node.renameAttribute, Node.elements]

theorem elementsIn_renameIn : (nodes : List Node) →
    elementsIn (renameIn source target nodes) =
      (elementsIn nodes).map (Element.rename source target)
  | [] => rfl
  | n :: rest => by
    rw [renameIn, elementsIn, elementsIn, List.map_append, n.elements_renameAttribute,
      elementsIn_renameIn rest]

end

theorem Tree.elements_renameAttribute (t : Tree) :
    (t.renameAttribute source target).elements = t.elements.map (Element.rename source target) := by
  rw [renameAttribute_eq, elements_eq, elements_eq, elementsIn_renameIn]

variable {source target}

theorem Attribute.name_rename_ne (hne : target ≠ source) (a : Attribute) :
    (a.rename source target).name ≠ source := by
  rw [rename]
  split
  · exact hne
  · assumption

theorem Attribute.rename_rename (hne : target ≠ source) (a : Attribute) :
    (a.rename source target).rename source target = a.rename source target :=
  if_neg (a.name_rename_ne hne)

mutual

theorem Node.renameAttribute_again (hne : target ≠ source) : (n : Node) →
    (n.renameAttribute source target).renameAttribute source target =
      n.renameAttribute source target
  | .element name attributes children => by
    rw [Node.renameAttribute, Node.renameAttribute, renameIn_again hne children, List.map_map]
    simp only [Function.comp_def, Attribute.rename_rename hne]
  | .doctype _ | .comment _ | .text _ => rfl

theorem renameIn_again (hne : target ≠ source) : (nodes : List Node) →
    renameIn source target (renameIn source target nodes) = renameIn source target nodes
  | [] => rfl
  | n :: rest => by
    rw [renameIn, renameIn, n.renameAttribute_again hne, renameIn_again hne rest]

end

theorem Element.countNamed_rename (hne : target ≠ source) (e : Element) :
    (e.rename source target).countNamed source = 0 := by
  rw [countNamed, rename, List.countP_eq_zero]
  intro a ha
  obtain ⟨b, -, rfl⟩ := List.mem_map.mp ha
  simpa using b.name_rename_ne hne

theorem countIn_map_rename (hne : target ≠ source) (es : List Element) :
    countIn source (es.map (Element.rename source target)) = 0 := by
  induction es with
  | nil => rfl
  | cons e es ih => rw [List.map_cons, countIn, ih, e.countNamed_rename hne]

end Again

/-! ## All of this -/

/-- Elements are listed in document order, each once, and nothing else is. At the listed elements
the attributes of one name are renamed and counted. Nothing is left for doing it again. -/
theorem Tree.listing_and_renaming (t : Tree) :
    t.addresses = addressesFrom 0 t.nodes ∧
    t.addresses.Pairwise (· < ·) ∧
    (∀ a, a ∈ t.addresses ↔ ∃ e, elementIn? t.nodes a = some e) ∧
    t.elements = elementsIn t.nodes ∧
    ∀ source target,
      t.renameAndCount source target =
        ({ t with nodes := renameIn source target t.nodes },
          countIn source (elementsIn t.nodes)) ∧
      (target ≠ source →
        (t.renameAttribute source target).renameAndCount source target =
          (t.renameAttribute source target, 0)) := by
  refine ⟨t.addresses_eq, ?_, ?_, t.elements_eq, fun source target => ⟨?_, fun hne => ?_⟩⟩
  · rw [addresses_eq]
    exact pairwise_addressesFrom 0 t.nodes
  · intro a
    rw [addresses_eq]
    exact mem_addressesFrom
  · rw [renameAndCount_eq, elements_eq]
  · rw [renameAndCount_eq, elements_renameAttribute, countIn_map_rename hne, renameAttribute_eq,
      renameIn_again hne]

/-- Of `<p a="1" c="2"><svg xlink:a="3"></svg></p>` two attributes become `b`, and no more after
that. -/
theorem Tree.renaming_in_nested_elements :
    let t : Tree :=
      { document := false
        nodes := [.element ⟨.html, "p"⟩ [⟨.plain, "a", "1"⟩, ⟨.plain, "c", "2"⟩]
          [.element ⟨.svg, "svg"⟩ [⟨.xlink, "a", "3"⟩] []]] }
    t.renameAndCount "a" "b" =
        ({ t with
            nodes := [.element ⟨.html, "p"⟩ [⟨.plain, "b", "1"⟩, ⟨.plain, "c", "2"⟩]
              [.element ⟨.svg, "svg"⟩ [⟨.plain, "b", "3"⟩] []]] }, 2) ∧
      "b" ≠ "a" ∧
      (t.renameAttribute "a" "b").renameAndCount "a" "b" = (t.renameAttribute "a" "b", 0) := by
  intro t
  obtain ⟨-, -, -, -, hrename⟩ := t.listing_and_renaming
  have hne : "b" ≠ "a" := by decide
  exact ⟨(hrename "a" "b").1.trans rfl, hne, (hrename "a" "b").2 hne⟩

end Codemod.Markup
