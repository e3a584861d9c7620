/-!
# Markup trees

A source is read into a tree of elements, texts, comments and a document type. The content of a
template element lies outside the tree.

## Main definitions

* `Node`, `Tree` — the nodes below the root of a source.
* `Tree.addresses`, `Tree.elements` — every element, in document order.
* `Tree.renameAndCount`, `Tree.renameAttribute` — gives attributes of one name another name.
-/

namespace Codemod.Markup

/-- The vocabulary that an element's name belongs to. -/
inductive Space where
  | html
  | svg
  | math
  deriving DecidableEq, Inhabited

structure Name where
  space : Space
  tag : String
  deriving DecidableEq, Inhabited

/-- The vocabulary that an attribute's name belongs to. -/
inductive AttributeSpace where
  | plain
  | xlink
  | xml
  | xmlns
  deriving DecidableEq, Inhabited

structure Attribute where
  space : AttributeSpace := .plain
  name : String
  value : String
  deriving DecidableEq, Inhabited

/-- What tells an attribute from the others of its element. -/
def Attribute.key (a : Attribute) : AttributeSpace × String :=
  (a.space, a.name)

/-- Attributes of which no two have one name in one vocabulary. -/
structure Attributes where
  list : List Attribute
  distinct : (list.map Attribute.key).Nodup
  deriving DecidableEq

namespace Attributes

instance : EmptyCollection Attributes :=
  ⟨{ list := [], distinct := .nil }⟩

instance : Inhabited Attributes :=
  ⟨∅⟩

theorem distinct_append_filter {l more : List Attribute} (hl : (l.map Attribute.key).Nodup)
    (hmore : (more.map Attribute.key).Nodup) :
    ((l ++ more.filter fun a => !l.any fun b => b.space = a.space && b.name = a.name).map
      Attribute.key).Nodup := by
  rw [List.map_append, List.nodup_append]
  refine ⟨hl, hmore.sublist (List.filter_sublist.map _), fun k hk k' hk' heq => ?_⟩
  obtain ⟨b, hb, rfl⟩ := List.mem_map.mp hk
  obtain ⟨a, ha, rfl⟩ := List.mem_map.mp hk'
  have hnone := (List.mem_filter.mp ha).2
  obtain ⟨hspace, hname⟩ := Prod.mk.inj heq
  simp only [Bool.not_eq_true', List.any_eq_false] at hnone
  exact hnone b hb (by simpa using ⟨hspace, hname⟩)

/-- With those of other attributes that are not there yet. -/
def addMissing (l more : Attributes) : Attributes where
  list := l.list ++ more.list.filter fun a =>
    !l.list.any fun b => b.space = a.space && b.name = a.name
  distinct := distinct_append_filter l.distinct more.distinct

end Attributes

inductive Node where
  | doctype (name : String)
  | comment (text : String)
  | text (text : String)
  | element (name : Name) (attributes : List Attribute) (children : List Node)
  deriving Inhabited

/-- The nodes of a source, and whether it was a whole document. -/
structure Tree where
  document : Bool
  nodes : List Node
  deriving Inhabited

/-! ## Elements -/

/-- The tag and the attributes of an element. -/
structure Element where
  tag : String
  attributes : List Attribute
  deriving DecidableEq

/-- The way from the root down to a node: which child to take, step by step. -/
abbrev Address := List Nat

namespace Node

def children : Node → List Node
  | .element _ _ children => children
  | _ => []

def element? : Node → Option Element
  | .element name attributes _ => some { tag := name.tag, attributes }
  | _ => none

/-- The node at an address below another one. -/
def at? : Node → Address → Option Node
  | n, [] => some n
  | n, i :: rest => n.children[i]?.bind (at? · rest)

end Node

/-- The element at an address. -/
def elementIn? (nodes : List Node) : Address → Option Element
  | [] => none
  | i :: rest => (nodes[i]?.bind (·.at? rest)).bind Node.element?

/-- Children of the node at `a` with their addresses; the first of them is its child `i`. -/
def placed (a : Address) : (i : Nat) → List Node → List (Address × Node)
  | _, [] => []
  | i, n :: rest => (a ++ [i], n) :: placed a (i + 1) rest

/-- Puts nodes on a stack one after the other, the last first, so that the first is on top. -/
def pushAll (nodes stack : List (Address × Node)) : List (Address × Node) :=
  nodes.reverse.foldl (fun stack x => x :: stack) stack

@[simp] theorem pushAll_eq (nodes stack : List (Address × Node)) :
    pushAll nodes stack = nodes ++ stack := by
  simp [pushAll]

/-- The size of the nodes on a stack, taken together. -/
noncomputable def stackSize : List (Address × Node) → Nat
  | [] => 0
  | (_, n) :: stack => sizeOf n + stackSize stack

@[simp] theorem stackSize_append (nodes stack : List (Address × Node)) :
    stackSize (nodes ++ stack) = stackSize nodes + stackSize stack := by
  induction nodes with
  | nil => simp [stackSize]
  | cons x nodes ih => rw [List.cons_append, stackSize, stackSize, ih, Nat.add_assoc]

theorem stackSize_placed_le (a : Address) (i : Nat) (nodes : List Node) :
    stackSize (placed a i nodes) ≤ sizeOf nodes := by
  induction nodes generalizing i with
  | nil => simp [placed, stackSize]
  | cons n rest ih =>
    have := ih (i + 1)
    simp only [placed, stackSize, List.cons.sizeOf_spec]
    omega

/-- The nodes below a node are smaller than it, also taken together. -/
theorem stackSize_children_lt (a : Address) (n : Node) :
    stackSize (placed a 0 n.children) < sizeOf n := by
  have hle := stackSize_placed_le a 0 n.children
  cases n with
  | element name attributes children =>
    simp only [Node.children, Node.element.sizeOf_spec] at hle ⊢
    omega
  | _ => exact Nat.lt_of_lt_of_le Nat.one_pos (Nat.le_add_right 1 _)

/-- Takes a node from the stack and puts its children there, until the stack is empty. The
addresses of elements are listed as these are taken. -/
def listFrom : List (Address × Node) → List Address
  | [] => []
  | (a, n) :: stack =>
    let stack := pushAll (placed a 0 n.children) stack
    if n.element?.isSome then a :: listFrom stack else listFrom stack
termination_by stack => stackSize stack
decreasing_by
  all_goals
    have := stackSize_children_lt a n
    simpa [stack, stackSize]

/-- The addresses of all elements, in document order. -/
def Tree.addresses (t : Tree) : List Address :=
  listFrom (pushAll (placed [] 0 t.nodes) [])

def Tree.elements (t : Tree) : List Element :=
  t.addresses.filterMap (elementIn? t.nodes)

/-! ## Renaming attributes -/

/-- An attribute called `source`, in whatever vocabulary, becomes the plain attribute `target`. -/
def Attribute.rename (source target : String) (a : Attribute) : Attribute :=
  if a.name = source then { name := target, value := a.value } else a

/-- How many attributes are called `name`. -/
def Element.countNamed (name : String) (e : Element) : Nat :=
  e.attributes.countP (·.name = name)

/-- A node with the attributes changed of the element at an address. -/
def Node.modifyAt (f : List Attribute → List Attribute) : Address → Node → Node
  | [], .element name attributes children => .element name (f attributes) children
  | i :: rest, .element name attributes children =>
    .element name attributes (children.modify i (modifyAt f rest))
  | _, n => n

def modifyIn (f : List Attribute → List Attribute) (nodes : List Node) : Address → List Node
  | [] => nodes
  | i :: rest => nodes.modify i (Node.modifyAt f rest)

/-- Renames attributes of the element at an address, and counts them. -/
def renameAt (source target : String) : List Node × Nat → Address → List Node × Nat
  | (nodes, renamed), a =>
    (modifyIn (·.map (Attribute.rename source target)) nodes a,
      renamed + ((elementIn? nodes a).map (·.countNamed source)).getD 0)

/-- Renames attributes of one listed element after the other. With the tree comes the number of
attributes that were renamed. -/
def Tree.renameAndCount (source target : String) (t : Tree) : Tree × Nat :=
  let (nodes, renamed) := t.addresses.foldl (renameAt source target) (t.nodes, 0)
  ({ t with nodes }, renamed)

/-- The tree with every attribute called `source` renamed to `target`. -/
def Tree.renameAttribute (source target : String) (t : Tree) : Tree :=
  (t.renameAndCount source target).1

/-- How many attributes are called `name`. -/
def Tree.countAttribute (name : String) (t : Tree) : Nat :=
  t.elements.foldl (fun n e => n + e.countNamed name) 0

end Codemod.Markup
