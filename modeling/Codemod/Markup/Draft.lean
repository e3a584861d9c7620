import Codemod.Markup.Tree

/-!
# A tree under construction

While a source is read its elements are moved about, so the tree is kept as a table of cells that
refer to one another by number. Cell `0` is the document. Two texts never stand side by side: text
that is put next to a text joins it.

## Main definitions

* `Draft` — the table.
* `Draft.append`, `Draft.insertBefore`, `Draft.detach` — moving cells.
* `Draft.nodesBelow` — the finished nodes below a cell.
-/

namespace Codemod.Markup

abbrev CellId := Nat

inductive CellData where
  | document
  | doctype (name : String)
  | comment (text : String)
  | text (text : String)
  /-- An element; that of a template also has a cell that holds its content. -/
  | element (name : Name) (attributes : Attributes) (content : Option CellId)
  deriving Inhabited

structure Cell where
  data : CellData
  parent : Option CellId := none
  children : List CellId := []
  deriving Inhabited

structure Draft where
  cells : Array Cell
  deriving Inhabited

namespace Draft

/-- The document alone. -/
def empty : Draft :=
  { cells := #[{ data := .document }] }

def documentId : CellId := 0

def cell (d : Draft) (id : CellId) : Cell :=
  d.cells.getD id { data := .document }

def modify (d : Draft) (id : CellId) (f : Cell → Cell) : Draft :=
  { cells := d.cells.modify id f }

/-- Adds a cell that stands nowhere yet. -/
def add (d : Draft) (data : CellData) : CellId × Draft :=
  (d.cells.size, { cells := d.cells.push { data } })

/-- Adds an element that stands nowhere yet. -/
def addElement (d : Draft) (name : Name) (attributes : Attributes) : CellId × Draft :=
  if name = ⟨.html, "template"⟩ then
    let (content, d) := d.add .document
    d.add (.element name attributes (some content))
  else d.add (.element name attributes none)

/-- The name of an element. -/
def name? (d : Draft) (id : CellId) : Option Name :=
  match (d.cell id).data with
  | .element name _ _ => some name
  | _ => none

def attributes (d : Draft) (id : CellId) : List Attribute :=
  match (d.cell id).data with
  | .element _ attributes _ => attributes.list
  | _ => []

/-- The cell that holds what is put into an element. -/
def contentOf (d : Draft) (id : CellId) : CellId :=
  match (d.cell id).data with
  | .element _ _ (some content) => content
  | _ => id

/-- Takes a cell out of the place where it stands. -/
def detach (d : Draft) (id : CellId) : Draft :=
  match (d.cell id).parent with
  | none => d
  | some p =>
    (d.modify p fun c => { c with children := c.children.filter (· != id) }).modify id
      fun c => { c with parent := none }

/-- Puts a cell that stands nowhere at the end of another's content. -/
def append (d : Draft) (parent child : CellId) : Draft :=
  (d.modify parent fun c => { c with children := c.children ++ [child] }).modify child
    fun c => { c with parent := some parent }

/-- Joins text to a cell if that is a text. -/
def joinText? (d : Draft) (id : CellId) (s : String) : Option Draft :=
  match (d.cell id).data with
  | .text t => some (d.modify id fun c => { c with data := .text (t ++ s) })
  | _ => none

/-- Puts text at the end of a cell's content. -/
def appendText (d : Draft) (parent : CellId) (s : String) : Draft :=
  match (d.cell parent).children.getLast?.bind (d.joinText? · s) with
  | some d => d
  | none =>
    let (id, d) := d.add (.text s)
    d.append parent id

/-- Where among its parent's children a cell stands. -/
def placeOf? (d : Draft) (id : CellId) : Option (CellId × Nat) :=
  match (d.cell id).parent with
  | some p => some (p, (d.cell p).children.idxOf id)
  | none => none

/-- Puts a cell before another one. -/
def insertBefore (d : Draft) (sibling child : CellId) : Draft :=
  match d.placeOf? sibling with
  | none => d
  | some (p, i) =>
    ((d.detach child).modify p fun c =>
      { c with children := c.children.take i ++ child :: c.children.drop i }).modify child
        fun c => { c with parent := some p }

/-- Puts text before a cell. -/
def insertTextBefore (d : Draft) (sibling : CellId) (s : String) : Draft :=
  match d.placeOf? sibling with
  | none => d
  | some (p, i) =>
    let before := if i = 0 then none else (d.cell p).children[i - 1]?
    match before.bind (d.joinText? · s) with
    | some d => d
    | none =>
      let (id, d) := d.add (.text s)
      d.insertBefore sibling id

/-- Moves all that one cell holds to the end of another's content. -/
def moveChildren (d : Draft) (source target : CellId) : Draft :=
  let moved := (d.cell source).children
  let d := moved.foldl (fun d id => d.modify id fun c => { c with parent := some target }) d
  (d.modify source fun c => { c with children := [] }).modify target
    fun c => { c with children := c.children ++ moved }

/-- Gives an element the attributes that it does not have yet. -/
def addMissing (d : Draft) (id : CellId) (more : Attributes) : Draft :=
  d.modify id fun c =>
    match c.data with
    | .element name attributes content =>
      { c with data := .element name (attributes.addMissing more) content }
    | _ => c

/-- The nodes below a cell, up to a depth. -/
def nodesBelow (d : Draft) : (depth : Nat) → CellId → List Node
  | 0, _ => []
  | depth + 1, id =>
    (d.cell id).children.map fun child =>
      match (d.cell child).data with
      | .document => .text ""
      | .doctype name => .doctype name
      | .comment text => .comment text
      | .text text => .text text
      | .element name attributes _ => .element name attributes.list (d.nodesBelow depth child)

end Draft

end Codemod.Markup
