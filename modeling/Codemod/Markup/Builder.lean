import Codemod.Markup.Category
import Codemod.Markup.Draft
import Codemod.Markup.Token

/-!
# Building a tree

The state in which a tree is built from tokens, and the operations that the rules are made of.
Elements that have been opened and not closed form a stack; the innermost comes first.

## Main definitions

* `Mode` — which set of rules applies.
* `Builder` — the state, and `Build` — computations on it.
* `Build.insertElement`, `Build.appendText` — putting things into the tree.
* `Build.inScope`, `Build.popUntil`, `Build.impliedEnds` — working on the stack.
-/

namespace Codemod.Markup

inductive Mode where
  | initial
  | beforeHtml
  | beforeHead
  | inHead
  | afterHead
  | inBody
  | text
  | inTable
  | inTableText
  | inCaption
  | inColumnGroup
  | inTableBody
  | inRow
  | inCell
  | inSelect
  | inSelectInTable
  | inTemplate
  | afterBody
  | inFrameset
  | afterFrameset
  | afterAfterBody
  | afterAfterFrameset
  deriving DecidableEq, Inhabited

/-- An entry of the list of formatting elements that are to be opened again. -/
inductive Formatting where
  | marker
  | element (id : CellId) (tag : Tag)
  deriving Inhabited

structure Builder where
  draft : Draft := .empty
  mode : Mode := .initial
  /-- The mode to go back to after text. -/
  originalMode : Mode := .initial
  /-- The modes of the open templates, innermost first. -/
  templateModes : List Mode := []
  /-- The open elements, innermost first. -/
  openElements : List CellId := []
  /-- The formatting elements, latest first. -/
  formatting : List Formatting := []
  head : Option CellId := none
  form : Option CellId := none
  /-- The tag of the element that a fragment is read in. -/
  context : Option String := none
  framesetOk : Bool := true
  /-- A line break that comes next is dropped. -/
  ignoreBreak : Bool := false
  /-- What does not belong in a table is put before it. -/
  fosterParenting : Bool := false
  /-- A table stays inside the paragraph it stands in. -/
  legacy : Bool := false
  /-- Text inside a table that has not been placed yet, with whether it is blank. -/
  tableText : List (String × Bool) := []
  deriving Inhabited

abbrev Build := StateM Builder

/-- What becomes of a token. -/
inductive Step where
  | done
  /-- The token is taken again in another mode. -/
  | again (mode : Mode)
  /-- What follows in the source is not markup. -/
  | switch (content : Content)
  deriving DecidableEq, Inhabited

namespace Build

def setMode (mode : Mode) : Build Unit :=
  modify fun b => { b with mode }

def framesetNotOk : Build Unit :=
  modify fun b => { b with framesetOk := false }

/-! ## The stack -/

def nameOf (id : CellId) : Build Name := do
  return ((← get).draft.name? id).getD ⟨.html, ""⟩

/-- The innermost open element. -/
def current : Build CellId := do
  return (← get).openElements.headD Draft.documentId

/-- The outermost open element. -/
def root : Build CellId := do
  return (← get).openElements.getLastD Draft.documentId

def currentName : Build Name := do
  nameOf (← current)

/-- The innermost open element's name, or the context's if only the root of a fragment is open. -/
def adjustedName : Build Name := do
  let b ← get
  match b.openElements, b.context with
  | [_], some tag => return .html tag
  | _, _ => currentName

def currentIs (tag : String) : Build Bool := do
  return (← currentName) = .html tag

def push (id : CellId) : Build Unit :=
  modify fun b => { b with openElements := id :: b.openElements }

def pop : Build Unit :=
  modify fun b => { b with openElements := b.openElements.drop 1 }

/-- Takes one element out of the stack, wherever it is. -/
def removeOpen (id : CellId) : Build Unit :=
  modify fun b => { b with openElements := b.openElements.erase id }

/-- Closes elements up to and with the innermost that satisfies `p`. -/
def popUntil (p : Category) : Build Unit :=
  modify fun b =>
    let name (id : CellId) := (b.draft.name? id).getD ⟨.html, ""⟩
    { b with openElements := (b.openElements.dropWhile fun id => !p (name id)).drop 1 }

def popUntilTag (tag : String) : Build Unit :=
  popUntil (· = .html tag)

/-- Closes elements until one that satisfies `p` is innermost. -/
def popBackTo (p : Category) : Build Unit :=
  modify fun b =>
    let name (id : CellId) := (b.draft.name? id).getD ⟨.html, ""⟩
    { b with openElements := b.openElements.dropWhile fun id => !p (name id) }

/-- Closes elements as long as they satisfy `p`. -/
def impliedEnds (p : Category) : Build Unit :=
  popBackTo fun n => !p n

/-- Closes elements whose end tag may be left out, other than `tag`. -/
def impliedEndsExcept (tag : String) : Build Unit :=
  impliedEnds fun n => n ≠ .html tag && Category.impliedEnd n

/-- Whether an open element satisfies `p` and none of `barrier` lies inside it. -/
def searchOpen (b : Builder) (barrier : Category) (p : CellId → Name → Bool) : List CellId → Bool
  | [] => false
  | id :: rest =>
    let name := (b.draft.name? id).getD ⟨.html, ""⟩
    if p id name then true else if barrier name then false else searchOpen b barrier p rest

def inScopeThat (barrier : Category) (p : CellId → Name → Bool) : Build Bool := do
  let b ← get
  return searchOpen b barrier p b.openElements

/-- Whether an element is open within a scope. -/
def inScope (barrier : Category) (tag : String) : Build Bool :=
  inScopeThat barrier fun _ n => n = .html tag

/-- Whether an element is open at all. -/
def isOpen (tag : String) : Build Bool :=
  inScope (fun _ => false) tag

/-! ## Putting things into the tree -/

/-- Where to put something: at the end of a cell's content, or before a table. -/
inductive Place where
  | inside (id : CellId)
  | beforeTable (table above : CellId)

/-- The place outside of the innermost table. -/
def fosterPlace (b : Builder) : List CellId → Place
  | [] => .inside (b.openElements.getLastD Draft.documentId)
  | id :: rest =>
    let name := (b.draft.name? id).getD ⟨.html, ""⟩
    if name = .html "template" then .inside (b.draft.contentOf id)
    else if name = .html "table" then .beforeTable id (rest.headD Draft.documentId)
    else fosterPlace b rest

/-- The place for what comes next, or for what is to go into `target`. -/
def placeFor (target : Option CellId) : Build Place := do
  let b ← get
  let target := target.getD (b.openElements.headD Draft.documentId)
  let name := (b.draft.name? target).getD ⟨.html, ""⟩
  if b.fosterParenting && Category.tableStructure name then
    return fosterPlace b b.openElements
  else
    return .inside (b.draft.contentOf target)

/-- Puts a cell at a place. -/
def put (place : Place) (id : CellId) : Build Unit :=
  modify fun b =>
    match place with
    | .inside p => { b with draft := b.draft.append p id }
    | .beforeTable table above =>
      if (b.draft.cell table).parent.isSome then
        { b with draft := b.draft.insertBefore table id }
      else { b with draft := b.draft.append above id }

def putText (place : Place) (s : String) : Build Unit :=
  modify fun b =>
    match place with
    | .inside p => { b with draft := b.draft.appendText p s }
    | .beforeTable table above =>
      if (b.draft.cell table).parent.isSome then
        { b with draft := b.draft.insertTextBefore table s }
      else { b with draft := b.draft.appendText above s }

def addCell (data : CellData) : Build CellId :=
  modifyGet fun b =>
    let (id, draft) := b.draft.add data
    (id, { b with draft })

def addElement (name : Name) (attributes : Attributes) : Build CellId :=
  modifyGet fun b =>
    let (id, draft) := b.draft.addElement name attributes
    (id, { b with draft })

def appendText (s : String) : Build Unit := do
  putText (← placeFor none) s

def appendComment (text : String) : Build Unit := do
  put (← placeFor none) (← addCell (.comment text))

def appendCommentTo (parent : CellId) (text : String) : Build Unit := do
  put (.inside parent) (← addCell (.comment text))

/-- Creates an element where it belongs; it stays closed. -/
def insertClosed (name : Name) (attributes : Attributes) : Build CellId := do
  let id ← addElement name attributes
  put (← placeFor none) id
  return id

/-- Creates an element where it belongs and opens it. -/
def insertNamed (name : Name) (attributes : Attributes) : Build CellId := do
  let id ← insertClosed name attributes
  push id
  return id

def insertElement (t : Tag) : Build CellId :=
  insertNamed (.html t.name) t.attributes.toAttributes

/-- Opens an element that has no tag in the source. -/
def insertImplied (tag : String) : Build CellId :=
  insertNamed (.html tag) ∅

def insertVoid (t : Tag) : Build CellId :=
  insertClosed (.html t.name) t.attributes.toAttributes

/-- The root element. -/
def createRoot (attributes : Attributes) : Build Unit := do
  let id ← addElement (.html "html") attributes
  push id
  put (.inside Draft.documentId) id

/-- Opens an element whose content is not markup. -/
def insertRaw (t : Tag) (content : Content) : Build Step := do
  let _ ← insertElement t
  modify fun b => { b with originalMode := b.mode, mode := .text }
  return .switch content

/-! ## Paragraphs -/

def closeParagraph : Build Unit := do
  impliedEndsExcept "p"
  popUntilTag "p"

/-- Closes the paragraph that is open, if there is one. -/
def closeParagraphInScope : Build Unit := do
  if ← inScope Category.buttonScope "p" then closeParagraph

/-! ## Modes -/

/-- The mode for a select element below `above`. -/
def selectMode (b : Builder) : (above : List CellId) → Mode
  | [] => .inSelect
  | id :: rest =>
    let name := (b.draft.name? id).getD ⟨.html, ""⟩
    if name = .html "template" then .inSelect
    else if name = .html "table" then .inSelectInTable
    else selectMode b rest

/-- The mode that the open elements call for. -/
def modeFor (b : Builder) : List CellId → Mode
  | [] => .inBody
  | id :: above =>
    let last := above.isEmpty
    let name :=
      match last, b.context with
      | true, some tag => Name.html tag
      | _, _ => (b.draft.name? id).getD ⟨.html, ""⟩
    let next := modeFor b above
    if name.space ≠ .html then next
    else
      match name.tag with
      | "select" => selectMode b above
      | "td" => if last then next else .inCell
      | "th" => if last then next else .inCell
      | "tr" => .inRow
      | "tbody" => .inTableBody
      | "thead" => .inTableBody
      | "tfoot" => .inTableBody
      | "caption" => .inCaption
      | "colgroup" => .inColumnGroup
      | "table" => .inTable
      | "template" => b.templateModes.headD .inBody
      | "head" => if last then next else .inHead
      | "body" => .inBody
      | "frameset" => .inFrameset
      | "html" => if b.head.isNone then .beforeHead else .afterHead
      | _ => next

def resetMode : Build Mode := do
  let b ← get
  return modeFor b b.openElements

end Build

end Codemod.Markup
