import Codemod.Markup.Builder

/-!
# Formatting elements

Formatting elements that were closed by something else are opened again where text follows. When
the end tag of a formatting element stands inside of a block, the block is taken out of the element
and its content is put into a copy.

## Main definitions

* `Build.reopenFormatting` — opens formatting elements again.
* `Build.endFormatting` — the end tag of a formatting element.
* `Build.endAny` — the end tag of an element without rules of its own.
-/

namespace Codemod.Markup.Build

/-- Forgets formatting elements back to the last marker. -/
def clearToMarker : Build Unit :=
  modify fun b =>
    let isElement : Formatting → Bool
      | .element _ _ => true
      | .marker => false
    { b with formatting := (b.formatting.dropWhile isElement).drop 1 }

def pushMarker : Build Unit :=
  modify fun b => { b with formatting := .marker :: b.formatting }

def Formatting.isCell (id : CellId) : Formatting → Bool
  | .element i _ => i == id
  | .marker => false

def positionOf (formatting : List Formatting) (id : CellId) : Option Nat :=
  formatting.findIdx? (Formatting.isCell id)

def forget (id : CellId) : Build Unit :=
  modify fun b => { b with formatting := b.formatting.eraseP (Formatting.isCell id) }

/-! ## Opening again -/

/-- Entries that need to be opened again, oldest first; those after the first that is open or a
marker. -/
def toReopen (openElements : List CellId) : List Formatting → List (CellId × Tag)
  | [] => []
  | .marker :: _ => []
  | .element id tag :: rest =>
    if openElements.contains id then [] else toReopen openElements rest ++ [(id, tag)]

def reopenFormatting : Build Unit := do
  let b ← get
  for (id, tag) in toReopen b.openElements b.formatting do
    let new ← insertElement tag
    modify fun b =>
      { b with
        formatting := b.formatting.map fun e =>
          if Formatting.isCell id e then .element new tag else e }

/-! ## Start tags -/

/-- Two tags with the same attributes, in whatever order. -/
def sameTag (a b : Tag) : Bool :=
  a.name = b.name && a.attributes.list.length = b.attributes.list.length &&
    a.attributes.list.all fun x => b.attributes.list.contains x

/-- The entries back to the last marker, latest first. -/
def sinceMarker : List Formatting → List (CellId × Tag)
  | .element id tag :: rest => (id, tag) :: sinceMarker rest
  | _ => []

/-- Opens a formatting element. Of elements that are the same only the latest three are kept. -/
def startFormatting (t : Tag) : Build Unit := do
  let same := (sinceMarker (← get).formatting).filter fun (_, old) => sameTag t old
  if same.length ≥ 3 then
    match same.getLast? with
    | some (id, _) => forget id
    | none => pure ()
  let id ← insertElement t
  modify fun b => { b with formatting := .element id t :: b.formatting }

/-! ## End tags -/

/-- The elements outside of the innermost `tag`, if no special element lies inside it. -/
def outside? (b : Builder) (tag : String) : List CellId → Option (List CellId)
  | [] => none
  | id :: rest =>
    let name := (b.draft.name? id).getD ⟨.html, ""⟩
    if name = .html tag then some rest
    else if Category.special name then none
    else outside? b tag rest

/-- The end tag of an element without rules of its own. -/
def endAny (tag : String) : Build Unit := do
  let b ← get
  match outside? b tag b.openElements with
  | some rest => set { b with openElements := rest }
  | none => pure ()

/-- The tag of a cell's entry. -/
def tagOf? (id : CellId) : List Formatting → Option Tag
  | [] => none
  | .element i tag :: rest => if i = id then some tag else tagOf? id rest
  | .marker :: rest => tagOf? id rest

/-- What has become of the elements around a block that is lifted out of them. -/
structure Lifted where
  /-- The copies that stay open, outermost first. -/
  copies : List CellId := []
  /-- The cell that holds the block by now. -/
  top : CellId
  /-- The innermost copy, whose entry the new entry is to follow. -/
  mark : Option CellId := none

/-- Goes up from a block through the elements around it, innermost first. Of the first three, those
that are formatting elements are copied around the block; the others are closed. -/
def lift (block : CellId) : (passed : Nat) → Lifted → List CellId → Build Lifted
  | _, x, [] => pure x
  | passed, x, id :: rest => do
    match tagOf? id (← get).formatting with
    | none => lift block (passed + 1) x rest
    | some tag =>
      if passed ≥ 3 then
        forget id
        lift block (passed + 1) x rest
      else
        let copy ← addElement (.html tag.name) tag.attributes.toAttributes
        modify fun b =>
          { b with
            formatting := b.formatting.map fun e =>
              if Formatting.isCell id e then .element copy tag else e
            draft := (b.draft.detach x.top).append copy x.top }
        let mark := if x.top = block then some copy else x.mark
        lift block (passed + 1) { copies := copy :: x.copies, top := copy, mark } rest

/-- Takes the block nearest to the formatting element out of it. `inner` are the open elements
inside the block, `between` those between the block and the formatting element, `outer` those
outside of it. -/
def extract (format : CellId) (tag : Tag) (block : CellId) (inner between outer : List CellId) :
    Build Unit := do
  let x ← lift block 0 { top := block } between
  modify fun b => { b with draft := b.draft.detach x.top }
  put (← placeFor (some (outer.headD Draft.documentId))) x.top
  let copy ← addElement (.html tag.name) tag.attributes.toAttributes
  modify fun b =>
    let draft := (b.draft.moveChildren block copy).append block copy
    let entry := Formatting.element copy tag
    let formatting :=
      match x.mark with
      | none => b.formatting.map fun e => if Formatting.isCell format e then entry else e
      | some mark =>
        -- later entries stand in front
        let marked := b.formatting.takeWhile fun e => !Formatting.isCell mark e
        let rest := b.formatting.drop marked.length
        (marked ++ entry :: rest).eraseP (Formatting.isCell format)
    { b with
      draft, formatting
      openElements := inner ++ copy :: block :: x.copies.reverse ++ outer }

/-- What the stack looks like around a formatting element that holds a block. -/
structure Misnesting where
  inner : List CellId
  block : CellId
  between : List CellId
  outer : List CellId

/-- The outermost special element inside the formatting element. -/
def misnesting? (b : Builder) (format : CellId) : Option Misnesting :=
  let inside := (b.openElements.takeWhile (· != format)).reverse
  let outer := (b.openElements.dropWhile (· != format)).drop 1
  let isPlain (id : CellId) := !Category.special ((b.draft.name? id).getD ⟨.html, ""⟩)
  match inside.dropWhile isPlain with
  | [] => none
  | block :: inner =>
    some { inner := inner.reverse, block, between := (inside.takeWhile isPlain).reverse, outer }

/-- The end tag of a formatting element, in at most `rounds` rounds. -/
def endFormattingRounds (tag : String) : (rounds : Nat) → Build Unit
  | 0 => pure ()
  | rounds + 1 => do
    let b ← get
    match (sinceMarker b.formatting).find? fun (_, t) => t.name = tag with
    | none => endAny tag
    | some (id, t) =>
      if !b.openElements.contains id then forget id
      else if !(← inScopeThat Category.scope fun i _ => i = id) then pure ()
      else
        match misnesting? b id with
        | none =>
          modify fun b => { b with openElements := (b.openElements.dropWhile (· != id)).drop 1 }
          forget id
        | some m =>
          extract id t m.block m.inner m.between m.outer
          endFormattingRounds tag rounds

/-- The end tag of a formatting element. -/
def endFormatting (tag : String) : Build Unit := do
  let b ← get
  let id ← current
  if (← currentIs tag) && (positionOf b.formatting id).isNone then pop
  else endFormattingRounds tag 8

end Codemod.Markup.Build
