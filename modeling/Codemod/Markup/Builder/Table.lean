import Codemod.Markup.Builder.Body

/-!
# Rules for tables

What does not belong in a table is put in front of it.
-/

namespace Codemod.Markup.Build

/-- Takes a token by the rules for the body, with what it brings put before the table. -/
def foster (token : Token) : Build Step := do
  modify fun b => { b with fosterParenting := true }
  let step ← inBody token
  modify fun b => { b with fosterParenting := false }
  return step

/-- Text in a table waits until it is known whether it is all blank. -/
def textInTable (token : Token) : Build Step := do
  if Category.tableStructure (← currentName) then
    modify fun b => { b with originalMode := b.mode, tableText := [] }
    return .again .inTableText
  else foster token

def inTableText (token : Token) : Build Step := do
  match token with
  | .nul => return .done
  | .text s blank =>
    modify fun b => { b with tableText := b.tableText ++ [(s, blank)] }
    return .done
  | _ =>
    let b ← get
    set { b with tableText := [] }
    for (s, blank) in b.tableText do
      if b.tableText.all Prod.snd then appendText s
      else
        let _ ← foster (.text s blank)
    return .again b.originalMode

/-- Closes all inside the table and opens an element of it. -/
def startTablePart (t : Tag) (mode : Mode) : Build Step := do
  popBackTo Category.tableScope
  let _ ← insertElement t
  setMode mode
  return .done

def startInTable (t : Tag) : Build Step := do
  match t.name with
  | "caption" =>
    popBackTo Category.tableScope
    pushMarker
    startTablePart t .inCaption
  | "colgroup" => startTablePart t .inColumnGroup
  | "col" =>
    popBackTo Category.tableScope
    let _ ← insertImplied "colgroup"
    return .again .inColumnGroup
  | "tbody" | "tfoot" | "thead" => startTablePart t .inTableBody
  | "td" | "th" | "tr" =>
    popBackTo Category.tableScope
    let _ ← insertImplied "tbody"
    return .again .inTableBody
  | "table" =>
    if ← inScope Category.tableScope "table" then
      popUntilTag "table"
      return .again (← resetMode)
    else return .done
  | "style" | "script" | "template" => startInHead t
  | "input" =>
    if isHidden t then
      let _ ← insertVoid t
      return .done
    else foster (.startTag t)
  | "form" =>
    if !(← isOpen "template") && (← get).form.isNone then
      let id ← insertVoid t
      modify fun b => { b with form := some id }
    return .done
  | _ => foster (.startTag t)

def endInTable (name : String) : Build Step := do
  match name with
  | "table" =>
    if ← inScope Category.tableScope "table" then
      popUntilTag "table"
      setMode (← resetMode)
    return .done
  | "body" | "caption" | "col" | "colgroup" | "html" | "tbody" | "td" | "tfoot" | "th" | "thead"
  | "tr" => return .done
  | "template" => endTemplate
  | _ => foster (.endTag name)

def inTable (token : Token) : Build Step := do
  match token with
  | .nul => textInTable token
  | .text _ _ => textInTable token
  | .comment text =>
    appendComment text
    return .done
  | .startTag t => startInTable t
  | .endTag name => endInTable name
  | .eof => inBody token
  | .doctype _ => return .done

/-- Start tags of the parts of a table. -/
def tablePartTags : List String :=
  ["caption", "col", "colgroup", "tbody", "td", "tfoot", "th", "thead", "tr"]

def inCaption (token : Token) : Build Step := do
  let close : Build Bool := do
    if ← inScope Category.tableScope "caption" then
      impliedEnds Category.impliedEnd
      popUntilTag "caption"
      clearToMarker
      return true
    else return false
  match token with
  | .startTag t =>
    if tablePartTags.contains t.name then
      if ← close then return .again .inTable else return .done
    else inBody token
  | .endTag name =>
    if name = "caption" then
      if ← close then setMode .inTable
      return .done
    else if name = "table" then
      if ← close then return .again .inTable else return .done
    else if name = "body" || name = "html" || tablePartTags.contains name then return .done
    else inBody token
  | _ => inBody token

def inColumnGroup (token : Token) : Build Step := do
  let leave : Build Step := do
    if ← currentIs "colgroup" then
      pop
      return .again .inTable
    else return .done
  match token with
  | .text s true =>
    appendText s
    return .done
  | .comment text =>
    appendComment text
    return .done
  | .startTag t =>
    match t.name with
    | "html" => mergeRoot t
    | "col" =>
      let _ ← insertVoid t
      return .done
    | "template" => startInHead t
    | _ => leave
  | .endTag name =>
    match name with
    | "colgroup" =>
      if ← currentIs "colgroup" then
        pop
        setMode .inTable
      return .done
    | "col" => return .done
    | "template" => endTemplate
    | _ => leave
  | .eof => inBody token
  | _ => leave

/-- Leaves a group of rows. -/
def leaveTableBody : Build Step := do
  let inside := Category.ofTags ["table", "tbody", "tfoot"]
  if ← inScopeThat Category.tableScope fun _ n => inside n then
    popBackTo Category.tableBodyContext
    pop
    return .again .inTable
  else return .done

def inTableBody (token : Token) : Build Step := do
  match token with
  | .startTag t =>
    match t.name with
    | "tr" =>
      popBackTo Category.tableBodyContext
      let _ ← insertElement t
      setMode .inRow
      return .done
    | "th" | "td" =>
      popBackTo Category.tableBodyContext
      let _ ← insertImplied "tr"
      return .again .inRow
    | "caption" | "col" | "colgroup" | "tbody" | "tfoot" | "thead" => leaveTableBody
    | _ => inTable token
  | .endTag name =>
    match name with
    | "tbody" | "tfoot" | "thead" =>
      if ← inScope Category.tableScope name then
        popBackTo Category.tableBodyContext
        pop
        setMode .inTable
      return .done
    | "table" => leaveTableBody
    | "body" | "caption" | "col" | "colgroup" | "html" | "td" | "th" | "tr" => return .done
    | _ => inTable token
  | _ => inTable token

/-- Closes the row that is open, if there is one. -/
def closeRow : Build Bool := do
  if ← inScope Category.tableScope "tr" then
    popBackTo Category.tableRowContext
    pop
    return true
  else return false

def inRow (token : Token) : Build Step := do
  match token with
  | .startTag t =>
    match t.name with
    | "th" | "td" =>
      popBackTo Category.tableRowContext
      let _ ← insertElement t
      setMode .inCell
      pushMarker
      return .done
    | "caption" | "col" | "colgroup" | "tbody" | "tfoot" | "thead" | "tr" =>
      if ← closeRow then return .again .inTableBody else return .done
    | _ => inTable token
  | .endTag name =>
    match name with
    | "tr" =>
      if ← closeRow then setMode .inTableBody
      return .done
    | "table" => if ← closeRow then return .again .inTableBody else return .done
    | "tbody" | "tfoot" | "thead" =>
      if ← inScope Category.tableScope name then
        if ← closeRow then return .again .inTableBody else return .done
      else return .done
    | "body" | "caption" | "col" | "colgroup" | "html" | "td" | "th" => return .done
    | _ => inTable token
  | _ => inTable token

def closeCell : Build Unit := do
  impliedEnds Category.impliedEnd
  popUntil Category.cell
  clearToMarker

def inCell (token : Token) : Build Step := do
  match token with
  | .startTag t =>
    if tablePartTags.contains t.name then
      if ← inScopeThat Category.tableScope fun _ n => Category.cell n then
        closeCell
        return .again .inRow
      else return .done
    else inBody token
  | .endTag name =>
    match name with
    | "td" | "th" =>
      if ← inScope Category.tableScope name then
        impliedEnds Category.impliedEnd
        popUntilTag name
        clearToMarker
        setMode .inRow
      return .done
    | "body" | "caption" | "col" | "colgroup" | "html" => return .done
    | "table" | "tbody" | "tfoot" | "thead" | "tr" =>
      if ← inScope Category.tableScope name then
        closeCell
        return .again .inRow
      else return .done
    | _ => inBody token
  | _ => inBody token

end Codemod.Markup.Build
