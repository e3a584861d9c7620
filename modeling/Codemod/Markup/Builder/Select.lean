import Codemod.Markup.Builder.Body

/-!
# Rules for lists of options
-/

namespace Codemod.Markup.Build

def popIf (tag : String) : Build Unit := do
  if ← currentIs tag then pop

/-- Closes the list of options that is open, if there is one. -/
def closeSelect : Build Bool := do
  if ← inScope Category.selectScope "select" then
    popUntilTag "select"
    return true
  else return false

def startInSelect (t : Tag) : Build Step := do
  match t.name with
  | "html" => mergeRoot t
  | "option" =>
    popIf "option"
    let _ ← insertElement t
    return .done
  | "optgroup" =>
    popIf "option"
    popIf "optgroup"
    let _ ← insertElement t
    return .done
  | "hr" =>
    popIf "option"
    popIf "optgroup"
    let _ ← insertVoid t
    return .done
  | "select" =>
    if ← closeSelect then setMode (← resetMode)
    return .done
  | "input" | "keygen" | "textarea" =>
    if ← closeSelect then return .again (← resetMode) else return .done
  | "script" | "template" => startInHead t
  | _ => return .done

def endInSelect (name : String) : Build Step := do
  match name with
  | "optgroup" =>
    let b ← get
    match b.openElements with
    | _ :: above :: _ =>
      if b.draft.name? above = some (.html "optgroup") then popIf "option"
    | _ => pure ()
    popIf "optgroup"
    return .done
  | "option" =>
    popIf "option"
    return .done
  | "select" =>
    if ← closeSelect then setMode (← resetMode)
    return .done
  | "template" => endTemplate
  | _ => return .done

def inSelect (token : Token) : Build Step := do
  match token with
  | .text s _ =>
    appendText s
    return .done
  | .comment text =>
    appendComment text
    return .done
  | .startTag t => startInSelect t
  | .endTag name => endInSelect name
  | .eof => inBody token
  | _ => return .done

/-- Tags of a table that end a list of options inside it. -/
def selectEndingTags : List String :=
  ["caption", "table", "tbody", "tfoot", "thead", "tr", "td", "th"]

def inSelectInTable (token : Token) : Build Step := do
  match token with
  | .startTag t =>
    if selectEndingTags.contains t.name then
      popUntilTag "select"
      return .again (← resetMode)
    else inSelect token
  | .endTag name =>
    if selectEndingTags.contains name then
      if ← inScope Category.tableScope name then
        popUntilTag "select"
        return .again (← resetMode)
      else return .done
    else inSelect token
  | _ => inSelect token

end Codemod.Markup.Build
