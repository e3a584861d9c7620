import Codemod.Markup.Builder.Formatting
import Codemod.Markup.Doctype

/-!
# Rules up to the body

The document type, the root element and the head.
-/

namespace Codemod.Markup.Build

/-- A second root tag only adds attributes. -/
def mergeRoot (t : Tag) : Build Step := do
  unless ← isOpen "template" do
    let id ← root
    modify fun b => { b with draft := b.draft.addMissing id t.attributes.toAttributes }
  return .done

/-- The document type; it counts only at the very beginning. -/
def doctype (d : Doctype) : Build Step := do
  if (← get).mode = .initial then
    let id ← addCell (.doctype (String.ofList (d.name.getD [])))
    put (.inside Draft.documentId) id
    modify fun b => { b with legacy := d.isLegacy, mode := .beforeHtml }
  return .done

def initial : Token → Build Step
  | .text _ true => return .done
  | .comment text => do
    appendCommentTo Draft.documentId text
    return .done
  | _ => do
    modify fun b => { b with legacy := true }
    return .again .beforeHtml

/-- End tags that open what is missing instead of being dropped. -/
def isOuterEnd (tag : String) : Bool :=
  ["head", "body", "html", "br"].contains tag

def beforeHtml (token : Token) : Build Step := do
  match token with
  | .text _ true => return .done
  | .comment text =>
    appendCommentTo Draft.documentId text
    return .done
  | .startTag t =>
    if t.name = "html" then
      createRoot t.attributes.toAttributes
      setMode .beforeHead
      return .done
    else
      createRoot ∅
      return .again .beforeHead
  | .endTag name =>
    if isOuterEnd name then
      createRoot ∅
      return .again .beforeHead
    else return .done
  | _ =>
    createRoot ∅
    return .again .beforeHead

def beforeHead (token : Token) : Build Step := do
  let missing : Build Step := do
    let id ← insertImplied "head"
    modify fun b => { b with head := some id }
    return .again .inHead
  match token with
  | .text _ true => return .done
  | .comment text =>
    appendComment text
    return .done
  | .startTag t =>
    match t.name with
    | "html" => mergeRoot t
    | "head" =>
      let id ← insertElement t
      modify fun b => { b with head := some id, mode := .inHead }
      return .done
    | _ => missing
  | .endTag name => if isOuterEnd name then missing else return .done
  | _ => missing

/-- The end tag of a template. -/
def endTemplate : Build Step := do
  if ← isOpen "template" then
    impliedEnds Category.impliedEndThorough
    popUntilTag "template"
    clearToMarker
    modify fun b => { b with templateModes := b.templateModes.drop 1 }
    setMode (← resetMode)
  return .done

/-- Start tags that belong into the head wherever they stand. -/
def headTags : List String :=
  ["base", "basefont", "bgsound", "link", "meta", "noframes", "script", "style", "template", "title"]

def startInHead (t : Tag) : Build Step := do
  match t.name with
  | "html" => mergeRoot t
  | "base" | "basefont" | "bgsound" | "link" | "meta" =>
    let _ ← insertVoid t
    return .done
  | "title" => insertRaw t .rcdata
  | "noframes" | "style" | "noscript" => insertRaw t .rawtext
  | "script" => insertRaw t .script
  | "template" =>
    pushMarker
    framesetNotOk
    modify fun b => { b with mode := .inTemplate, templateModes := .inTemplate :: b.templateModes }
    let _ ← insertElement t
    return .done
  | "head" => return .done
  | _ =>
    pop
    return .again .afterHead

def inHead (token : Token) : Build Step := do
  let leave : Build Step := do
    pop
    return .again .afterHead
  match token with
  | .text s true =>
    appendText s
    return .done
  | .comment text =>
    appendComment text
    return .done
  | .startTag t => startInHead t
  | .endTag name =>
    match name with
    | "head" =>
      pop
      setMode .afterHead
      return .done
    | "template" => endTemplate
    | _ => if isOuterEnd name then leave else return .done
  | _ => leave

def afterHead (token : Token) : Build Step := do
  let missing : Build Step := do
    let _ ← insertImplied "body"
    return .again .inBody
  match token with
  | .text s true =>
    appendText s
    return .done
  | .comment text =>
    appendComment text
    return .done
  | .startTag t =>
    match t.name with
    | "html" => mergeRoot t
    | "body" =>
      let _ ← insertElement t
      framesetNotOk
      setMode .inBody
      return .done
    | "frameset" =>
      let _ ← insertElement t
      setMode .inFrameset
      return .done
    | "head" => return .done
    | _ =>
      if headTags.contains t.name then
        match (← get).head with
        | some head =>
          push head
          let step ← startInHead t
          removeOpen head
          return step
        | none => startInHead t
      else missing
  | .endTag name =>
    if name = "template" then endTemplate
    else if name = "head" then return .done
    else if isOuterEnd name then missing
    else return .done
  | _ => missing

end Codemod.Markup.Build
