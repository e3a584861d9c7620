import Codemod.Markup.Builder.Foreign
import Codemod.Markup.Builder.Head

/-!
# Rules for the body

What most of a source is read by.
-/

namespace Codemod.Markup.Build

/-- The end of the source inside a template: it is closed. -/
def eofInTemplate : Build Step := do
  if ← isOpen "template" then
    popUntilTag "template"
    clearToMarker
    modify fun b => { b with templateModes := b.templateModes.drop 1 }
    return .again (← resetMode)
  else return .done

/-- Blocks that end a paragraph. -/
def blockTags : List String :=
  ["address", "article", "aside", "blockquote", "center", "details", "dialog", "dir", "div", "dl",
    "fieldset", "figcaption", "figure", "footer", "header", "hgroup", "main", "menu", "nav", "ol",
    "p", "search", "section", "summary", "ul"]

/-- End tags that close the element of their name and all inside it. -/
def blockEndTags : List String :=
  ["address", "article", "aside", "blockquote", "button", "center", "details", "dialog", "dir",
    "div", "dl", "fieldset", "figcaption", "figure", "footer", "header", "hgroup", "listing",
    "main", "menu", "nav", "ol", "pre", "search", "section", "summary", "ul"]

def formattingTags : List String :=
  ["b", "big", "code", "em", "font", "i", "s", "small", "strike", "strong", "tt", "u"]

/-- Parts of other structures that stand for nothing in the body. -/
def strayTags : List String :=
  ["caption", "col", "colgroup", "frame", "head", "tbody", "td", "tfoot", "th", "thead", "tr"]

/-- The innermost open item that a new item of this kind ends. -/
def itemToClose (b : Builder) (kinds : List String) : List CellId → Option String
  | [] => none
  | id :: rest =>
    let name := (b.draft.name? id).getD ⟨.html, ""⟩
    if name.isHtml kinds then some name.tag
    else if Category.itemBarrier name then none
    else itemToClose b kinds rest

/-- Opens an item of a list. -/
def startItem (t : Tag) : Build Step := do
  framesetNotOk
  let b ← get
  let kinds := if t.name = "li" then ["li"] else ["dd", "dt"]
  match itemToClose b kinds b.openElements with
  | some tag =>
    impliedEndsExcept tag
    popUntilTag tag
  | none => pure ()
  closeParagraphInScope
  let _ ← insertElement t
  return .done

/-- An anchor inside an anchor ends the outer one. -/
def endOuterAnchor : Build Unit := do
  match (sinceMarker (← get).formatting).find? fun (_, t) => t.name = "a" with
  | some (id, _) =>
    endFormatting "a"
    forget id
    removeOpen id
  | none => pure ()

def isHidden (t : Tag) : Bool :=
  t.attributes.list.any fun a => a.name = "type" && lower a.value.toList = "hidden".toList

/-- A body tag where there is a body already adds attributes. -/
def mergeBody (t : Tag) : Build Step := do
  let b ← get
  match b.openElements.reverse with
  | _ :: body :: _ =>
    if b.draft.name? body = some (.html "body") && !(← isOpen "template") then
      framesetNotOk
      modify fun b => { b with draft := b.draft.addMissing body t.attributes.toAttributes }
    return .done
  | _ => return .done

/-- A frameset may still take the place of the body. -/
def framesetForBody (t : Tag) : Build Step := do
  let b ← get
  match b.openElements.reverse with
  | html :: body :: _ =>
    if b.framesetOk && b.draft.name? body = some (.html "body") then
      set { b with draft := b.draft.detach body, openElements := [html] }
      let _ ← insertElement t
      setMode .inFrameset
    return .done
  | _ => return .done

def insertAndReopen (t : Tag) : Build Step := do
  reopenFormatting
  let _ ← insertElement t
  return .done

def startVoid (t : Tag) : Build Step := do
  reopenFormatting
  let _ ← insertVoid t
  unless t.name = "input" && isHidden t do framesetNotOk
  return .done

def startForm (t : Tag) : Build Step := do
  let inTemplate ← isOpen "template"
  if (← get).form.isNone || inTemplate then
    closeParagraphInScope
    let id ← insertElement t
    unless inTemplate do modify fun b => { b with form := some id }
  return .done

def startInBody (t : Tag) : Build Step := do
  if headTags.contains t.name then startInHead t
  else if blockTags.contains t.name then
    closeParagraphInScope
    let _ ← insertElement t
    return .done
  else if formattingTags.contains t.name then
    reopenFormatting
    startFormatting t
    return .done
  else if strayTags.contains t.name then return .done
  else
    match t.name with
    | "html" => mergeRoot t
    | "body" => mergeBody t
    | "frameset" => framesetForBody t
    | "h1" | "h2" | "h3" | "h4" | "h5" | "h6" =>
      closeParagraphInScope
      if Category.heading (← currentName) then pop
      let _ ← insertElement t
      return .done
    | "pre" | "listing" =>
      closeParagraphInScope
      let _ ← insertElement t
      modify fun b => { b with ignoreBreak := true, framesetOk := false }
      return .done
    | "form" => startForm t
    | "li" | "dd" | "dt" => startItem t
    | "plaintext" =>
      closeParagraphInScope
      let _ ← insertElement t
      return .switch .plaintext
    | "button" =>
      if ← inScope Category.scope "button" then
        impliedEnds Category.impliedEnd
        popUntilTag "button"
      reopenFormatting
      let _ ← insertElement t
      framesetNotOk
      return .done
    | "a" =>
      endOuterAnchor
      reopenFormatting
      startFormatting t
      return .done
    | "nobr" =>
      reopenFormatting
      if ← inScope Category.scope "nobr" then
        endFormatting "nobr"
        reopenFormatting
      startFormatting t
      return .done
    | "applet" | "marquee" | "object" =>
      reopenFormatting
      let _ ← insertElement t
      pushMarker
      framesetNotOk
      return .done
    | "table" =>
      unless (← get).legacy do closeParagraphInScope
      let _ ← insertElement t
      framesetNotOk
      setMode .inTable
      return .done
    | "area" | "br" | "embed" | "img" | "keygen" | "wbr" | "input" => startVoid t
    | "image" => startVoid { t with name := "img" }
    | "param" | "source" | "track" =>
      let _ ← insertVoid t
      return .done
    | "hr" =>
      closeParagraphInScope
      let _ ← insertVoid t
      framesetNotOk
      return .done
    | "textarea" =>
      modify fun b => { b with ignoreBreak := true, framesetOk := false }
      insertRaw t .rcdata
    | "xmp" =>
      closeParagraphInScope
      reopenFormatting
      framesetNotOk
      insertRaw t .rawtext
    | "iframe" =>
      framesetNotOk
      insertRaw t .rawtext
    | "noembed" | "noscript" => insertRaw t .rawtext
    | "select" =>
      reopenFormatting
      let _ ← insertElement t
      framesetNotOk
      let inTable := [.inTable, .inCaption, .inTableBody, .inRow, .inCell].contains (← get).mode
      setMode (if inTable then .inSelectInTable else .inSelect)
      return .done
    | "optgroup" | "option" =>
      if ← currentIs "option" then pop
      insertAndReopen t
    | "rb" | "rtc" =>
      if ← inScope Category.scope "ruby" then impliedEnds Category.impliedEnd
      let _ ← insertElement t
      return .done
    | "rp" | "rt" =>
      if ← inScope Category.scope "ruby" then impliedEndsExcept "rtc"
      let _ ← insertElement t
      return .done
    | "math" => enterForeign .math t
    | "svg" => enterForeign .svg t
    | _ => insertAndReopen t

def endForm : Build Step := do
  if ← isOpen "template" then
    if ← inScope Category.scope "form" then
      impliedEnds Category.impliedEnd
      popUntilTag "form"
  else
    match (← get).form with
    | none => pure ()
    | some id =>
      modify fun b => { b with form := none }
      if ← inScopeThat Category.scope fun i _ => i = id then
        impliedEnds Category.impliedEnd
        removeOpen id
  return .done

def endInBody (name : String) : Build Step := do
  if blockEndTags.contains name then
    if ← inScope Category.scope name then
      impliedEnds Category.impliedEnd
      popUntilTag name
    return .done
  else if formattingTags.contains name then
    endFormatting name
    return .done
  else
    match name with
    | "template" => endTemplate
    | "body" =>
      if ← inScope Category.scope "body" then setMode .afterBody
      return .done
    | "html" =>
      if ← inScope Category.scope "body" then return .again .afterBody else return .done
    | "form" => endForm
    | "p" =>
      unless ← inScope Category.buttonScope "p" do
        let _ ← insertImplied "p"
      closeParagraph
      return .done
    | "li" | "dd" | "dt" =>
      let barrier := if name = "li" then Category.listItemScope else Category.scope
      if ← inScope barrier name then
        impliedEndsExcept name
        popUntilTag name
      return .done
    | "h1" | "h2" | "h3" | "h4" | "h5" | "h6" =>
      if ← inScopeThat Category.scope fun _ n => Category.heading n then
        impliedEnds Category.impliedEnd
        popUntil Category.heading
      return .done
    | "a" | "nobr" =>
      endFormatting name
      return .done
    | "applet" | "marquee" | "object" =>
      if ← inScope Category.scope name then
        impliedEnds Category.impliedEnd
        popUntilTag name
        clearToMarker
      return .done
    | "br" => startVoid { name := "br" }
    | _ =>
      endAny name
      return .done

def inBody (token : Token) : Build Step := do
  match token with
  | .text s blank =>
    reopenFormatting
    unless blank do framesetNotOk
    appendText s
    return .done
  | .comment text =>
    appendComment text
    return .done
  | .startTag t => startInBody t
  | .endTag name => endInBody name
  | .eof => if (← get).templateModes.isEmpty then return .done else eofInTemplate
  | .nul => return .done
  | .doctype _ => return .done

end Codemod.Markup.Build
