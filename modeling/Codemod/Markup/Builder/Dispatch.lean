import Codemod.Markup.Builder.Outer
import Codemod.Markup.Builder.Select
import Codemod.Markup.Builder.Table

/-!
# Taking a token

A token is taken by the rules of the present mode, or, inside of a drawing or a formula, by rules
that hold there.

## Main definitions

* `Build.byMode` — the rules of a mode.
* `Build.byForeign` — the rules of drawings and formulas.
* `Build.take` — all that a token brings about.
-/

namespace Codemod.Markup.Build

/-- Inside of an element whose content is not markup. -/
def inText (token : Token) : Build Step := do
  match token with
  | .text s _ =>
    appendText s
    return .done
  | .eof =>
    pop
    return .again (← get).originalMode
  | .endTag _ =>
    pop
    setMode (← get).originalMode
    return .done
  | _ => return .done

def byMode (mode : Mode) (token : Token) : Build Step :=
  match mode with
  | .initial => initial token
  | .beforeHtml => beforeHtml token
  | .beforeHead => beforeHead token
  | .inHead => inHead token
  | .afterHead => afterHead token
  | .inBody => inBody token
  | .text => inText token
  | .inTable => inTable token
  | .inTableText => inTableText token
  | .inCaption => inCaption token
  | .inColumnGroup => inColumnGroup token
  | .inTableBody => inTableBody token
  | .inRow => inRow token
  | .inCell => inCell token
  | .inSelect => inSelect token
  | .inSelectInTable => inSelectInTable token
  | .inTemplate => inTemplate token
  | .afterBody => afterBody token
  | .inFrameset => inFrameset token
  | .afterFrameset => afterFrameset token
  | .afterAfterBody => afterAfterBody token
  | .afterAfterFrameset => afterAfterFrameset token

/-! ## Drawings and formulas -/

/-- Whether a token is to be taken by the rules of drawings and formulas. -/
def isForeign (token : Token) : Build Bool := do
  let b ← get
  let name ← adjustedName
  let isText :=
    match token with
    | .text _ _ => true
    | .nul => true
    | _ => false
  if name.space = .html || b.openElements.isEmpty then return false
  match token with
  | .eof => return false
  | .startTag t =>
    if Category.mathText name && t.name ≠ "mglyph" && t.name ≠ "malignmark" then return false
    else if Category.svgMarkup name then return false
    else if name = ⟨.math, "annotation-xml"⟩ then
      return t.name ≠ "svg" && !Foreign.isMarkupAnnotation (b.draft.attributes (← current))
    else return true
  | _ =>
    if isText && (Category.mathText name || Category.svgMarkup name) then return false
    else if isText && name = ⟨.math, "annotation-xml"⟩ then
      return !Foreign.isMarkupAnnotation (b.draft.attributes (← current))
    else return true

/-- Whether markup may stand directly inside an element. -/
def holdsMarkup : Category :=
  fun n => n.space == .html || Category.mathText n || Category.svgMarkup n

/-- A tag that ends the drawing or the formula. -/
def breakOut (token : Token) : Build Step := do
  popBackTo holdsMarkup
  byMode (← get).mode token

/-- What an end tag means among the open elements, innermost first: the elements that stay open,
or nothing if it is for the rules outside. The root is never closed. -/
def foreignEnd (b : Builder) (name : String) (first : Bool) : List CellId → Option (List CellId)
  | [] => some b.openElements
  | [_] => some b.openElements
  | id :: rest =>
    let n := (b.draft.name? id).getD ⟨.html, ""⟩
    if !first && n.space == .html then none
    else if lower n.tag.toList == name.toList then some rest
    else foreignEnd b name false rest

def byForeign (token : Token) : Build Step := do
  match token with
  | .nul =>
    appendText "\uFFFD"
    return .done
  | .text s blank =>
    unless blank do framesetNotOk
    appendText s
    return .done
  | .comment text =>
    appendComment text
    return .done
  | .startTag t =>
    if Foreign.isBreakout t then breakOut token
    else
      let space := (← adjustedName).space
      insertForeign space { t with name := Foreign.tag space t.name }
  | .endTag name =>
    if name = "br" || name = "p" then breakOut token
    else
      let b ← get
      match foreignEnd b name true b.openElements with
      | some openElements =>
        set { b with openElements }
        return .done
      | none => byMode b.mode token
  | _ => return .done

/-! ## Tokens -/

/-- Takes a token until no rule hands it on, at most `fuel` times. The answer is how to go on with
the source, if that changes. -/
def takeTimes (token : Token) : (fuel : Nat) → Build (Option Content)
  | 0 => return none
  | fuel + 1 => do
    let step ← if ← isForeign token then byForeign token else byMode (← get).mode token
    match step with
    | .done => return none
    | .switch content => return some content
    | .again mode =>
      setMode mode
      takeTimes token fuel

/-- Every rule that hands a token on moves towards the body or closes an element. -/
def take (token : Token) : Build (Option Content) := do
  let b ← get
  set { b with ignoreBreak := false }
  let fuel := 32 + 8 * b.openElements.length
  match token with
  | .doctype d =>
    let _ ← doctype d
    return none
  | .text s blank =>
    match b.ignoreBreak, s.toList with
    | true, '\n' :: rest =>
      if rest.isEmpty then return none else takeTimes (.text (String.ofList rest) blank) fuel
    | _, _ => takeTimes token fuel
  | _ => takeTimes token fuel

end Codemod.Markup.Build
