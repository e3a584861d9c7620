import Codemod.Markup.Builder.Body

/-!
# Rules for templates, framesets and what follows the body
-/

namespace Codemod.Markup.Build

/-- Goes on inside a template by the rules of another mode. -/
def templateAs (mode : Mode) : Build Step := do
  modify fun b => { b with templateModes := mode :: b.templateModes.drop 1 }
  return .again mode

def inTemplate (token : Token) : Build Step := do
  match token with
  | .text _ _ => inBody token
  | .comment _ => inBody token
  | .startTag t =>
    if headTags.contains t.name then startInHead t
    else
      match t.name with
      | "caption" | "colgroup" | "tbody" | "tfoot" | "thead" => templateAs .inTable
      | "col" => templateAs .inColumnGroup
      | "tr" => templateAs .inTableBody
      | "td" | "th" => templateAs .inRow
      | _ => templateAs .inBody
  | .endTag name => if name = "template" then endTemplate else return .done
  | .eof => eofInTemplate
  | _ => return .done

def afterBody (token : Token) : Build Step := do
  match token with
  | .text _ true => inBody token
  | .comment text =>
    appendCommentTo (← root) text
    return .done
  | .startTag t => if t.name = "html" then mergeRoot t else return .again .inBody
  | .endTag name =>
    if name = "html" then
      if (← get).context.isNone then setMode .afterAfterBody
      return .done
    else return .again .inBody
  | .eof => return .done
  | _ => return .again .inBody

def inFrameset (token : Token) : Build Step := do
  match token with
  | .text s true =>
    appendText s
    return .done
  | .comment text =>
    appendComment text
    return .done
  | .startTag t =>
    match t.name with
    | "html" => mergeRoot t
    | "frameset" =>
      let _ ← insertElement t
      return .done
    | "frame" =>
      let _ ← insertVoid t
      return .done
    | "noframes" => startInHead t
    | _ => return .done
  | .endTag name =>
    if name = "frameset" && (← get).openElements.length ≠ 1 then
      pop
      if (← get).context.isNone && !(← currentIs "frameset") then setMode .afterFrameset
    return .done
  | _ => return .done

def afterFrameset (token : Token) : Build Step := do
  match token with
  | .text s true =>
    appendText s
    return .done
  | .comment text =>
    appendComment text
    return .done
  | .startTag t =>
    match t.name with
    | "html" => mergeRoot t
    | "noframes" => startInHead t
    | _ => return .done
  | .endTag name =>
    if name = "html" then setMode .afterAfterFrameset
    return .done
  | _ => return .done

def afterAfterBody (token : Token) : Build Step := do
  match token with
  | .text _ true => inBody token
  | .comment text =>
    appendCommentTo Draft.documentId text
    return .done
  | .startTag t => if t.name = "html" then mergeRoot t else return .again .inBody
  | .eof => return .done
  | _ => return .again .inBody

def afterAfterFrameset (token : Token) : Build Step := do
  match token with
  | .text _ true => inBody token
  | .comment text =>
    appendCommentTo Draft.documentId text
    return .done
  | .startTag t =>
    match t.name with
    | "html" => mergeRoot t
    | "noframes" => startInHead t
    | _ => return .done
  | _ => return .done

end Codemod.Markup.Build
