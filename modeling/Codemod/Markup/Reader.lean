import Codemod.Markup.Builder.Dispatch
import Codemod.Markup.Token.Lexer
import Codemod.Text.Blank

/-!
# Reading markup

Every source can be read: what is missing is put in, what does not fit is moved or dropped. A
source that begins with a document type or a root tag is a document; any other is a fragment,
read as the content of an element.

## Main definitions

* `isDocument` — which of the two a source is.
* `Tree.parse` — the tree of a source.
-/

namespace Codemod.Markup

/-- Whether a source begins like a document. -/
def isDocument (src : String) : Bool :=
  let s := Text.trimStart src.toList
  startsWithWord "<!doctype".toList s ||
    (startsWithWord "<html".toList s &&
      match s.drop 5 with
      | [] => true
      | c :: _ => c == '>' || c == '/' || isSpace c)

/-- How the content of an element begins. -/
def contentOfTag (tag : String) : Content :=
  match tag with
  | "title" | "textarea" => .rcdata
  | "style" | "xmp" | "iframe" | "noembed" | "noframes" => .rawtext
  | "script" => .script
  | "plaintext" => .plaintext
  | _ => .data

/-- Takes tokens one after the other; the last answer about how to go on counts. -/
def takeAll : List Token → Build (Option Content)
  | [] => return none
  | t :: rest => do
    let content ← Build.take t
    let later ← takeAll rest
    return later.or content

/-- Whether marked sections may stand here. -/
def allowsSections : Build Bool := do
  return (← Build.adjustedName).space ≠ .html

/-- Takes the tokens of a source until it is used up. -/
def run : (fuel : Nat) → Lexer → Build Unit
  | 0, _ => return ()
  | fuel + 1, l => do
    if l.rest.isEmpty then
      let _ ← Build.take .eof
    else
      let (tokens, l) := l.next (← allowsSections)
      let content ← takeAll tokens
      run fuel { l with content := content.getD l.content }

/-- Starts on a fragment that stands in an element. -/
def startFragment (context : String) : Build Unit := do
  modify fun b =>
    { b with
      context := some context
      templateModes := if context = "template" then [.inTemplate] else [] }
  Build.createRoot ∅
  Build.setMode (← Build.resetMode)

/-- The tree of a document. -/
def parseDocument (src : String) : Tree :=
  let l := Lexer.ofSource .data src
  let (_, b) := (run (l.rest.length + 2) l).run {}
  { document := true, nodes := b.draft.nodesBelow (b.draft.cells.size + 1) Draft.documentId }

/-- The tree of a fragment. -/
def parseFragment (context src : String) : Tree :=
  let l := Lexer.ofSource (contentOfTag context) src
  let (_, b) := (do startFragment context; run (l.rest.length + 2) l : Build Unit).run {}
  let root := (b.draft.cell Draft.documentId).children.headD Draft.documentId
  { document := false, nodes := b.draft.nodesBelow (b.draft.cells.size + 1) root }

/-- The tree of a source; `context` is the element that a fragment is read in. -/
def Tree.parse (context src : String) : Tree :=
  if isDocument src then parseDocument src else parseFragment context src

end Codemod.Markup
