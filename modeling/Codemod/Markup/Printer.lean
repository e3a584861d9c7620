import Codemod.Markup.Tree

/-!
# Writing markup

The text form of a tree. An element that never has content gets no end tag, and what stands in an
element whose content is no markup is written as it is.
-/

namespace Codemod.Markup

/-- Elements that have neither content nor an end tag. -/
def voidTags : List String :=
  ["area", "base", "basefont", "bgsound", "br", "col", "embed", "frame", "hr", "img", "input",
    "keygen", "link", "meta", "param", "source", "track", "wbr"]

/-- Elements whose text is not markup. -/
def rawTextTags : List String :=
  ["style", "script", "xmp", "iframe", "noembed", "noframes", "plaintext", "noscript"]

def Name.isHtml (n : Name) (tags : List String) : Bool :=
  n.space == .html && tags.contains n.tag

def escapeTextChar (c : Char) : List Char :=
  if c = '&' then "&amp;".toList
  else if c = '\u00a0' then "&nbsp;".toList
  else if c = '<' then "&lt;".toList
  else if c = '>' then "&gt;".toList
  else [c]

def escapeValueChar (c : Char) : List Char :=
  if c = '&' then "&amp;".toList
  else if c = '\u00a0' then "&nbsp;".toList
  else if c = '\x22' then "&quot;".toList
  else [c]

def escapeText (s : String) : String :=
  String.ofList (s.toList.flatMap escapeTextChar)

def escapeValue (s : String) : String :=
  String.ofList (s.toList.flatMap escapeValueChar)

/-- An attribute's name as it is written. -/
def Attribute.writtenName (a : Attribute) : String :=
  match a.space with
  | .plain => a.name
  | .xml => "xml:" ++ a.name
  | .xlink => "xlink:" ++ a.name
  | .xmlns => if a.name = "xmlns" then a.name else "xmlns:" ++ a.name

def Attribute.render (a : Attribute) : String :=
  " " ++ a.writtenName ++ "=\"" ++ escapeValue a.value ++ "\""

def startTagText (name : Name) (attributes : List Attribute) : String :=
  "<" ++ name.tag ++ String.join (attributes.map Attribute.render) ++ ">"

mutual

/-- The text of a node; `raw` if it stands in an element whose text is not markup. -/
def Node.render (raw : Bool) : Node → String
  | .doctype name => "<!DOCTYPE " ++ name ++ ">"
  | .comment text => "<!--" ++ text ++ "-->"
  | .text text => if raw then text else escapeText text
  | .element name attributes children =>
    if name.isHtml voidTags then startTagText name attributes
    else
      startTagText name attributes ++ renderAll (name.isHtml rawTextTags) children ++
        "</" ++ name.tag ++ ">"

def renderAll (raw : Bool) : List Node → String
  | [] => ""
  | n :: rest => n.render raw ++ renderAll raw rest

end

def Tree.render (t : Tree) : String :=
  renderAll false t.nodes

end Codemod.Markup
