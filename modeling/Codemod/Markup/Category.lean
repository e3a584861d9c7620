import Codemod.Markup.Printer

/-!
# Kinds of elements

The sets of elements that the rules for building a tree speak of.
-/

namespace Codemod.Markup

def Name.html (tag : String) : Name :=
  ⟨.html, tag⟩

/-- A set of elements. -/
abbrev Category := Name → Bool

namespace Category

def ofTags (tags : List String) : Category :=
  fun n => n.isHtml tags

/-- Elements of formulas whose content is text. -/
def mathText : Category :=
  fun n => n.space == .math && ["mi", "mo", "mn", "ms", "mtext"].contains n.tag

/-- Elements of drawings whose content is markup again. -/
def svgMarkup : Category :=
  fun n => n.space == .svg && ["foreignObject", "desc", "title"].contains n.tag

/-! ## Scopes: what an element is not looked for beyond -/

def scope : Category :=
  fun n =>
    n.isHtml ["applet", "caption", "html", "table", "td", "th", "marquee", "object", "template"] ||
      mathText n || svgMarkup n

def listItemScope : Category :=
  fun n => scope n || n.isHtml ["ol", "ul"]

def buttonScope : Category :=
  fun n => scope n || n.isHtml ["button"]

def tableScope : Category :=
  ofTags ["html", "table", "template"]

def selectScope : Category :=
  fun n => !n.isHtml ["optgroup", "option"]

def tableBodyContext : Category :=
  ofTags ["tbody", "tfoot", "thead", "template", "html"]

def tableRowContext : Category :=
  ofTags ["tr", "template", "html"]

/-! ## Roles -/

def cell : Category :=
  ofTags ["td", "th"]

/-- Elements that hold no text of their own and hand it to the place before the table. -/
def tableStructure : Category :=
  ofTags ["table", "tbody", "tfoot", "thead", "tr"]

def heading : Category :=
  ofTags ["h1", "h2", "h3", "h4", "h5", "h6"]

def impliedEndTags : List String :=
  ["dd", "dt", "li", "option", "optgroup", "p", "rb", "rp", "rt", "rtc"]

/-- Elements whose end tag may be left out. -/
def impliedEnd : Category :=
  ofTags impliedEndTags

/-- The same with the parts of a table. -/
def impliedEndThorough : Category :=
  ofTags (impliedEndTags ++ ["caption", "colgroup", "tbody", "td", "tfoot", "th", "thead", "tr"])

/-- Elements with rules of their own, which an end tag of another does not close. -/
def special : Category :=
  ofTags
    ["address", "applet", "area", "article", "aside", "base", "basefont", "bgsound", "blockquote",
      "body", "br", "button", "caption", "center", "col", "colgroup", "dd", "details", "dir", "div",
      "dl", "dt", "embed", "fieldset", "figcaption", "figure", "footer", "form", "frame",
      "frameset", "h1", "h2", "h3", "h4", "h5", "h6", "head", "header", "hgroup", "hr", "html",
      "iframe", "img", "input", "isindex", "li", "link", "listing", "main", "marquee", "menu",
      "meta", "nav", "noembed", "noframes", "noscript", "object", "ol", "p", "param", "plaintext",
      "pre", "script", "section", "select", "source", "style", "summary", "table", "tbody", "td",
      "template", "textarea", "tfoot", "th", "thead", "title", "tr", "track", "ul", "wbr", "xmp"]

/-- Special elements that an item of a list does not reach across. -/
def itemBarrier : Category :=
  fun n => special n && !n.isHtml ["address", "div", "p"]

end Category

end Codemod.Markup
