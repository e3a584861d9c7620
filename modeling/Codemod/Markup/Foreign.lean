import Codemod.Markup.Category
import Codemod.Markup.Token

/-!
# Drawings and formulas

Names in a drawing or a formula are spelt with capitals that a tag's name has lost, and some of
their attributes belong to vocabularies of their own.
-/

namespace Codemod.Markup.Foreign

/-- The tags of drawings that are not in lower case. -/
def svgTags : List String :=
  ["altGlyph", "altGlyphDef", "altGlyphItem", "animateColor", "animateMotion", "animateTransform",
    "clipPath", "feBlend", "feColorMatrix", "feComponentTransfer", "feComposite",
    "feConvolveMatrix", "feDiffuseLighting", "feDisplacementMap", "feDistantLight", "feDropShadow",
    "feFlood", "feFuncA", "feFuncB", "feFuncG", "feFuncR", "feGaussianBlur", "feImage", "feMerge",
    "feMergeNode", "feMorphology", "feOffset", "fePointLight", "feSpecularLighting", "feSpotLight",
    "feTile", "feTurbulence", "foreignObject", "glyphRef", "linearGradient", "radialGradient",
    "textPath"]

/-- The attributes of drawings that are not in lower case. -/
def svgAttributes : List String :=
  ["attributeName", "attributeType", "baseFrequency", "baseProfile", "calcMode", "clipPathUnits",
    "diffuseConstant", "edgeMode", "filterUnits", "glyphRef", "gradientTransform", "gradientUnits",
    "kernelMatrix", "kernelUnitLength", "keyPoints", "keySplines", "keyTimes", "lengthAdjust",
    "limitingConeAngle", "markerHeight", "markerUnits", "markerWidth", "maskContentUnits",
    "maskUnits", "numOctaves", "pathLength", "patternContentUnits", "patternTransform",
    "patternUnits", "pointsAtX", "pointsAtY", "pointsAtZ", "preserveAlpha", "preserveAspectRatio",
    "primitiveUnits", "refX", "refY", "repeatCount", "repeatDur", "requiredExtensions",
    "requiredFeatures", "specularConstant", "specularExponent", "spreadMethod", "startOffset",
    "stdDeviation", "stitchTiles", "surfaceScale", "systemLanguage", "tableValues", "targetX",
    "targetY", "textLength", "viewBox", "viewTarget", "xChannelSelector", "yChannelSelector",
    "zoomAndPan"]

def mathAttributes : List String :=
  ["definitionURL"]

/-- The spelling among `names` that is `s` in lower case, else `s`. -/
def respell (names : List String) (s : String) : String :=
  (names.find? fun n => lower n.toList = s.toList).getD s

/-- The attributes of a vocabulary that are not in lower case. -/
def attributeNames : Space → List String
  | .html => []
  | .svg => svgAttributes
  | .math => mathAttributes

/-- The vocabulary and the name of an attribute that is written with one. -/
def attributeSpace (name : String) : AttributeSpace × String :=
  match name with
  | "xlink:actuate" => (.xlink, "actuate")
  | "xlink:arcrole" => (.xlink, "arcrole")
  | "xlink:href" => (.xlink, "href")
  | "xlink:role" => (.xlink, "role")
  | "xlink:show" => (.xlink, "show")
  | "xlink:title" => (.xlink, "title")
  | "xlink:type" => (.xlink, "type")
  | "xml:lang" => (.xml, "lang")
  | "xml:space" => (.xml, "space")
  | "xmlns" => (.xmlns, "xmlns")
  | "xmlns:xlink" => (.xmlns, "xlink")
  | name => (.plain, name)

/-- An attribute in its vocabulary, if it can be spelt like one of `names`. -/
def placeAttribute (names : List String) (a : Attribute) : Attribute :=
  let (space, name) := attributeSpace (respell names a.name)
  { a with space, name }

theorem lower_respell {names : List String} {s : String} (hs : lower s.toList = s.toList) :
    lower (respell names s).toList = s.toList := by
  rw [respell]
  cases hfind : names.find? fun n => lower n.toList = s.toList with
  | none => simpa using hs
  | some n => simpa using List.find?_some hfind

theorem writtenName_attributeSpace (s v : String) :
    Attribute.writtenName ⟨(attributeSpace s).1, (attributeSpace s).2, v⟩ = s := by
  unfold attributeSpace
  split <;> rfl

/-- A tag's attribute can be told from the name that it is written with. -/
theorem lower_writtenName_placeAttribute {names : List String} {a : Attribute}
    (ha : lower a.name.toList = a.name.toList) :
    lower (placeAttribute names a).writtenName.toList = a.name.toList := by
  have hwritten := writtenName_attributeSpace (respell names a.name) a.value
  rw [placeAttribute, hwritten, lower_respell ha]

/-- The attributes of an element of the given vocabulary. -/
def attributes (space : Space) (l : TagAttributes) : Attributes where
  list := l.list.map (placeAttribute (attributeNames space))
  distinct := by
    rw [List.Nodup, List.map_map, List.pairwise_map]
    refine (List.pairwise_map.mp l.distinct).imp_of_mem fun {a b} ha hb hne heq => hne ?_
    obtain ⟨hspace, hname⟩ := Prod.mk.inj heq
    have hwritten : (placeAttribute (attributeNames space) a).writtenName =
        (placeAttribute (attributeNames space) b).writtenName := by
      simp only [Attribute.writtenName, hspace, hname]
    have hlower := congrArg (lower ·.toList) hwritten
    rw [lower_writtenName_placeAttribute (l.lowered a ha),
      lower_writtenName_placeAttribute (l.lowered b hb), String.toList_inj] at hlower
    rw [Attribute.key, Attribute.key, l.plain a ha, l.plain b hb, hlower]

/-- The tag of an element inside a drawing or a formula. -/
def tag (space : Space) (s : String) : String :=
  match space with
  | .svg => respell svgTags s
  | _ => s

/-- Start tags that cannot stand in a drawing or a formula and end it. -/
def breakoutTags : List String :=
  ["b", "big", "blockquote", "body", "br", "center", "code", "dd", "div", "dl", "dt", "em", "embed",
    "h1", "h2", "h3", "h4", "h5", "h6", "head", "hr", "i", "img", "li", "listing", "menu", "meta",
    "nobr", "ol", "p", "pre", "ruby", "s", "small", "span", "strong", "strike", "sub", "sup",
    "table", "tt", "u", "ul", "var"]

/-- A font element ends a drawing or a formula only if it says something about the font. -/
def isBreakout (t : Tag) : Bool :=
  breakoutTags.contains t.name ||
    (t.name == "font" && t.attributes.list.any fun a => ["color", "face", "size"].contains a.name)

/-- An annotation of a formula whose content is markup. -/
def isMarkupAnnotation (attributes : List Attribute) : Bool :=
  attributes.any fun a =>
    a.name = "encoding" &&
      ["text/html", "application/xhtml+xml"].contains (String.ofList (lower a.value.toList))

end Codemod.Markup.Foreign
