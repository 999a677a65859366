import Prospector.Html.Tree

/-!
# Names of foreign elements

Tags are written without regard to case, but the elements and attributes of SVG and MathML have
names with capital letters, and some of their attributes belong to other languages. This module
gives back the proper names.
-/

namespace Prospector.Html.Foreign

/-- The proper name among the given ones that a name in lower case stands for; a name that stands
for none of them is proper itself. -/
def properName (proper : List String) (name : String) : String :=
  (proper.find? fun p => String.ofList (p.toList.map Char.toLower) == name).getD name

/-- The SVG elements with capital letters in their names. -/
def svgTags : List String :=
  ["altGlyph", "altGlyphDef", "altGlyphItem", "animateColor", "animateMotion", "animateTransform",
    "clipPath", "feBlend", "feColorMatrix", "feComponentTransfer", "feComposite",
    "feConvolveMatrix", "feDiffuseLighting", "feDisplacementMap", "feDistantLight", "feDropShadow",
    "feFlood", "feFuncA", "feFuncB", "feFuncG", "feFuncR", "feGaussianBlur", "feImage", "feMerge",
    "feMergeNode", "feMorphology", "feOffset", "fePointLight", "feSpecularLighting", "feSpotLight",
    "feTile", "feTurbulence", "foreignObject", "glyphRef", "linearGradient", "radialGradient",
    "textPath"]

/-- The SVG attributes with capital letters in their names. -/
def svgAttrs : List String :=
  ["attributeName", "attributeType", "baseFrequency", "baseProfile", "calcMode", "clipPathUnits",
    "diffuseConstant", "edgeMode", "filterUnits", "glyphRef", "gradientTransform", "gradientUnits",
    "kernelMatrix", "kernelUnitLength", "keyPoints", "keySplines", "keyTimes", "lengthAdjust",
    "limitingConeAngle", "markerHeight", "markerUnits", "markerWidth", "maskContentUnits",
    "maskUnits", "numOctaves", "pathLength", "patternContentUnits", "patternTransform",
    "patternUnits", "pointsAtX", "pointsAtY", "pointsAtZ", "preserveAlpha", "preserveAspectRatio",
    "primitiveUnits", "refX", "refY", "repeatCount", "repeatDur", "requiredExtensions",
    "requiredFeatures", "specularConstant", "specularExponent", "spreadMethod", "startOffset",
    "stdDeviation", "stitchTiles", "surfaceScale", "systemLanguage", "tableValues", "targetX",
    "targetY", "textLength", "viewBox", "viewTarget", "xChannelSelector", "yChannelSelector",
    "zoomAndPan"]

/-- The MathML attributes with capital letters in their names. -/
def mathmlAttrs : List String :=
  ["definitionURL"]

/-- The attributes of other languages, by the name that they are written with. -/
def prefixedAttrs : List (String × AttrSpace × String) :=
  [("xlink:actuate", .xlink, "actuate"), ("xlink:arcrole", .xlink, "arcrole"),
    ("xlink:href", .xlink, "href"), ("xlink:role", .xlink, "role"), ("xlink:show", .xlink, "show"),
    ("xlink:title", .xlink, "title"), ("xlink:type", .xlink, "type"), ("xml:base", .xml, "base"),
    ("xml:lang", .xml, "lang"), ("xml:space", .xml, "space"), ("xmlns", .xmlns, "xmlns"),
    ("xmlns:xlink", .xmlns, "xlink")]

/-- An attribute of an element of a language, under its proper name. -/
def attr (space : Space) (a : TagAttribute) : Attr :=
  match prefixedAttrs.find? (·.1 == a.name) with
  | some (_, attrSpace, name) => ⟨attrSpace, name, a.value⟩
  | none =>
    let name :=
      match space with
      | .svg => properName svgAttrs a.name
      | .mathml => properName mathmlAttrs a.name
      | .html => a.name
    ⟨.plain, name, a.value⟩

/-- The proper name of an element of a language. -/
def tag (space : Space) (name : String) : String :=
  match space with
  | .svg => properName svgTags name
  | _ => name

end Prospector.Html.Foreign
