import Prospector.Document
import Prospector.Html.Node

/-!
# Written markup, and documents as rules see them

A node written as markup. Text and attribute values have their special characters replaced by
references, except text inside the elements whose content is taken as it stands. Elements that never
have content have no end tag.

In what order attributes are written is not laid down anywhere. Here it is the order in which they
stand in the markup that was read, which is a choice of this library.
-/

namespace Prospector.Html

/-- A character of an attribute value. -/
def escapeValueChar (c : Char) : List Char :=
  if c = '&' then ['&', 'a', 'm', 'p', ';']
  else if c = '\u00a0' then ['&', 'n', 'b', 's', 'p', ';']
  else if c = '"' then ['&', 'q', 'u', 'o', 't', ';']
  else [c]

/-- A character of text. -/
def escapeTextChar (c : Char) : List Char :=
  if c = '&' then ['&', 'a', 'm', 'p', ';']
  else if c = '\u00a0' then ['&', 'n', 'b', 's', 'p', ';']
  else if c = '<' then ['&', 'l', 't', ';']
  else if c = '>' then ['&', 'g', 't', ';']
  else [c]

/-- The elements whose text is written as it stands. -/
def rawTextTags : List String :=
  ["style", "script", "xmp", "iframe", "noembed", "noframes", "plaintext"]

/-- The elements that never have content. -/
def voidTags : List String :=
  ["area", "base", "basefont", "bgsound", "br", "col", "embed", "frame", "hr", "img", "input",
    "keygen", "link", "meta", "param", "source", "track", "wbr"]

/-- What stands before the name of an attribute of a language. -/
def Attr.lead (a : Attr) : String :=
  match a.space with
  | .plain => ""
  | .xlink => "xlink:"
  | .xml => "xml:"
  | .xmlns => if a.name = "xmlns" then "" else "xmlns:"

/-- A written attribute, with the space before it. -/
def Attr.written (a : Attr) : String :=
  " " ++ a.lead ++ a.name ++ "=\"" ++ String.ofList (a.value.toList.flatMap escapeValueChar) ++ "\""

namespace Node

mutual

/-- A written node; `raw` says whether text is written as it stands. -/
def written (raw : Bool) : Node → String
  | .text s => if raw then s else String.ofList (s.toList.flatMap escapeTextChar)
  | .comment s => "<!--" ++ s ++ "-->"
  | .group children => writtenAmong raw children
  | .element name attrs children =>
    let start := "<" ++ name.tag ++ String.join (attrs.map Attr.written) ++ ">"
    if TagSet.among voidTags name then start
    else
      start ++ writtenAmong (TagSet.among rawTextTags name) children ++ "</" ++ name.tag ++ ">"

/-- Written nodes, one after the other. -/
def writtenAmong (raw : Bool) : List Node → String
  | [] => ""
  | n :: rest => n.written raw ++ writtenAmong raw rest

end

/-- A node written as markup. -/
def markup (n : Node) : String :=
  n.written false

/-- The value of an attribute; the tokens of a list are put one space apart. -/
def attr (n : Node) (name : String) : Option String :=
  (n.rawAttr name).map fun value => if isTokenList name then Text.singleSpaced value else value

/-- An element as rules see it. -/
def toElement (n : Node) : Element where
  attr := n.attr
  chunks := n.texts
  markup := n.markup

/-- A document as rules see it. -/
def toDocument (n : Node) : Document :=
  ⟨fun tag => (n.elementsOf tag).map toElement⟩

end Node

/-- The document with the given markup, as rules see it. -/
def document (markup : String) : Document :=
  (Node.parse markup).toDocument

end Prospector.Html
