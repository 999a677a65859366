/-!
# Tokens of HTML

What markup is cut into before a document tree is built from it.
-/

namespace Prospector.Html

/-- The name and value of an attribute as they stand in a tag. -/
structure TagAttribute where
  name : String
  value : String
  deriving DecidableEq, Repr, Inhabited

/-- A start tag or end tag. -/
structure Tag where
  name : String
  attrs : List TagAttribute := []
  selfClosing : Bool := false
  deriving DecidableEq, Repr, Inhabited

/-- A document type declaration. -/
structure Doctype where
  name : Option String := none
  publicId : Option String := none
  systemId : Option String := none
  /-- Whether the declaration is broken, so that the document counts as written for old browsers. -/
  broken : Bool := false
  deriving DecidableEq, Repr, Inhabited

/-- A token of HTML. -/
inductive Token where
  | doctype (declaration : Doctype)
  | startTag (tag : Tag)
  | endTag (tag : Tag)
  | comment (text : String)
  | text (text : String)
  /-- A character U+0000 where text may stand. -/
  | nul
  /-- An error in the markup that leaves no other trace. -/
  | flaw
  deriving DecidableEq, Repr, Inhabited

/-- What kind of content the markup holds at a place. -/
inductive Content where
  /-- Text, tags and comments. -/
  | markup
  /-- Text with character references, up to the end tag with the given name. -/
  | escapableText (tag : String)
  /-- Text as it stands, up to the end tag with the given name. -/
  | rawText (tag : String)
  /-- A script, up to its end tag. -/
  | script
  /-- Text as it stands, up to the end of the document. -/
  | plainText
  deriving DecidableEq, Repr, Inhabited

/-- The value of the first attribute with a name. -/
def Tag.attr? (t : Tag) (name : String) : Option String :=
  (t.attrs.find? fun a => a.name == name).map TagAttribute.value

end Prospector.Html
