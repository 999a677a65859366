import Prospector.Text.Blank

/-!
# Documents

What detection rules see of a page: the elements of each tag in document order, and of an element
its attributes, its text and its markup. Any function from tags to elements is a document, so rules
can be run on parsed pages and on hand-made ones alike.
-/

namespace Prospector

/-- The attributes whose value is a list of blank-separated tokens. -/
def tokenListAttributes : List String :=
  ["class", "rel", "rev", "accept-charset", "headers", "accesskey", "dropzone"]

/-- Whether an attribute's value is a list of tokens. -/
def isTokenList (name : String) : Bool :=
  tokenListAttributes.contains name

/-- An element of a document. -/
structure Element where
  /-- The value of the attribute with the given name. -/
  attr : String → Option String
  /-- The texts inside the element, in document order. -/
  chunks : List String
  /-- The element written as markup, its own tag included. -/
  markup : String
  deriving Inhabited

namespace Element

/-- All text inside an element. -/
def text (e : Element) : String :=
  String.join e.chunks

/-- Texts trimmed one by one, those that are blank left out, the others joined by single spaces. -/
def normalize (chunks : List String) : String :=
  " ".intercalate ((chunks.map Text.trim).filter fun s => !s.isEmpty)

/-- The text inside an element without regard to layout. -/
def normalizedText (e : Element) : String :=
  normalize e.chunks

/-- Whether a token-list attribute has a token equal to `value`. -/
def hasToken (e : Element) (name value : String) : Bool :=
  isTokenList name &&
    match e.attr name with
    | some tokens => (Text.words tokens).contains value
    | none => false

end Element

/-- A document, as the elements of each tag in document order. -/
structure Document where
  elements : String → List Element
  deriving Inhabited

end Prospector
