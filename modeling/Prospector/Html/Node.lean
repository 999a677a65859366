import Prospector.Html.Builder.Step

/-!
# Parsed documents

A document as a tree of nodes, read from markup. Every text is such a document, because the rules
for building one mend all errors.
-/

namespace Prospector.Html

/-- A node of a parsed document. -/
inductive Node where
  | element (name : Name) (attrs : List Attr) (children : List Node)
  | text (text : String)
  | comment (text : String)
  /-- Nodes without an element of their own: a document, or the content of a template. -/
  | group (children : List Node)
  deriving Repr, Inhabited

namespace Node

/-- The node with a number and all below it, as far as a count of levels allows. -/
def ofTree (t : Tree) : Nat → NodeId → Node
  | 0, _ => .group []
  | levels + 1, id =>
    let n := t.node id
    let children := n.children.toList.map (ofTree t levels)
    match n.kind with
    | .document | .fragment => .group children
    | .element name attrs => .element name attrs children
    | .text s => .text s
    | .comment s => .comment s

/-- The document with the given markup. A tree has no more levels than nodes. -/
def parse (markup : String) : Node :=
  let t := Builder.treeOf markup.toList
  ofTree t t.nodes.size Tree.root

mutual

/-- The elements of a tag at or below a node, in document order. -/
def elementsOf (tag : String) : Node → List Node
  | .element name attrs children =>
    if name.tag = tag then .element name attrs children :: elementsAmong tag children
    else elementsAmong tag children
  | .group children => elementsAmong tag children
  | .text _ | .comment _ => []

/-- The elements of a tag at or below nodes. -/
def elementsAmong (tag : String) : List Node → List Node
  | [] => []
  | n :: rest => n.elementsOf tag ++ elementsAmong tag rest

end

mutual

/-- The texts at or below a node, in document order. -/
def texts : Node → List String
  | .element _ _ children | .group children => textsAmong children
  | .text s => [s]
  | .comment _ => []

/-- The texts at or below nodes. -/
def textsAmong : List Node → List String
  | [] => []
  | n :: rest => n.texts ++ textsAmong rest

end

/-- The attributes of an element. -/
def attrs : Node → List Attr
  | .element _ attrs _ => attrs
  | _ => []

/-- The value of an attribute as it stands in the markup. -/
def rawAttr (n : Node) (name : String) : Option String :=
  (n.attrs.find? fun a => a.space == .plain && a.name == name).map Attr.value

end Node

end Prospector.Html
