import Prospector.Html.Token

/-!
# Trees under construction

The nodes of a document while it is built from markup. Nodes are numbered as they are made; each
knows its parent and its children, so that a node can be moved, and text can be joined to the text
that already stands at its place. The content of a `template` element hangs below a node of its own.
-/

namespace Prospector.Html

/-- The language that an element belongs to. -/
inductive Space where
  | html
  | svg
  | mathml
  deriving DecidableEq, Repr, Inhabited

/-- The name of an element. -/
structure Name where
  space : Space := .html
  tag : String
  deriving DecidableEq, Repr, Inhabited

/-- The languages whose attributes have a prefix in markup. -/
inductive AttrSpace where
  | plain
  | xlink
  | xml
  | xmlns
  deriving DecidableEq, Repr, Inhabited

/-- An attribute of an element. -/
structure Attr where
  space : AttrSpace := .plain
  name : String
  value : String
  deriving DecidableEq, Repr, Inhabited

/-- What a node is. -/
inductive NodeKind where
  | document
  | element (name : Name) (attrs : List Attr)
  | text (text : String)
  | comment (text : String)
  /-- What the content of a `template` element hangs below. -/
  | fragment
  deriving Repr, Inhabited

/-- The number of a node. -/
abbrev NodeId := Nat

/-- A node and its place. -/
structure TreeNode where
  kind : NodeKind
  parent : Option NodeId := none
  children : Array NodeId := #[]
  deriving Repr, Inhabited

/-- The nodes made so far. -/
structure Tree where
  nodes : Array TreeNode
  deriving Repr, Inhabited

namespace Tree

/-- The number of the document node. -/
def root : NodeId := 0

/-- A tree of nothing but the document node. -/
def empty : Tree :=
  ⟨#[⟨.document, none, #[]⟩]⟩

/-- The node with a number. -/
def node (t : Tree) (id : NodeId) : TreeNode :=
  t.nodes.getD id ⟨.fragment, none, #[]⟩

/-- The name of an element; other nodes have none. -/
def name? (t : Tree) (id : NodeId) : Option Name :=
  match (t.node id).kind with
  | .element name _ => some name
  | _ => none

/-- The tree with a node changed. -/
def modify (t : Tree) (id : NodeId) (f : TreeNode → TreeNode) : Tree :=
  ⟨t.nodes.modify id f⟩

/-- Makes a node that has no place yet. -/
def add (t : Tree) (kind : NodeKind) : NodeId × Tree :=
  (t.nodes.size, ⟨t.nodes.push ⟨kind, none, #[]⟩⟩)

/-- Takes a node from its place. -/
def detach (t : Tree) (id : NodeId) : Tree :=
  match (t.node id).parent with
  | none => t
  | some parent =>
    (t.modify parent fun n => { n with children := n.children.filter (· != id) }).modify id
      fun n => { n with parent := none }

/-- Makes a node the last child of another one. -/
def append (t : Tree) (parent id : NodeId) : Tree :=
  ((t.detach id).modify parent fun n => { n with children := n.children.push id }).modify id
    fun n => { n with parent := some parent }

/-- Puts a node right before a node that has a parent. -/
def insertBefore (t : Tree) (sibling id : NodeId) : Tree :=
  let t := t.detach id
  match (t.node sibling).parent with
  | none => t
  | some parent =>
    let place (n : TreeNode) : TreeNode :=
      let before := n.children.takeWhile (· != sibling)
      { n with children := before ++ #[id] ++ n.children.extract before.size n.children.size }
    (t.modify parent place).modify id fun n => { n with parent := some parent }

/-- Whether a node is text. -/
def isText (t : Tree) (id : NodeId) : Bool :=
  match (t.node id).kind with
  | .text _ => true
  | _ => false

/-- Adds to the text of a text node. -/
def extendText (t : Tree) (id : NodeId) (more : String) : Tree :=
  t.modify id fun n =>
    match n.kind with
    | .text s => { n with kind := .text (s ++ more) }
    | _ => n

/-- Puts text behind the last child of a node, joined to it if it is text. -/
def appendText (t : Tree) (parent : NodeId) (s : String) : Tree :=
  match (t.node parent).children.back? with
  | some last =>
    if t.isText last then t.extendText last s
    else
      let (id, t) := t.add (.text s)
      t.append parent id
  | none =>
    let (id, t) := t.add (.text s)
    t.append parent id

/-- The child right before a node. -/
def previousSibling (t : Tree) (id : NodeId) : Option NodeId :=
  match (t.node id).parent with
  | none => none
  | some parent => ((t.node parent).children.takeWhile (· != id)).back?

/-- Puts text right before a node that has a parent, joined to the text that stands there. -/
def insertTextBefore (t : Tree) (sibling : NodeId) (s : String) : Tree :=
  match t.previousSibling sibling with
  | some previous =>
    if t.isText previous then t.extendText previous s
    else
      let (id, t) := t.add (.text s)
      t.insertBefore sibling id
  | none =>
    let (id, t) := t.add (.text s)
    t.insertBefore sibling id

/-- Moves all children of a node behind the children of another one. -/
def moveChildren (t : Tree) (source target : NodeId) : Tree :=
  (t.node source).children.foldl (fun t child => t.append target child) t

/-- Adds the attributes that an element does not have yet. -/
def addMissing (t : Tree) (id : NodeId) (attrs : List Attr) : Tree :=
  t.modify id fun n =>
    match n.kind with
    | .element name present =>
      { n with kind := .element name (attrs.foldl (fun all a =>
          if all.any (fun b => b.name == a.name && b.space == a.space) then all
          else all ++ [a]) present) }
    | _ => n

end Tree

end Prospector.Html
