import Prospector.Html.Foreign
import Prospector.Html.TagSet

/-!
# The state of building a document

A document tree is built token by token. Next to the tree there is a stack of the elements that are
open, a list of the formatting elements that have to be opened again where their end was forgotten,
and the insertion mode, which says what the next token means. This module holds that state and the
operations that do not depend on the mode: looking for elements on the stack, closing them, and
finding the place for what comes next.
-/

namespace Prospector.Html

/-- What the next token means. -/
inductive Mode where
  | initial
  | beforeHtml
  | beforeHead
  | inHead
  | afterHead
  | inBody
  | text
  | inTable
  | inTableText
  | inCaption
  | inColumnGroup
  | inTableBody
  | inRow
  | inCell
  | inSelect
  | inSelectInTable
  | inTemplate
  | afterBody
  | inFrameset
  | afterFrameset
  | afterAfterBody
  | afterAfterFrameset
  deriving DecidableEq, Repr, Inhabited

/-- A token as the rules of the modes take it. Text comes in runs that are blank or hold no blanks
at all. -/
inductive Item where
  | start (tag : Tag)
  | close (tag : Tag)
  | comment (text : String)
  | text (blank : Bool) (text : String)
  | nul
  | finish
  deriving DecidableEq, Repr, Inhabited

/-- A formatting element that may have to be opened again, or a mark that bounds such elements. -/
inductive Format where
  | element (id : NodeId) (tag : Tag)
  | mark
  deriving DecidableEq, Repr, Inhabited

/-- The state of building a document. -/
structure Builder where
  tree : Tree := .empty
  mode : Mode := .initial
  /-- The elements that are open, the innermost first. -/
  stack : List NodeId := []
  /-- The formatting elements, the latest first. -/
  formats : List Format := []
  /-- The mode to go back to behind text. -/
  resume : Mode := .initial
  /-- The modes of the templates that are open, the innermost first. -/
  templates : List Mode := []
  head : Option NodeId := none
  form : Option NodeId := none
  /-- Whether a frameset may still take the place of the body. -/
  framesetOk : Bool := true
  /-- Whether content is moved out of tables. -/
  fostering : Bool := false
  /-- Whether a line feed at the start of the next token is left out. -/
  dropsLineFeed : Bool := false
  /-- Whether the document is written for old browsers. -/
  forOldBrowsers : Bool := false
  /-- The text that stands directly in a table, the last run first. -/
  tableText : List (Bool × String) := []
  /-- The kind of content that the next markup holds. -/
  content : Content := .markup
  deriving Repr, Inhabited

/-- What a rule made of a token: it is dealt with, or the rules of the mode that the builder is in
now have to deal with it. -/
inductive Verdict where
  | done
  | again
  deriving DecidableEq, Repr, Inhabited

/-- A builder after a rule, and what the rule made of the token. -/
abbrev Outcome := Builder × Verdict

namespace Builder

/-- The token is dealt with. -/
def done (b : Builder) : Outcome := (b, .done)

/-- The rules of another mode have to deal with the token. -/
def retry (b : Builder) (mode : Mode) : Outcome := ({ b with mode }, .again)

/-! ## Names -/

/-- The name of a node, which is the empty name if it is no element. -/
def name (b : Builder) (id : NodeId) : Name :=
  (b.tree.name? id).getD ⟨.html, ""⟩

/-- Whether a node is the HTML element of a tag. -/
def isHtml (b : Builder) (tag : String) (id : NodeId) : Bool :=
  b.name id == ⟨.html, tag⟩

/-- The innermost open element. -/
def current (b : Builder) : NodeId :=
  b.stack.headD Tree.root

/-- The root element. -/
def rootElement (b : Builder) : NodeId :=
  b.stack.getLastD Tree.root

/-- Whether the name of the innermost open element is in a set. -/
def currentIn (b : Builder) (set : Name → Bool) : Bool :=
  set (b.name b.current)

/-- Whether the innermost open element is the HTML element of a tag. -/
def currentIs (b : Builder) (tag : String) : Bool :=
  b.isHtml tag b.current

/-- Whether an HTML element of a tag is open. -/
def isOpen (b : Builder) (tag : String) : Bool :=
  b.stack.any (b.isHtml tag)

/-- The body element, if it is the second element on the stack. -/
def body? (b : Builder) : Option NodeId :=
  match b.stack.reverse with
  | _ :: second :: _ => if b.isHtml "body" second then some second else none
  | _ => none

/-! ## Scopes -/

/-- Whether an element that fits is met, going outward, before one that bounds the scope. -/
def within (b : Builder) (bounds : Name → Bool) (fits : NodeId → Bool) : List NodeId → Bool
  | [] => false
  | id :: outer =>
    if fits id then true else if bounds (b.name id) then false else b.within bounds fits outer

/-- Whether an HTML element of a tag is in scope. -/
def inScope (b : Builder) (bounds : Name → Bool) (tag : String) : Bool :=
  b.within bounds (b.isHtml tag) b.stack

/-! ## Closing elements -/

/-- Closes the innermost open element. -/
def pop (b : Builder) : Builder :=
  { b with stack := b.stack.drop 1 }

/-- Takes an element off the stack, wherever it stands. -/
def removeOpen (b : Builder) (id : NodeId) : Builder :=
  { b with stack := b.stack.erase id }

/-- Closes elements until the innermost open one has a name in a set. -/
def popTo (b : Builder) (set : Name → Bool) : Builder :=
  { b with stack := b.stack.dropWhile fun id => !set (b.name id) }

/-- Closes elements until one with a name in a set is closed. -/
def popThrough (b : Builder) (set : Name → Bool) : Builder :=
  (b.popTo set).pop

/-- Closes elements until the HTML element of a tag is closed. -/
def popThroughTag (b : Builder) (tag : String) : Builder :=
  b.popThrough (TagSet.among [tag])

/-- Closes the innermost elements as long as their names are in a set. -/
def popWhile (b : Builder) (set : Name → Bool) : Builder :=
  { b with stack := b.stack.dropWhile fun id => set (b.name id) }

/-- Closes the innermost elements whose end tag may be left out. -/
def impliedEnds (b : Builder) : Builder :=
  b.popWhile TagSet.impliedEnd

/-- Closes the innermost elements whose end tag may be left out, down to those of one tag. -/
def impliedEndsExcept (b : Builder) (tag : String) : Builder :=
  b.popWhile fun n => TagSet.impliedEnd n && n != ⟨.html, tag⟩

/-- Closes a paragraph and all inside it. -/
def closeParagraph (b : Builder) : Builder :=
  (b.impliedEndsExcept "p").popThroughTag "p"

/-- Closes a paragraph, if one is in scope. -/
def closeOpenParagraph (b : Builder) : Builder :=
  if b.inScope TagSet.buttonScope "p" then b.closeParagraph else b

/-! ## The place for new nodes -/

/-- Where a new node goes. -/
inductive Place where
  /-- Behind the last child of a node. -/
  | lastChild (parent : NodeId)
  /-- Right before a table, or into the element that the table was opened in, if the table has no
  parent any more. -/
  | aroundTable (table outer : NodeId)
  deriving DecidableEq, Repr, Inhabited

/-- The node that the content of a template hangs below. -/
def templateContent (b : Builder) (id : NodeId) : NodeId :=
  (b.tree.node id).children.getD 0 id

/-- The place for what is moved out of a table: the innermost table or template decides. -/
def fosterPlace (b : Builder) : List NodeId → Place
  | [] => .lastChild b.rootElement
  | id :: outer =>
    if b.isHtml "template" id then .lastChild (b.templateContent id)
    else if b.isHtml "table" id then .aroundTable id (outer.headD b.rootElement)
    else b.fosterPlace outer

/-- The place for a new child of a node. -/
def placeIn (b : Builder) (target : NodeId) : Place :=
  if b.fostering && TagSet.fosterTarget (b.name target) then b.fosterPlace b.stack
  else if b.isHtml "template" target then .lastChild (b.templateContent target)
  else .lastChild target

/-- Puts a node at a place. -/
def putNode (b : Builder) (place : Place) (id : NodeId) : Builder :=
  match place with
  | .lastChild parent => { b with tree := b.tree.append parent id }
  | .aroundTable table outer =>
    if (b.tree.node table).parent.isSome then { b with tree := b.tree.insertBefore table id }
    else { b with tree := b.tree.append outer id }

/-- Puts text into the innermost open element. -/
def putText (b : Builder) (s : String) : Builder :=
  match b.placeIn b.current with
  | .lastChild parent => { b with tree := b.tree.appendText parent s }
  | .aroundTable table outer =>
    if (b.tree.node table).parent.isSome then { b with tree := b.tree.insertTextBefore table s }
    else { b with tree := b.tree.appendText outer s }

/-- Puts a comment behind the last child of a node. -/
def putCommentIn (b : Builder) (parent : NodeId) (s : String) : Builder :=
  let (id, tree) := b.tree.add (.comment s)
  { b with tree := tree.append parent id }

/-- Puts a comment into the innermost open element. -/
def putComment (b : Builder) (s : String) : Builder :=
  let place := b.placeIn b.current
  let (id, tree) := b.tree.add (.comment s)
  putNode { b with tree } place id

/-! ## Elements -/

/-- Makes an element without a place; a template gets a node for its content. -/
def makeElement (b : Builder) (name : Name) (attrs : List Attr) : NodeId × Builder :=
  let (id, tree) := b.tree.add (.element name attrs)
  if name == ⟨.html, "template"⟩ then
    let (content, tree) := tree.add .fragment
    (id, { b with tree := tree.append id content })
  else (id, { b with tree })

/-- Makes an element of a language and puts it into the innermost open element. -/
def putElement (b : Builder) (space : Space) (tag : Tag) : NodeId × Builder :=
  let place := b.placeIn b.current
  let name : Name := ⟨space, Foreign.tag space tag.name⟩
  let attrs := tag.attrs.map fun a =>
    match space with
    | .html => (⟨.plain, a.name, a.value⟩ : Attr)
    | _ => Foreign.attr space a
  let (id, b) := b.makeElement name attrs
  (id, b.putNode place id)

/-- Opens an element of a language. -/
def openElement (b : Builder) (space : Space) (tag : Tag) : NodeId × Builder :=
  let (id, b) := b.putElement space tag
  (id, { b with stack := id :: b.stack })

/-- Opens the HTML element of a tag. -/
def openTag (b : Builder) (tag : Tag) : Builder :=
  (b.openElement .html tag).2

/-- Opens the HTML element with a name, as if its tag stood in the markup. -/
def openNamed (b : Builder) (name : String) : Builder :=
  b.openTag { name }

/-- Puts an HTML element that has no content. -/
def putTag (b : Builder) (tag : Tag) : Builder :=
  (b.putElement .html tag).2

/-- Makes the root element. -/
def openRoot (b : Builder) (attrs : List TagAttribute) : Builder :=
  let (id, b) := b.makeElement ⟨.html, "html"⟩ (attrs.map fun a => ⟨.plain, a.name, a.value⟩)
  { b with tree := b.tree.append Tree.root id, stack := id :: b.stack }

/-- Adds attributes to an element as far as it lacks them. -/
def addMissing (b : Builder) (id : NodeId) (attrs : List TagAttribute) : Builder :=
  { b with tree := b.tree.addMissing id (attrs.map fun a => ⟨.plain, a.name, a.value⟩) }

/-- Opens an element whose content is text only. -/
def openText (b : Builder) (tag : Tag) (content : Content) : Builder :=
  let b := b.openTag tag
  { b with resume := b.mode, mode := .text, content }

/-! ## The mode for the present stack -/

/-- The mode inside a `select` element, with the elements around it. -/
def selectMode (b : Builder) : List NodeId → Mode
  | [] => .inSelect
  | id :: outer =>
    if b.isHtml "template" id then .inSelect
    else if b.isHtml "table" id then .inSelectInTable
    else b.selectMode outer

/-- The mode that the innermost element that has one stands for. -/
def modeFor (b : Builder) : List NodeId → Mode
  | [] => .inBody
  | id :: outer =>
    let n := b.name id
    if n.space != .html then b.modeFor outer
    else
      match n.tag with
      | "select" => b.selectMode outer
      | "td" | "th" => if outer.isEmpty then b.modeFor outer else .inCell
      | "tr" => .inRow
      | "tbody" | "thead" | "tfoot" => .inTableBody
      | "caption" => .inCaption
      | "colgroup" => .inColumnGroup
      | "table" => .inTable
      | "template" => b.templates.headD .inBody
      | "head" => if outer.isEmpty then b.modeFor outer else .inHead
      | "body" => .inBody
      | "frameset" => .inFrameset
      | "html" => if b.head.isSome then .afterHead else .beforeHead
      | _ => b.modeFor outer

/-- The mode for the elements that are open. -/
def properMode (b : Builder) : Mode :=
  b.modeFor b.stack

/-- The builder in the mode for the elements that are open. -/
def resetMode (b : Builder) : Builder :=
  { b with mode := b.properMode }

end Builder

end Prospector.Html
