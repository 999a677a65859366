import Prospector.Html.Builder.Head
import Prospector.Html.Lexer

/-!
# Building the body

The rules for the content of the body. They also serve, with exceptions, for the content of tables,
templates and foreign elements.
-/

namespace Prospector.Html.Builder

/-! ## Foreign elements -/

/-- The start tag of a foreign element, which may close itself. -/
def openForeign (b : Builder) (space : Space) (tag : Tag) : Builder :=
  if tag.selfClosing then (b.putElement space tag).2 else (b.openElement space tag).2

/-! ## Start tags -/

/-- The elements that close an open paragraph and have no other rules. -/
def blockTags : List String :=
  ["address", "article", "aside", "blockquote", "center", "details", "dialog", "dir", "div", "dl",
    "fieldset", "figcaption", "figure", "footer", "header", "hgroup", "main", "menu", "nav", "ol",
    "p", "section", "summary", "ul"]

/-- The elements whose end tag closes all that is open inside them. -/
def blockEndTags : List String :=
  ["address", "article", "aside", "blockquote", "button", "center", "details", "dialog", "dir",
    "div", "dl", "fieldset", "figcaption", "figure", "footer", "header", "hgroup", "listing",
    "main", "menu", "nav", "ol", "pre", "section", "summary", "ul"]

/-- The formatting elements other than links and `nobr`. -/
def formatTags : List String :=
  ["b", "big", "code", "em", "font", "i", "s", "small", "strike", "strong", "tt", "u"]

/-- The start tags that have no meaning in the body. -/
def strayTags : List String :=
  ["caption", "col", "colgroup", "frame", "head", "tbody", "td", "tfoot", "th", "thead", "tr"]

/-- The heading tags. -/
def headingTags : List String :=
  ["h1", "h2", "h3", "h4", "h5", "h6"]

/-- The innermost item that a new list item closes, if it is not behind a barrier. -/
def itemToClose (b : Builder) (tags : List String) : List NodeId → Option String
  | [] => none
  | id :: outer =>
    let n := b.name id
    if TagSet.among tags n then some n.tag
    else if TagSet.listBarrier n then none
    else b.itemToClose tags outer

/-- The start tag of a list item. -/
def openItem (b : Builder) (tag : Tag) : Builder :=
  let b := { b with framesetOk := false }
  let tags := if tag.name = "li" then ["li"] else ["dd", "dt"]
  let b :=
    match b.itemToClose tags b.stack with
    | some name => (b.impliedEndsExcept name).popThroughTag name
    | none => b
  b.closeOpenParagraph.openTag tag

/-- Whether a tag is that of a hidden input. -/
def isHiddenInput (tag : Tag) : Bool :=
  match tag.attr? "type" with
  | some kind => lowerText kind == "hidden"
  | none => false

/-- The start tag of an element without content, such as `br`. -/
def putVoid (b : Builder) (tag : Tag) : Builder :=
  let keeps := tag.name == "input" && isHiddenInput tag
  let b := b.reconstruct.putTag tag
  if keeps then b else { b with framesetOk := false }

/-- The start tag of a `select` element. -/
def openSelect (b : Builder) (tag : Tag) : Builder :=
  let b := b.reconstruct.openTag tag
  let mode :=
    match b.mode with
    | .inTable | .inCaption | .inTableBody | .inRow | .inCell => Mode.inSelectInTable
    | _ => .inSelect
  { b with framesetOk := false, mode }

/-- The start tag of the body inside the document: its attributes are added to the body. -/
def mergeBody (b : Builder) (tag : Tag) : Builder :=
  match b.body? with
  | some id =>
    if b.isOpen "template" then b else { b with framesetOk := false }.addMissing id tag.attrs
  | none => b

/-- The start tag of a frameset in a body that it may take the place of. -/
def replaceBody (b : Builder) (tag : Tag) : Builder :=
  match b.framesetOk, b.body? with
  | true, some body =>
    let b := { b with tree := b.tree.detach body, stack := [b.rootElement] }
    { b.openTag tag with mode := .inFrameset }
  | _, _ => b

/-- The start tag of a form; forms do not nest. -/
def openForm (b : Builder) (tag : Tag) : Builder :=
  let inTemplate := b.isOpen "template"
  if b.form.isSome && !inTemplate then b
  else
    let (id, b) := b.closeOpenParagraph.openElement .html tag
    if inTemplate then b else { b with form := some id }

/-- The start tag of a ruby annotation, which closes the annotations before it. -/
def openRuby (b : Builder) (tag : Tag) (close : Builder → Builder) : Builder :=
  (if b.inScope TagSet.scope "ruby" then close b else b).openTag tag

/-- A start tag in the body. -/
def startInBody (b : Builder) (tag : Tag) : Builder :=
  let name := tag.name
  if name = "html" then b.mergeRoot tag
  else if headTags.contains name then b.openHeadElement tag
  else if name = "body" then b.mergeBody tag
  else if name = "frameset" then b.replaceBody tag
  else if blockTags.contains name then b.closeOpenParagraph.openTag tag
  else if headingTags.contains name then
    let b := b.closeOpenParagraph
    (if b.currentIn TagSet.heading then b.pop else b).openTag tag
  else if name = "pre" || name = "listing" then
    { b.closeOpenParagraph.openTag tag with dropsLineFeed := true, framesetOk := false }
  else if name = "form" then b.openForm tag
  else if name = "li" || name = "dd" || name = "dt" then b.openItem tag
  else if name = "plaintext" then { b.closeOpenParagraph.openTag tag with content := .plainText }
  else if name = "button" then
    let b := if b.inScope TagSet.scope "button" then b.impliedEnds.popThroughTag "button" else b
    { b.reconstruct.openTag tag with framesetOk := false }
  else if name = "a" then b.closeOpenLink.reconstruct.openFormat tag
  else if formatTags.contains name then b.reconstruct.openFormat tag
  else if name = "nobr" then
    let b := b.reconstruct
    let b := if b.inScope TagSet.scope "nobr" then (b.closeFormat "nobr").reconstruct else b
    b.openFormat tag
  else if ["applet", "marquee", "object"].contains name then
    { (b.reconstruct.openTag tag).mark with framesetOk := false }
  else if name = "table" then
    let b := if b.forOldBrowsers then b else b.closeOpenParagraph
    { b.openTag tag with framesetOk := false, mode := .inTable }
  else if ["area", "br", "embed", "img", "keygen", "wbr", "input"].contains name then b.putVoid tag
  else if ["param", "source", "track"].contains name then b.putTag tag
  else if name = "hr" then { b.closeOpenParagraph.putTag tag with framesetOk := false }
  else if name = "image" then b.putVoid { tag with name := "img" }
  else if name = "textarea" then
    { b with framesetOk := false, dropsLineFeed := true }.openText tag (.escapableText name)
  else if name = "xmp" then
    { b.closeOpenParagraph.reconstruct with framesetOk := false }.openText tag (.rawText name)
  else if name = "iframe" then { b with framesetOk := false }.openText tag (.rawText name)
  else if name = "noembed" || name = "noscript" then b.openText tag (.rawText name)
  else if name = "select" then b.openSelect tag
  else if name = "optgroup" || name = "option" then
    (if b.currentIs "option" then b.pop else b).reconstruct.openTag tag
  else if name = "rb" || name = "rtc" then b.openRuby tag impliedEnds
  else if name = "rp" || name = "rt" then b.openRuby tag (impliedEndsExcept · "rtc")
  else if name = "math" then b.openForeign .mathml tag
  else if name = "svg" then b.openForeign .svg tag
  else if strayTags.contains name then b
  else b.reconstruct.openTag tag

/-! ## End tags -/

/-- The end tag of a form. -/
def closeForm (b : Builder) : Builder :=
  if b.isOpen "template" then
    if b.inScope TagSet.scope "form" then b.impliedEnds.popThroughTag "form" else b
  else
    match b.form with
    | none => b
    | some id =>
      let b := { b with form := none }
      if b.within TagSet.scope (· == id) b.stack then b.impliedEnds.removeOpen id else b

/-- The end tag of an element that must be in scope: all inside it is closed. -/
def closeInScope (b : Builder) (tag : String) : Builder :=
  if b.inScope TagSet.scope tag then b.impliedEnds.popThroughTag tag else b

/-- The end tag of a list item. -/
def closeItem (b : Builder) (tag : String) : Builder :=
  let bounds := if tag = "li" then TagSet.listItemScope else TagSet.scope
  if b.inScope bounds tag then (b.impliedEndsExcept tag).popThroughTag tag else b

/-- The end tag of the body or the root. -/
def closeBody (b : Builder) (tag : Tag) : Outcome :=
  if b.inScope TagSet.scope "body" then
    if tag.name = "body" then { b with mode := .afterBody }.done else b.retry .afterBody
  else b.done

/-- An end tag in the body. -/
def endInBody (b : Builder) (tag : Tag) : Builder :=
  let name := tag.name
  if name = "template" then b.closeTemplate
  else if blockEndTags.contains name then b.closeInScope name
  else if name = "form" then b.closeForm
  else if name = "p" then
    (if b.inScope TagSet.buttonScope "p" then b else b.openNamed "p").closeParagraph
  else if name = "li" || name = "dd" || name = "dt" then b.closeItem name
  else if headingTags.contains name then
    if b.within TagSet.scope (fun id => TagSet.heading (b.name id)) b.stack then
      b.impliedEnds.popThrough TagSet.heading
    else b
  else if name = "a" || name = "nobr" || formatTags.contains name then b.closeFormat name
  else if ["applet", "marquee", "object"].contains name then
    if b.inScope TagSet.scope name then (b.closeInScope name).clearToMark else b
  else if name = "br" then b.putVoid { name }
  else b.closeOrdinary name

/-! ## The body and templates -/

/-- The end of the markup while templates are open: they are closed one by one. -/
def finishTemplate (b : Builder) : Outcome :=
  if b.isOpen "template" then
    let b := (b.popThroughTag "template").clearToMark
    let b := { b with templates := b.templates.drop 1 }.resetMode
    b.retry b.properMode
  else b.done

/-- In the body. -/
def inBody (b : Builder) (item : Item) : Outcome :=
  match item with
  | .nul => b.done
  | .text blank s =>
    let b := b.reconstruct
    ({ b with framesetOk := b.framesetOk && blank }.putText s).done
  | .comment s => (b.putComment s).done
  | .start tag => (b.startInBody tag).done
  | .close tag =>
    if tag.name = "body" || tag.name = "html" then b.closeBody tag else (b.endInBody tag).done
  | .finish => if b.templates.isEmpty then b.done else b.finishTemplate

/-- In an element that holds only text. -/
def inText (b : Builder) (item : Item) : Outcome :=
  match item with
  | .text _ s => (b.putText s).done
  | .finish => b.pop.retry b.resume
  | .close _ => { b.pop with mode := b.resume }.done
  | _ => b.done

/-- A token that stands in a table without belonging there: what it makes goes before the table. -/
def fosterInBody (b : Builder) (item : Item) : Outcome :=
  let (b, verdict) := inBody { b with fostering := true } item
  ({ b with fostering := false }, verdict)

/-- In a template. The first start tag decides what kind of content it has. -/
def inTemplate (b : Builder) (item : Item) : Outcome :=
  let asIn (mode : Mode) : Outcome :=
    { b with templates := mode :: b.templates.drop 1 }.retry mode
  match item with
  | .text _ _ | .comment _ => b.inBody item
  | .start tag =>
    if headTags.contains tag.name then (b.openHeadElement tag).done
    else if ["caption", "colgroup", "tbody", "tfoot", "thead"].contains tag.name then asIn .inTable
    else if tag.name = "col" then asIn .inColumnGroup
    else if tag.name = "tr" then asIn .inTableBody
    else if tag.name = "td" || tag.name = "th" then asIn .inRow
    else asIn .inBody
  | .close tag => if tag.name = "template" then b.closeTemplate.done else b.done
  | .finish => b.finishTemplate
  | .nul => b.done

/-! ## Foreign content -/

/-- Whether a token belongs to foreign content. -/
def isForeign (b : Builder) (item : Item) : Bool :=
  let n := b.name b.current
  if b.stack.isEmpty || n.space == .html then false
  else
    match item with
    | .finish => false
    | .text _ _ | .nul => !TagSet.mathmlText n && !TagSet.svgHtml n
    | .start tag =>
      !(TagSet.mathmlText n && tag.name != "mglyph" && tag.name != "malignmark") &&
        !TagSet.svgHtml n &&
        !(n == ⟨.mathml, "annotation-xml"⟩ && tag.name == "svg")
    | _ => true

/-- Whether a start tag ends foreign content. -/
def breaksOut (tag : Tag) : Bool :=
  TagSet.breakout.contains tag.name ||
    (tag.name == "font" && tag.attrs.any fun a => ["color", "face", "size"].contains a.name)

/-- What an end tag in foreign content closes, going outward: some element of the same name, or
nothing if the rules of the mode apply. -/
inductive ForeignEnd where
  | upTo (rest : List NodeId)
  | byMode
  | ignored
  deriving DecidableEq, Repr, Inhabited

/-- What an end tag closes, going outward from a foreign element. -/
def foreignEnd (b : Builder) (tag : String) (innermost : Bool) : List NodeId → ForeignEnd
  | [] | [_] => .ignored
  | id :: outer =>
    let n := b.name id
    if !innermost && n.space == .html then .byMode
    else if lowerText n.tag == tag then .upTo outer
    else b.foreignEnd tag false outer

end Prospector.Html.Builder
