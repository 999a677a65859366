import Prospector.Html.Builder.Formatting

/-!
# Building the head

The rules for what stands before the body, and for the elements that belong into the head but are
understood wherever they stand.
-/

namespace Prospector.Html.Builder

/-- The start tag of the root element inside the document: its attributes are added to the root. -/
def mergeRoot (b : Builder) (tag : Tag) : Builder :=
  if b.isOpen "template" then b else b.addMissing b.rootElement tag.attrs

/-- The end tag of a template. -/
def closeTemplate (b : Builder) : Builder :=
  if b.isOpen "template" then
    let b := ((b.popWhile TagSet.impliedEndThoroughly).popThroughTag "template").clearToMark
    { b with templates := b.templates.drop 1 }.resetMode
  else b

/-- The start tag of a template. -/
def openTemplate (b : Builder) (tag : Tag) : Builder :=
  let b := (b.openTag tag).mark
  { b with framesetOk := false, mode := .inTemplate, templates := .inTemplate :: b.templates }

/-- The tags of the elements of the head, which the head's own rules deal with. -/
def headTags : List String :=
  ["base", "basefont", "bgsound", "link", "meta", "noframes", "script", "style", "template",
    "title"]

/-- The start tag of an element of the head. -/
def openHeadElement (b : Builder) (tag : Tag) : Builder :=
  match tag.name with
  | "title" => b.openText tag (.escapableText "title")
  | "noframes" | "style" | "noscript" => b.openText tag (.rawText tag.name)
  | "script" => b.openText tag .script
  | "template" => b.openTemplate tag
  | _ => b.putTag tag

/-- Whether an end tag is one that other rules look at before it is dropped. -/
def isBodyEnd (tag : Tag) : Bool :=
  ["body", "html", "br"].contains tag.name

/-- A document without declaration. -/
def inInitial (b : Builder) (item : Item) : Outcome :=
  match item with
  | .text true _ => b.done
  | .comment s => (b.putCommentIn Tree.root s).done
  | _ => { b with forOldBrowsers := true }.retry .beforeHtml

/-- Before the root element. -/
def inBeforeHtml (b : Builder) (item : Item) : Outcome :=
  let other := (b.openRoot []).retry .beforeHead
  match item with
  | .comment s => (b.putCommentIn Tree.root s).done
  | .text true _ => b.done
  | .start tag =>
    if tag.name = "html" then { b.openRoot tag.attrs with mode := .beforeHead }.done else other
  | .close tag => if isBodyEnd tag || tag.name == "head" then other else b.done
  | _ => other

/-- Before the head. -/
def inBeforeHead (b : Builder) (item : Item) : Outcome :=
  let openHead (tag : Tag) : Builder :=
    let (id, b) := b.openElement .html tag
    { b with head := some id }
  let other := (openHead { name := "head" }).retry .inHead
  match item with
  | .text true _ => b.done
  | .comment s => (b.putComment s).done
  | .start tag =>
    match tag.name with
    | "html" => (b.mergeRoot tag).done
    | "head" => { openHead tag with mode := .inHead }.done
    | _ => other
  | .close tag => if isBodyEnd tag || tag.name == "head" then other else b.done
  | _ => other

/-- In the head. -/
def inHead (b : Builder) (item : Item) : Outcome :=
  let other := b.pop.retry .afterHead
  match item with
  | .text true s => (b.putText s).done
  | .comment s => (b.putComment s).done
  | .start tag =>
    if tag.name = "html" then (b.mergeRoot tag).done
    else if tag.name = "head" then b.done
    else if tag.name = "noscript" || headTags.contains tag.name then (b.openHeadElement tag).done
    else other
  | .close tag =>
    if tag.name = "head" then { b.pop with mode := .afterHead }.done
    else if isBodyEnd tag then other
    else if tag.name = "template" then b.closeTemplate.done
    else b.done
  | _ => other

/-- Behind the head. Elements of the head are put into it all the same. -/
def inAfterHead (b : Builder) (item : Item) : Outcome :=
  let other := (b.openNamed "body").retry .inBody
  match item with
  | .text true s => (b.putText s).done
  | .comment s => (b.putComment s).done
  | .start tag =>
    if tag.name = "html" then (b.mergeRoot tag).done
    else if tag.name = "body" then
      { b.openTag tag with framesetOk := false, mode := .inBody }.done
    else if tag.name = "frameset" then { b.openTag tag with mode := .inFrameset }.done
    else if headTags.contains tag.name then
      match b.head with
      | some head =>
        ((openHeadElement { b with stack := head :: b.stack } tag).removeOpen head).done
      | none => b.done
    else if tag.name = "head" then b.done
    else other
  | .close tag =>
    if tag.name = "template" then b.closeTemplate.done
    else if isBodyEnd tag then other
    else b.done
  | _ => other

end Prospector.Html.Builder
