import Prospector.Html.Builder.Body

/-!
# Building tables

The rules for tables and for lists of options. Content that does not belong into a table is moved
out of it, in front of the table.
-/

namespace Prospector.Html.Builder

/-- Closes the cell that is open. -/
def closeCell (b : Builder) : Builder :=
  (b.impliedEnds.popThrough TagSet.cell).clearToMark

/-- Text in a table: it is gathered where it stands between the parts of the table. -/
def textInTable (b : Builder) (item : Item) : Outcome :=
  if b.currentIn TagSet.fosterTarget then { b with resume := b.mode }.retry .inTableText
  else b.fosterInBody item

/-- In a table. -/
def inTable (b : Builder) (item : Item) : Outcome :=
  let atTable := b.popTo TagSet.tableScope
  match item with
  | .nul | .text _ _ => b.textInTable item
  | .comment s => (b.putComment s).done
  | .finish => b.inBody item
  | .start tag =>
    match tag.name with
    | "caption" => { atTable.mark.openTag tag with mode := .inCaption }.done
    | "colgroup" => { atTable.openTag tag with mode := .inColumnGroup }.done
    | "col" => (atTable.openNamed "colgroup").retry .inColumnGroup
    | "tbody" | "tfoot" | "thead" => { atTable.openTag tag with mode := .inTableBody }.done
    | "td" | "th" | "tr" => (atTable.openNamed "tbody").retry .inTableBody
    | "table" =>
      if b.inScope TagSet.tableScope "table" then
        let b := b.popThroughTag "table"
        b.retry b.properMode
      else b.done
    | "style" | "script" | "template" => (b.openHeadElement tag).done
    | "input" => if isHiddenInput tag then (b.putTag tag).done else b.fosterInBody item
    | "form" =>
      if !b.isOpen "template" && b.form.isNone then
        let (id, b) := b.putElement .html tag
        { b with form := some id }.done
      else b.done
    | _ => b.fosterInBody item
  | .close tag =>
    match tag.name with
    | "table" =>
      if b.inScope TagSet.tableScope "table" then (b.popThroughTag "table").resetMode.done
      else b.done
    | "body" | "caption" | "col" | "colgroup" | "html" | "tbody" | "td" | "tfoot" | "th" | "thead"
    | "tr" => b.done
    | "template" => b.closeTemplate.done
    | _ => b.fosterInBody item

/-- The text gathered in a table is put where it belongs: blank text into the table, other text in
front of it. -/
def flushTableText (b : Builder) : Builder :=
  let runs := b.tableText.reverse
  let b := { b with tableText := [] }
  if runs.all (·.1) then runs.foldl (fun b run => b.putText run.2) b
  else runs.foldl (fun b run => (b.fosterInBody (.text run.1 run.2)).1) b

/-- In text that stands directly in a table. -/
def inTableText (b : Builder) (item : Item) : Outcome :=
  match item with
  | .nul => b.done
  | .text blank s => { b with tableText := (blank, s) :: b.tableText }.done
  | _ => b.flushTableText.retry b.resume

/-- In the caption of a table. -/
def inCaption (b : Builder) (item : Item) : Outcome :=
  let close (next : Builder → Outcome) : Outcome :=
    if b.inScope TagSet.tableScope "caption" then
      next (b.impliedEnds.popThroughTag "caption").clearToMark
    else b.done
  match item with
  | .start tag =>
    if ["caption", "col", "colgroup", "tbody", "td", "tfoot", "th", "thead", "tr"].contains tag.name
    then close (·.retry .inTable)
    else b.inBody item
  | .close tag =>
    match tag.name with
    | "caption" => close fun b => { b with mode := .inTable }.done
    | "table" => close (·.retry .inTable)
    | "body" | "col" | "colgroup" | "html" | "tbody" | "td" | "tfoot" | "th" | "thead" | "tr" =>
      b.done
    | _ => b.inBody item
  | _ => b.inBody item

/-- In a group of columns. -/
def inColumnGroup (b : Builder) (item : Item) : Outcome :=
  let other := if b.currentIs "colgroup" then b.pop.retry .inTable else b.done
  match item with
  | .text true s => (b.putText s).done
  | .comment s => (b.putComment s).done
  | .finish => b.inBody item
  | .start tag =>
    match tag.name with
    | "html" => (b.mergeRoot tag).done
    | "col" => (b.putTag tag).done
    | "template" => (b.openHeadElement tag).done
    | _ => other
  | .close tag =>
    match tag.name with
    | "colgroup" => if b.currentIs "colgroup" then { b.pop with mode := .inTable }.done else b.done
    | "col" => b.done
    | "template" => b.closeTemplate.done
    | _ => other
  | _ => other

/-- In a section of a table. -/
def inTableBody (b : Builder) (item : Item) : Outcome :=
  let atSection := b.popTo TagSet.tableBodyContext
  let outward : Outcome :=
    if b.within TagSet.tableScope (fun id => TagSet.among ["table", "tbody", "tfoot"] (b.name id))
        b.stack then
      atSection.pop.retry .inTable
    else b.done
  match item with
  | .start tag =>
    match tag.name with
    | "tr" => { atSection.openTag tag with mode := .inRow }.done
    | "th" | "td" => (atSection.openNamed "tr").retry .inRow
    | "caption" | "col" | "colgroup" | "tbody" | "tfoot" | "thead" => outward
    | _ => b.inTable item
  | .close tag =>
    match tag.name with
    | "tbody" | "tfoot" | "thead" =>
      if b.inScope TagSet.tableScope tag.name then { atSection.pop with mode := .inTable }.done
      else b.done
    | "table" => outward
    | "body" | "caption" | "col" | "colgroup" | "html" | "td" | "th" | "tr" => b.done
    | _ => b.inTable item
  | _ => b.inTable item

/-- In a row of a table. -/
def inRow (b : Builder) (item : Item) : Outcome :=
  let atRow := b.popTo TagSet.tableRowContext
  let rowOpen := b.inScope TagSet.tableScope "tr"
  let outward : Outcome := if rowOpen then atRow.pop.retry .inTableBody else b.done
  match item with
  | .start tag =>
    match tag.name with
    | "th" | "td" => { atRow.openTag tag with mode := .inCell }.mark.done
    | "caption" | "col" | "colgroup" | "tbody" | "tfoot" | "thead" | "tr" => outward
    | _ => b.inTable item
  | .close tag =>
    match tag.name with
    | "tr" => if rowOpen then { atRow.pop with mode := .inTableBody }.done else b.done
    | "table" => outward
    | "tbody" | "tfoot" | "thead" =>
      if b.inScope TagSet.tableScope tag.name then outward else b.done
    | "body" | "caption" | "col" | "colgroup" | "html" | "td" | "th" => b.done
    | _ => b.inTable item
  | _ => b.inTable item

/-- In a cell of a table. -/
def inCell (b : Builder) (item : Item) : Outcome :=
  match item with
  | .start tag =>
    if ["caption", "col", "colgroup", "tbody", "td", "tfoot", "th", "thead", "tr"].contains tag.name
    then
      if b.within TagSet.tableScope (fun id => TagSet.cell (b.name id)) b.stack then
        b.closeCell.retry .inRow
      else b.done
    else b.inBody item
  | .close tag =>
    match tag.name with
    | "td" | "th" =>
      if b.inScope TagSet.tableScope tag.name then
        { (b.impliedEnds.popThroughTag tag.name).clearToMark with mode := .inRow }.done
      else b.done
    | "body" | "caption" | "col" | "colgroup" | "html" => b.done
    | "table" | "tbody" | "tfoot" | "thead" | "tr" =>
      if b.inScope TagSet.tableScope tag.name then b.closeCell.retry .inRow else b.done
    | _ => b.inBody item
  | _ => b.inBody item

/-! ## Lists of options -/

/-- The end tag of a group of options, which also closes an option at its end. -/
def closeOptionGroup (b : Builder) : Builder :=
  let b :=
    match b.stack with
    | option :: group :: _ =>
      if b.isHtml "option" option && b.isHtml "optgroup" group then b.pop else b
    | _ => b
  if b.currentIs "optgroup" then b.pop else b

/-- In a `select` element. -/
def inSelect (b : Builder) (item : Item) : Outcome :=
  let selectOpen := b.inScope TagSet.selectScope "select"
  let closed := b.popThroughTag "select"
  match item with
  | .nul => b.done
  | .text _ s => (b.putText s).done
  | .comment s => (b.putComment s).done
  | .finish => b.inBody item
  | .start tag =>
    match tag.name with
    | "html" => (b.mergeRoot tag).done
    | "option" => ((if b.currentIs "option" then b.pop else b).openTag tag).done
    | "optgroup" =>
      let b := if b.currentIs "option" then b.pop else b
      ((if b.currentIs "optgroup" then b.pop else b).openTag tag).done
    | "select" => (if selectOpen then closed.resetMode else b).done
    | "input" | "keygen" | "textarea" =>
      if selectOpen then closed.retry closed.properMode else b.done
    | "script" | "template" => (b.openHeadElement tag).done
    | _ => b.done
  | .close tag =>
    match tag.name with
    | "optgroup" => b.closeOptionGroup.done
    | "option" => (if b.currentIs "option" then b.pop else b).done
    | "select" => (if selectOpen then closed.resetMode else b).done
    | "template" => b.closeTemplate.done
    | _ => b.done

/-- In a `select` element inside a table. -/
def inSelectInTable (b : Builder) (item : Item) : Outcome :=
  let tableTags := ["caption", "table", "tbody", "tfoot", "thead", "tr", "td", "th"]
  let closed := b.popThroughTag "select"
  match item with
  | .start tag =>
    if tableTags.contains tag.name then closed.retry closed.properMode else b.inSelect item
  | .close tag =>
    if tableTags.contains tag.name then
      if b.inScope TagSet.tableScope tag.name then closed.retry closed.properMode else b.done
    else b.inSelect item
  | _ => b.inSelect item

end Prospector.Html.Builder
