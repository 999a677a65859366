import Prospector.Html.Builder.Table
import Prospector.Html.Doctype

/-!
# Building a document token by token

The remaining modes, which follow the body or take its place, and the choice of the rules for a
token: those of foreign content or those of the present mode. A document is built by cutting its
markup into tokens and feeding them to these rules one by one.
-/

namespace Prospector.Html.Builder

/-! ## Behind the body -/

/-- Behind the body. -/
def inAfterBody (b : Builder) (item : Item) : Outcome :=
  match item with
  | .text true _ => b.inBody item
  | .comment s => (b.putCommentIn b.rootElement s).done
  | .start tag => if tag.name = "html" then (b.mergeRoot tag).done else b.retry .inBody
  | .close tag =>
    if tag.name = "html" then { b with mode := .afterAfterBody }.done else b.retry .inBody
  | .finish => b.done
  | _ => b.retry .inBody

/-- Behind the root element. -/
def inAfterAfterBody (b : Builder) (item : Item) : Outcome :=
  match item with
  | .text true _ => b.inBody item
  | .comment s => (b.putCommentIn Tree.root s).done
  | .start tag => if tag.name = "html" then (b.mergeRoot tag).done else b.retry .inBody
  | .finish => b.done
  | _ => b.retry .inBody

/-! ## Framesets -/

/-- In a frameset. -/
def inFrameset (b : Builder) (item : Item) : Outcome :=
  match item with
  | .text true s => (b.putText s).done
  | .comment s => (b.putComment s).done
  | .start tag =>
    match tag.name with
    | "html" => (b.mergeRoot tag).done
    | "frameset" => (b.openTag tag).done
    | "frame" => (b.putTag tag).done
    | "noframes" => (b.openHeadElement tag).done
    | _ => b.done
  | .close tag =>
    if tag.name = "frameset" && 1 < b.stack.length then
      let b := b.pop
      (if b.currentIs "frameset" then b else { b with mode := .afterFrameset }).done
    else b.done
  | _ => b.done

/-- Behind a frameset. -/
def inAfterFrameset (b : Builder) (item : Item) : Outcome :=
  match item with
  | .text true s => (b.putText s).done
  | .comment s => (b.putComment s).done
  | .start tag =>
    match tag.name with
    | "html" => (b.mergeRoot tag).done
    | "noframes" => (b.openHeadElement tag).done
    | _ => b.done
  | .close tag => (if tag.name = "html" then { b with mode := .afterAfterFrameset } else b).done
  | _ => b.done

/-- Behind the root element of a document with a frameset. -/
def inAfterAfterFrameset (b : Builder) (item : Item) : Outcome :=
  match item with
  | .text true _ => b.inBody item
  | .comment s => (b.putCommentIn Tree.root s).done
  | .start tag =>
    match tag.name with
    | "html" => (b.mergeRoot tag).done
    | "noframes" => (b.openHeadElement tag).done
    | _ => b.done
  | _ => b.done

/-! ## Tokens -/

/-- The rules of a mode. -/
def byMode (b : Builder) (item : Item) : Outcome :=
  match b.mode with
  | .initial => b.inInitial item
  | .beforeHtml => b.inBeforeHtml item
  | .beforeHead => b.inBeforeHead item
  | .inHead => b.inHead item
  | .afterHead => b.inAfterHead item
  | .inBody => b.inBody item
  | .text => b.inText item
  | .inTable => b.inTable item
  | .inTableText => b.inTableText item
  | .inCaption => b.inCaption item
  | .inColumnGroup => b.inColumnGroup item
  | .inTableBody => b.inTableBody item
  | .inRow => b.inRow item
  | .inCell => b.inCell item
  | .inSelect => b.inSelect item
  | .inSelectInTable => b.inSelectInTable item
  | .inTemplate => b.inTemplate item
  | .afterBody => b.inAfterBody item
  | .inFrameset => b.inFrameset item
  | .afterFrameset => b.inAfterFrameset item
  | .afterAfterBody => b.inAfterAfterBody item
  | .afterAfterFrameset => b.inAfterAfterFrameset item

/-- The rules of foreign content. -/
def inForeign (b : Builder) (item : Item) : Outcome :=
  match item with
  | .nul => (b.putText (String.ofList [replacement])).done
  | .text blank s => ({ b with framesetOk := b.framesetOk && blank }.putText s).done
  | .comment s => (b.putComment s).done
  | .start tag =>
    if breaksOut tag then
      (b.pop.popTo fun n => n.space == .html || TagSet.mathmlText n || TagSet.svgHtml n, .again)
    else (b.openForeign (b.name b.current).space tag).done
  | .close tag =>
    match b.foreignEnd tag.name true b.stack with
    | .upTo rest => { b with stack := rest }.done
    | .byMode => b.byMode item
    | .ignored => b.done
  | .finish => b.done

/-- Feeds a token to the rules until it is dealt with, in at most so many rounds. -/
def settle (item : Item) : Nat → Builder → Builder
  | 0, b => b
  | rounds + 1, b =>
    match if b.isForeign item then b.inForeign item else b.byMode item with
    | (b, .done) => b
    | (b, .again) => settle item rounds b

/-- Feeds a token to the rules. Every round that does not deal with the token closes an element, or
leads to a mode further out; so the rounds are bounded by the elements and templates that are
open. -/
def feed (b : Builder) (item : Item) : Builder :=
  settle item (8 * (b.stack.length + b.templates.length) + 32) b

/-- The runs of a text that are blank or hold no blanks; `run` is the present one, reversed. -/
def runsFrom (blank : Bool) (run : List Char) : List Char → List (Bool × String)
  | [] => if run.isEmpty then [] else [(blank, String.ofList run.reverse)]
  | c :: cs =>
    if isSpace c == blank then runsFrom blank (c :: run) cs
    else
      let rest := runsFrom (isSpace c) [c] cs
      if run.isEmpty then rest else (blank, String.ofList run.reverse) :: rest

/-- The runs of a text that are blank or hold no blanks. -/
def runs (cs : List Char) : List (Bool × String) :=
  runsFrom true [] cs

/-- Text behind a tag whose first line feed may be left out. -/
def feedText (b : Builder) (dropsLineFeed : Bool) (s : String) : Builder :=
  let cs :=
    match dropsLineFeed, s.toList with
    | true, '\n' :: rest => rest
    | _, cs => cs
  (runs cs).foldl (fun b run => b.feed (.text run.1 run.2)) b

/-! ## Tokens -/

/-- One token of the markup. A declaration counts only at the start. -/
def take (b : Builder) (token : Token) : Builder :=
  let drops := b.dropsLineFeed
  let b := { b with dropsLineFeed := false }
  match token with
  | .doctype d =>
    if b.mode = .initial then
      { b with forOldBrowsers := d.isForOldBrowsers, mode := .beforeHtml }
    else b
  | .startTag tag => b.feed (.start tag)
  | .endTag tag => b.feed (.close tag)
  | .comment s => b.feed (.comment s)
  | .text s => b.feedText drops s
  | .nul => b.feed .nul
  | .flaw => b

/-! ## Documents -/

/-- Takes the tokens cut off the markup. An end tag ends content that is text only. -/
def takeAll (b : Builder) (tokens : List Token) : Builder :=
  tokens.foldl (fun b token =>
    match token with
    | .endTag _ => { b with content := .markup }.take token
    | _ => b.take token) b

/-- Whether the innermost open element is foreign. -/
def inForeignElement (b : Builder) : Bool :=
  !b.stack.isEmpty && (b.name b.current).space != .html

/-- Builds on with markup. Each round cuts off at least one character, and the count of steps is
never less than the number of characters left. -/
def build : Nat → Builder → List Char → Builder
  | 0, b, _ => b
  | _, b, [] => b
  | fuel + 1, b, c :: cs =>
    let (tokens, rest) := cut b.content b.inForeignElement (fuel + 1) (c :: cs)
    build fuel (b.takeAll tokens) rest

/-- The tree of a document with the given markup, a byte order mark at its start left out. -/
def treeOf (markup : List Char) : Tree :=
  let cs := dropMark markup
  ((build cs.length {} cs).feed .finish).tree

end Prospector.Html.Builder
