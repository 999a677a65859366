import Prospector.Html.Builder.Basic

/-!
# Formatting elements

Elements such as `b` and `a` may be closed in any order. What was meant is restored in two ways:
elements that a surrounding element closed too early are opened again before the next content, and
an end tag in the wrong order splits the elements between.
-/

namespace Prospector.Html.Builder

/-! ## The list of formatting elements -/

/-- The formatting elements behind the latest mark. -/
def recentFormats (b : Builder) : List (NodeId × Tag) :=
  (b.formats.takeWhile (· != .mark)).filterMap fun f =>
    match f with
    | .element id tag => some (id, tag)
    | .mark => none

/-- Whether an entry is an element with a number. -/
def isEntryOf (id : NodeId) : Format → Bool
  | .element other _ => other == id
  | .mark => false

/-- Whether an element is in the list. -/
def isFormat (b : Builder) (id : NodeId) : Bool :=
  b.formats.any (isEntryOf id)

/-- Takes an element off the list. -/
def removeFormat (b : Builder) (id : NodeId) : Builder :=
  { b with formats := b.formats.eraseP (isEntryOf id) }

/-- Puts a mark on the list. -/
def mark (b : Builder) : Builder :=
  { b with formats := .mark :: b.formats }

/-- Takes everything off the list up to and including the latest mark. -/
def clearToMark (b : Builder) : Builder :=
  { b with formats := (b.formats.dropWhile (· != .mark)).drop 1 }

/-- Whether an entry needs no opening. -/
def isSettled (b : Builder) : Format → Bool
  | .element id _ => b.stack.contains id
  | .mark => true

/-- Opens the elements of entries, which stand with the latest first, in the order of their age. -/
def reopen (b : Builder) : List Format → List Format × Builder
  | [] => ([], b)
  | entry :: older =>
    let (done, b) := b.reopen older
    match entry with
    | .mark => (.mark :: done, b)
    | .element _ tag =>
      let (id, b) := b.openElement .html tag
      (.element id tag :: done, b)

/-- Opens the formatting elements again that were closed too early: the latest entries up to one
that needs no opening. -/
def reconstruct (b : Builder) : Builder :=
  let closed := b.formats.takeWhile fun f => !b.isSettled f
  let settled := b.formats.drop closed.length
  let (opened, b) := b.reopen closed
  { b with formats := opened ++ settled }

/-- Whether two tags have the same name and the same attributes in any order. -/
def sameTag (s t : Tag) : Bool :=
  s.name == t.name && s.attrs.length == t.attrs.length && s.attrs.all t.attrs.contains

/-- Opens a formatting element. Of equal ones at most three are kept in the list. -/
def openFormat (b : Builder) (tag : Tag) : Builder :=
  let equal := b.recentFormats.filter fun entry => sameTag tag entry.2
  let b :=
    if equal.length < 3 then b
    else
      match equal.getLast? with
      | some (id, _) => b.removeFormat id
      | none => b
  let (id, b) := b.openElement .html tag
  { b with formats := .element id tag :: b.formats }

/-! ## End tags in the wrong order -/

/-- The elements inside the innermost one of a tag, or nothing if a special element is met first. -/
def insideOf? (b : Builder) (tag : String) : List NodeId → Option (List NodeId)
  | [] => none
  | id :: outer =>
    if b.isHtml tag id then some []
    else if TagSet.special (b.name id) then none
    else (b.insideOf? tag outer).map (id :: ·)

/-- The end tag of an element without rules of its own. -/
def closeOrdinary (b : Builder) (tag : String) : Builder :=
  match b.insideOf? tag b.stack with
  | none => b
  | some inside =>
    let kept := b.stack.drop (inside.length + 1)
    { b with stack := kept }

/-- What is made of the elements between a block and the formatting element around it. -/
structure Split where
  builder : Builder
  /-- The elements that stay open, the innermost first. -/
  kept : List NodeId
  /-- The outermost node so far of what moves. -/
  last : NodeId
  /-- The entry behind which the copy of the formatting element goes into the list. -/
  behind : Option NodeId

/-- Splits the elements between a block and a formatting element around it: the three innermost
ones that are formatting elements are made anew around what moves, the others are closed. -/
def splitBetween (block : NodeId) (s : Split) (count : Nat) : List NodeId → Split
  | [] => s
  | id :: outer =>
    let b := s.builder
    let entry := b.formats.find? (isEntryOf id)
    match entry with
    | some (.element _ tag) =>
      if 3 < count then
        splitBetween block { s with builder := b.removeFormat id } (count + 1) outer
      else
        let (copy, b) := b.makeElement ⟨.html, tag.name⟩
          (tag.attrs.map fun a => ⟨.plain, a.name, a.value⟩)
        let formats := b.formats.map fun f => if isEntryOf id f then .element copy tag else f
        let tree := b.tree.append copy s.last
        splitBetween block
          { builder := { b with formats, tree }
            kept := s.kept ++ [copy]
            last := copy
            behind := if s.last == block then some copy else s.behind }
          (count + 1) outer
    | _ => splitBetween block s (count + 1) outer

/-- The list with the entry of a formatting element replaced by that of its copy, which goes right
behind another entry if one is given. -/
def moveEntry (old : NodeId) (new : Format) (behind : Option NodeId) (formats : List Format) :
    List Format :=
  match behind with
  | none => formats.map fun f => if isEntryOf old f then new else f
  | some other =>
    (formats.flatMap fun f => if isEntryOf other f then [new, f] else [f]).eraseP (isEntryOf old)

/-- One round for an end tag of a formatting element; `false` if no further round is needed. -/
def adoptOnce (b : Builder) (tag : String) : Bool × Builder :=
  match b.recentFormats.find? (·.2.name == tag) with
  | none => (false, b.closeOrdinary tag)
  | some (format, formatTag) =>
    if !b.stack.contains format then (false, b.removeFormat format)
    else if !b.within TagSet.scope (· == format) b.stack then (false, b)
    else
      let inside := b.stack.takeWhile (· != format)
      let outside := (b.stack.dropWhile (· != format)).drop 1
      match inside.reverse.find? fun id => TagSet.special (b.name id) with
      | none => (false, { b with stack := outside }.removeFormat format)
      | some block =>
        let above := inside.takeWhile (· != block)
        let between := (inside.dropWhile (· != block)).drop 1
        let ancestor := outside.headD b.rootElement
        let s := splitBetween block ⟨b, [], block, none⟩ 1 between
        let b := s.builder
        let b := { b with tree := b.tree.detach s.last,
                          stack := above ++ [block] ++ s.kept ++ format :: outside }
        let b := b.putNode (b.placeIn ancestor) s.last
        let (copy, b) := b.makeElement ⟨.html, formatTag.name⟩
          (formatTag.attrs.map fun a => ⟨.plain, a.name, a.value⟩)
        let tree := (b.tree.moveChildren block copy).append block copy
        (true, { b with
          tree
          formats := moveEntry format (.element copy formatTag) s.behind b.formats
          stack := above ++ [copy, block] ++ s.kept ++ outside })

/-- At most so many rounds for an end tag of a formatting element. -/
def adoptRounds (tag : String) : Nat → Builder → Builder
  | 0, b => b
  | rounds + 1, b =>
    let (more, b) := b.adoptOnce tag
    if more then adoptRounds tag rounds b else b

/-- The end tag of a formatting element. -/
def closeFormat (b : Builder) (tag : String) : Builder :=
  if b.currentIs tag && !b.isFormat b.current then b.pop else adoptRounds tag 8 b

/-- Closes a link that is still open where another one begins. -/
def closeOpenLink (b : Builder) : Builder :=
  match b.recentFormats.find? fun entry => b.isHtml "a" entry.1 with
  | none => b
  | some (id, _) => ((b.closeFormat "a").removeFormat id).removeOpen id

end Prospector.Html.Builder
