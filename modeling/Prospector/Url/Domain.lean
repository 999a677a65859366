import Prospector.Text.Canonical
import Prospector.Text.LetterCase
import Prospector.Url.Domain.Table
import Prospector.Url.Punycode

/-!
# Domain names

Internationalized domain names in their ASCII form. A name is mapped character by character and
composed; its labels are checked one by one and, where they have other characters than ASCII ones,
written in Punycode. Labels already in that form are decoded for the checks and have to be what
mapping would have made of them.

## Main definitions

* `Domain.mapped?` : a name with its characters mapped.
* `Domain.isWellFormed`, `Domain.isBidiSafe` : what a label has to satisfy.
* `Domain.toAscii?` : the ASCII form of a name.
-/

namespace Prospector.Url.Domain

open Text (CodeTable)

/-! ## Tables -/

/-- The table of characters mapped to one other. -/
def singleTable : CodeTable := .ofText mappedToOne

/-- The table of characters mapped to several others. -/
def severalTable : Std.HashMap Nat (List Char) := Text.sequencesOf mappedToMany

/-- The table of characters that are left out. -/
def ignoredTable : CodeTable := .ofText ignoredRanges

/-- The table of characters that no name has. -/
def disallowedTable : CodeTable := .ofText disallowedRanges

/-- The table of combining marks. -/
def markTable : CodeTable := .ofText markRanges

/-- The table of characters written from left to right. -/
def leftToRightTable : CodeTable := .ofText leftToRightRanges

/-- The table of characters written from right to left. -/
def rightToLeftTable : CodeTable := .ofText rightToLeftRanges

/-- The table of Arabic numerals. -/
def arabicNumberTable : CodeTable := .ofText arabicNumberRanges

/-- The table of European numerals. -/
def europeanNumberTable : CodeTable := .ofText europeanNumberRanges

/-- The table of characters without a direction of their own. -/
def neutralTable : CodeTable := .ofText neutralRanges

/-- The table of marks that take the direction of the character before. -/
def directionlessMarkTable : CodeTable := .ofText directionlessMarkRanges

/-- The table of letters joined to the one behind. -/
def leftJoiningTable : CodeTable := .ofText leftJoiningRanges

/-- The table of letters joined to the one before. -/
def rightJoiningTable : CodeTable := .ofText rightJoiningRanges

/-- The table of marks that joining passes over. -/
def transparentTable : CodeTable := .ofText transparentRanges

/-! ## Mapping -/

/-- What a character of a name is mapped to; nothing for a character that no name has. -/
def mapChar? (c : Char) : Option (List Char) :=
  if c.toNat < 128 then some [Text.lowerAscii c]
  else
    match singleTable.image? c.toNat with
    | some n => some [Char.ofNat n]
    | none =>
      match severalTable[c.toNat]? with
      | some chars => some chars
      | none =>
        if ignoredTable.contains c.toNat then some []
        else if disallowedTable.contains c.toNat then none
        else some [c]

/-- Whether all characters are ASCII ones. -/
def isAscii (cs : List Char) : Bool :=
  cs.all fun c => c.toNat < 128

/-- A name with its characters mapped, in canonical composition; ASCII characters do not compose. -/
def mapped? (name : List Char) : Option (List Char) :=
  if isAscii name then some (name.map Text.lowerAscii)
  else (name.mapM mapChar?).map fun chars => Text.compose chars.flatten

/-! ## Labels -/

/-- Whether the letter before a joiner, marks passed over, is joined to what is behind it. -/
def joinsForward : List Char → Bool
  | [] => false
  | c :: before =>
    if transparentTable.contains c.toNat then joinsForward before
    else leftJoiningTable.contains c.toNat

/-- Whether the letter behind a joiner, marks passed over, is joined to what is before it. -/
def joinsBackward : List Char → Bool
  | [] => false
  | c :: behind =>
    if transparentTable.contains c.toNat then joinsBackward behind
    else rightJoiningTable.contains c.toNat

/-- Whether all joiners stand where they are allowed: behind a virama, or, the one that separates,
between letters that would be joined. `before` holds the characters passed, last one first. -/
def joinersFit (before : List Char) : List Char → Bool
  | [] => true
  | c :: cs =>
    let afterVirama :=
      match before with
      | b :: _ => Text.combiningClass b == 9
      | [] => false
    let fits :=
      if c = '\u200C' then afterVirama || (joinsForward before && joinsBackward cs)
      else if c = '\u200D' then afterVirama
      else true
    fits && joinersFit (c :: before) cs

/-- Whether a label is one that mapping leaves as it is. -/
def isMapped (label : List Char) : Bool :=
  mapped? label == some label

/-- Whether a label does not begin with a mark and has joiners only where they are allowed. -/
def isWellFormed (label : List Char) : Bool :=
  (match label with
    | c :: _ => !markTable.contains c.toNat
    | [] => true) &&
    joinersFit [] label

/-- What stands before a label in Punycode. -/
def punycodeMark : List Char := ['x', 'n', '-', '-']

/-- The number of characters that a label written in Punycode may stand for. -/
def labelLimit : Nat := 1000

/-- The number of characters that are read behind the mark of Punycode. -/
def punycodeLimit : Nat := 2000

/-- The label that the characters behind the mark of Punycode stand for. -/
def decoded? (cs : List Char) : Option (List Char) :=
  if punycodeLimit < cs.length then none else Punycode.decode? cs

/-- The characters that a label stands for, if they make a well-formed label. A label in Punycode
has to stand for more than ASCII characters and for a label that is mapped already. -/
def readLabel? (label : List Char) : Option (List Char) :=
  let chars? :=
    if punycodeMark.isPrefixOf label then
      (decoded? (label.drop punycodeMark.length)).filter fun chars =>
        !isAscii chars && isMapped chars
    else some label
  chars?.filter isWellFormed

/-- The ASCII form of a label, or nothing for one that is too long for Punycode. -/
def writeLabel? (label : List Char) : Option (List Char) :=
  if isAscii label then some label
  else if labelLimit < label.length then none
  else some (punycodeMark ++ Punycode.encode label)

/-! ## Direction -/

/-- Whether a character is written from right to left or an Arabic numeral. -/
def isRightward (c : Char) : Bool :=
  rightToLeftTable.contains c.toNat || arabicNumberTable.contains c.toNat

/-- A label without the directionless marks at its end, reversed. -/
def reversedCore (label : List Char) : List Char :=
  label.reverse.dropWhile fun c => directionlessMarkTable.contains c.toNat

/-- Whether a character may stand in a label of either direction. -/
def isUndirected (c : Char) : Bool :=
  europeanNumberTable.contains c.toNat || neutralTable.contains c.toNat ||
    directionlessMarkTable.contains c.toNat

/-- Whether a label reads the same wherever names with both directions are shown: it begins with a
letter of its direction, has no letter of the other, ends in a letter or numeral, and does not mix
the two kinds of numerals. -/
def isBidiSafe (label : List Char) : Bool :=
  match label, reversedCore label with
  | first :: _, last :: _ =>
    if leftToRightTable.contains first.toNat then
      label.all (fun c => leftToRightTable.contains c.toNat || isUndirected c) &&
        (leftToRightTable.contains last.toNat || europeanNumberTable.contains last.toNat)
    else if rightToLeftTable.contains first.toNat then
      label.all (fun c => isRightward c || isUndirected c) &&
        (isRightward last || europeanNumberTable.contains last.toNat) &&
        !(label.any (fun c => europeanNumberTable.contains c.toNat) &&
          label.any (fun c => arabicNumberTable.contains c.toNat))
    else false
  | [], _ => true
  | _, [] => false

/-! ## Names -/

/-- The ASCII characters that no mapped name has, capital letters among them. -/
def isForbidden (c : Char) : Bool :=
  c.toNat ≤ 0x20 || c.toNat == 0x7F || ('A' ≤ c && c ≤ 'Z') ||
    ['#', '%', '/', ':', '<', '>', '?', '@', '[', '\\', ']', '^', '|'].contains c

/-- The ASCII form of a name, or nothing for what is no name. -/
def toAscii? (name : List Char) : Option (List Char) := do
  let mapped ← mapped? name
  let labels ← (Text.splitAtChar '.' mapped).mapM readLabel?
  let isBidi := labels.any fun label => label.any isRightward
  if isBidi && !labels.all isBidiSafe then none
  else
    let name := ['.'].intercalate (← labels.mapM writeLabel?)
    if name.any isForbidden then none else some name

end Prospector.Url.Domain
