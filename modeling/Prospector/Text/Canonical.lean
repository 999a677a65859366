import Prospector.Text.Canonical.Table
import Prospector.Text.CodeTable

/-!
# Canonical composition

The form of a text in which canonically equivalent texts are equal and as many characters as
possible are composed ones. Every character is taken apart, the marks behind a character are sorted
by their combining class, and characters are then put together from the left.
-/

namespace Prospector.Text

/-- The table of full decompositions, by code point. -/
def decompositionTable : Std.HashMap Nat (List Char) := sequencesOf decompositions

/-- The table of composites of two characters, by their code points. -/
def compositeTable : Std.HashMap (Nat × Nat) Char :=
  Std.HashMap.ofList ((wordsFrom [] composites.toList).filterMap fun entry =>
    match sidesOf entry with
    | some ([a, b], [c]) => some ((a.toNat, b.toNat), c)
    | _ => none)

/-- The table of combining classes. -/
def combiningTable : CodeTable := .ofText combiningClasses

/-- The combining class of a character, zero for characters that do not combine. -/
def combiningClass (c : Char) : Nat :=
  if c.toNat < 0x300 then 0 else (combiningTable.value? c.toNat).getD 0

/-! ## Hangul syllables

A syllable consists of a leading consonant, a vowel and perhaps a trailing consonant, and syllables
are numbered in that order of their parts. -/

/-- The first syllable. -/
def hangulBase : Nat := 0xAC00

/-- The parts of a syllable. -/
def hangulParts? (c : Char) : Option (List Char) :=
  let n := c.toNat - hangulBase
  if hangulBase ≤ c.toNat && n < 11172 then
    let pair := [Char.ofNat (0x1100 + n / 588), Char.ofNat (0x1161 + n % 588 / 28)]
    some (if n % 28 = 0 then pair else pair ++ [Char.ofNat (0x11A7 + n % 28)])
  else none

/-- The syllable, or the longer syllable, that two characters make. -/
def hangulComposite? (a b : Char) : Option Char :=
  let l := a.toNat - 0x1100
  let v := b.toNat - 0x1161
  let s := a.toNat - hangulBase
  let t := b.toNat - 0x11A7
  if 0x1100 ≤ a.toNat && l < 19 && 0x1161 ≤ b.toNat && v < 21 then
    some (Char.ofNat (hangulBase + (l * 21 + v) * 28))
  else if hangulBase ≤ a.toNat && s < 11172 && s % 28 = 0 && 0x11A7 < b.toNat && t < 28 then
    some (Char.ofNat (a.toNat + t))
  else none

/-! ## Decomposition, order, composition -/

/-- A character taken apart. -/
def decomposeChar (c : Char) : List Char :=
  if c.toNat < 0xC0 then [c]
  else
    match hangulParts? c with
    | some parts => parts
    | none => (decompositionTable[c.toNat]?).getD [c]

/-- A mark put among sorted marks, behind those of its own class. -/
def insertMark (c : Char) : List Char → List Char
  | [] => [c]
  | d :: rest =>
    if combiningClass c < combiningClass d then c :: d :: rest else d :: insertMark c rest

/-- Characters with each run of marks sorted; `marks` is the sorted run so far. -/
def sortMarks (marks : List Char) : List Char → List Char
  | [] => marks
  | c :: cs =>
    if combiningClass c = 0 then marks ++ c :: sortMarks [] cs
    else sortMarks (insertMark c marks) cs

/-- The composite of two characters. -/
def composite? (a b : Char) : Option Char :=
  match hangulComposite? a b with
  | some c => some c
  | none => compositeTable[(a.toNat, b.toNat)]?

/-- Characters put together; `starter` is the last character that does not combine, and `between`
holds the marks behind it that stay on their own, the last one first. -/
def composeFrom (starter : Option Char) (between : List Char) : List Char → List Char
  | [] => starter.toList ++ between.reverse
  | c :: cs =>
    let unblocked := match between with
      | [] => true
      | mark :: _ => combiningClass mark < combiningClass c
    match (if unblocked then starter.bind fun s => composite? s c else none) with
    | some joined => composeFrom (some joined) between cs
    | none =>
      if combiningClass c = 0 then
        starter.toList ++ between.reverse ++ composeFrom (some c) [] cs
      else composeFrom starter (c :: between) cs

/-- A list of characters in canonical composition. -/
def compose (cs : List Char) : List Char :=
  composeFrom none [] (sortMarks [] (cs.flatMap decomposeChar))

end Prospector.Text
