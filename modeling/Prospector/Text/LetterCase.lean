import Prospector.Text.CodeTable
import Prospector.Text.LetterCase.Table

/-!
# Lower case

Texts in lower case. Most letters have one lower-case form; the capital sigma has two, of which the
second stands at the end of a word.
-/

namespace Prospector.Text

/-- The table of lower-case forms. -/
def lowerFormTable : CodeTable := .ofText lowerForms

/-- The table of letters that are in a case. -/
def casedTable : CodeTable := .ofText casedRanges

/-- The table of characters that do not end a word. -/
def caseIgnorableTable : CodeTable := .ofText caseIgnorableRanges

/-- A character with an ASCII capital letter made small. -/
def lowerAscii (c : Char) : Char :=
  if 'A' ≤ c && c ≤ 'Z' then Char.ofNat (c.toNat + 32) else c

/-- Whether a character is a letter in a case. -/
def isCased (c : Char) : Bool :=
  if c.toNat < 128 then ('A' ≤ c && c ≤ 'Z') || ('a' ≤ c && c ≤ 'z')
  else casedTable.contains c.toNat

/-- Whether a character does not separate letters where case matters. -/
def isCaseIgnorable (c : Char) : Bool :=
  if c.toNat < 128 then c = '\x27' || c = '.' || c = ':' || c = '^' || c = '\x60'
  else caseIgnorableTable.contains c.toNat

/-- The lower-case form of a character other than the capital sigma. -/
def lowerChar (c : Char) : List Char :=
  if c.toNat < 128 then [lowerAscii c]
  else if c = '\u0130' then ['i', '\u0307']
  else
    match lowerFormTable.image? c.toNat with
    | some n => [Char.ofNat n]
    | none => [c]

/-- Whether a letter in a case is the next thing in a text, characters that do not separate letters
left out. -/
def beginsWithLetter : List Char → Bool
  | [] => false
  | c :: cs => if isCaseIgnorable c then beginsWithLetter cs else isCased c

/-- A list of characters in lower case; `inWord` says whether a letter in a case stands before. -/
def lowerFrom (inWord : Bool) : List Char → List Char
  | [] => []
  | c :: cs =>
    let form :=
      if c = 'Σ' then [if inWord && !beginsWithLetter cs then 'ς' else 'σ'] else lowerChar c
    let inWord := if isCaseIgnorable c then inWord else isCased c
    form ++ lowerFrom inWord cs

/-- A text in lower case. -/
def lower (s : String) : String :=
  String.ofList (lowerFrom false s.toList)

end Prospector.Text
