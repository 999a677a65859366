import Std.Data.HashMap
import Prospector.Html.Entity.Table
import Prospector.Text.Blank
import Prospector.Text.Digit
import Prospector.Text.Occurrence

/-!
# Character references

A reference names a character by a word or by its number. This module says which characters a
reference at the start of a text stands for and how much of the text it takes up.
-/

namespace Prospector.Html

/-! ## By name -/

/-- A name and the characters that it stands for, read from their written form. -/
def entityOf (entry : List Char) : Option (String × List Char) :=
  match Text.splitAtChar '=' entry with
  | [name, codes] =>
    some (String.ofList name, (Text.splitAtChar '+' codes).map fun code =>
      Char.ofNat (Text.ofDigits 16 (code.map fun c => (Text.hexValue? c).getD 0)))
  | _ => none

/-- The characters of the names that end in a semicolon. -/
def entities : Std.HashMap String (List Char) :=
  Std.HashMap.ofList ((Text.wordsFrom [] entityNames.toList).filterMap entityOf)

/-- The characters of the names that need no semicolon. -/
def bareEntities : Std.HashMap String (List Char) :=
  Std.HashMap.ofList ((Text.wordsFrom [] bareEntityNames.toList).filterMap fun name =>
    let key := String.ofList name
    (entities[key]?).map fun chars => (key, chars))

/-- An upper bound of the length of names. -/
def entityNameBound : Nat := 32

/-- Whether a character may stand in a name. -/
def isNameChar (c : Char) : Bool :=
  Text.isDigit c || ('a' ≤ c && c ≤ 'z') || ('A' ≤ c && c ≤ 'Z')

/-- The longest of the first `k` starts of a text that is a name without semicolon: its characters
and its length. -/
def longestBare (run : List Char) : Nat → Option (List Char × Nat)
  | 0 => none
  | k + 1 =>
    match bareEntities[String.ofList (run.take (k + 1))]? with
    | some chars => some (chars, k + 1)
    | none => longestBare run k

/-- A reference: the characters that it stands for and the text behind it. -/
structure Reference where
  chars : List Char
  rest : List Char
  /-- Whether a reference by number lacks its semicolon. -/
  unclosed : Bool := false
  deriving Repr, Inhabited

/-- The reference by name and semicolon at the start of a text; `run` holds the letters and digits
there and `behind` the text behind them. -/
def closedReference? (run behind : List Char) : Option Reference :=
  match behind with
  | ';' :: rest => (entities[String.ofList run]?).map fun chars => { chars, rest }
  | _ => none

/-- Whether some name starts with the given characters. -/
def startsName (run : List Char) : Bool :=
  entities.keys.any fun name => run.isPrefixOf name.toList

/-- A text without the carriage return at its start. -/
def dropReturn : List Char → List Char
  | '\r' :: cs => cs
  | cs => cs

/-- A text with a carriage return at its start turned into a line feed. -/
def feedReturn : List Char → List Char
  | '\r' :: cs => '\n' :: cs
  | cs => cs

/-- The text that is left when a name was looked for: `kept` holds letters and digits that are not
part of a reference, and the text behind them was looked at. A carriage return looked at is used up,
so that a line feed behind it counts as a line end of its own; the line end that it stands for is
lost unless letters or digits are kept before it. -/
def leaveName (kept behind : List Char) : List Char :=
  if kept.isEmpty then dropReturn behind else kept ++ feedReturn behind

/-- The reference by name at the start of a text, the ampersand left off: the longest name there,
or else the ampersand alone. In the value of an attribute a name without semicolon is no reference
if an equals sign or a letter or digit follows it. What follows the letters and digits is looked at
unless a name is found and no longer one may follow. -/
def namedReference (inAttribute : Bool) (cs : List Char) : Reference :=
  let run := cs.takeWhile isNameChar
  let behind := cs.drop run.length
  match closedReference? run behind with
  | some r => { r with rest := leaveName [] r.rest }
  | none =>
    let bare? := longestBare run (min run.length entityNameBound)
    let isLookedAt := bare?.isNone || (behind.head? == some '\r' && startsName run)
    let rest (length : Nat) : List Char :=
      if isLookedAt then leaveName (run.drop length) behind else cs.drop length
    let unresolved : Reference := { chars := ['&'], rest := rest 0 }
    match bare? with
    | none => unresolved
    | some (chars, length) =>
      match cs.drop length with
      | c :: _ =>
        if inAttribute && (c == '=' || isNameChar c) then unresolved
        else { chars, rest := rest length }
      | [] => { chars, rest := [] }

/-! ## By number -/

/-- The characters that the numbers 128 to 159 stand for; zero where a number keeps its place. -/
def windowsCharacters : List Nat :=
  [0x20AC, 0, 0x201A, 0x0192, 0x201E, 0x2026, 0x2020, 0x2021, 0x02C6, 0x2030, 0x0160, 0x2039,
    0x0152, 0, 0x017D, 0, 0, 0x2018, 0x2019, 0x201C, 0x201D, 0x2022, 0x2013, 0x2014, 0x02DC,
    0x2122, 0x0161, 0x203A, 0x0153, 0, 0x017E, 0x0178]

/-- The character that takes the place of what is no character. -/
def replacement : Char := '\ufffd'

/-- The character that a number stands for. -/
def characterOf (n : Nat) : Char :=
  if n = 0 || 0x10FFFF < n || (0xD800 ≤ n && n ≤ 0xDFFF) then replacement
  else if 0x80 ≤ n && n ≤ 0x9F then
    match windowsCharacters[n - 0x80]? with
    | some 0 | none => Char.ofNat n
    | some m => Char.ofNat m
  else Char.ofNat n

/-- The reference whose digits of a base start a text; nothing without digits. -/
def numberReference? (base : Nat) (digit? : Char → Option Nat) (cs : List Char) :
    Option Reference :=
  let digits := cs.takeWhile fun c => (digit? c).isSome
  if digits.isEmpty then none
  else
    let value := Text.ofDigits base (digits.map fun c => (digit? c).getD 0)
    match cs.drop digits.length with
    | ';' :: rest => some ⟨[characterOf value], rest, false⟩
    | rest => some ⟨[characterOf value], rest, true⟩

/-- The value of a decimal digit. -/
def decimalDigit? (c : Char) : Option Nat :=
  if Text.isDigit c then some (c.toNat - 48) else none

/-- The reference at the start of a text whose ampersand is left off; the ampersand alone if there
is none. -/
def reference (inAttribute : Bool) (cs : List Char) : Reference :=
  let number? :=
    match cs with
    | '#' :: 'x' :: rest | '#' :: 'X' :: rest => some (numberReference? 16 Text.hexValue? rest)
    | '#' :: rest => some (numberReference? 10 decimalDigit? rest)
    | _ => none
  match number? with
  | some found => found.getD { chars := ['&'], rest := cs }
  | none => namedReference inAttribute cs

end Prospector.Html
