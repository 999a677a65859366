import Prospector.Text.Occurrence
import Prospector.Toml.Quoted

/-!
# Numbers, booleans, dates and times

The values that are written as one word. A word is read to its end before it is decided what it
writes; a date may be followed by a space and a time, which then belong to the word.
-/

namespace Prospector.Toml

/-! ## Numbers -/

/-- The digits of a number in which underscores stand between digits only. -/
def ungrouped? (isDigit : Char → Bool) : List Char → Option (List Char)
  | [] => none
  | [c] => if isDigit c then some [c] else none
  | c :: '_' :: rest => if isDigit c then (ungrouped? isDigit rest).map (c :: ·) else none
  | c :: rest => if isDigit c then (ungrouped? isDigit rest).map (c :: ·) else none

/-- The digits of a whole number: no zero before others. -/
def wholeDigits? (cs : List Char) : Option (List Char) :=
  (ungrouped? Text.isDigit cs).filter fun ds => !(ds.head? == some '0' && 1 < ds.length)

/-- Whether a number begins with a minus sign, and the number without its sign. -/
def splitSign : List Char → Bool × List Char
  | '-' :: cs => (true, cs)
  | '+' :: cs => (false, cs)
  | cs => (false, cs)

/-- The number that digits of a base write. -/
def baseNumber? (base : Nat) (cs : List Char) : Option Nat := do
  let digits ← ungrouped? (fun c => (Text.hexValue? c).any (· < base)) cs
  (digits.mapM Text.hexValue?).map (Text.ofDigits base)

/-- The integer that a word writes. -/
def integer? (word : List Char) : Option Int :=
  let value? : Option Int :=
    match word with
    | '0' :: 'x' :: cs => (baseNumber? 16 cs).map Int.ofNat
    | '0' :: 'o' :: cs => (baseNumber? 8 cs).map Int.ofNat
    | '0' :: 'b' :: cs => (baseNumber? 2 cs).map Int.ofNat
    | _ =>
      let (negative, cs) := splitSign word
      (wholeDigits? cs).map fun ds =>
        let n := Text.decimalValue ds
        if negative then -(n : Int) else n
  value?.filter fun n => -(Nat.pow 2 63) ≤ n && n < Nat.pow 2 63

/-- A decimal number as a double. Numbers far beyond the range are infinite or zero. -/
def double (negative : Bool) (digits : List Char) (exponent : Int) : Binary64 :=
  let significant := digits.dropWhile (· == '0')
  let top := exponent + significant.length
  if significant.isEmpty || top < -400 then .ofMagnitude negative 0
  else if 400 < top then .ofMagnitude negative Binary64.infinityBits
  else .ofDecimal negative (Text.decimalValue significant) exponent

/-- The exponent that a text writes. -/
def exponent? (cs : List Char) : Option Int :=
  let (negative, cs) := splitSign cs
  (ungrouped? Text.isDigit cs).map fun ds =>
    let n := Text.decimalValue ds
    if negative then -(n : Int) else n

/-- The finite parts of a number: digits before the point, digits behind it, exponent. At least one
of the last two is there. -/
def floatParts? (cs : List Char) : Option (List Char × List Char × Int) := do
  let isMark := fun c : Char => c == 'e' || c == 'E'
  let exponent ← match cs.dropWhile (fun c => !isMark c) with
    | [] => some none
    | _ :: digits => (exponent? digits).map some
  let (whole, fraction) ← match Text.splitAtChar '.' (cs.takeWhile fun c => !isMark c) with
    | [whole] => if exponent.isSome then (wholeDigits? whole).map fun ds => (ds, []) else none
    | [whole, fraction] => do
      some (← wholeDigits? whole, ← ungrouped? Text.isDigit fraction)
    | _ => none
  some (whole, fraction, exponent.getD 0)

/-- The bits of a number that is none. -/
def notANumber : Nat := Binary64.infinityBits + Nat.pow 2 51

/-- The number with a point or an exponent that a word writes. A number too large for the format is
refused; one too far below zero is infinite. -/
def float? (word : List Char) : Option Binary64 :=
  let (negative, cs) := splitSign word
  if cs = ['i', 'n', 'f'] then some (.ofMagnitude negative Binary64.infinityBits)
  else if cs = ['n', 'a', 'n'] then some (.ofMagnitude negative notANumber)
  else
    (floatParts? cs).bind fun (whole, fraction, exponent) =>
      let x := double negative (whole ++ fraction) (exponent - fraction.length)
      if !negative && x.magnitude == Binary64.infinityBits then none else some x

/-! ## Dates and times -/

/-- The number that exactly `n` digits at the start of a text write. -/
def fixedNumber (n : Nat) : Reader Nat := fun cs =>
  let digits := cs.take n
  if digits.length == n && digits.all Text.isDigit then some (Text.decimalValue digits, cs.drop n)
  else none

/-- The text behind a character at its start. -/
def expect (c : Char) : List Char → Option (List Char)
  | d :: rest => if d = c then some rest else none
  | [] => none

/-- The number of days of a month. -/
def daysIn (year month : Nat) : Nat :=
  if month = 2 then
    if year % 4 = 0 && (year % 100 != 0 || year % 400 = 0) then 29 else 28
  else if [4, 6, 9, 11].contains month then 30
  else 31

/-- The text behind the date at its start. -/
def skipDate? (cs : List Char) : Option (List Char) := do
  let (year, cs) ← fixedNumber 4 cs
  let (month, cs) ← fixedNumber 2 (← expect '-' cs)
  let (day, cs) ← fixedNumber 2 (← expect '-' cs)
  if 1 ≤ month && month ≤ 12 && 1 ≤ day && day ≤ daysIn year month then some cs else none

/-- The text behind the time of day at its start, of which a sixty-first second may be part. -/
def skipTime? (cs : List Char) : Option (List Char) := do
  let (hour, cs) ← fixedNumber 2 cs
  let (minute, cs) ← fixedNumber 2 (← expect ':' cs)
  let (second, cs) ← fixedNumber 2 (← expect ':' cs)
  if 24 ≤ hour || 60 ≤ minute || 61 ≤ second then none
  else
    match cs with
    | '.' :: c :: rest => if Text.isDigit c then some (rest.dropWhile Text.isDigit) else none
    | '.' :: [] => none
    | _ => some cs

/-- Whether a text is empty or an offset from universal time. -/
def isOffset : List Char → Bool
  | [] => true
  | ['Z'] | ['z'] => true
  | c :: cs =>
    (c == '+' || c == '-') &&
      match fixedNumber 2 cs with
      | some (hour, ':' :: rest) =>
        match fixedNumber 2 rest with
        | some (minute, []) => hour < 24 && minute < 60
        | _ => false
      | _ => false

/-- Whether a word is a date. -/
def isDate (word : List Char) : Bool :=
  skipDate? word == some []

/-- Whether a word is a date, a time, or both with or without an offset. -/
def isMoment (word : List Char) : Bool :=
  match skipDate? word with
  | some [] => true
  | some (c :: rest) =>
    (c == 'T' || c == 't' || c == ' ') && (skipTime? rest).any isOffset
  | none => skipTime? word == some []

/-! ## Words -/

/-- Whether a character may be part of a word. -/
def isWordChar (c : Char) : Bool :=
  Text.isDigit c || ('a' ≤ c && c ≤ 'z') || ('A' ≤ c && c ≤ 'Z') ||
    ['_', '+', '-', '.', ':'].contains c

/-- The word at the start of a text; a date takes a time behind a space with it. -/
def splitWord (cs : List Char) : List Char × List Char :=
  let word := cs.takeWhile isWordChar
  match cs.dropWhile isWordChar with
  | ' ' :: c :: rest =>
    if isDate word && Text.isDigit c then
      (word ++ ' ' :: (c :: rest).takeWhile isWordChar, (c :: rest).dropWhile isWordChar)
    else (word, ' ' :: c :: rest)
  | rest => (word, rest)

/-- The value that a word writes. -/
def ofWord? (word : List Char) : Option Toml :=
  if word = ['t', 'r', 'u', 'e'] then some (.boolean true)
  else if word = ['f', 'a', 'l', 's', 'e'] then some (.boolean false)
  else if isMoment word then some (.moment (String.ofList word))
  else
    match integer? word with
    | some n => some (.integer n)
    | none => (float? word).map .float

/-- The string or the word at the start of a text. -/
def readScalar : Reader Toml := fun cs =>
  match readString cs with
  | some (s, rest) => some (.string s, rest)
  | none =>
    let (word, rest) := splitWord cs
    (ofWord? word).map fun v => (v, rest)

end Prospector.Toml
