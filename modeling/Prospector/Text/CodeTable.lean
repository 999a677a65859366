import Std.Data.HashMap
import Prospector.Text.Blank
import Prospector.Text.Digit
import Prospector.Text.Occurrence

/-!
# Tables of code points

Properties and maps of characters, read from texts of hexadecimal code points. A table of runs is a
sorted array searched by halving; a table of sequences maps one character to several.

## Main definitions

* `CodeTable` : runs of code points, each with what its first one is mapped to.
* `CodeTable.contains`, `CodeTable.image?` : a table as a set and as a map.
* `sequencesOf` : the entries `a=b+c` of a text as a map.
-/

namespace Prospector.Text

/-- Every `stride`-th code point from `first` to `last`; the first one is mapped to `target` and
the others to the code points as far behind it. -/
structure CodeRun where
  first : Nat
  last : Nat
  stride : Nat := 1
  target : Nat := 0
  deriving Repr, Inhabited, DecidableEq

/-- Whether a code point is one of a run. -/
def CodeRun.covers (r : CodeRun) (n : Nat) : Bool :=
  r.first ≤ n && n ≤ r.last && (n - r.first) % r.stride == 0

/-- A table of runs in ascending order, none of which reaches into the next. -/
structure CodeTable where
  runs : Array CodeRun
  deriving Inhabited

namespace CodeTable

/-- The number of runs among those from `low` up to `high` that begin at `n` or before it, counted
from the start of the table. -/
def startsUpTo (runs : Array CodeRun) (n low high : Nat) : Nat :=
  if low < high then
    let middle := (low + high) / 2
    match runs[middle]? with
    | some r => if r.first ≤ n then startsUpTo runs n (middle + 1) high
                else startsUpTo runs n low middle
    | none => low
  else low
termination_by high - low

/-- The run that covers a code point. -/
def run? (t : CodeTable) (n : Nat) : Option CodeRun :=
  match startsUpTo t.runs n 0 t.runs.size with
  | 0 => none
  | k + 1 => (t.runs[k]?).filter fun r => r.covers n

/-- Whether a code point is in a table. -/
def contains (t : CodeTable) (n : Nat) : Bool :=
  (t.run? n).isSome

/-- What a table maps a code point to. -/
def image? (t : CodeTable) (n : Nat) : Option Nat :=
  (t.run? n).map fun r => r.target + (n - r.first)

/-- The value that a table gives to all of a run. -/
def value? (t : CodeTable) (n : Nat) : Option Nat :=
  (t.run? n).map fun r => r.target

end CodeTable

/-! ## Reading tables -/

/-- The number that hexadecimal digits write. -/
def codePoint (digits : List Char) : Nat :=
  ofDigits 16 (digits.map fun c => (hexValue? c).getD 0)

/-- A run `a`, `a-z` or `a-z/2`. -/
def runOf (entry : List Char) : CodeRun :=
  let (range, stride) :=
    match splitAtChar '/' entry with
    | [range, stride] => (range, decimalValue stride)
    | _ => (entry, 1)
  match splitAtChar '-' range with
  | [first, last] => { first := codePoint first, last := codePoint last, stride }
  | _ => { first := codePoint range, last := codePoint range, stride }

/-- A run with the code point that its first one is mapped to, as in `a-z>b`, or with the value of
all its code points, as in `a-z=9`. -/
def entryOf (entry : List Char) : CodeRun :=
  match splitAtChar '>' entry with
  | [run, target] => { runOf run with target := codePoint target }
  | _ =>
    match splitAtChar '=' entry with
    | [run, value] => { runOf run with target := decimalValue value }
    | _ => runOf entry

/-- The table written as a text. -/
def CodeTable.ofText (s : String) : CodeTable :=
  ⟨((wordsFrom [] s.toList).map entryOf).toArray⟩

/-- The characters written as code points with `+` between them. -/
def charsOf (codes : List Char) : List Char :=
  (splitAtChar '+' codes).map fun code => Char.ofNat (codePoint code)

/-- The two sides of an entry `a+b=c+d`. -/
def sidesOf (entry : List Char) : Option (List Char × List Char) :=
  match splitAtChar '=' entry with
  | [left, right] => some (charsOf left, charsOf right)
  | _ => none

/-- The sequences that a text of entries `a=b+c` gives to single characters, by code point. -/
def sequencesOf (s : String) : Std.HashMap Nat (List Char) :=
  Std.HashMap.ofList ((wordsFrom [] s.toList).filterMap fun entry =>
    match sidesOf entry with
    | some ([c], chars) => some (c.toNat, chars)
    | _ => none)

end Prospector.Text
