import Prospector.Json.Basic
import Prospector.Text.Digit

/-!
# Number literals of JSON

A literal is kept as the digits it is written with. An integer literal that fits 64 bits is exact.
Any other literal is read in two steps: the longest start of its digits that fits 64 unsigned bits
becomes the significand, and the significand is then scaled by one rounded power of ten. The second
step can differ from the nearest number in the last bit, and it refuses results beyond the range of
finite numbers.
-/

namespace Prospector.Json

/-- A number literal: sign, digits before the point, digits behind it, and the signed exponent. -/
structure Literal where
  negative : Bool := false
  whole : List Char := []
  fraction : Option (List Char) := none
  exponentNegative : Bool := false
  exponent : Option (List Char) := none
  deriving Repr, Inhabited, DecidableEq

namespace Literal

/-- The largest significand. -/
def maxSignificand : Nat := Nat.pow 2 64 - 1

/-- Appends decimal digits to a significand as long as it fits: the significand reached and the
digits left over. -/
def absorb (significand : Nat) : List Char → Nat × List Char
  | [] => (significand, [])
  | c :: cs =>
    let next := significand * 10 + (c.toNat - 48)
    if next ≤ maxSignificand then absorb next cs else (significand, c :: cs)

/-- Division of a number by ever more powers of ten, one for every 308 of the exponent. -/
def scaleDown (x : Binary64) (exponent : Nat) : Nat → Binary64
  | 0 => x
  | fuel + 1 =>
    if exponent ≤ 308 then x.div (.ofDecimal false 1 exponent)
    else if x.magnitude = 0 then x
    else scaleDown (x.div (.ofDecimal false 1 308)) (exponent - 308) fuel

/-- `significand · 10 ^ exponent`, if it is in range. Three divisions by `10 ^ 308` take every
significand to zero. -/
def scale? (significand : Nat) (exponent : Int) : Option Binary64 :=
  let x := Binary64.ofNat significand
  if exponent < 0 then some (scaleDown x exponent.natAbs 4)
  else if 308 < exponent then if significand = 0 then some x else none
  else
    let product := x.mul (.ofDecimal false 1 exponent)
    if product.isFinite then some product else none

/-- The significand of the digits before and behind the point, and the power of ten it stands at. -/
def significand (l : Literal) : Nat × Int :=
  let (whole, surplus) := absorb 0 l.whole
  match l.fraction with
  | none => (whole, surplus.length)
  | some digits =>
    let (all, rest) := absorb whole digits
    (all, (surplus.length : Int) - ((digits.length : Int) - rest.length))

/-- The largest exponent that is added up; a larger one is out of range or gives zero. -/
def maxExponent : Nat := Nat.pow 2 31 - 1

/-- The size of a literal that is not an integer in range, if finite. -/
def size? (l : Literal) : Option Binary64 :=
  let (digits, start) := l.significand
  match l.exponent with
  | none => scale? digits start
  | some written =>
    let exponent := Text.decimalValue written
    if exponent ≤ maxExponent then
      scale? digits (if l.exponentNegative then start - exponent else start + exponent)
    else if digits = 0 || l.exponentNegative then some (.ofNat 0)
    else none

/-- The integer that a literal writes, if it has neither fraction nor exponent and fits 64 bits.
Minus zero is not an integer. -/
def integer? (l : Literal) : Option Int :=
  if l.fraction.isSome || l.exponent.isSome then none
  else
    let n := Text.decimalValue l.whole
    if l.negative then if 0 < n && n ≤ Nat.pow 2 63 then some (-(n : Int)) else none
    else if n ≤ maxSignificand then some (n : Int) else none

/-- The number that a literal writes; nothing if it is out of range. -/
def value? (l : Literal) : Option Number :=
  match l.integer? with
  | some n => some (.int n)
  | none => l.size?.map fun x => .float (.ofMagnitude l.negative x.magnitude)

end Literal

end Prospector.Json
