/-!
# Double-precision numbers

A number of the IEEE 754 format `binary64`, kept as its 64 bits. Its value is a significand times
a power of two; arithmetic is exact arithmetic on fractions followed by one rounding to the
nearest number of the format, a tie going to the even significand. Nothing here depends on the
machine's floating-point unit, so every value is open to proof.
-/

namespace Prospector

/-- A double-precision number, as its bits. -/
structure Binary64 where
  bits : UInt64
  deriving DecidableEq, Repr, Inhabited

namespace Binary64

/-- The number with sign bit `negative` and the remaining 63 bits `magnitude`. -/
def ofMagnitude (negative : Bool) (magnitude : Nat) : Binary64 :=
  ⟨UInt64.ofNat ((if negative then Nat.pow 2 63 else 0) + magnitude)⟩

/-- The bits of positive infinity. -/
def infinityBits : Nat := 2047 * Nat.pow 2 52

/-- Whether the sign bit is set. -/
def isNegative (x : Binary64) : Bool :=
  decide (Nat.pow 2 63 ≤ x.bits.toNat)

/-- The 63 bits below the sign. -/
def magnitude (x : Binary64) : Nat :=
  x.bits.toNat % Nat.pow 2 63

/-- Whether a number is neither infinite nor a NaN. -/
def isFinite (x : Binary64) : Bool :=
  decide (x.magnitude < infinityBits)

/-- The exponent field. -/
def exponentField (x : Binary64) : Nat :=
  x.magnitude / Nat.pow 2 52

/-- The integer significand: the value of a finite number is `significand · 2 ^ exponent`. -/
def significand (x : Binary64) : Nat :=
  x.magnitude % Nat.pow 2 52 + (if x.exponentField = 0 then 0 else Nat.pow 2 52)

/-- The power of two that the significand is scaled by. -/
def exponent (x : Binary64) : Int :=
  (max x.exponentField 1 : Nat) - 1075

/-- A natural number times a power of two, as numerator and denominator. -/
def scaled (m : Nat) (e : Int) : Nat × Nat :=
  if 0 ≤ e then (m * Nat.pow 2 e.toNat, 1) else (m, Nat.pow 2 (-e).toNat)

/-- The size of a finite number as numerator and denominator. -/
def toRatio (x : Binary64) : Nat × Nat :=
  scaled x.significand x.exponent

/-- A quotient rounded to the nearest integer, a half going to the even neighbour. -/
def roundHalfEven (num den : Nat) : Nat :=
  let q := num / den
  let r := num % den
  if den < 2 * r || (2 * r == den && q % 2 == 1) then q + 1 else q

/-- The fraction `num / den` counted in units of `2 ^ e`, as numerator and denominator. -/
def onGrid (num den : Nat) (e : Int) : Nat × Nat :=
  if 0 ≤ e then (num, den * Nat.pow 2 e.toNat) else (num * Nat.pow 2 (-e).toNat, den)

/-- The exponent of the format's grid on which a fraction `num / den > 0` is rounded. -/
def gridExponent (num den : Nat) : Int :=
  let guess : Int := (num.log2 : Int) - den.log2 - 53
  let low := max guess (-1074)
  let (n, d) := onGrid num den low
  if Nat.pow 2 53 ≤ n / d then low + 1 else low

/-- The number nearest to `num / den`, a tie going to the even significand; fractions beyond the
format's range give infinity. The carry out of a significand moves into the exponent field. -/
def ofRatio (negative : Bool) (num den : Nat) : Binary64 :=
  if num = 0 then ofMagnitude negative 0
  else
    let e := gridExponent num den
    let (n, d) := onGrid num den e
    let m := roundHalfEven n d
    let bits := if m < Nat.pow 2 52 then m else (e + 1074).toNat * Nat.pow 2 52 + m
    ofMagnitude negative (min bits infinityBits)

/-- The number nearest to an integer. -/
def ofNat (n : Nat) : Binary64 :=
  ofRatio false n 1

/-- The number nearest to `± digits · 10 ^ exponent`. -/
def ofDecimal (negative : Bool) (digits : Nat) (exponent : Int) : Binary64 :=
  if 0 ≤ exponent then ofRatio negative (digits * Nat.pow 10 exponent.toNat) 1
  else ofRatio negative digits (Nat.pow 10 (-exponent).toNat)

/-- The rounded product of two finite numbers. -/
def mul (x y : Binary64) : Binary64 :=
  let (a, b) := x.toRatio
  let (c, d) := y.toRatio
  ofRatio (x.isNegative != y.isNegative) (a * c) (b * d)

/-- The rounded quotient of a finite number by a finite number other than zero. -/
def div (x y : Binary64) : Binary64 :=
  let (a, b) := x.toRatio
  let (c, d) := y.toRatio
  ofRatio (x.isNegative != y.isNegative) (a * d) (b * c)

/-- The rounded sum of two finite numbers that are not negative. -/
def add (x y : Binary64) : Binary64 :=
  let (a, b) := x.toRatio
  let (c, d) := y.toRatio
  ofRatio false (a * d + c * b) (b * d)

end Binary64

end Prospector
