import Prospector.Decimal.Binary64
import Prospector.Text.Digit

/-!
# The shortest decimal text of a number

The fewest significant digits whose decimal value still reads back as the given number, and of
those the nearest. A finite number `m · 2 ^ q` is the nearest number of its format to every real
of an interval around it; for each count of digits the two decimal neighbours of the value on that
grid are tested against the interval, and the first grid with a hit wins.
-/

namespace Prospector.Decimal

/-- The reals that round to a number: everything between `low / unit` and `high / unit`, the ends
included when `closed`; the number itself is `value / unit`. -/
structure Interval where
  low : Nat
  value : Nat
  high : Nat
  unit : Nat
  closed : Bool
  deriving Repr

/-- The interval of a positive finite number: half a step down, which is a quarter where the
number is the least of its binade, and half a step up. -/
def Interval.around (x : Binary64) : Interval :=
  let m := x.significand
  let narrow := decide (m = Nat.pow 2 52 ∧ 1 < x.exponentField)
  let (num, den) := Binary64.scaled 1 x.exponent
  { low := (4 * m - (if narrow then 1 else 2)) * num
    value := 4 * m * num
    high := (4 * m + 2) * num
    unit := 4 * den
    closed := decide (m % 2 = 0) }

/-- Whether the interval holds `num / den`. -/
def Interval.holds (i : Interval) (num den : Nat) : Bool :=
  let point := num * i.unit
  if i.closed then decide (i.low * den ≤ point ∧ point ≤ i.high * den)
  else decide (i.low * den < point ∧ point < i.high * den)

/-- The position of the first significant digit of `num / den > 0`: the power of ten that it is
counted in. -/
def leadingExponent (num den : Nat) : Int :=
  let whole := num / den
  if 0 < whole then ((Text.decimal whole).length : Int) - 1
  else
    let up := (den / num).log2 + 2
    ((Text.decimal (num * Nat.pow 10 up / den)).length : Int) - 1 - up

/-- The interval's value on the grid of multiples of `10 ^ exponent`: the neighbour that lies in
the interval, the nearer one where both do and the even one where both are as near. -/
def Interval.hit? (i : Interval) (exponent : Int) : Option Nat :=
  let (up, down) :=
    if 0 ≤ exponent then (Nat.pow 10 exponent.toNat, 1) else (1, Nat.pow 10 (-exponent).toNat)
  let below := i.value * down / (i.unit * up)
  let inside := fun n : Nat => i.holds (n * up) down
  let nearest := Binary64.roundHalfEven (i.value * down) (i.unit * up)
  if inside nearest then some nearest
  else if inside below then some below
  else if inside (below + 1) then some (below + 1)
  else none

/-- The first count of digits, from `count` on and at most `fuel` further ones, whose grid meets
the interval: the digits as a number and the power of ten they are multiplied by. -/
def searchDigits (i : Interval) (lead : Int) : Nat → Nat → Nat × Int
  | 0, count =>
    let e := lead - count + 1
    ((i.hit? e).getD 0, e)
  | fuel + 1, count =>
    let e := lead - count + 1
    match i.hit? e with
    | some digits => (digits, e)
    | none => searchDigits i lead fuel (count + 1)

/-- The shortest digits of a positive finite number and the power of ten they are multiplied by. -/
def shortestDigits (x : Binary64) : Nat × Int :=
  let i := Interval.around x
  searchDigits i (leadingExponent i.value i.unit) 16 1

/-- Digits without the zeros at their end, together with the position of the first digit. -/
def significantDigits (digits : Nat) (exponent : Int) : List Char × Int :=
  let all := Text.decimal digits
  let kept := (all.reverse.dropWhile (· == '0')).reverse
  (if kept.isEmpty then ['0'] else kept, exponent + all.length - 1)

/-- Digits with the point behind the position `lead` of the first one; at least one digit follows
the point. -/
def positional (digits : List Char) (lead : Int) : List Char :=
  if lead < 0 then
    '0' :: '.' :: List.replicate ((-lead).toNat - 1) '0' ++ digits
  else
    let whole := lead.toNat + 1
    if digits.length ≤ whole then
      digits ++ List.replicate (whole - digits.length) '0' ++ ['.', '0']
    else digits.take whole ++ '.' :: digits.drop whole

/-- Digits with the point behind the first one and a power of ten after them. -/
def scientific (digits : List Char) (lead : Int) : List Char :=
  let mantissa :=
    match digits with
    | first :: second :: rest => first :: '.' :: second :: rest
    | short => short
  let power := if lead < 0 then '-' :: Text.decimal (-lead).toNat else Text.decimal lead.toNat
  mantissa ++ 'e' :: power

/-- The text of a finite number: positional from `0.0001` up to `10 ^ 16`, scientific outside. -/
def shortest (x : Binary64) : String :=
  let body :=
    if x.magnitude = 0 then ['0', '.', '0']
    else
      let (digits, exponent) := shortestDigits x
      let (kept, lead) := significantDigits digits exponent
      if -4 ≤ lead && lead < 16 then positional kept lead else scientific kept lead
  String.ofList (if x.isNegative then '-' :: body else body)

end Prospector.Decimal
