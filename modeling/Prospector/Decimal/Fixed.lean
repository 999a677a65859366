import Prospector.Decimal.Binary64
import Prospector.Text.Digit

/-!
# Numbers with a fixed count of decimal places

A finite number written with a given count of digits after the point. The exact value is rounded,
a half going to the even neighbour, so the written number is never further than half a unit of the
last place from the value.
-/

namespace Prospector.Decimal

/-- The text of `num / den` with `places` digits after the point. -/
def fixedRatio (num den places : Nat) : String :=
  let units := Text.decimal (Binary64.roundHalfEven (num * Nat.pow 10 places) den)
  let padded := Text.padLeft (places + 1) '0' units
  let whole := padded.take (padded.length - places)
  let rest := padded.drop (padded.length - places)
  String.ofList (if places = 0 then whole else whole ++ '.' :: rest)

/-- The text of a finite number that is not negative, with `places` digits after the point. -/
def fixed (x : Binary64) (places : Nat) : String :=
  let (num, den) := x.toRatio
  fixedRatio num den places

end Prospector.Decimal
