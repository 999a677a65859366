import Prospector.Text.Digit
import Prospector.Text.Utf8

/-!
# Percent encoding

A byte written as `%` and two hexadecimal digits. Encoding leaves the characters alone that a given
class spares; decoding leaves every `%` alone that no two digits follow.
-/

namespace Prospector.Text

/-- A byte as `%` and two upper-case digits. -/
def percentByte (b : UInt8) : List Char :=
  ['%', upperHexDigit (b.toNat / 16), upperHexDigit (b.toNat % 16)]

/-- A character, encoded if it is not ASCII or of the class `special`. -/
def percentChar (special : Char → Bool) (c : Char) : List Char :=
  if c.toNat < 128 && !special c then [c]
  else (String.utf8EncodeChar c).flatMap percentByte

/-- A list of characters with those encoded that are not ASCII or of the class `special`. -/
def percentEncode (special : Char → Bool) (cs : List Char) : List Char :=
  cs.flatMap (percentChar special)

/-- The bytes of a list of characters, `%` and two digits read as the byte that they write. -/
def percentDecode : List Char → List UInt8
  | [] => []
  | '%' :: a :: b :: rest =>
    match hexValue? a, hexValue? b with
    | some high, some low => UInt8.ofNat (high * 16 + low) :: percentDecode rest
    | _, _ => String.utf8EncodeChar '%' ++ percentDecode (a :: b :: rest)
  | c :: rest => String.utf8EncodeChar c ++ percentDecode rest

end Prospector.Text
