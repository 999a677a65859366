/-!
# Digits

Decimal and hexadecimal digits: their values, and numbers written with them.
-/

namespace Prospector.Text

/-- Whether a character is one of `0` to `9`. -/
def isDigit (c : Char) : Bool :=
  '0' ≤ c && c ≤ '9'

/-- The value of a hexadecimal digit of either case. -/
def hexValue? (c : Char) : Option Nat :=
  if '0' ≤ c && c ≤ '9' then some (c.toNat - 48)
  else if 'a' ≤ c && c ≤ 'f' then some (c.toNat - 87)
  else if 'A' ≤ c && c ≤ 'F' then some (c.toNat - 55)
  else none

/-- The digit of value `n < 36`, in lower case. -/
def lowerDigit (n : Nat) : Char :=
  if n < 10 then Char.ofNat (48 + n) else Char.ofNat (87 + n)

/-- The hexadecimal digit of value `n < 16`, in upper case. -/
def upperHexDigit (n : Nat) : Char :=
  if n < 10 then Char.ofNat (48 + n) else Char.ofNat (55 + n)

/-- The number that a list of digits of a base writes, most significant digit first. -/
def ofDigits (base : Nat) (digits : List Nat) : Nat :=
  digits.foldl (fun n d => n * base + d) 0

/-- The value of a list of decimal digit characters. -/
def decimalValue (cs : List Char) : Nat :=
  ofDigits 10 (cs.map fun c => c.toNat - 48)

/-- The digits of `n` in a base, least significant first, at most `fuel` of them. -/
def digitsFrom (base : Nat) : Nat → Nat → List Nat
  | 0, _ => []
  | fuel + 1, n => if n < base then [n] else (n % base) :: digitsFrom base fuel (n / base)

/-- The decimal digits of a number. -/
def decimal (n : Nat) : List Char :=
  ((digitsFrom 10 (n.log2 + 1) n).map lowerDigit).reverse

/-- The lower-case hexadecimal digits of a number. -/
def hexadecimal (n : Nat) : List Char :=
  ((digitsFrom 16 (n.log2 + 1) n).map lowerDigit).reverse

/-- A list of characters made at least `width` long by a character put before it. -/
def padLeft (width : Nat) (c : Char) (cs : List Char) : List Char :=
  List.replicate (width - cs.length) c ++ cs

/-- A byte as two lower-case hexadecimal digits. -/
def hexByte (b : UInt8) : List Char :=
  [lowerDigit (b.toNat / 16), lowerDigit (b.toNat % 16)]

/-- The bytes written by pairs of hexadecimal digits, or nothing for any other text. -/
def bytesOfHex? : List Char → Option (List UInt8)
  | [] => some []
  | [_] => none
  | a :: b :: rest => do
    let high ← hexValue? a
    let low ← hexValue? b
    let bytes ← bytesOfHex? rest
    some (UInt8.ofNat (high * 16 + low) :: bytes)

end Prospector.Text
