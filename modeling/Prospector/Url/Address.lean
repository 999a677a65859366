import Prospector.Text.Digit
import Prospector.Text.Occurrence

/-!
# Addresses

Numeric hosts. An address of the older kind is up to four numbers in one of three bases, the last
of which fills what the others leave; a host whose last part is a number has to be one. An address
of the newer kind is eight groups of four hexadecimal digits, a run of zero groups left out at most
once, the last two groups perhaps written like an older address.

## Main definitions

* `Address.endsInNumber`, `Address.readFour?`, `Address.writeFour` : addresses of 32 bits.
* `Address.readEight?`, `Address.writeEight` : addresses of eight 16-bit groups.
-/

namespace Prospector.Url.Address

/-! ## Four numbers -/

/-- The number that a part writes: hexadecimal behind `0x`, octal behind `0`, else decimal. -/
def number? (part : List Char) : Option Nat :=
  let (base, digits) :=
    match part with
    | '0' :: 'x' :: rest => (16, rest)
    | '0' :: 'X' :: rest => (16, rest)
    | '0' :: c :: rest => (8, c :: rest)
    | _ => (10, part)
  if part.isEmpty then none
  else ((digits.mapM Text.hexValue?).filter fun ds => ds.all (· < base)).map (Text.ofDigits base)

/-- The parts of a host between its dots, the empty one behind a dot at the end left out. -/
def partsOf (host : List Char) : List (List Char) :=
  let parts := Text.splitAtChar '.' host
  if parts.getLast? == some [] then parts.dropLast else parts

/-- Whether the last part of a host is a number or consists of digits. -/
def endsInNumber (host : List Char) : Bool :=
  match (partsOf host).getLast? with
  | some part => (!part.isEmpty && part.all Text.isDigit) || (number? part).isSome
  | none => false

/-- The address that up to four numbers write. -/
def readFour? (host : List Char) : Option Nat := do
  let numbers ← (partsOf host).mapM number?
  let last ← numbers.getLast?
  let before := numbers.dropLast
  if before.length ≤ 3 && before.all (· < 256) && last < Nat.pow 256 (4 - before.length) then
    some (Text.ofDigits 256 before * Nat.pow 256 (4 - before.length) + last)
  else none

/-- An address as four decimal numbers. -/
def writeFour (n : Nat) : List Char :=
  ['.'].intercalate ([n / 0x1000000, n / 0x10000 % 256, n / 0x100 % 256, n % 256].map Text.decimal)

/-! ## Eight groups -/

/-- One decimal number below 256, without zeros before it. -/
def octet? (part : List Char) : Option Nat :=
  if part.isEmpty || !part.all Text.isDigit || (part.length != 1 && part.head? == some '0') then
    none
  else (some (Text.decimalValue part)).filter (· < 256)

/-- A group of up to four hexadecimal digits. -/
def group? (part : List Char) : Option Nat :=
  if part.isEmpty || 4 < part.length then none
  else (part.mapM Text.hexValue?).map (Text.ofDigits 16)

/-- The groups that parts between colons write; the last part may write two of them as four decimal
numbers. -/
def groupsOf? : List (List Char) → Option (List Nat)
  | [] => some []
  | [part] =>
    match (Text.splitAtChar '.' part).mapM octet? with
    | some [a, b, c, d] => some [a * 256 + b, c * 256 + d]
    | _ => (group? part).map fun g => [g]
  | part :: parts => do
    let group ← group? part
    let groups ← groupsOf? parts
    some (group :: groups)

/-- The characters before and behind the first two colons in a row. -/
def splitAtGap : List Char → Option (List Char × List Char)
  | ':' :: ':' :: rest => some ([], rest)
  | c :: rest => (splitAtGap rest).map fun (before, behind) => (c :: before, behind)
  | [] => none

/-- The groups that a text without gap writes; the empty text writes none. -/
def groupsWritten? (cs : List Char) : Option (List Nat) :=
  if cs.isEmpty then some [] else groupsOf? (Text.splitAtChar ':' cs)

/-- The eight groups that an address consists of. -/
def readEight? (cs : List Char) : Option (List Nat) :=
  match splitAtGap cs with
  | none => (groupsOf? (Text.splitAtChar ':' cs)).filter fun groups => groups.length == 8
  | some (before, behind) => do
    let high ← (groupsWritten? before).filter fun _ => !before.contains '.'
    let low ← groupsWritten? behind
    let zeros := 8 - (high.length + low.length)
    if zeros = 0 then none else some (high ++ List.replicate zeros 0 ++ low)

/-- The length of the run of zeros at the start of a list. -/
def zeroRun (groups : List Nat) : Nat :=
  (groups.takeWhile (· == 0)).length

/-- Where the longest run of zeros begins, the first one of equal length, and its length. -/
def longestZeroRun (position : Nat) : List Nat → Nat × Nat
  | [] => (position, 0)
  | g :: rest =>
    let later := longestZeroRun (position + 1) rest
    let here := zeroRun (g :: rest)
    if later.2 ≤ here then (position, here) else later

/-- Groups in hexadecimal digits with colons between them. -/
def writeGroups (groups : List Nat) : List Char :=
  [':'].intercalate (groups.map Text.hexadecimal)

/-- An address with its longest run of at least two zero groups left out. -/
def writeEight (groups : List Nat) : List Char :=
  let (start, length) := longestZeroRun 0 groups
  if length < 2 then writeGroups groups
  else writeGroups (groups.take start) ++ [':', ':'] ++ writeGroups (groups.drop (start + length))

end Prospector.Url.Address
