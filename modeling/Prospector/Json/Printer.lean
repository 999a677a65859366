import Prospector.Json.Basic
import Prospector.Decimal.Shortest

/-!
# Written JSON

A value as text in two layouts. The compact layout holds no blanks. The indented layout puts every
item and member on a line of its own, two spaces deeper than the bracket that opens it; an empty
array or object stays on one line. Both escape a string in the same way: the quote, the backslash
and the control characters below U+0020, nothing else.
-/

namespace Prospector.Json

/-- A character as it stands inside a written string. -/
def escapeChar (c : Char) : List Char :=
  if c = '"' then ['\\', '"']
  else if c = '\\' then ['\\', '\\']
  else if c = '\n' then ['\\', 'n']
  else if c = '\r' then ['\\', 'r']
  else if c = '\t' then ['\\', 't']
  else if c = '\x08' then ['\\', 'b']
  else if c = '\x0c' then ['\\', 'f']
  else if c.toNat < 0x20 then
    ['\\', 'u', '0', '0', Text.lowerDigit (c.toNat / 16), Text.lowerDigit (c.toNat % 16)]
  else [c]

/-- A written string, with its quotes. -/
def quoted (s : String) : List Char :=
  '"' :: s.toList.flatMap escapeChar ++ ['"']

/-- A written integer. -/
def integer (n : Int) : List Char :=
  if n < 0 then '-' :: Text.decimal n.natAbs else Text.decimal n.natAbs

/-- A written number. A number that is not finite has no written form and becomes `null`. -/
def Number.written : Number → List Char
  | .int n => integer n
  | .float x => if x.isFinite then (Decimal.shortest x).toList else ['n', 'u', 'l', 'l']

/-- How values are laid out over lines: `none` puts nothing between the parts, `some depth` is the
indentation of the line that the value starts on. -/
abbrev Layout := Option Nat

/-- What separates a part from what stands before it. -/
def Layout.break : Layout → List Char
  | none => []
  | some depth => '\n' :: List.replicate (2 * depth) ' '

/-- The layout one level deeper. -/
def Layout.deeper (layout : Layout) : Layout :=
  layout.map (· + 1)

/-- What separates a key from its value. -/
def Layout.colon : Layout → List Char
  | none => [':']
  | some _ => [':', ' ']

mutual

/-- A written value. -/
def written (layout : Layout) : Json → List Char
  | .null => ['n', 'u', 'l', 'l']
  | .bool true => ['t', 'r', 'u', 'e']
  | .bool false => ['f', 'a', 'l', 's', 'e']
  | .number n => n.written
  | .string s => quoted s
  | .array [] => ['[', ']']
  | .array (item :: items) =>
    '[' :: layout.deeper.break ++ written layout.deeper item ++
      writtenItems layout.deeper items ++ layout.break ++ [']']
  | .object [] => ['\x7b', '\x7d']
  | .object ((key, value) :: members) =>
    '\x7b' :: layout.deeper.break ++ quoted key ++ layout.colon ++ written layout.deeper value ++
      writtenMembers layout.deeper members ++ layout.break ++ ['\x7d']

/-- The items after the first one, each behind a comma. -/
def writtenItems (layout : Layout) : List Json → List Char
  | [] => []
  | item :: items => ',' :: layout.break ++ written layout item ++ writtenItems layout items

/-- The members after the first one, each behind a comma. -/
def writtenMembers (layout : Layout) : List (String × Json) → List Char
  | [] => []
  | (key, value) :: members =>
    ',' :: layout.break ++ quoted key ++ layout.colon ++ written layout value ++
      writtenMembers layout members

end

/-- A value in the compact layout. -/
def compact (value : Json) : String :=
  String.ofList (written none value)

/-- A value in the indented layout. -/
def indented (value : Json) : String :=
  String.ofList (written (some 0) value)

end Prospector.Json
