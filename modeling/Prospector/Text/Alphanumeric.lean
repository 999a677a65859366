import Prospector.Text.Alphanumeric.Table
import Prospector.Text.CodeTable

/-!
# Letters and numerals of all scripts
-/

namespace Prospector.Text

/-- The table of letters and numerals. -/
def alphanumericTable : CodeTable := .ofText alphanumericRanges

/-- Whether a character is a letter or a numeral of some script. -/
def isAlphanumeric (c : Char) : Bool :=
  if c.toNat < 128 then
    ('0' ≤ c && c ≤ '9') || ('A' ≤ c && c ≤ 'Z') || ('a' ≤ c && c ≤ 'z')
  else alphanumericTable.contains c.toNat

end Prospector.Text
