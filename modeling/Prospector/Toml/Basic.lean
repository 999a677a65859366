import Prospector.Json.Basic

/-!
# TOML values

The values of a TOML document, and what they are as JSON values.
-/

namespace Prospector

/-- A TOML value. Dates and times are kept as they are written. -/
inductive Toml where
  | string (value : String)
  | integer (value : Int)
  | float (value : Binary64)
  | boolean (value : Bool)
  | moment (written : String)
  | array (items : List Toml)
  | table (members : List (String × Toml))
  deriving Repr, Inhabited

namespace Toml

/-- What a reader makes of the start of a text, and the text behind it. -/
abbrev Reader (α : Type) := List Char → Option (α × List Char)

mutual

/-- A TOML value as a JSON value; a date or time becomes an object. -/
def toJson : Toml → Json
  | .string s => .string s
  | .integer n => .number (.int n)
  | .float x => .number (.float x)
  | .boolean b => .bool b
  | .moment written => .object [("moment", .string written)]
  | .array items => .array (itemsToJson items)
  | .table members => Json.ofMembers (membersToJson members)

/-- TOML values as JSON values. -/
def itemsToJson : List Toml → List Json
  | [] => []
  | v :: vs => v.toJson :: itemsToJson vs

/-- Members as JSON members. -/
def membersToJson : List (String × Toml) → List (String × Json)
  | [] => []
  | (key, v) :: ms => (key, v.toJson) :: membersToJson ms

end

end Toml

end Prospector
