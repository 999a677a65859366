import Prospector.Decimal.Binary64

/-!
# JSON values

The values of a JSON document. Integers are exact; every other number is a double-precision
number. The members of an object stand in ascending order of their keys, each key once, so that two
documents with the same members are the same value.
-/

namespace Prospector

/-- A number of a JSON document. -/
inductive Json.Number where
  /-- A number written without fraction or exponent that fits 64 bits. -/
  | int (value : Int)
  /-- Any other number. -/
  | float (value : Binary64)
  deriving DecidableEq, Repr, Inhabited

/-- A JSON value. -/
inductive Json where
  | null
  | bool (value : Bool)
  | number (value : Json.Number)
  | string (value : String)
  | array (items : List Json)
  | object (members : List (String × Json))
  deriving Repr, Inhabited, BEq

namespace Json

/-- The members of an object with one more: a key that is there already gets the new value, a new
key takes its place in the order. -/
def insertMember (key : String) (value : Json) : List (String × Json) → List (String × Json)
  | [] => [(key, value)]
  | (k, v) :: rest =>
    if key = k then (key, value) :: rest
    else if key < k then (key, value) :: (k, v) :: rest
    else (k, v) :: insertMember key value rest

/-- The object with the given members; of several members with one key the last stays. -/
def ofMembers (members : List (String × Json)) : Json :=
  .object (members.foldl (fun sorted m => insertMember m.1 m.2 sorted) [])

/-- The value of the first member with the given key. -/
def member? (key : String) : List (String × Json) → Option Json
  | [] => none
  | (k, v) :: rest => if k = key then some v else member? key rest

/-- The value under a key of an object; nothing for other values. -/
def get? (key : String) : Json → Option Json
  | .object members => member? key members
  | _ => none

/-- The text of a string value. -/
def string? : Json → Option String
  | .string s => some s
  | _ => none

/-- The items of an array value. -/
def array? : Json → Option (List Json)
  | .array items => some items
  | _ => none

/-- The value of a boolean. -/
def bool? : Json → Option Bool
  | .bool b => some b
  | _ => none

/-- The value of an integer. -/
def int? : Json → Option Int
  | .number (.int n) => some n
  | _ => none

/-- The text of a member that may be missing or `null`; nothing if it is of another kind. -/
def optionalText? : Option Json → Option (Option String)
  | none | some .null => some none
  | some (.string s) => some (some s)
  | some _ => none

/-- A value that may be missing, a missing one being `null`. -/
def ofOption : Option Json → Json
  | some v => v
  | none => .null

/-- A natural number as a value. -/
def ofNat (n : Nat) : Json :=
  .number (.int n)

end Json

end Prospector
