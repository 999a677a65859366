import Prospector.Json.Token

/-!
# Reading JSON text of an expected shape

A text is read against a shape: the kinds of values that may stand where. Reading takes one token
at a time and stops at the first fault, so of a text that is both broken and of the wrong shape the
fault that stands first in the text counts. A text is malformed if no JSON reader would take it,
if a number in it is out of range, or if it is nested too deeply; it mismatches if it has a value of
the wrong kind, lacks a member or has a known member twice.
-/

namespace Prospector.Json

/-- What may stand at a place of a text. -/
inductive Shape where
  /-- Any value. -/
  | any
  /-- Any value, which is not kept. Its nesting and the range of its numbers do not matter. -/
  | ignored
  | text
  /-- `null` or a value of the given shape. -/
  | nullable (shape : Shape)
  | list (shape : Shape)
  /-- An object with known members, each required or not. Other members are kept or ignored. If
  the record may stand in a `row`, it may also be an array of its members in order, of which those
  at the end that are not required can be left out. -/
  | record (fields : List (String × Bool × Shape)) (keepsOthers row : Bool)
  deriving Repr, Inhabited

/-- Why a text was refused. -/
inductive ReadFault where
  | malformed
  | mismatch
  deriving Repr, Inhabited, DecidableEq

/-- The known member with a key: whether it is required, and its shape. -/
def fieldOf? (key : String) : List (String × Bool × Shape) → Option (Bool × Shape)
  | [] => none
  | (k, required, shape) :: rest => if k = key then some (required, shape) else fieldOf? key rest

/-- An array or object that is open. -/
inductive Frame where
  /-- An array, with its items so far in reverse. -/
  | items (shape : Shape) (done : List Json)
  /-- A record written as an array, with the members that remain. -/
  | row (fields remaining : List (String × Bool × Shape)) (done : List (String × Json))
  /-- An object, with its members so far and the key whose value is being read. -/
  | members (fields : List (String × Bool × Shape)) (others : Shape)
      (done : List (String × Json)) (key : String)
  /-- An array or object whose content is not kept. -/
  | ignoredItems
  | ignoredMembers
  deriving Repr, Inhabited

/-- What the reader waits for. -/
inductive Need where
  | value (shape : Shape)
  /-- A value of the innermost array, or its end. -/
  | firstItem
  /-- A comma, or the end of the innermost array. -/
  | afterItem
  /-- A key of the innermost object, or its end. -/
  | firstKey
  | key
  | colon (shape : Shape)
  /-- A comma, or the end of the innermost object. -/
  | afterMember
  /-- Nothing: the value is complete. -/
  | nothing (value : Json)
  deriving Repr, Inhabited

/-- The arrays and objects that are open, innermost first, and what comes next. -/
structure Progress where
  open_ : List Frame
  need : Need
  deriving Repr, Inhabited

/-- A reading step: the progress after it, or the fault. -/
abbrev Step := Except ReadFault Progress

/-- Whether all required members are there. -/
def complete (fields : List (String × Bool × Shape)) (done : List (String × Json)) : Bool :=
  fields.all fun f => !f.2.1 || (member? f.1 done).isSome

namespace Progress

/-- Hands a finished value to the innermost open array or object. -/
def deliver (v : Json) : List Frame → Progress
  | [] => ⟨[], .nothing v⟩
  | .items shape done :: outer => ⟨.items shape (v :: done) :: outer, .afterItem⟩
  | .row fields [] done :: outer => ⟨.row fields [] done :: outer, .afterItem⟩
  | .row fields ((key, _) :: remaining) done :: outer =>
    ⟨.row fields remaining (insertMember key v done) :: outer, .afterItem⟩
  | .members fields others done key :: outer =>
    ⟨.members fields others (insertMember key v done) key :: outer, .afterMember⟩
  | .ignoredItems :: outer => ⟨.ignoredItems :: outer, .afterItem⟩
  | .ignoredMembers :: outer => ⟨.ignoredMembers :: outer, .afterMember⟩

/-- Opens an array or object, unless that nests too deeply. -/
def enter (limit : Nat) (frame : Frame) (need : Need) (outer : List Frame) : Step :=
  if outer.length < limit then .ok ⟨frame :: outer, need⟩ else .error .malformed

/-- A token where a scalar of no matching kind stands: the scalar must be well-formed by itself for
its kind to be the fault. -/
def refuse : Token → ReadFault
  | .null | .bool _ | .openArray | .openObject | .string (some _) => .mismatch
  | .number l => if l.value?.isSome then .mismatch else .malformed
  | _ => .malformed

/-- A token where any value may stand. -/
def takeAny (limit : Nat) (outer : List Frame) : Token → Step
  | .null => .ok (deliver .null outer)
  | .bool b => .ok (deliver (.bool b) outer)
  | .number l =>
    match l.value? with
    | some n => .ok (deliver (.number n) outer)
    | none => .error .malformed
  | .string (some s) => .ok (deliver (.string s) outer)
  | .openArray => enter limit (.items .any []) .firstItem outer
  | .openObject => enter limit (.members [] .any [] "") .firstKey outer
  | _ => .error .malformed

/-- A token where a value stands that is not kept. -/
def takeIgnored (outer : List Frame) : Token → Step
  | .null | .bool _ | .number _ | .string _ => .ok (deliver .null outer)
  | .openArray => .ok ⟨.ignoredItems :: outer, .firstItem⟩
  | .openObject => .ok ⟨.ignoredMembers :: outer, .firstKey⟩
  | _ => .error .malformed

/-- A token where a value of a shape stands. -/
def take (limit : Nat) (outer : List Frame) (token : Token) : Shape → Step
  | .any => takeAny limit outer token
  | .ignored => takeIgnored outer token
  | .text =>
    match token with
    | .string (some s) => .ok (deliver (.string s) outer)
    | other => .error (refuse other)
  | .nullable shape =>
    match token with
    | .null => .ok (deliver .null outer)
    | other => take limit outer other shape
  | .list shape =>
    match token with
    | .openArray => enter limit (.items shape []) .firstItem outer
    | other => .error (refuse other)
  | .record fields keepsOthers row =>
    match token with
    | .openObject =>
      enter limit (.members fields (if keepsOthers then .any else .ignored) [] "") .firstKey outer
    | .openArray =>
      if row then enter limit (.row fields fields []) .firstItem outer else .error .mismatch
    | other => .error (refuse other)

/-- The value that the next item of the innermost array must be. -/
def nextItem : List Frame → Option Shape
  | .items shape _ :: _ => some shape
  | .row _ ((_, _, shape) :: _) _ :: _ => some shape
  | .ignoredItems :: _ => some .ignored
  | _ => none

/-- The end of the innermost array. -/
def closeArray : List Frame → Step
  | .items _ done :: outer => .ok (deliver (.array done.reverse) outer)
  | .row fields _ done :: outer =>
    if complete fields done then .ok (deliver (.object done) outer) else .error .mismatch
  | .ignoredItems :: outer => .ok (deliver .null outer)
  | _ => .error .malformed

/-- The end of the innermost object. -/
def closeObject : List Frame → Step
  | .members fields _ done _ :: outer =>
    if complete fields done then .ok (deliver (.object done) outer) else .error .mismatch
  | .ignoredMembers :: outer => .ok (deliver .null outer)
  | _ => .error .malformed

/-- A key of the innermost object. -/
def takeKey (content : Option String) : List Frame → Step
  | .members fields others done _ :: outer =>
    match content with
    | none => .error .malformed
    | some key =>
      match fieldOf? key fields with
      | some (_, shape) =>
        if (member? key done).isSome then .error .mismatch
        else .ok ⟨.members fields others done key :: outer, .colon shape⟩
      | none => .ok ⟨.members fields others done key :: outer, .colon others⟩
  | .ignoredMembers :: outer => .ok ⟨.ignoredMembers :: outer, .colon .ignored⟩
  | _ => .error .malformed

/-- One token. -/
def step (limit : Nat) (p : Progress) (token : Token) : Step :=
  match p.need, token with
  | .value shape, t => take limit p.open_ t shape
  | .firstItem, .closeArray => closeArray p.open_
  | .firstItem, t =>
    match nextItem p.open_ with
    | some shape => take limit p.open_ t shape
    | none => .error .malformed
  | .afterItem, .closeArray => closeArray p.open_
  | .afterItem, .comma =>
    match nextItem p.open_ with
    | some shape => .ok ⟨p.open_, .value shape⟩
    | none => .error .malformed
  | .firstKey, .closeObject => closeObject p.open_
  | .firstKey, .string content => takeKey content p.open_
  | .key, .string content => takeKey content p.open_
  | .colon shape, .colon => .ok ⟨p.open_, .value shape⟩
  | .afterMember, .closeObject => closeObject p.open_
  | .afterMember, .comma => .ok ⟨p.open_, .key⟩
  | _, _ => .error .malformed

/-- All tokens of a text. -/
def run (limit : Nat) : Progress → List Token → Step
  | p, [] => .ok p
  | p, t :: ts =>
    match step limit p t with
    | .ok next => run limit next ts
    | .error fault => .error fault

end Progress

/-- Reads a text of a shape with at most `limit` arrays and objects inside one another. -/
def readWithin (limit : Nat) (shape : Shape) (text : String) : Except ReadFault Json :=
  match Progress.run limit ⟨[], .value shape⟩ (tokens text) with
  | .ok ⟨_, .nothing v⟩ => .ok v
  | .ok _ => .error .malformed
  | .error fault => .error fault

/-- The nesting that documents may have. -/
def nestingLimit : Nat := 127

/-- Reads a text of a shape. -/
def readAs (shape : Shape) (text : String) : Except ReadFault Json :=
  readWithin nestingLimit shape text

/-- The value that a text writes. -/
def read? (text : String) : Option Json :=
  (readAs .any text).toOption

end Prospector.Json
