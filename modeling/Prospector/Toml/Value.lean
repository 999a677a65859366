import Prospector.Toml.Scalar

/-!
# Keys, arrays and inline tables

A key is one name or several with dots between them; a dotted key reaches into tables, which it
creates. Arrays may go over several lines and have a comma at their end; inline tables stand on one
line. A table that a dotted key has created can be reached into by other dotted keys only.

## Main definitions

* `Toml.readKey` : a key as the names between its dots.
* `Toml.readValue` : a value of any kind, nested at most `nestingLimit` deep.
-/

namespace Prospector.Toml

/-! ## Keys -/

/-- Whether a character may stand in a name without quotes. -/
def isBareChar (c : Char) : Bool :=
  Text.isDigit c || ('a' ≤ c && c ≤ 'z') || ('A' ≤ c && c ≤ 'Z') || c == '_' || c == '-'

/-- The name at the start of a text. -/
def readName : Reader String := fun cs =>
  match readShortString cs with
  | some found => some found
  | none =>
    let name := cs.takeWhile isBareChar
    if name.isEmpty then none else some (String.ofList name, cs.dropWhile isBareChar)

/-- The names that a key consists of, at most `fuel` of them; blanks may stand around them. -/
def readNames : Nat → Reader (List String)
  | 0, _ => none
  | fuel + 1, cs => do
    let (name, rest) ← readName (skipBlanks cs)
    match skipBlanks rest with
    | '.' :: rest => do
      let (names, rest) ← readNames fuel rest
      some (name :: names, rest)
    | rest => some ([name], rest)

/-- The most names that a key may have, and the deepest nesting of values plus one. -/
def nestingLimit : Nat := 80

/-- The key at the start of a text. -/
def readKey : Reader (List String) :=
  readNames (nestingLimit - 1)

/-! ## Inline tables -/

/-- What a name in an inline table stands for. -/
inductive InlineEntry where
  | value (v : Toml)
  /-- A table created by dotted keys. -/
  | dotted (members : List (String × InlineEntry))
  deriving Inhabited

/-- The entry of a name. -/
def InlineEntry.find? (name : String) : List (String × InlineEntry) → Option InlineEntry
  | [] => none
  | (k, e) :: rest => if k = name then some e else find? name rest

/-- Members in which a name stands for an entry. -/
def InlineEntry.put (name : String) (e : InlineEntry) :
    List (String × InlineEntry) → List (String × InlineEntry)
  | [] => [(name, e)]
  | (k, old) :: rest => if k = name then (name, e) :: rest else (k, old) :: put name e rest

/-- Members with a value under a key, unless something is in its way. -/
def InlineEntry.insert? (v : Toml) : List String → List (String × InlineEntry) →
    Option (List (String × InlineEntry))
  | [], _ => none
  | [name], members =>
    match find? name members with
    | some _ => none
    | none => some (put name (.value v) members)
  | name :: names, members => do
    let inner ← match find? name members with
      | none => some []
      | some (.dotted inner) => some inner
      | some (.value _) => none
    some (put name (.dotted (← insert? v names inner)) members)

mutual

/-- The value that an entry is. -/
def InlineEntry.toToml : InlineEntry → Toml
  | .value v => v
  | .dotted members => .table (membersToToml members)

/-- The members that entries are. -/
def InlineEntry.membersToToml : List (String × InlineEntry) → List (String × Toml)
  | [] => []
  | (name, e) :: rest => (name, e.toToml) :: membersToToml rest

end

/-- A key, the equals sign and a value at the start of a text. -/
def readPair (value : Reader Toml) : Reader (List String × Toml) := fun cs => do
  let (key, rest) ← readKey cs
  let (v, rest) ← value (skipBlanks (← expect '=' rest))
  some ((key, v), rest)

/-- The pairs of an inline table behind its opening brace, at most `fuel` of them. -/
def readPairs (value : Reader Toml) : Nat → Reader (List (List String × Toml))
  | 0, _ => none
  | fuel + 1, cs => do
    let (pair, rest) ← readPair value cs
    match skipBlanks rest with
    | ',' :: rest => do
      let (pairs, rest) ← readPairs value fuel rest
      some (pair :: pairs, rest)
    | '\x7d' :: rest => some ([pair], rest)
    | _ => none

/-- The inline table behind its opening brace. -/
def readInline (value : Reader Toml) : Reader Toml := fun cs => do
  let (pairs, rest) ← match skipBlanks cs with
    | '\x7d' :: rest => some ([], rest)
    | _ => readPairs value (cs.length + 1) cs
  let members ← pairs.foldlM (fun ms pair => InlineEntry.insert? pair.2 pair.1 ms) []
  some (.table (InlineEntry.membersToToml members), rest)

/-! ## Arrays -/

/-- The items of an array behind its opening bracket, at most `fuel` of them. -/
def readItems (value : Reader Toml) : Nat → Reader (List Toml)
  | 0, _ => none
  | fuel + 1, cs => do
    match ← skipLines? cs with
    | ']' :: rest => some ([], rest)
    | cs =>
      let (v, rest) ← value cs
      match ← skipLines? rest with
      | ',' :: rest => do
        let (vs, rest) ← readItems value fuel rest
        some (v :: vs, rest)
      | ']' :: rest => some ([v], rest)
      | _ => none

/-! ## Values -/

/-- The value at the start of a text, with less than `depth` arrays and inline tables one in
another. -/
def readValueWithin : Nat → Reader Toml
  | 0, _ => none
  | depth + 1, cs =>
    match cs with
    | '[' :: rest =>
      if depth = 0 then none
      else (readItems (readValueWithin depth) (rest.length + 1) rest).map fun (items, rest) =>
        (.array items, rest)
    | '\x7b' :: rest => if depth = 0 then none else readInline (readValueWithin depth) rest
    | _ => readScalar cs

/-- The value at the start of a text. -/
def readValue : Reader Toml :=
  readValueWithin nestingLimit

end Prospector.Toml
