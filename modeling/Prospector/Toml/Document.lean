import Prospector.Toml.Value

/-!
# TOML documents

A document is a row of statements: a header that opens a table, a header that adds a table to an
array, or a key with its value. Tables know how they came about, because that decides who may add
to them: a table that only was on the way to another one can still be opened once, one created by
dotted keys can be reached into by other dotted keys only, and one that was opened is closed to
dotted keys from outside.

## Main definitions

* `Toml.Node` : what a name stands for while a document is being read.
* `Toml.open?`, `Toml.append?`, `Toml.assign?` : the three kinds of statements.
* `Toml.read?` : the table that a document is.
-/

namespace Prospector.Toml

/-- How a table came about. -/
inductive Origin where
  /-- By a header of its own, or as the document itself. -/
  | opened
  /-- On the way to a table with a header. -/
  | passed
  /-- By a dotted key. -/
  | dotted
  deriving DecidableEq, Repr, Inhabited

/-- What a name stands for. -/
inductive Node where
  | value (v : Toml)
  | table (origin : Origin) (members : List (String × Node))
  /-- Tables that were added one by one, the last one first. -/
  | tables (last : List (String × Node)) (before : List (List (String × Node)))
  deriving Inhabited

/-- The members of a table. -/
abbrev Nodes := List (String × Node)

/-- The node of a name. -/
def find? (name : String) : Nodes → Option Node
  | [] => none
  | (k, n) :: rest => if k = name then some n else find? name rest

/-- Members in which a name stands for a node. -/
def put (name : String) (n : Node) : Nodes → Nodes
  | [] => [(name, n)]
  | (k, old) :: rest => if k = name then (name, n) :: rest else (k, old) :: put name n rest

/-- Members with a change made to the table that a path leads to. Tables that are missing on the way
come about as `new`; of an array of tables the last one is meant. A dotted key does not lead through
tables that were opened. -/
def within (new : Origin) (change : Origin → Nodes → Option Nodes) :
    List String → Origin → Nodes → Option Nodes
  | [], origin, members => change origin members
  | name :: path, _, members =>
    match find? name members with
    | none => do
      let inner ← within new change path new []
      some (put name (.table new inner) members)
    | some (.value _) => none
    | some (.tables last before) => do
      let inner ← within new change path .opened last
      some (put name (.tables inner before) members)
    | some (.table origin inner) =>
      if new = .dotted && origin = .opened then none
      else do
        let inner ← within new change path origin inner
        some (put name (.table origin inner) members)

/-- A header: the last name of its path becomes a table that is opened. -/
def open? (path : List String) (name : String) (document : Nodes) : Option Nodes :=
  within .passed (fun _ members =>
    match find? name members with
    | none => some (put name (.table .opened []) members)
    | some (.table .passed inner) => some (put name (.table .opened inner) members)
    | some _ => none) path .opened document

/-- A header of an array of tables: the last name of its path gets one table more. -/
def append? (path : List String) (name : String) (document : Nodes) : Option Nodes :=
  within .passed (fun _ members =>
    match find? name members with
    | none => some (put name (.tables [] []) members)
    | some (.tables last before) => some (put name (.tables [] (last :: before)) members)
    | some _ => none) path .opened document

/-- A value under a name of a table, reached by a dotted key or not. -/
def define? (reached : Bool) (name : String) (v : Toml) (origin : Origin) (members : Nodes) :
    Option Nodes :=
  if reached = (origin = .dotted) && (find? name members).isNone then
    some (put name (.value v) members)
  else none

/-- A key with its value below the table that was opened last. -/
def assign? (opened path : List String) (name : String) (v : Toml) (document : Nodes) :
    Option Nodes :=
  within .passed (within .dotted (define? (!path.isEmpty) name v) path) opened .opened document

/-! ## Reading -/

/-- A path and the name at its end. -/
def splitLast (path : List String) : Option (List String × String) :=
  path.getLast?.map fun name => (path.dropLast, name)

/-- A document so far: its members and the path of the table that was opened last. -/
structure Draft where
  members : Nodes := []
  opened : List String := []
  deriving Inhabited

/-- The statement at the start of a text: the document after it and the text behind. -/
def readStatement (d : Draft) : Reader Draft
  | '[' :: '[' :: cs => do
    let (key, rest) ← readKey cs
    let rest ← lineEnd? (← expect ']' (← expect ']' rest))
    let (path, name) ← splitLast key
    some ({ members := ← append? path name d.members, opened := key }, rest)
  | '[' :: cs => do
    let (key, rest) ← readKey cs
    let rest ← lineEnd? (← expect ']' rest)
    let (path, name) ← splitLast key
    some ({ members := ← open? path name d.members, opened := key }, rest)
  | cs => do
    let ((key, v), rest) ← readPair readValue cs
    let rest ← lineEnd? rest
    let (path, name) ← splitLast key
    some ({ d with members := ← assign? d.opened path name v d.members }, rest)

/-- The document that statements make, at most `fuel` of them. -/
def readStatements : Nat → Draft → List Char → Option Nodes
  | 0, _, _ => none
  | fuel + 1, d, cs =>
    match skipLines? cs with
    | none => none
    | some [] => some d.members
    | some rest =>
      match readStatement d rest with
      | some (d, rest) => readStatements fuel d rest
      | none => none

mutual

/-- The value that a node is. -/
def Node.toToml : Node → Toml
  | .value v => v
  | .table _ members => .table (nodesToToml members)
  | .tables last before => .array (rowsToToml [.table (nodesToToml last)] before)

/-- The members that nodes are. -/
def nodesToToml : List (String × Node) → List (String × Toml)
  | [] => []
  | (name, n) :: rest => (name, n.toToml) :: nodesToToml rest

/-- The tables of an array in order; `behind` holds those that come last. -/
def rowsToToml (behind : List Toml) : List (List (String × Node)) → List Toml
  | [] => behind
  | row :: before => rowsToToml (.table (nodesToToml row) :: behind) before

end

/-- The table that a document is. A byte order mark at its start does not count. -/
def read? (s : String) : Option Toml :=
  let cs := match s.toList with
    | '\uFEFF' :: rest => rest
    | cs => cs
  (readStatements (cs.length + 1) {} cs).map fun members => .table (nodesToToml members)

end Prospector.Toml
