import Prospector.Text.Digit
import Prospector.Url.Address

/-!
# Addresses of pages

The parts of a URL, and a URL written out. Parts are kept in their written form, so that writing
puts only the separators between them.

## Main definitions

* `Url`, `Url.Authority`, `Url.Host`, `Url.Path` : a URL and its parts.
* `Url.written` : a URL as text.
* `Url.address` : what is asked for at a URL.
* `Url.Fault` : why a text is no URL.
-/

namespace Prospector

namespace Url

/-- Why a text is no URL. -/
inductive Fault where
  | emptyHost
  | invalidDomain
  | invalidPort
  | invalidFourNumbers
  | invalidEightGroups
  | invalidDomainCharacter
  | relativeWithoutBase
  | relativeToRootless
  deriving Repr, DecidableEq, Inhabited

/-- What is said about a text that is no URL. -/
def Fault.message : Fault → String
  | .emptyHost => "empty host"
  | .invalidDomain => "invalid international domain name"
  | .invalidPort => "invalid port number"
  | .invalidFourNumbers => "invalid IPv4 address"
  | .invalidEightGroups => "invalid IPv6 address"
  | .invalidDomainCharacter => "invalid domain character"
  | .relativeWithoutBase => "relative URL without a base"
  | .relativeToRootless => "relative URL with a cannot-be-a-base base"

/-- The schemes with a host and a default port, and `file`. -/
def isSpecial (scheme : String) : Bool :=
  ["http", "https", "ftp", "ws", "wss", "file"].contains scheme

/-- The port that a scheme stands for. -/
def defaultPort? (scheme : String) : Option Nat :=
  if scheme = "http" || scheme = "ws" then some 80
  else if scheme = "https" || scheme = "wss" then some 443
  else if scheme = "ftp" then some 21
  else none

/-- A host: a name, or an address of one of the two kinds. -/
inductive Host where
  | name (s : String)
  | four (n : Nat)
  | eight (groups : List Nat)
  deriving Repr, DecidableEq, Inhabited

/-- A host as text. -/
def Host.written : Host → String
  | .name s => s
  | .four n => String.ofList (Address.writeFour n)
  | .eight groups => "[" ++ String.ofList (Address.writeEight groups) ++ "]"

/-- What stands behind the two slashes. -/
structure Authority where
  user : String := ""
  password : Option String := none
  host : Host
  port : Option Nat := none
  deriving Repr, DecidableEq, Inhabited

/-- An authority as text. -/
def Authority.written (a : Authority) : String :=
  let password := match a.password with
    | some p => ":" ++ p
    | none => ""
  let credentials := a.user ++ password
  let port := match a.port with
    | some n => ":" ++ String.ofList (Text.decimal n)
    | none => ""
  (if credentials.isEmpty then "" else credentials ++ "@") ++ a.host.written ++ port

/-- An authority without user name and password. -/
def Authority.bare (a : Authority) : Authority :=
  { a with user := "", password := none }

/-- A path: a text without structure, or the segments that slashes lead in. -/
inductive Path where
  | rootless (s : String)
  | rooted (segments : List String)
  deriving Repr, DecidableEq, Inhabited

/-- A path as text. -/
def Path.written : Path → String
  | .rootless s => s
  | .rooted segments => String.join (segments.map fun s => "/" ++ s)

end Url

/-- A URL. -/
structure Url where
  scheme : String
  authority : Option Url.Authority
  path : Url.Path
  query : Option String := none
  fragment : Option String := none
  deriving Repr, DecidableEq, Inhabited

namespace Url

/-- A part of a URL with the character that leads it in. -/
def part (mark : String) : Option String → String
  | some s => mark ++ s
  | none => ""

/-- A URL without its fragment as text. Where no authority precedes a path with an empty first
segment, `/.` keeps the two slashes from being read as one. -/
def resource (u : Url) : String :=
  let path := u.path.written
  let middle := match u.authority with
    | some a => "//" ++ a.written ++ path
    | none => (if path.startsWith "//" then "/." else "") ++ path
  u.scheme ++ ":" ++ middle ++ part "?" u.query

/-- A URL as text. -/
def written (u : Url) : String :=
  u.resource ++ part "#" u.fragment

/-- What is asked for at a URL: its text without the fragment, the user name and the password. -/
def address (u : Url) : String :=
  resource { u with authority := u.authority.map Authority.bare }

/-- The user name and the password of a URL. -/
def userInfo (u : Url) : Option (String × Option String) :=
  u.authority.map fun a => (a.user, a.password)

/-- The port of a URL, or the one that its scheme stands for. -/
def port? (u : Url) : Option Nat :=
  (u.authority.bind Authority.port).orElse fun _ => defaultPort? u.scheme

/-- Whether a page can be asked for at a URL. -/
def isWeb (u : Url) : Bool :=
  u.scheme = "http" || u.scheme = "https"

/-- Whether a URL has a host. -/
def hasHost (u : Url) : Bool :=
  match u.authority with
  | some a => !a.host.written.isEmpty
  | none => false

end Url

end Prospector
