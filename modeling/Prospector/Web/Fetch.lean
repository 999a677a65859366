import Prospector.Url.Reader
import Prospector.Web.Charset
import Prospector.Web.Fault

/-!
# Fetching pages

The web as seen by one who asks for pages: which servers can be connected to, and what they answer.
An answer may send the request elsewhere, a limited number of times; it may break off or never come.

The user name and the password of a URL are not part of what a server is asked for. They are sent
beside it, and a request that is sent on takes them along as long as it stays with the server.

## Main definitions

* `Web`, `Web.Request`, `Web.Reply` : servers, what they are asked for and what they answer.
* `Web.fetch` : what comes of asking for a page, and the requests that reached a server.
-/

namespace Prospector

/-- How an answer goes wrong. -/
inductive Web.Breakdown where
  /-- The connection is closed before an answer. -/
  | dropped
  /-- No answer comes in time. -/
  | late
  /-- The content ends early or cannot be unpacked. -/
  | unreadable
  /-- No answer ever comes. -/
  | silent
  deriving DecidableEq, Repr, Inhabited

/-- What reaches a server. -/
structure Web.Request where
  address : String
  /-- A user name and a password with a colon between them. -/
  credentials : Option String := none
  deriving DecidableEq, Repr, Inhabited

/-- What a server answers. -/
structure Web.Reply where
  status : Nat := 200
  body : List UInt8 := []
  contentType : String := "text/html; charset=utf-8"
  /-- Where the request is sent on to. -/
  location : Option String := none
  breakdown : Option Web.Breakdown := none
  deriving Repr, Inhabited

/-- Servers and their answers. -/
structure Web where
  /-- Whether a connection to the server of an address comes about. -/
  accepts : Url → Bool
  /-- What is answered to a request. -/
  reply : Web.Request → Web.Reply

namespace Web

/-- What comes of asking for a page. -/
inductive Outcome where
  | page (status : Nat) (text : String)
  | failed (fault : FetchFault)
  /-- No answer ever comes. -/
  | silent
  deriving DecidableEq, Repr, Inhabited

/-- The outcome of a visit, and the addresses that servers were asked for, the first one first. -/
structure Visit where
  requests : List String
  outcome : Outcome
  deriving DecidableEq, Repr, Inhabited

/-- How often a request may be sent on. -/
def redirectLimit : Nat := 9

/-- Whether a status sends a request on. -/
def isRedirect (status : Nat) : Bool :=
  [301, 302, 303, 307, 308].contains status

/-- Whether an address can stand in a request: its host has neither quotes nor braces. -/
def isRequestable (u : Url) : Bool :=
  u.isWeb &&
    match u.authority with
    | some a => a.host.written.toList.all fun c => !(['"', '\x60', '\x7b', '\x7d'].contains c)
    | none => false

/-- What an answer with a content amounts to. -/
def Reply.outcome (r : Reply) : Outcome :=
  if r.status < 200 || 300 ≤ r.status then .failed (.status r.status)
  else if r.breakdown = some .unreadable then .failed .body
  else .page r.status (decodeBody r.contentType r.body)

/-- The address that an answer sends a request for another one on to. -/
def Reply.target? (r : Reply) (u : Url) : Option Url :=
  if isRedirect r.status then r.location.bind fun location => (u.join location).toOption else none

/-- The user name and the password of a URL as they are sent along, if there are any and the user
name can be decoded. -/
def credentials? (u : Url) : Option String := do
  let (user, password) ← u.userInfo
  let user ← Text.decodeUtf8? (Text.percentDecode user.toList)
  let password := password.bind fun s => Text.decodeUtf8? (Text.percentDecode s.toList)
  if user.isEmpty && password.isNone then none else some (user ++ ":" ++ password.getD "")

/-- Whether two URLs are about the same server. -/
def isSameServer (u v : Url) : Bool :=
  u.authority.map (·.host) == v.authority.map (·.host) && u.port? == v.port?

/-- Asks for a page; the request may be sent on `budget` times. -/
def fetchFrom (w : Web) (budget : Nat) (credentials : Option String) (u : Url) : Visit :=
  if !isRequestable u then ⟨[], .failed .network⟩
  else if !w.accepts u then ⟨[], .failed .refused⟩
  else
    let r := w.reply { address := u.address, credentials }
    match r.breakdown with
    | some .dropped => ⟨[u.address], .failed .network⟩
    | some .late => ⟨[u.address], .failed .timeout⟩
    | some .silent => ⟨[u.address], .silent⟩
    | _ =>
      match r.target? u, budget with
      | none, _ => ⟨[u.address], r.outcome⟩
      | some _, 0 => ⟨[u.address], .failed .network⟩
      | some next, budget + 1 =>
        let later := fetchFrom w budget (if isSameServer u next then credentials else none) next
        { later with requests := u.address :: later.requests }

/-- Asks for the page at an address. -/
def fetch (w : Web) (url : String) : Visit :=
  match Url.ofText url with
  | .ok u => w.fetchFrom redirectLimit (credentials? u) u
  | .error _ => ⟨[], .failed .network⟩

/-- Whether asking for a page is never answered. -/
def isSilent (w : Web) (url : String) : Bool :=
  (w.fetch url).outcome == .silent

/-- The site that a crawl sees; one that waits for an answer in vain gives up in the end. -/
def site (w : Web) : Site := fun url =>
  match (w.fetch url).outcome with
  | .page _ text => .page text
  | .failed fault => .failed fault
  | .silent => .failed .timeout

/-- The web as seen without any connection. -/
def offline : Web where
  accepts := fun _ => false
  reply := fun _ => {}

end Web

end Prospector
