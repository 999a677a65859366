import Prospector.Text.LetterCase
import Prospector.Text.Percent
import Prospector.Url.Basic
import Prospector.Url.Domain

/-!
# Reading URLs

A text read as a URL, alone or relative to another one. Blanks and control characters at the ends
and line breaks anywhere do not count. Behind the scheme follow an authority, a path, a query and a
fragment, each ended by the character that begins a later part, so every part is cut off the text
and then read on its own.

## Main definitions

* `Url.readHost`, `Url.readAuthority` : the parts behind the two slashes.
* `Url.resolve` : path segments appended to others, dot segments carried out.
* `Url.read` : a URL from a text, relative to a base if there is one.
-/

namespace Prospector.Url

/-! ## Characters that parts encode -/

/-- Control characters. -/
def isControl (c : Char) : Bool :=
  c.toNat < 0x20 || c.toNat == 0x7F

/-- The characters that a fragment encodes. -/
def fragmentSpecial (c : Char) : Bool :=
  isControl c || [' ', '"', '<', '>', '\x60'].contains c

/-- The characters that a path encodes. -/
def pathSpecial (c : Char) : Bool :=
  fragmentSpecial c || ['#', '?', '{', '}'].contains c

/-- The characters that user name and password encode. -/
def userSpecial (c : Char) : Bool :=
  pathSpecial c || ['/', ':', ';', '=', '@', '[', '\\', ']', '^', '|'].contains c

/-- The characters that a query encodes; that of a special scheme encodes the apostrophe too. -/
def querySpecial (special : Bool) (c : Char) : Bool :=
  isControl c || [' ', '"', '#', '<', '>'].contains c || (special && c == '\x27')

/-- A part with the characters of a class encoded. -/
def encoded (needs : Char → Bool) (cs : List Char) : String :=
  String.ofList (Text.percentEncode needs cs)

/-! ## Cutting -/

/-- Whether a character separates path segments. -/
def isSlash (special : Bool) (c : Char) : Bool :=
  c == '/' || (special && c == '\\')

/-- Whether a character ends a path. -/
def endsPath (c : Char) : Bool :=
  c == '?' || c == '#'

/-- Whether a character ends an authority. -/
def endsAuthority (special : Bool) (c : Char) : Bool :=
  isSlash special c || endsPath c

/-- A text without what does not count: line breaks and tabs, blanks and controls at the ends. -/
def cleaned (s : String) : List Char :=
  let isOuter := fun c : Char => c.toNat ≤ 0x20
  let inner := ((s.toList.dropWhile isOuter).reverse.dropWhile isOuter).reverse
  inner.filter fun c => !(c == '\t' || c == '\n' || c == '\r')

/-- Whether a character may stand in a scheme behind the first letter. -/
def isSchemeChar (c : Char) : Bool :=
  ('a' ≤ c && c ≤ 'z') || ('A' ≤ c && c ≤ 'Z') || Text.isDigit c || c == '+' || c == '-' || c == '.'

/-- The scheme of a text, in lower case, and the text behind its colon. -/
def splitScheme (cs : List Char) : Option (String × List Char) :=
  match cs with
  | [] => none
  | first :: _ =>
    if isSchemeChar first &&
        !(Text.isDigit first || first == '+' || first == '-' || first == '.') then
      match cs.dropWhile isSchemeChar with
      | ':' :: rest => some (String.ofList ((cs.takeWhile isSchemeChar).map Text.lowerAscii), rest)
      | _ => none
    else none

/-- The characters before and behind the last `@` of an authority. -/
def splitCredentials (cs : List Char) : Option (List Char × List Char) :=
  if cs.contains '@' then
    let behind := (cs.reverse.takeWhile (· != '@')).reverse
    some (cs.take (cs.length - behind.length - 1), behind)
  else none

/-- The characters of a host and those behind it, which begin with the colon of a port; colons
between brackets belong to the host. -/
def splitHost (inBrackets : Bool) : List Char → List Char × List Char
  | [] => ([], [])
  | c :: cs =>
    if c == ':' && !inBrackets then ([], c :: cs)
    else
      let inBrackets := if c == '[' then true else if c == ']' then false else inBrackets
      let (host, rest) := splitHost inBrackets cs
      (c :: host, rest)

/-! ## Authority -/

/-- The address between brackets. -/
def readBracketed (cs : List Char) : Except Fault Host :=
  if cs.getLast? == some ']' then
    match Address.readEight? cs.dropLast with
    | some groups => .ok (.eight groups)
    | none => .error .invalidEightGroups
  else .error .invalidEightGroups

/-- Whether a host of a scheme that is not special may not have a character. -/
def isForbiddenInHost (c : Char) : Bool :=
  ['\x00', '\t', '\n', '\r', ' ', '#', '/', ':', '<', '>', '?', '@', '[', '\\', ']', '^',
    '|'].contains c

/-- The host of a scheme that is not special. -/
def readPlainHost (cs : List Char) : Except Fault Host :=
  if cs.any isForbiddenInHost then .error .invalidDomainCharacter
  else .ok (.name (encoded isControl cs))

/-- The host of a special scheme. -/
def readDomain (cs : List Char) : Except Fault Host := do
  let some name := Text.decodeUtf8? (Text.percentDecode cs) | .error .invalidDomain
  let some ascii := Domain.toAscii? name.toList | .error .invalidDomain
  if ascii.isEmpty then .error .emptyHost
  else if Address.endsInNumber ascii then
    match Address.readFour? ascii with
    | some n => .ok (.four n)
    | none => .error .invalidFourNumbers
  else .ok (.name (String.ofList ascii))

/-- A host. -/
def readHost (special : Bool) : List Char → Except Fault Host
  | '[' :: cs => readBracketed cs
  | cs => if special then readDomain cs else readPlainHost cs

/-- The port that a text behind a colon writes, left out where it is the scheme's own. -/
def readPort (scheme : String) (cs : List Char) : Except Fault (Option Nat) :=
  if cs.isEmpty then .ok none
  else if cs.all Text.isDigit && Text.decimalValue cs < 65536 then
    .ok ((some (Text.decimalValue cs)).filter fun n => defaultPort? scheme != some n)
  else .error .invalidPort

/-- The user name and the password before an `@`; an empty password is none. -/
def readCredentials (cs : List Char) : String × Option String :=
  let user := encoded userSpecial (cs.takeWhile (· != ':'))
  match cs.dropWhile (· != ':') with
  | _ :: c :: rest => (user, some (encoded userSpecial (c :: rest)))
  | _ => (user, none)

/-- The user name, the password and the rest of an authority, behind which stands `rest`. -/
def cutCredentials (cs rest : List Char) : Except Fault (String × Option String × List Char) :=
  match splitCredentials cs with
  | some ([], []) => if rest.isEmpty then .ok ("", none, []) else .error .emptyHost
  | some (before, behind) =>
    let (user, password) := readCredentials before
    .ok (user, password, behind)
  | none => .ok ("", none, cs)

/-- An authority with the host and the port that a text writes. -/
def readAddress (scheme user : String) (password : Option String) (cs : List Char) :
    Except Fault Authority :=
  let (hostText, behind) := splitHost false cs
  if hostText.isEmpty && (isSpecial scheme || !behind.isEmpty) then .error .emptyHost
  else do
    let host ← readHost (isSpecial scheme) hostText
    let port ← readPort scheme (behind.drop 1)
    if hostText.isEmpty && !(user.isEmpty && password.isNone) then .error .emptyHost
    else .ok { user, password, host, port }

/-- An authority, `rest` being what stands behind it. -/
def readAuthority (scheme : String) (cs rest : List Char) : Except Fault Authority := do
  let (user, password, address) ← cutCredentials cs rest
  readAddress scheme user password address

/-! ## Path -/

/-- Whether a segment names the directory itself. -/
def isSingleDot (segment : String) : Bool :=
  [".", "%2e", "%2E"].contains segment

/-- Whether a segment names the directory above. -/
def isDoubleDot (segment : String) : Bool :=
  ["..", "%2e.", "%2E.", ".%2e", ".%2E", "%2e%2e", "%2e%2E", "%2E%2e", "%2E%2E"].contains segment

/-- The segments of a text between its slashes. -/
def segmentsOf (special : Bool) (cs : List Char) : List String :=
  let slashed := cs.map fun c => if isSlash special c then '/' else c
  (Text.splitAtChar '/' slashed).map (encoded pathSpecial)

/-- Segments appended to a path. A segment that names a directory leaves an empty one behind where
it is the last. -/
def resolve (path : List String) : List String → List String
  | [] => path
  | segment :: rest =>
    let close := fun path : List String => if rest.isEmpty then path ++ [""] else path
    if isDoubleDot segment then resolve (close path.dropLast) rest
    else if isSingleDot segment then resolve (close path) rest
    else resolve (path ++ [segment]) rest

/-- The path that a text without its first slash writes. -/
def rootedPath (special : Bool) (cs : List Char) : Path :=
  .rooted (resolve [] (segmentsOf special cs))

/-- The path behind an authority. -/
def pathAfterAuthority (special : Bool) (cs : List Char) : Path :=
  match cs with
  | [] => .rooted (if special then [""] else [])
  | c :: rest => rootedPath special (if isSlash special c then rest else c :: rest)

/-! ## Query and fragment -/

/-- The query and the fragment that stand behind a path. -/
def readTail (special : Bool) (cs : List Char) : Option String × Option String :=
  let fragmentOf := fun
    | [] => none
    | _ :: text => some (encoded fragmentSpecial text)
  match cs with
  | '?' :: rest =>
    (some (encoded (querySpecial special) (rest.takeWhile (· != '#'))),
      fragmentOf (rest.dropWhile (· != '#')))
  | rest => (none, fragmentOf rest)

/-- A URL with the query and the fragment that stand behind its path. -/
def withTail (u : Url) (cs : List Char) : Url :=
  let (query, fragment) := readTail (isSpecial u.scheme) cs
  { u with query, fragment }

/-- The text of a path and what stands behind it. -/
def cutPath (cs : List Char) : List Char × List Char :=
  cs.span fun c => !endsPath c

/-! ## Files -/

/-- Whether a segment is a letter of a drive. -/
def isDriveLetter : List Char → Bool
  | [c, mark] => (('a' ≤ c && c ≤ 'z') || ('A' ≤ c && c ≤ 'Z')) && (mark == ':' || mark == '|')
  | _ => false

/-- Whether a text begins with a letter of a drive. -/
def beginsWithDrive (cs : List Char) : Bool :=
  isDriveLetter (cs.take 2) &&
    match cs.drop 2 with
    | [] => true
    | c :: _ => endsAuthority true c

/-- Segments appended to the path of a file, whose drive letter is not removed. -/
def resolveFile (path : List String) : List String → List String
  | [] => path
  | segment :: rest =>
    let close := fun path : List String => if rest.isEmpty then path ++ [""] else path
    let parent :=
      match path with
      | [drive] => if isDriveLetter drive.toList then path else []
      | _ => path.dropLast
    if isDoubleDot segment then resolveFile (close parent) rest
    else if isSingleDot segment then resolveFile (close path) rest
    else if path.isEmpty && isDriveLetter segment.toList then
      resolveFile [String.ofList (segment.toList.take 1 ++ [':'])] rest
    else resolveFile (path ++ [segment]) rest

/-- The path of a file: the empty segments at its start are left out. -/
def filePath (base : List String) (cs : List Char) : Path :=
  let segments := resolveFile base (segmentsOf true cs)
  let named := segments.dropWhile (·.isEmpty)
  .rooted (if named.isEmpty then [""] else named)

/-- The host of a file; the machine itself is none. -/
def readFileHost (cs : List Char) : Except Fault Host :=
  if cs.isEmpty then .ok (.name "")
  else do
    let host ← readHost true cs
    .ok (if host = .name "localhost" then .name "" else host)

/-- A file without host. -/
def fileAt (host : Host) (path : Path) : Url :=
  { scheme := "file", authority := some { host }, path }

/-- Whether a path begins with a drive letter. -/
def hasDrive : Path → Bool
  | .rooted (first :: _) => isDriveLetter first.toList
  | _ => false

/-- The file behind `file:`, relative to another file if there is one. -/
def readFile (base : Option Url) (cs : List Char) : Except Fault Url :=
  let baseSegments := match base with
    | some { path := .rooted segments, .. } => segments
    | _ => []
  let baseHost := match base with
    | some { authority := some a, .. } => a.host
    | _ => .name ""
  match cs with
  | a :: b :: rest =>
    if isSlash true a && isSlash true b then
      let (hostText, behind) := rest.span fun c => !endsAuthority true c
      if isDriveLetter hostText then
        let (path, tail) := cutPath rest
        .ok (withTail (fileAt (.name "") (filePath [] path)) tail)
      else do
        let host ← readFileHost hostText
        let (pathText, tail) := cutPath behind
        let path := filePath [] (pathText.drop 1)
        .ok (withTail (fileAt (if hasDrive path then .name "" else host) path) tail)
    else readSingle baseSegments baseHost cs
  | _ => readSingle baseSegments baseHost cs
where
  /-- The file behind at most one slash. -/
  readSingle (baseSegments : List String) (baseHost : Host) (cs : List Char) : Except Fault Url :=
    let (path, tail) := cutPath cs
    match path with
    | [] =>
      match base with
      | some b =>
        if tail.head? == some '?' then .ok (withTail b tail)
        else .ok { b with fragment := (readTail true tail).2 }
      | none => .ok (withTail (fileAt (.name "") (.rooted [""])) tail)
    | c :: rest =>
      if isSlash true c then
        let drive := if beginsWithDrive rest then [] else
          baseSegments.take 1 |>.filter fun s => isDriveLetter s.toList
        let host := if beginsWithDrive rest || !drive.isEmpty then .name "" else baseHost
        .ok (withTail (fileAt host (filePath drive rest)) tail)
      else if base.isSome && !beginsWithDrive cs then
        .ok (withTail (fileAt baseHost (filePath baseSegments.dropLast path)) tail)
      else .ok (withTail (fileAt (.name "") (filePath [] path)) tail)

/-! ## Whole URLs -/

/-- The URL behind the two slashes of a scheme. -/
def readAbsolute (scheme : String) (cs : List Char) : Except Fault Url := do
  let special := isSpecial scheme
  let (authorityText, rest) := cs.span fun c => !endsAuthority special c
  let authority ← readAuthority scheme authorityText rest
  let (path, tail) := cutPath rest
  .ok (withTail { scheme, authority := some authority, path := pathAfterAuthority special path }
    tail)

/-- A text relative to a URL with a path of segments. -/
def readRelative (base : Url) (segments : List String) (cs : List Char) : Except Fault Url :=
  let special := isSpecial base.scheme
  let slashes := cs.takeWhile (isSlash special)
  if 2 ≤ slashes.length then
    readAbsolute base.scheme (cs.drop (if slashes.take 2 = ['/', '/'] then 2 else slashes.length))
  else
    let (path, tail) := cutPath cs
    match path with
    | [] =>
      if tail.head? == some '?' then .ok (withTail base tail)
      else .ok { base with fragment := (readTail special tail).2 }
    | c :: rest =>
      if isSlash special c then .ok (withTail { base with path := rootedPath special rest } tail)
      else
        let path := resolve segments.dropLast (segmentsOf special path)
        .ok (withTail { base with path := .rooted path } tail)

/-- The URL behind a scheme that is not special. -/
def readPlain (scheme : String) (cs : List Char) : Except Fault Url :=
  match cs with
  | '/' :: '/' :: rest => readAbsolute scheme rest
  | _ =>
    let (path, tail) := cutPath cs
    let path :=
      match path with
      | '/' :: rest => rootedPath false rest
      | _ => .rootless (encoded isControl path)
    .ok (withTail { scheme, authority := none, path } tail)

/-- The segments of a URL's path, if it has any. -/
def segments? (u : Url) : Option (List String) :=
  match u.path with
  | .rooted segments => some segments
  | .rootless _ => none

/-- The URL behind a scheme. -/
def readBehindScheme (base : Option Url) (scheme : String) (cs : List Char) : Except Fault Url :=
  if scheme = "file" then readFile (base.filter fun b => b.scheme = "file") cs
  else if isSpecial scheme then
    let slashes := cs.takeWhile (isSlash true)
    match base with
    | some b =>
      if slashes.length < 2 && b.scheme = scheme then readRelative b (b.segments?.getD []) cs
      else readAbsolute scheme (cs.drop slashes.length)
    | none => readAbsolute scheme (cs.drop slashes.length)
  else readPlain scheme cs

/-- The URL that a text writes, relative to a base if there is one. -/
def read (base : Option Url) (s : String) : Except Fault Url :=
  let cs := cleaned s
  match splitScheme cs with
  | some (scheme, rest) => readBehindScheme base scheme rest
  | none =>
    match base with
    | none => .error .relativeWithoutBase
    | some b =>
      match b.segments? with
      | some segments =>
        if b.scheme = "file" then readFile (some b) cs else readRelative b segments cs
      | none =>
        if cs.head? == some '#' then .ok { b with fragment := (readTail false cs).2 }
        else .error .relativeToRootless

/-- The URL that a text writes on its own. -/
def ofText (s : String) : Except Fault Url :=
  read none s

/-- The URL that a text writes relative to this one. -/
def join (u : Url) (s : String) : Except Fault Url :=
  read (some u) s

/-! ## Origin -/

/-- The page at the root of the server that a URL belongs to; `blob` URLs belong to the server named
in their path, at most `depth` of them one in another. -/
def rootWithin (u : Url) : Nat → Option Url
  | 0 => none
  | depth + 1 =>
    if u.scheme = "blob" then
      match ofText u.path.written with
      | .ok inner => inner.rootWithin depth
      | .error _ => none
    else if u.scheme != "file" && isSpecial u.scheme then
      u.authority.map fun a =>
        { scheme := u.scheme
          authority := some { host := a.host, port := a.port }
          path := .rooted [""] }
    else none

/-- The page at the root of the server that a URL belongs to. -/
def root? (u : Url) : Option Url :=
  u.rootWithin (u.written.length + 1)

end Prospector.Url
