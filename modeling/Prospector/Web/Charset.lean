import Prospector.Text.Blank
import Prospector.Text.CodeTable
import Prospector.Text.LetterCase
import Prospector.Text.Occurrence
import Prospector.Text.Utf8
import Prospector.Web.Charset.Table

/-!
# Character sets

Contents as text. A byte order mark decides the character set and is left out; without one the
content type may name it, and it is UTF-8 otherwise. Bytes that stand for no character become
U+FFFD.
-/

namespace Prospector.Web

/-- A character set. -/
inductive Charset where
  | utf8
  /-- Units of sixteen bits, the high byte first or last. -/
  | utf16 (highFirst : Bool)
  /-- One byte for each character; the bytes from 0x80 on stand for the given ones. -/
  | bytes (letters : Array Char)
  deriving DecidableEq, Repr, Inhabited

namespace Charset

/-- The characters that a row of runs of code points writes. -/
def lettersOf (runs : String) : List Char :=
  (Text.wordsFrom [] runs.toList).flatMap fun entry =>
    let run := Text.runOf entry
    (List.range (run.last + 1 - run.first)).map fun k => Char.ofNat (run.first + k)

/-- The character set with a name. Names that are not known name none. -/
def ofName? (name : String) : Option Charset :=
  if ["utf-8", "utf8", "unicode-1-1-utf-8", "unicode11utf8", "unicode20utf8",
      "x-unicode20utf8"].contains name then some .utf8
  else if ["utf-16", "utf-16le", "csunicode", "iso-10646-ucs-2", "ucs-2", "unicode",
      "unicodefeff"].contains name then some (.utf16 false)
  else if ["utf-16be", "unicodefffe"].contains name then some (.utf16 true)
  else (byteCharsets.find? fun c => c.1.contains name).map fun c =>
    .bytes (lettersOf c.2).toArray

/-- The character of a byte among the given ones from 0x80 on. -/
def letter (letters : Array Char) (b : UInt8) : Char :=
  let n := b.toNat
  if n < 0x80 then Char.ofNat n else letters.getD (n - 0x80) '\uFFFD'

/-- The units that bytes make; a byte left over is no unit. -/
def units (highFirst : Bool) : List UInt8 → List (Option Nat)
  | [] => []
  | [_] => [none]
  | a :: b :: rest =>
    some (if highFirst then a.toNat * 256 + b.toNat else b.toNat * 256 + a.toNat) ::
      units highFirst rest

/-- The characters that units make; `high` is the first half of a pair that is waiting. -/
def pairUnits (high : Option Nat) : List (Option Nat) → List Char
  | [] => if high.isSome then ['\uFFFD'] else []
  | none :: rest => '\uFFFD' :: pairUnits none rest
  | some u :: rest =>
    let isLow := 0xDC00 ≤ u && u < 0xE000
    match high with
    | some h =>
      if isLow then Char.ofNat (0x10000 + (h - 0xD800) * 1024 + (u - 0xDC00)) :: pairUnits none rest
      else if 0xD800 ≤ u && u < 0xDC00 then '\uFFFD' :: pairUnits (some u) rest
      else '\uFFFD' :: Char.ofNat u :: pairUnits none rest
    | none =>
      if isLow then '\uFFFD' :: pairUnits none rest
      else if 0xD800 ≤ u && u < 0xDC00 then pairUnits (some u) rest
      else Char.ofNat u :: pairUnits none rest

/-- The text that bytes stand for in a character set. -/
def decode (bytes : List UInt8) : Charset → String
  | .utf8 => Text.decodeUtf8 bytes
  | .utf16 highFirst => String.ofList (pairUnits none (units highFirst bytes))
  | .bytes letters => String.ofList (bytes.map (letter letters))

/-- The character set that a content type names. -/
def ofContentType (contentType : String) : Charset :=
  let parameters := (Text.splitAtChar ';' contentType.toList).drop 1
  let named := parameters.filterMap fun p =>
    match Text.splitAtChar '=' p with
    | [key, value] =>
      if Text.lower (Text.trim (String.ofList key)) = "charset" then
        let bare := value.filter fun c => c != '"'
        some (Text.lower (Text.trim (String.ofList bare)))
      else none
    | _ => none
  (named.head?.bind ofName?).getD .utf8

end Charset

/-- The text of a content with the given content type. -/
def decodeBody (contentType : String) (body : List UInt8) : String :=
  match body with
  | 0xEF :: 0xBB :: 0xBF :: rest => Charset.decode rest .utf8
  | 0xFE :: 0xFF :: rest => Charset.decode rest (.utf16 true)
  | 0xFF :: 0xFE :: rest => Charset.decode rest (.utf16 false)
  | _ => Charset.decode body (Charset.ofContentType contentType)

end Prospector.Web
