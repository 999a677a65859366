import Prospector.Text.Digit
import Prospector.Toml.Blank

/-!
# Quoted texts

The four kinds of TOML strings: between double quotes with escapes, between single quotes without,
each on one line or, between three quotes, over several. A line break right behind three opening
quotes does not count, and up to two quotes may stand before three closing ones.
-/

namespace Prospector.Toml

/-- Whether a character may stand in a string as it is. -/
def isPlain (c : Char) : Bool :=
  isCommentChar c

/-- The character that an escape with one letter stands for. -/
def shortEscape? (c : Char) : Option Char :=
  match c with
  | 'b' => some '\x08'
  | 't' => some '\t'
  | 'n' => some '\n'
  | 'f' => some '\x0c'
  | 'r' => some '\r'
  | '"' => some '"'
  | '\\' => some '\\'
  | _ => none

/-- The character of a code point in hexadecimal digits. -/
def codeEscape? (digits : List Char) : Option Char := do
  let n := Text.ofDigits 16 (← digits.mapM Text.hexValue?)
  if n.isValidChar then some (Char.ofNat n) else none

/-- What is read, with a character before it. -/
def withChar (c : Option Char) (read : Option (List Char × List Char)) :
    Option (List Char × List Char) := do
  let c ← c
  let (cs, rest) ← read
  some (c :: cs, rest)

/-- The content of a string up to the double quote that ends it, and the text behind. -/
def readEscaped : Reader (List Char)
  | [] => none
  | '"' :: rest => some ([], rest)
  | '\\' :: 'u' :: a :: b :: c :: d :: rest =>
    withChar (codeEscape? [a, b, c, d]) (readEscaped rest)
  | '\\' :: 'U' :: a :: b :: c :: d :: e :: f :: g :: h :: rest =>
    withChar (codeEscape? [a, b, c, d, e, f, g, h]) (readEscaped rest)
  | '\\' :: c :: rest => withChar (shortEscape? c) (readEscaped rest)
  | c :: rest => if isPlain c then withChar (some c) (readEscaped rest) else none

/-- Whether only blanks stand before the next line break. -/
def endsLine (cs : List Char) : Bool :=
  (newline? (skipBlanks cs)).isSome

/-- The content of a string up to the three double quotes that end it. A backslash at the end of a
line takes away all blanks and line breaks behind it; `skipping` says that they are being passed. -/
def readLongEscaped (skipping : Bool) : Reader (List Char)
  | [] => none
  | '"' :: '"' :: '"' :: '"' :: '"' :: rest => some (['"', '"'], rest)
  | '"' :: '"' :: '"' :: '"' :: rest => some (['"'], rest)
  | '"' :: '"' :: '"' :: rest => some ([], rest)
  | '\\' :: 'u' :: a :: b :: c :: d :: rest =>
    withChar (codeEscape? [a, b, c, d]) (readLongEscaped false rest)
  | '\\' :: 'U' :: a :: b :: c :: d :: e :: f :: g :: h :: rest =>
    withChar (codeEscape? [a, b, c, d, e, f, g, h]) (readLongEscaped false rest)
  | '\\' :: c :: rest =>
    if endsLine (c :: rest) then readLongEscaped true (c :: rest)
    else withChar (shortEscape? c) (readLongEscaped false rest)
  | '\r' :: '\n' :: rest =>
    if skipping then readLongEscaped true rest
    else withChar (some '\n') (readLongEscaped false rest)
  | c :: rest =>
    if skipping && (isBlank c || c == '\n') then readLongEscaped true rest
    else if isPlain c || c == '\n' then withChar (some c) (readLongEscaped false rest)
    else none

/-- The content of a string up to the single quote that ends it. -/
def readLiteral : Reader (List Char)
  | [] => none
  | c :: rest =>
    if c = '\x27' then some ([], rest)
    else if isPlain c then withChar (some c) (readLiteral rest)
    else none

/-- The number of single quotes at the start of a text. -/
def quoteRun (cs : List Char) : Nat :=
  (cs.takeWhile (· == '\x27')).length

/-- The content of a string up to the three single quotes that end it. -/
def readLongLiteral : Reader (List Char)
  | [] => none
  | '\r' :: '\n' :: rest => withChar (some '\n') (readLongLiteral rest)
  | c :: rest =>
    let quotes := quoteRun (c :: rest)
    if 3 ≤ quotes then
      let inside := min (quotes - 3) 2
      some (List.replicate inside '\x27', rest.drop (inside + 2))
    else if isPlain c || c == '\n' then withChar (some c) (readLongLiteral rest)
    else none

/-- A text without the line break at its start, if there is one. -/
def skipNewline (cs : List Char) : List Char :=
  (newline? cs).getD cs

/-- The string on one line at the start of a text. -/
def readShortString : Reader String
  | '"' :: cs => (readEscaped cs).map fun (s, rest) => (String.ofList s, rest)
  | '\x27' :: cs => (readLiteral cs).map fun (s, rest) => (String.ofList s, rest)
  | _ => none

/-- The string of any kind at the start of a text. -/
def readString : Reader String
  | '"' :: '"' :: '"' :: cs =>
    (readLongEscaped false (skipNewline cs)).map fun (s, rest) => (String.ofList s, rest)
  | '\x27' :: '\x27' :: '\x27' :: cs =>
    (readLongLiteral (skipNewline cs)).map fun (s, rest) => (String.ofList s, rest)
  | cs => readShortString cs

end Prospector.Toml
