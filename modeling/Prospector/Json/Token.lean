import Prospector.Json.Number

/-!
# Tokens of JSON text

Text is cut into tokens by a machine that takes one character at a time, so cutting is total and
the tokens come in the order of the text. Text that no token starts with, and a token that the end
of the text cuts off, become the token `flaw`; what follows a flaw has no meaning.
-/

namespace Prospector.Json

/-- A token of JSON text. -/
inductive Token where
  | openArray
  | closeArray
  | openObject
  | closeObject
  | comma
  | colon
  | null
  | bool (value : Bool)
  | number (literal : Literal)
  /-- A string; without content if an escape names half of a surrogate pair. -/
  | string (content : Option String)
  | flaw
  deriving Repr, Inhabited, DecidableEq

/-- What has been read of a string: its characters in reverse, the first half of a surrogate pair
whose second half must follow, and whether all halves so far found their partner. -/
structure Content where
  chars : List Char := []
  half : Option Nat := none
  sound : Bool := true
  deriving Repr, Inhabited, DecidableEq

namespace Content

/-- The string with one more character. -/
def push (content : Content) (c : Char) : Content :=
  { chars := c :: content.chars
    half := none
    sound := content.sound && content.half.isNone }

/-- The string with one more unit named by an escape. -/
def pushUnit (content : Content) (unit : Nat) : Content :=
  match content.half with
  | some high =>
    if 0xDC00 ≤ unit && unit ≤ 0xDFFF then
      let c := Char.ofNat (0x10000 + (high - 0xD800) * 0x400 + (unit - 0xDC00))
      { chars := c :: content.chars, half := none, sound := content.sound }
    else { chars := content.chars, half := none, sound := false }
  | none =>
    if 0xD800 ≤ unit && unit ≤ 0xDBFF then { content with half := some unit }
    else if 0xDC00 ≤ unit && unit ≤ 0xDFFF then { content with sound := false }
    else { content with chars := Char.ofNat unit :: content.chars }

/-- The token of a string that is closed. -/
def token (content : Content) : Token :=
  if content.sound && content.half.isNone then
    .string (some (String.ofList content.chars.reverse))
  else .string none

end Content

/-- Where a number literal stands. -/
inductive NumberPart where
  | sign
  | zero
  | whole
  | point
  | fraction
  | exponentMark
  | exponentSign
  | exponent
  deriving Repr, Inhabited, DecidableEq

/-- What the machine is in the middle of. Digits of a literal are kept in reverse. -/
inductive Mode where
  | between
  | word (rest : List Char) (token : Token)
  | number (part : NumberPart) (literal : Literal)
  | string (content : Content)
  | escape (content : Content)
  | unit (content : Content) (left value : Nat)
  /-- Behind a flaw. -/
  | lost
  deriving Repr, Inhabited, DecidableEq

namespace Mode

/-- A character between tokens. -/
def start (c : Char) : List Token × Mode :=
  if c = ' ' || c = '\n' || c = '\t' || c = '\r' then ([], .between)
  else if c = '[' then ([.openArray], .between)
  else if c = ']' then ([.closeArray], .between)
  else if c = '\x7b' then ([.openObject], .between)
  else if c = '\x7d' then ([.closeObject], .between)
  else if c = ',' then ([.comma], .between)
  else if c = ':' then ([.colon], .between)
  else if c = '"' then ([], .string {})
  else if c = 'n' then ([], .word ['u', 'l', 'l'] .null)
  else if c = 't' then ([], .word ['r', 'u', 'e'] (.bool true))
  else if c = 'f' then ([], .word ['a', 'l', 's', 'e'] (.bool false))
  else if c = '-' then ([], .number .sign { negative := true })
  else if c = '0' then ([], .number .zero { whole := ['0'] })
  else if Text.isDigit c then ([], .number .whole { whole := [c] })
  else ([.flaw], .lost)

/-- A literal with its digits in the order of the text. -/
def inOrder (l : Literal) : Literal :=
  { l with
    whole := l.whole.reverse
    fraction := l.fraction.map List.reverse
    exponent := l.exponent.map List.reverse }

/-- A character behind a complete literal. -/
def afterNumber (l : Literal) (c : Char) : List Token × Mode :=
  let (tokens, mode) := start c
  (.number (inOrder l) :: tokens, mode)

/-- A character behind the digits before the point. -/
def afterWhole (l : Literal) (c : Char) : List Token × Mode :=
  if c = '.' then ([], .number .point { l with fraction := some [] })
  else if c = 'e' || c = 'E' then ([], .number .exponentMark { l with exponent := some [] })
  else afterNumber l c

/-- A character inside a literal. -/
def inNumber (part : NumberPart) (l : Literal) (c : Char) : List Token × Mode :=
  match part with
  | .sign =>
    if c = '0' then ([], .number .zero { l with whole := ['0'] })
    else if Text.isDigit c then ([], .number .whole { l with whole := [c] })
    else ([.flaw], .lost)
  | .zero => if Text.isDigit c then ([.flaw], .lost) else afterWhole l c
  | .whole =>
    if Text.isDigit c then ([], .number .whole { l with whole := c :: l.whole })
    else afterWhole l c
  | .point =>
    if Text.isDigit c then ([], .number .fraction { l with fraction := some [c] })
    else ([.flaw], .lost)
  | .fraction =>
    if Text.isDigit c then
      ([], .number .fraction { l with fraction := l.fraction.map (c :: ·) })
    else if c = 'e' || c = 'E' then ([], .number .exponentMark { l with exponent := some [] })
    else afterNumber l c
  | .exponentMark =>
    if c = '+' then ([], .number .exponentSign l)
    else if c = '-' then ([], .number .exponentSign { l with exponentNegative := true })
    else if Text.isDigit c then ([], .number .exponent { l with exponent := some [c] })
    else ([.flaw], .lost)
  | .exponentSign =>
    if Text.isDigit c then ([], .number .exponent { l with exponent := some [c] })
    else ([.flaw], .lost)
  | .exponent =>
    if Text.isDigit c then
      ([], .number .exponent { l with exponent := l.exponent.map (c :: ·) })
    else afterNumber l c

/-- The character that a one-letter escape names. -/
def escaped? (c : Char) : Option Char :=
  if c = '"' || c = '\\' || c = '/' then some c
  else if c = 'b' then some '\x08'
  else if c = 'f' then some '\x0c'
  else if c = 'n' then some '\n'
  else if c = 'r' then some '\r'
  else if c = 't' then some '\t'
  else none

/-- One character: the tokens that it completes and what the machine is in the middle of then. -/
def step : Mode → Char → List Token × Mode
  | .between, c => start c
  | .word [] token, c =>
    let (tokens, mode) := start c
    (token :: tokens, mode)
  | .word (expected :: rest) token, c =>
    if c = expected then if rest.isEmpty then ([token], .between) else ([], .word rest token)
    else ([.flaw], .lost)
  | .number part l, c => inNumber part l c
  | .string content, c =>
    if c = '"' then ([content.token], .between)
    else if c = '\\' then ([], .escape content)
    else if c.toNat < 0x20 then ([.flaw], .lost)
    else ([], .string (content.push c))
  | .escape content, c =>
    if c = 'u' then ([], .unit content 4 0)
    else
      match escaped? c with
      | some d => ([], .string (content.push d))
      | none => ([.flaw], .lost)
  | .unit content left value, c =>
    match Text.hexValue? c with
    | none => ([.flaw], .lost)
    | some digit =>
      if left ≤ 1 then ([], .string (content.pushUnit (value * 16 + digit)))
      else ([], .unit content (left - 1) (value * 16 + digit))
  | .lost, _ => ([], .lost)

/-- What the end of the text completes. -/
def finish : Mode → List Token
  | .between => []
  | .lost => []
  | .number part l =>
    match part with
    | .zero | .whole | .fraction | .exponent => [.number (inOrder l)]
    | _ => [.flaw]
  | _ => [.flaw]

/-- The tokens `done`, which are reversed, and behind them those of the characters that follow. -/
def scan (done : List Token) (mode : Mode) : List Char → List Token
  | [] => done.reverse ++ mode.finish
  | c :: cs =>
    let (tokens, next) := mode.step c
    scan (tokens.reverse ++ done) next cs

theorem scan_eq_append (done : List Token) (mode : Mode) (cs : List Char) :
    scan done mode cs = done.reverse ++ scan [] mode cs := by
  induction cs generalizing done mode with
  | nil => simp [scan]
  | cons c cs ih =>
    simp only [scan]
    rw [ih, ih ((mode.step c).1.reverse ++ [])]
    simp

end Mode

/-- The tokens of a text. -/
def tokens (text : String) : List Token :=
  Mode.scan [] .between text.toList

end Prospector.Json
