/-!
# Texts as bytes

The UTF-8 form of texts. Malformed bytes are refused by `decodeUtf8?`; `decodeUtf8` puts U+FFFD in
their place. The latter goes byte by byte: a reader waits for the further bytes of a character, and
each of them has to lie in the bounds that rule out overlong forms, surrogates and values that are
too large. A byte out of bounds ends the character before it as malformed and is read anew.
-/

namespace Prospector.Text

/-- The UTF-8 form of a list of characters. -/
def utf8Of (cs : List Char) : List UInt8 :=
  cs.flatMap String.utf8EncodeChar

/-- The UTF-8 form of a text. -/
def utf8 (s : String) : List UInt8 :=
  utf8Of s.toList

/-- A character of which `missing` more bytes are to come, the next of them from `low` to `high`;
`value` is what the bytes so far amount to. -/
structure Utf8Rest where
  missing : Nat
  value : Nat
  low : Nat := 0x80
  high : Nat := 0xBF
  deriving Repr, DecidableEq, Inhabited

/-- What a byte at the start of a character begins. -/
inductive Utf8Start where
  | char (c : Char)
  | rest (r : Utf8Rest)
  | malformed
  deriving Repr, Inhabited

/-- The start that a byte makes. -/
def utf8Start (b : UInt8) : Utf8Start :=
  let n := b.toNat
  if n < 0x80 then .char (Char.ofNat n)
  else if n < 0xC2 then .malformed
  else if n < 0xE0 then .rest { missing := 1, value := n - 0xC0 }
  else if n = 0xE0 then .rest { missing := 2, value := 0, low := 0xA0 }
  else if n = 0xED then .rest { missing := 2, value := 0xD, high := 0x9F }
  else if n < 0xF0 then .rest { missing := 2, value := n - 0xE0 }
  else if n = 0xF0 then .rest { missing := 3, value := 0, low := 0x90 }
  else if n < 0xF4 then .rest { missing := 3, value := n - 0xF0 }
  else if n = 0xF4 then .rest { missing := 3, value := 4, high := 0x8F }
  else .malformed

/-- The characters read from bytes in which `pending` is the character begun; a malformed one is
read as nothing. -/
def readUtf8 (pending : Option Utf8Rest) : List UInt8 → List (Option Char)
  | [] => if pending.isSome then [none] else []
  | b :: bytes =>
    match pending with
    | some r =>
      if r.low ≤ b.toNat && b.toNat ≤ r.high then
        let value := r.value * 64 + (b.toNat - 0x80)
        if r.missing ≤ 1 then some (Char.ofNat value) :: readUtf8 none bytes
        else readUtf8 (some { missing := r.missing - 1, value }) bytes
      else
        match utf8Start b with
        | .char c => none :: some c :: readUtf8 none bytes
        | .rest r => none :: readUtf8 (some r) bytes
        | .malformed => none :: none :: readUtf8 none bytes
    | none =>
      match utf8Start b with
      | .char c => some c :: readUtf8 none bytes
      | .rest r => readUtf8 (some r) bytes
      | .malformed => none :: readUtf8 none bytes

/-- The text whose UTF-8 form the bytes are. -/
def decodeUtf8? (bytes : List UInt8) : Option String :=
  String.fromUTF8? ⟨bytes.toArray⟩

/-- The text that bytes stand for when each malformed part of them is replaced by U+FFFD. -/
def decodeUtf8 (bytes : List UInt8) : String :=
  String.ofList ((readUtf8 none bytes).map fun c => c.getD '\uFFFD')

end Prospector.Text
