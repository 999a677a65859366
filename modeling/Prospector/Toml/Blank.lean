import Prospector.Toml.Basic

/-!
# Blanks, comments and line ends

What may stand between the parts of a TOML document.
-/

namespace Prospector.Toml

/-- Spaces and tabs are the blanks inside a line. -/
def isBlank (c : Char) : Bool :=
  c == ' ' || c == '\t'

/-- A text without the blanks at its start. -/
def skipBlanks (cs : List Char) : List Char :=
  cs.dropWhile isBlank

/-- Whether a character may stand in a comment; of the control characters only the tab may. -/
def isCommentChar (c : Char) : Bool :=
  c == '\t' || (0x20 ≤ c.toNat && c.toNat ≤ 0x7E) || 0x80 ≤ c.toNat

/-- A text without the comment at its start. -/
def skipComment : List Char → List Char
  | '#' :: cs => cs.dropWhile isCommentChar
  | cs => cs

/-- The text behind the line break at its start. -/
def newline? : List Char → Option (List Char)
  | '\n' :: cs => some cs
  | '\r' :: '\n' :: cs => some cs
  | _ => none

/-- The text behind what may stand at the end of a line: blanks, a comment, a line break or the end
of the text. -/
def lineEnd? (cs : List Char) : Option (List Char) :=
  match skipComment (skipBlanks cs) with
  | [] => some []
  | rest => newline? rest

/-- A text without the blanks, comments and line breaks at its start, at most `fuel` lines of them;
nothing if a comment is ended by something else than its line. -/
def skipLinesWithin : Nat → List Char → Option (List Char)
  | 0, cs => some cs
  | fuel + 1, cs =>
    match skipBlanks cs with
    | '#' :: rest => do
      match ← lineEnd? ('#' :: rest) with
      | [] => some []
      | behind => skipLinesWithin fuel behind
    | rest =>
      match newline? rest with
      | some behind => skipLinesWithin fuel behind
      | none => some rest

/-- A text without the blanks, comments and line breaks at its start. -/
def skipLines? (cs : List Char) : Option (List Char) :=
  skipLinesWithin (cs.length + 1) cs

end Prospector.Toml
