import Prospector.Html.Entity
import Prospector.Html.Token

/-!
# Cutting markup into tokens

One call takes the tokens at the start of the markup and returns what stands behind them. What a
piece of markup means depends on the element that it stands in, so the caller says what kind of
content comes next. A tag that the end of the markup cuts off leaves no token.

Line ends stay as they are written until the text that they belong to is cut off; in tokens each is
one line feed.

Loops that are not plain recursion on the characters carry a count of steps, which is never less
than the number of characters left.
-/

namespace Prospector.Html

/-- The tokens at the start of a text and the text behind them. -/
abbrev Cut := List Token × List Char

/-- Whether a character is white space of HTML. -/
def isSpace (c : Char) : Bool :=
  c == ' ' || c == '\n' || c == '\t' || c == '\r' || c == '\x0c'

/-- Whether a character is an ASCII letter. -/
def isLetter (c : Char) : Bool :=
  ('a' ≤ c && c ≤ 'z') || ('A' ≤ c && c ≤ 'Z')

/-- An ASCII letter in lower case; other characters as they are. -/
def lowerChar (c : Char) : Char :=
  if 'A' ≤ c && c ≤ 'Z' then Char.ofNat (c.toNat + 32) else c

/-- A text with its ASCII letters in lower case. -/
def lowerText (s : String) : String :=
  String.ofList (s.toList.map lowerChar)

/-- A character, U+0000 replaced. -/
def soundChar (c : Char) : Char :=
  if c = '\x00' then replacement else c

/-- The text behind `start`, if a text starts with it; letters match in both cases. -/
def dropStart? (start cs : List Char) : Option (List Char) :=
  if (cs.take start.length).map lowerChar == start then some (cs.drop start.length) else none

/-- A text without the byte order mark at its start. -/
def dropMark : List Char → List Char
  | '\ufeff' :: cs => cs
  | cs => cs

/-- A token for text, if there is any. -/
def textTokens (cs : List Char) : List Token :=
  if cs.isEmpty then [] else [.text (String.ofList cs)]

/-! ## Line ends -/

/-- A text without the line feed at its start. -/
def dropLineFeed : List Char → List Char
  | '\n' :: cs => cs
  | cs => cs

/-- A text with every line end written as one line feed; `done` is the start of it, reversed. -/
def normalizeLinesFrom (done : List Char) : List Char → List Char
  | [] => done.reverse
  | '\r' :: '\n' :: rest => normalizeLinesFrom ('\n' :: done) rest
  | '\r' :: rest => normalizeLinesFrom ('\n' :: done) rest
  | c :: rest => normalizeLinesFrom (c :: done) rest

/-- A text with every line end written as one line feed. -/
def normalizeLines (cs : List Char) : List Char :=
  normalizeLinesFrom [] cs

/-! ## Comments -/

/-- Where a comment stands. -/
inductive CommentPart where
  | start
  | startDash
  | body
  | endDash
  | endDashes
  | endBang
  deriving DecidableEq, Repr, Inhabited

/-- The text of a comment, reversed, and the markup behind it. A comment ends with `-->` or `--!>`,
or at once with `>` or `->`. Dashes that do not end it belong to it. -/
def commentBody (done : List Char) : CommentPart → List Char → List Char × List Char
  | _, [] => (done, [])
  | .start, '-' :: cs => commentBody done .startDash cs
  | .start, '>' :: cs => (done, cs)
  | .start, c :: cs => commentBody (soundChar c :: done) .body cs
  | .startDash, '-' :: cs => commentBody done .endDashes cs
  | .startDash, '>' :: cs => (done, cs)
  | .startDash, c :: cs => commentBody (soundChar c :: '-' :: done) .body cs
  | .body, '-' :: cs => commentBody done .endDash cs
  | .body, c :: cs => commentBody (soundChar c :: done) .body cs
  | .endDash, '-' :: cs => commentBody done .endDashes cs
  | .endDash, c :: cs => commentBody (soundChar c :: '-' :: done) .body cs
  | .endDashes, '>' :: cs => (done, cs)
  | .endDashes, '!' :: cs => commentBody done .endBang cs
  | .endDashes, '-' :: cs => commentBody ('-' :: done) .endDashes cs
  | .endDashes, c :: cs => commentBody (soundChar c :: '-' :: '-' :: done) .body cs
  | .endBang, '-' :: cs => commentBody ('!' :: '-' :: '-' :: done) .endDash cs
  | .endBang, '>' :: cs => (done, cs)
  | .endBang, c :: cs => commentBody (soundChar c :: '!' :: '-' :: '-' :: done) .body cs

/-- The comment behind `<!--`. -/
def cutComment (cs : List Char) : Cut :=
  let (done, rest) := commentBody [] .start cs
  ([.comment (String.ofList (normalizeLines done.reverse))], rest)

/-- Markup up to the next `>` taken for a comment. -/
def cutBogusComment (cs : List Char) : Cut :=
  let body := cs.takeWhile (· != '>')
  ([.comment (String.ofList ((normalizeLines body).map soundChar))],
    (cs.drop body.length).drop 1)

/-! ## Document types -/

/-- The end of a declaration whose remainder means nothing. -/
def cutDoctypeRest (d : Doctype) (cs : List Char) : Cut :=
  ([.doctype d], (cs.dropWhile (· != '>')).drop 1)

/-- The quoted identifier that starts a text: the identifier, whether its quote is closed, and the
text behind. Without closing quote the identifier ends before the next `>`. -/
def quotedId (quote : Char) (cs : List Char) : String × Bool × List Char :=
  let body := cs.takeWhile fun c => c != quote && c != '>'
  let id := String.ofList ((normalizeLines body).map soundChar)
  match cs.drop body.length with
  | c :: rest => if c = quote then (id, true, rest) else (id, false, c :: rest)
  | [] => (id, false, [])

/-- A declaration behind its system identifier. -/
def cutAfterSystemId (d : Doctype) (cs : List Char) : Cut :=
  match cs.dropWhile isSpace with
  | [] => ([.doctype { d with broken := true }], [])
  | rest => cutDoctypeRest d rest

/-- A declaration whose system identifier comes next, behind its opening quote. -/
def cutSystemId (d : Doctype) (quote : Char) (cs : List Char) : Cut :=
  let (id, closed, rest) := quotedId quote cs
  if closed then cutAfterSystemId { d with systemId := some id } rest
  else cutDoctypeRest { d with systemId := some id, broken := true } rest

/-- A declaration in which a system identifier must come next, or may, if `optional`. -/
def cutBeforeSystemId (d : Doctype) (optional : Bool) (cs : List Char) : Cut :=
  match cs.dropWhile isSpace with
  | '"' :: rest => cutSystemId d '"' rest
  | '\'' :: rest => cutSystemId d '\'' rest
  | '>' :: rest => ([.doctype { d with broken := d.broken || !optional }], rest)
  | rest => cutDoctypeRest { d with broken := true } rest

/-- A declaration whose public identifier comes next, behind its opening quote. -/
def cutPublicId (d : Doctype) (quote : Char) (cs : List Char) : Cut :=
  let (id, closed, rest) := quotedId quote cs
  if closed then cutBeforeSystemId { d with publicId := some id } true rest
  else cutDoctypeRest { d with publicId := some id, broken := true } rest

/-- A declaration behind the word `PUBLIC`. -/
def cutBeforePublicId (d : Doctype) (cs : List Char) : Cut :=
  match cs.dropWhile isSpace with
  | '"' :: rest => cutPublicId d '"' rest
  | '\'' :: rest => cutPublicId d '\'' rest
  | rest => cutDoctypeRest { d with broken := true } rest

/-- A declaration in which a word must come next that says which identifier follows. -/
def cutKeyword (d : Doctype) (cs : List Char) : Cut :=
  match dropStart? ['p', 'u', 'b', 'l', 'i', 'c'] cs with
  | some rest => cutBeforePublicId d rest
  | none =>
    match dropStart? ['s', 'y', 's', 't', 'e', 'm'] cs with
    | some rest => cutBeforeSystemId d false rest
    | none => cutDoctypeRest { d with broken := true } cs

/-- Whether a text ends with a line end of two characters. -/
def endsWithReturnAndFeed (cs : List Char) : Bool :=
  ['\n', '\r'].isPrefixOf cs.reverse

/-- A declaration behind its name. A word right behind a line end of two characters is not
understood. -/
def cutAfterDoctypeName (d : Doctype) (cs : List Char) : Cut :=
  let blanks := cs.takeWhile isSpace
  match cs.drop blanks.length with
  | '>' :: rest => ([.doctype d], rest)
  | rest =>
    if endsWithReturnAndFeed blanks then cutDoctypeRest { d with broken := true } rest
    else cutKeyword d rest

/-- The declaration behind `<!DOCTYPE`. -/
def cutDoctype (cs : List Char) : Cut :=
  let start := cs.dropWhile isSpace
  let name := start.takeWhile fun c => !isSpace c && c != '>'
  if name.isEmpty then ([.doctype { broken := true }], start.drop 1)
  else
    let written := String.ofList (name.map fun c => soundChar (lowerChar c))
    cutAfterDoctypeName { name := some written } (start.drop name.length)

/-! ## Tags -/

/-- The value of an attribute up to its closing quote, reversed, and the markup behind the quote;
nothing if the quote is missing. -/
def quotedValue (quote : Char) (done : List Char) : Nat → List Char → Option (List Char × List Char)
  | 0, _ => none
  | _, [] => none
  | fuel + 1, c :: cs =>
    if c = quote then some (done, cs)
    else if c = '&' then
      let r := reference true cs
      quotedValue quote (r.chars.reverse ++ done) fuel r.rest
    else if c = '\r' then quotedValue quote ('\n' :: done) fuel (dropLineFeed cs)
    else quotedValue quote (soundChar c :: done) fuel cs

/-- The value of an attribute without quotes, reversed, and the markup behind it. -/
def bareValue (done : List Char) : Nat → List Char → List Char × List Char
  | 0, cs => (done, cs)
  | _, [] => (done, [])
  | fuel + 1, c :: cs =>
    if isSpace c || c == '>' then (done, c :: cs)
    else if c = '&' then
      let r := reference true cs
      bareValue (r.chars.reverse ++ done) fuel r.rest
    else bareValue (soundChar c :: done) fuel cs

/-- The text behind the blanks that stand between an equals sign and a value; `returned` says that a
carriage return stands right before. A line feed behind a carriage return is passed over together
with the character behind it. -/
def dropBlanks : Bool → List Char → List Char
  | _, [] => []
  | true, '\n' :: c :: cs => dropBlanks (c == '\r') cs
  | _, c :: cs => if isSpace c then dropBlanks (c == '\r') cs else c :: cs

/-- The value of an attribute behind its equals sign, and the markup behind the value; nothing if
the markup ends inside the value. -/
def attributeValue (fuel : Nat) (cs : List Char) : Option (String × List Char) :=
  let found :=
    match dropBlanks false cs with
    | '"' :: rest => quotedValue '"' [] fuel rest
    | '\'' :: rest => quotedValue '\'' [] fuel rest
    | rest => some (bareValue [] fuel rest)
  found.map fun (reversed, rest) => (String.ofList reversed.reverse, rest)

/-- Attributes with one more, unless there is one of its name. -/
def addAttribute (attrs : List TagAttribute) (a : TagAttribute) : List TagAttribute :=
  if attrs.any (·.name == a.name) then attrs else attrs ++ [a]

/-- The remainder of a tag behind its name: its attributes, whether it closes itself, and the
markup behind it; nothing if the markup ends inside the tag. -/
def tagRest (attrs : List TagAttribute) :
    Nat → List Char → Option (List TagAttribute × Bool × List Char)
  | 0, _ => none
  | fuel + 1, cs =>
    match cs.dropWhile isSpace with
    | [] => none
    | '>' :: rest => some (attrs, false, rest)
    | '/' :: '>' :: rest => some (attrs, true, rest)
    | '/' :: rest => tagRest attrs fuel rest
    | first :: rest =>
      let more := rest.takeWhile fun c => !isSpace c && c != '/' && c != '>' && c != '='
      let name := String.ofList ((first :: more).map fun c => soundChar (lowerChar c))
      match (rest.drop more.length).dropWhile isSpace with
      | '=' :: behind =>
        match attributeValue fuel behind with
        | some (value, rest) => tagRest (addAttribute attrs ⟨name, value⟩) fuel rest
        | none => none
      | behind => tagRest (addAttribute attrs ⟨name, ""⟩) fuel behind

/-- The tag whose name starts the text, and the markup behind it. -/
def cutTag (fuel : Nat) (cs : List Char) : Option (Tag × List Char) :=
  let name := cs.takeWhile fun c => !isSpace c && c != '/' && c != '>'
  let written := String.ofList (name.map fun c => soundChar (lowerChar c))
  (tagRest [] fuel (cs.drop name.length)).map fun (attrs, selfClosing, rest) =>
    (⟨written, attrs, selfClosing⟩, rest)

/-- A start tag. -/
def cutStartTag (fuel : Nat) (cs : List Char) : Cut :=
  match cutTag fuel cs with
  | some (tag, rest) => ([.startTag tag], rest)
  | none => ([], [])

/-- An end tag. -/
def cutEndTag (fuel : Nat) (cs : List Char) : Cut :=
  match cutTag fuel cs with
  | some (tag, rest) => ([.endTag tag], rest)
  | none => ([], [])

/-- Whether a text starts with `</` and the given name as an end tag. -/
def isEndTagOf (name : List Char) (cs : List Char) : Bool :=
  match dropStart? ('<' :: '/' :: name) cs with
  | some (c :: _) => isSpace c || c == '/' || c == '>'
  | _ => false

/-! ## Text -/

/-- The text up to the next `<` or U+0000, reversed, and the markup behind it. References are
resolved, but a reference whose number lacks its semicolon ends the run. -/
def textRun (done : List Char) : Nat → List Char → List Char × List Char
  | 0, cs => (done, cs)
  | _, [] => (done, [])
  | fuel + 1, c :: cs =>
    if c = '<' || c = '\x00' then (done, c :: cs)
    else if c = '&' then
      let r := reference false cs
      if r.unclosed then (done, c :: cs) else textRun (r.chars.reverse ++ done) fuel r.rest
    else if c = '\r' then textRun ('\n' :: done) fuel (dropLineFeed cs)
    else textRun (c :: done) fuel cs

/-- Text without references: its line ends and U+0000 replaced. -/
def rawText (cs : List Char) : List Char :=
  (normalizeLines cs).map soundChar

/-- The tokens of text that may hold references; `forNul` stands for U+0000. At least one character
is left. -/
def cutText (fuel : Nat) (forNul : Token) (cs : List Char) : Cut :=
  match textRun [] fuel cs with
  | ([], '\x00' :: rest) => ([forNul], rest)
  | ([], '&' :: rest) =>
    let r := reference false rest
    ([.flaw, .text (String.ofList r.chars)], r.rest)
  | ([], c :: rest) => ([.text (String.ofList [c])], rest)
  | (done, rest) => (textTokens done.reverse, rest)

/-! ## Scripts -/

/-- How far the content of a script is inside a comment: not at all, in the comment, or in a script
inside the comment; and how many dashes stand right before. -/
inductive ScriptPart where
  | plain
  | comment (dashes : Nat)
  | nested (dashes : Nat)
  deriving DecidableEq, Repr, Inhabited

/-- Whether a text starts with the given characters and then the end of a name. -/
def startsWord (start cs : List Char) : Bool :=
  match dropStart? start cs with
  | some (c :: _) => isSpace c || c == '/' || c == '>'
  | _ => false

/-- The content of a script, reversed, and the markup from its end tag on. Inside a comment a start
tag of a script opens a nested one, whose end tag does not end the script. -/
def scriptBody (done : List Char) : ScriptPart → Nat → List Char → List Char × List Char
  | _, 0, cs => (done, cs)
  | _, _, [] => (done, [])
  | .plain, fuel + 1, c :: cs =>
    if c = '<' then
      if isEndTagOf ['s', 'c', 'r', 'i', 'p', 't'] (c :: cs) then (done, c :: cs)
      else
        match cs with
        | '!' :: '-' :: '-' :: rest =>
          scriptBody ('-' :: '-' :: '!' :: '<' :: done) (.comment 2) fuel rest
        | _ => scriptBody ('<' :: done) .plain fuel cs
    else scriptBody (soundChar c :: done) .plain fuel cs
  | .comment dashes, fuel + 1, c :: cs =>
    if c = '-' then scriptBody ('-' :: done) (.comment (dashes + 1)) fuel cs
    else if c = '<' then
      if isEndTagOf ['s', 'c', 'r', 'i', 'p', 't'] (c :: cs) then (done, c :: cs)
      else if startsWord ['s', 'c', 'r', 'i', 'p', 't'] cs then
        scriptBody ((c :: cs.take 7).reverse ++ done) (.nested 0) fuel (cs.drop 7)
      else scriptBody ('<' :: done) (.comment 0) fuel cs
    else if c = '>' && 2 ≤ dashes then scriptBody ('>' :: done) .plain fuel cs
    else scriptBody (soundChar c :: done) (.comment 0) fuel cs
  | .nested dashes, fuel + 1, c :: cs =>
    if c = '-' then scriptBody ('-' :: done) (.nested (dashes + 1)) fuel cs
    else if c = '<' then
      if startsWord ['/', 's', 'c', 'r', 'i', 'p', 't'] cs then
        scriptBody ((c :: cs.take 8).reverse ++ done) (.comment 0) fuel (cs.drop 8)
      else scriptBody ('<' :: done) (.nested 0) fuel cs
    else if c = '>' && 2 ≤ dashes then scriptBody ('>' :: done) .plain fuel cs
    else scriptBody (soundChar c :: done) (.nested 0) fuel cs

/-! ## Content -/

/-- The text of a section up to `]]>`, reversed, and the markup behind it. -/
def sectionBody (done : List Char) : List Char → List Char × List Char
  | [] => (done, [])
  | ']' :: ']' :: '>' :: rest => (done, rest)
  | c :: cs => sectionBody (c :: done) cs

/-- The tokens of text in which U+0000 is a token of its own; `run` is the text before, reversed. -/
def nulTokens (run : List Char) : List Char → List Token
  | [] => textTokens run.reverse
  | c :: cs =>
    if c = '\x00' then textTokens run.reverse ++ .nul :: nulTokens [] cs
    else nulTokens (c :: run) cs

/-- The markup behind `<!`. Sections of character data have a meaning in foreign elements only. -/
def cutDeclaration (foreign : Bool) (cs : List Char) : Cut :=
  match cs with
  | '-' :: '-' :: rest => cutComment rest
  | '[' :: 'C' :: 'D' :: 'A' :: 'T' :: 'A' :: '[' :: rest =>
    if foreign then
      let (done, behind) := sectionBody [] rest
      (nulTokens [] (normalizeLines done.reverse), behind)
    else cutBogusComment cs
  | _ =>
    match dropStart? ['d', 'o', 'c', 't', 'y', 'p', 'e'] cs with
    | some rest => cutDoctype rest
    | none => cutBogusComment cs

/-- The tokens at the start of markup that is not empty. -/
def cutMarkup (foreign : Bool) (fuel : Nat) (cs : List Char) : Cut :=
  match cs with
  | '<' :: '!' :: rest => cutDeclaration foreign rest
  | '<' :: '/' :: '>' :: rest => ([.flaw], rest)
  | ['<', '/'] => ([.text "</"], [])
  | '<' :: '/' :: c :: rest =>
    if isLetter c then cutEndTag fuel (c :: rest) else cutBogusComment (c :: rest)
  | '<' :: '?' :: rest => cutBogusComment ('?' :: rest)
  | '<' :: c :: rest =>
    if isLetter c then cutStartTag fuel (c :: rest) else ([.text "<"], c :: rest)
  | _ => cutText fuel .nul cs

/-- Text up to the end tag of the given name; a lone `<` belongs to the text. -/
def cutUpTo (name : String) (escapable : Bool) (fuel : Nat) (cs : List Char) : Cut :=
  match cs with
  | '<' :: rest =>
    if isEndTagOf name.toList cs then cutEndTag fuel (rest.drop 1) else ([.text "<"], rest)
  | _ =>
    if escapable then cutText fuel (.text (String.ofList [replacement])) cs
    else
      let run := cs.takeWhile (· != '<')
      (textTokens (rawText run), cs.drop run.length)

/-- The end tag of a script. A byte order mark behind it is left out, as at the start of a
document. -/
def cutScriptEnd (fuel : Nat) (cs : List Char) : Cut :=
  let (tokens, rest) := cutEndTag fuel cs
  (tokens, dropMark rest)

/-- The tokens at the start of text that is not empty, of the given kind of content. -/
def cut (content : Content) (foreign : Bool) (fuel : Nat) (cs : List Char) : Cut :=
  match content with
  | .markup => cutMarkup foreign fuel cs
  | .escapableText name => cutUpTo name true fuel cs
  | .rawText name => cutUpTo name false fuel cs
  | .script =>
    if isEndTagOf ['s', 'c', 'r', 'i', 'p', 't'] cs then cutScriptEnd fuel (cs.drop 2)
    else
      let (done, rest) := scriptBody [] .plain fuel cs
      (textTokens (normalizeLines done.reverse), rest)
  | .plainText => (textTokens (rawText cs), [])

end Prospector.Html
