/-!
# Punycode

Labels of domain names written with ASCII characters. The ASCII characters of a label come first;
behind the last hyphen follow, for the other characters in ascending order, the steps that a decoder
walks through positions and code points before it puts the next character in. A step is a number
with digits of base 36 whose last digit is known by a threshold, and thresholds follow the size of
the steps.

## Main definitions

* `Punycode.encode` : a label as ASCII characters.
* `Punycode.decode?` : the label that ASCII characters stand for.
-/

namespace Prospector.Url.Punycode

/-! ## Digits, thresholds and bias -/

/-- The digit of a value below 36: letters first, then numerals. -/
def digit (n : Nat) : Char :=
  if n < 26 then Char.ofNat (97 + n) else Char.ofNat (22 + n)

/-- The value of a digit. -/
def digitValue? (c : Char) : Option Nat :=
  if 'a' ≤ c && c ≤ 'z' then some (c.toNat - 97)
  else if '0' ≤ c && c ≤ '9' then some (c.toNat - 22)
  else none

/-- The threshold of the `k`-th digit; a digit below it is the last one. -/
def threshold (bias k : Nat) : Nat :=
  if 36 * (k + 1) ≤ bias then 1 else min 26 (36 * (k + 1) - bias)

theorem threshold_pos (bias k : Nat) : 1 ≤ threshold bias k := by
  unfold threshold
  split <;> omega

theorem threshold_le (bias k : Nat) : threshold bias k ≤ 26 := by
  unfold threshold
  split <;> omega

/-- A step divided by 35 until it is small, and the count of 36 for each time. -/
def damp (delta bias : Nat) : Nat × Nat :=
  if 455 < delta then damp (delta / 35) (bias + 36) else (delta, bias)
termination_by delta
decreasing_by exact Nat.div_lt_self (by omega) (by omega)

/-- The bias after a step that made the label `size` characters long. -/
def adapt (delta size : Nat) (first : Bool) : Nat :=
  let delta := if first then delta / 700 else delta / 2
  let (delta, bias) := damp (delta + delta / size) 0
  bias + 36 * delta / (delta + 38)

/-! ## Encoding -/

/-- The digits of a step, from the `k`-th one on. -/
def stepDigits (bias k q : Nat) : List Char :=
  let t := threshold bias k
  if q < t then [digit q]
  else digit (t + (q - t) % (36 - t)) :: stepDigits bias (k + 1) ((q - t) / (36 - t))
termination_by q
decreasing_by
  have hpos := threshold_pos bias k
  exact Nat.lt_of_le_of_lt (Nat.div_le_self _ _) (by omega)

/-- An encoder: how many characters are written, the step that has come together, the bias, whether
no step is written yet, and the digits written, last ones first. -/
structure Encoder where
  size : Nat
  delta : Nat := 0
  bias : Nat := 72
  first : Bool := true
  written : List Char := []

/-- The encoder after it has passed a character of the label while it looks for `code`. -/
def Encoder.pass (code : Nat) (e : Encoder) (c : Char) : Encoder :=
  if c.toNat < code then { e with delta := e.delta + 1 }
  else if c.toNat = code then
    { size := e.size + 1
      delta := 0
      bias := adapt e.delta (e.size + 1) e.first
      first := false
      written := (stepDigits e.bias 0 e.delta).reverse ++ e.written }
  else e

/-- The encoder after it has passed the label once for each of the given code points; the last code
point that it looked for is the one before `next`. -/
def Encoder.passes (label : List Char) (next : Nat) (e : Encoder) : List Nat → Encoder
  | [] => e
  | code :: codes =>
    let e := { e with delta := e.delta + (code - next) * (e.size + 1) }
    let e := label.foldl (Encoder.pass code) e
    Encoder.passes label (code + 1) { e with delta := e.delta + 1 } codes

/-- A number put into an ascending list without repetition. -/
def insertCode (n : Nat) : List Nat → List Nat
  | [] => [n]
  | m :: rest =>
    if n < m then n :: m :: rest
    else if n = m then m :: rest
    else m :: insertCode n rest

/-- The ASCII characters of a label. -/
def asciiPart (label : List Char) : List Char :=
  label.filter fun c => c.toNat < 128

/-- A label as ASCII characters. -/
def encode (label : List Char) : List Char :=
  let plain := asciiPart label
  let codes := ((label.filter fun c => 128 ≤ c.toNat).map Char.toNat).foldr insertCode []
  let e := Encoder.passes label 128 { size := plain.length } codes
  plain ++ (if plain.isEmpty then [] else ['-']) ++ e.written.reverse

/-! ## Decoding -/

/-- The step that digits begin with, added to `sum`, and the digits behind it; `weight` is what the
`k`-th digit counts. -/
def readStep (bias k weight sum : Nat) : List Char → Option (Nat × List Char)
  | [] => none
  | c :: cs =>
    match digitValue? c with
    | none => none
    | some d =>
      let t := threshold bias k
      if d < t then some (sum + d * weight, cs)
      else readStep bias (k + 1) (weight * (36 - t)) (sum + d * weight) cs

theorem length_lt_of_readStep {bias k weight sum total : Nat} {cs rest : List Char}
    (h : readStep bias k weight sum cs = some (total, rest)) : rest.length < cs.length := by
  induction cs generalizing k weight sum with
  | nil => simp [readStep] at h
  | cons c cs ih =>
    simp only [readStep] at h
    split at h
    · simp at h
    · split at h
      · simp only [Option.some.injEq, Prod.mk.injEq] at h
        simp [h.2]
      · exact Nat.lt_of_lt_of_le (ih h) (by simp)

/-- The label after all steps; `code` and `position` say where the last step ended. -/
def decodeSteps (bias code position : Nat) (label cs : List Char) : Option (List Char) :=
  if cs.isEmpty then some label
  else
    match _h : readStep bias 0 1 position cs with
    | none => none
    | some (total, rest) =>
      let size := label.length + 1
      let code := code + total / size
      if code.isValidChar && total < Nat.pow 2 32 then
        decodeSteps (adapt (total - position) size (position == 0)) code (total % size + 1)
          (label.insertIdx (total % size) (Char.ofNat code)) rest
      else none
termination_by cs.length
decreasing_by exact length_lt_of_readStep ‹_›

/-- The parts of a label before and behind its last hyphen; with nothing before a hyphen all of it
is behind. -/
def splitAtHyphen (cs : List Char) : List Char × List Char :=
  let behind := (cs.reverse.takeWhile fun c => c ≠ '-').reverse
  let plain := cs.take (cs.length - behind.length - 1)
  if plain.isEmpty then ([], cs) else (plain, behind)

/-- The label that ASCII characters stand for. -/
def decode? (cs : List Char) : Option (List Char) :=
  let (plain, steps) := splitAtHyphen cs
  if plain.all fun c => c.toNat < 128 then decodeSteps 72 128 0 plain steps else none

end Prospector.Url.Punycode
