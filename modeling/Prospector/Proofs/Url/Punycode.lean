import Mathlib.Data.List.Sort
import Prospector.Url.Punycode

/-!
# Punycode has one text for a label

A label that can be decoded is what its characters are encoded as. The steps that a decoder walks
are the gaps that an encoder counts: between two characters put in, both pass the same code points
and the same characters of the label. So decoding a label and encoding it again changes nothing,
and no two texts stand for the same characters.

The proof follows the decoder. At each of its states the label to come is cut in two where the
decoder stands: of the part before it, the characters with code points up to the present one are
there already; of the part behind it, those with lower code points are. An encoder that has got so
far writes the text that the decoder has still to read.

## Main results

* `Punycode.eq_stepDigits_of_readStep` : the digits of a step are determined by the step.
* `Punycode.exists_written_of_decodeSteps` : an encoder writes what is left for a decoder to read.
* `Punycode.encode_of_decode?` : encoding undoes decoding.
* `Punycode.ascii_encode` : what is encoded is written in ASCII.
-/

namespace Prospector.Url.Punycode

/-! ## Steps -/

theorem digitValue?_eq_some {c : Char} {d : Nat} (h : digitValue? c = some d) :
    d < 36 ∧ c = digit d := by
  have hchar : ∀ n, c.toNat = n → c = Char.ofNat n := by
    rintro n rfl
    exact (Char.ofNat_toNat c).symm
  unfold digitValue? at h
  split at h
  · next hletter =>
    simp only [Bool.and_eq_true, decide_eq_true_eq] at hletter
    have hlow : 97 ≤ c.toNat := hletter.1
    have hhigh : c.toNat ≤ 122 := hletter.2
    obtain rfl := Option.some.inj h
    refine ⟨by omega, ?_⟩
    rw [digit, if_pos (by omega)]
    exact hchar _ (by omega)
  · split at h
    · next hnumeral =>
      simp only [Bool.and_eq_true, decide_eq_true_eq] at hnumeral
      have hlow : 48 ≤ c.toNat := hnumeral.1
      have hhigh : c.toNat ≤ 57 := hnumeral.2
      obtain rfl := Option.some.inj h
      refine ⟨by omega, ?_⟩
      rw [digit, if_neg (by omega)]
      exact hchar _ (by omega)
    · exact nomatch h

theorem stepDigits_of_lt {bias k q : Nat} (h : q < threshold bias k) :
    stepDigits bias k q = [digit q] := by
  rw [stepDigits.eq_1]
  exact if_pos h

theorem stepDigits_of_le {bias k q : Nat} (h : threshold bias k ≤ q) :
    stepDigits bias k q =
      digit (threshold bias k + (q - threshold bias k) % (36 - threshold bias k)) ::
        stepDigits bias (k + 1) ((q - threshold bias k) / (36 - threshold bias k)) := by
  rw [stepDigits.eq_1]
  exact if_neg (Nat.not_lt.2 h)

/-- A digit that is not the last one of a step, and the digits behind it. -/
theorem stepDigits_add_mul {bias k d : Nat} (q : Nat) (hlow : threshold bias k ≤ d)
    (hhigh : d < 36) :
    stepDigits bias k (d + q * (36 - threshold bias k)) =
      digit d :: stepDigits bias (k + 1) q := by
  rw [stepDigits_of_le (Nat.le_add_right_of_le hlow)]
  generalize threshold bias k = t at *
  have hpos : 0 < 36 - t := by omega
  have hsplit : d + q * (36 - t) - t = (d - t) + q * (36 - t) := by omega
  have hmod : (d - t + q * (36 - t)) % (36 - t) = d - t := by
    rw [Nat.add_mul_mod_self_right, Nat.mod_eq_of_lt (by omega)]
  have hdiv : (d - t + q * (36 - t)) / (36 - t) = q := by
    rw [Nat.add_mul_div_right _ _ hpos, Nat.div_eq_of_lt (by omega), Nat.zero_add]
  have hd : t + (d - t) = d := by omega
  rw [hsplit, hmod, hdiv, hd]

/-- The digits of a step are determined by the step. -/
theorem eq_stepDigits_of_readStep {bias k weight sum total : Nat} {cs rest : List Char}
    (h : readStep bias k weight sum cs = some (total, rest)) :
    ∃ q, total = sum + q * weight ∧ cs = stepDigits bias k q ++ rest := by
  induction cs generalizing k weight sum with
  | nil => simp [readStep] at h
  | cons c cs ih =>
      rw [readStep] at h
      cases hdigit : digitValue? c with
      | none => simp [hdigit] at h
      | some d =>
          obtain ⟨hlt, rfl⟩ := digitValue?_eq_some hdigit
          simp only [hdigit] at h
          split at h
          · next hlast =>
            obtain ⟨rfl, rfl⟩ := Prod.mk.inj (Option.some.inj h)
            exact ⟨d, rfl, by rw [stepDigits_of_lt hlast]; rfl⟩
          · next hmore =>
            obtain ⟨q, rfl, rfl⟩ := ih h
            refine ⟨d + q * (36 - threshold bias k), ?_, ?_⟩
            · rw [Nat.add_mul, Nat.mul_assoc, Nat.mul_comm (36 - threshold bias k) weight,
                Nat.add_assoc]
            · rw [stepDigits_add_mul q (Nat.not_lt.1 hmore) hlt]
              rfl

/-! ## Code points in order -/

theorem mem_insertCode {n m : Nat} {codes : List Nat} :
    m ∈ insertCode n codes ↔ m = n ∨ m ∈ codes := by
  fun_induction insertCode n codes with
  | case1 => simp
  | case2 => simp
  | case3 => simp
  | case4 a rest _ _ ih =>
      rw [List.mem_cons, ih, List.mem_cons]
      exact or_left_comm

theorem pairwise_insertCode {n : Nat} {codes : List Nat} (h : codes.Pairwise (· < ·)) :
    (insertCode n codes).Pairwise (· < ·) := by
  fun_induction insertCode n codes with
  | case1 => exact List.pairwise_singleton _ _
  | case2 a rest hlt =>
      refine List.pairwise_cons.2 ⟨?_, h⟩
      intro b hb
      rcases List.mem_cons.1 hb with rfl | hb
      · exact hlt
      · exact Nat.lt_trans hlt (List.rel_of_pairwise_cons h hb)
  | case3 => exact h
  | case4 a rest hnlt hne ih =>
      obtain ⟨hfirst, hrest⟩ := List.pairwise_cons.1 h
      refine List.pairwise_cons.2 ⟨?_, ih hrest⟩
      intro b hb
      rcases mem_insertCode.1 hb with rfl | hb
      · omega
      · exact hfirst b hb

/-- The code points of a label from a given one on, in ascending order. -/
def codesFrom (n : Nat) (label : List Char) : List Nat :=
  ((label.filter fun c => n ≤ c.toNat).map Char.toNat).foldr insertCode []

theorem mem_codesFrom {n m : Nat} {label : List Char} :
    m ∈ codesFrom n label ↔ n ≤ m ∧ ∃ c ∈ label, c.toNat = m := by
  have hmem : ∀ codes : List Nat, m ∈ codes.foldr insertCode [] ↔ m ∈ codes := by
    intro codes
    induction codes with
    | nil => rfl
    | cons a codes ih => rw [List.foldr_cons, mem_insertCode, ih, List.mem_cons]
  rw [codesFrom, hmem, List.mem_map]
  constructor
  · rintro ⟨c, hc, rfl⟩
    exact ⟨of_decide_eq_true (List.mem_filter.1 hc).2, c, (List.mem_filter.1 hc).1, rfl⟩
  · rintro ⟨hle, c, hc, rfl⟩
    exact ⟨c, List.mem_filter.2 ⟨hc, decide_eq_true hle⟩, rfl⟩

theorem pairwise_codesFrom (n : Nat) (label : List Char) :
    (codesFrom n label).Pairwise (· < ·) := by
  unfold codesFrom
  induction (label.filter fun c => n ≤ c.toNat).map Char.toNat with
  | nil => exact List.Pairwise.nil
  | cons a codes ih => exact pairwise_insertCode ih

/-- No code points from one on are left if no character has one of them. -/
theorem codesFrom_eq_nil {n : Nat} {label : List Char} (h : ∀ c ∈ label, c.toNat < n) :
    codesFrom n label = [] := by
  refine List.eq_nil_iff_forall_not_mem.2 fun m hm => ?_
  obtain ⟨hle, c, hc, rfl⟩ := mem_codesFrom.1 hm
  exact Nat.not_lt.2 hle (h c hc)

/-- The first code point from `n` on is the first one that a character has. -/
theorem codesFrom_eq_cons {n m : Nat} {label : List Char} (hle : n ≤ m)
    (hmem : ∃ c ∈ label, c.toNat = m) (hgap : ∀ c ∈ label, c.toNat < n ∨ m ≤ c.toNat) :
    codesFrom n label = m :: codesFrom (m + 1) label := by
  refine (pairwise_codesFrom n label).eq_of_mem_iff ?_ fun k => ?_
  · refine List.pairwise_cons.2 ⟨fun k hk => (mem_codesFrom.1 hk).1, pairwise_codesFrom _ _⟩
  · rw [List.mem_cons, mem_codesFrom, mem_codesFrom]
    constructor
    · rintro ⟨hk, c, hc, rfl⟩
      have hc' := hgap c hc
      by_cases heq : c.toNat = m
      · exact .inl heq
      · exact .inr ⟨by omega, c, hc, rfl⟩
    · rintro (rfl | ⟨hk, hex⟩)
      · exact ⟨hle, hmem⟩
      · exact ⟨by omega, hex⟩

/-! ## What an encoder passes -/

theorem pass_of_lt {code : Nat} {c : Char} (e : Encoder) (h : c.toNat < code) :
    e.pass code c = { e with delta := e.delta + 1 } :=
  if_pos h

theorem pass_of_eq {code : Nat} {c : Char} (e : Encoder) (h : c.toNat = code) :
    e.pass code c =
      { size := e.size + 1
        delta := 0
        bias := adapt e.delta (e.size + 1) e.first
        first := false
        written := (stepDigits e.bias 0 e.delta).reverse ++ e.written } := by
  rw [Encoder.pass, if_neg (by omega), if_pos h]

theorem pass_of_gt {code : Nat} {c : Char} (e : Encoder) (h : code < c.toNat) :
    e.pass code c = e := by
  rw [Encoder.pass, if_neg (by omega), if_neg (by omega)]

/-- The characters of a label with code points below one. -/
def below (n : Nat) (label : List Char) : List Char :=
  label.filter fun c => c.toNat < n

/-- Where the code point that an encoder looks for does not occur, it counts the lower ones. -/
theorem foldl_pass_of_forall_ne {code : Nat} {cs : List Char} (e : Encoder)
    (h : ∀ c ∈ cs, c.toNat ≠ code) :
    cs.foldl (Encoder.pass code) e = { e with delta := e.delta + (below code cs).length } := by
  induction cs generalizing e with
  | nil => rfl
  | cons c cs ih =>
      have hrest := fun e => ih e fun d hd => h d (List.mem_cons_of_mem c hd)
      rw [List.foldl_cons]
      rcases Nat.lt_or_gt_of_ne (h c List.mem_cons_self) with hlt | hgt
      · have hcount : below code (c :: cs) = c :: below code cs :=
          List.filter_cons_of_pos (decide_eq_true hlt)
        rw [pass_of_lt e hlt, hrest, hcount, List.length_cons]
        simp only [Encoder.mk.injEq, and_true, true_and]
        omega
      · have hcount : below code (c :: cs) = below code cs :=
          List.filter_cons_of_neg (by simpa using Nat.le_of_lt hgt)
        rw [pass_of_gt e hgt, hrest, hcount]

/-- Behind the characters put in, an encoder begins to count anew. -/
theorem foldl_pass_put {code : Nat} {c : Char} {before between behind : List Char} (e : Encoder)
    (hbefore : ∀ d ∈ before, d.toNat ≠ code) (hc : c.toNat = code)
    (hbetween : below (code + 1) between = []) :
    (before ++ c :: (between ++ behind)).foldl (Encoder.pass code) e =
      let step := e.delta + (below code before).length
      behind.foldl (Encoder.pass code)
        { size := e.size + 1
          delta := 0
          bias := adapt step (e.size + 1) e.first
          first := false
          written := (stepDigits e.bias 0 step).reverse ++ e.written } := by
  have habove : ∀ d ∈ between, code < d.toNat := by
    intro d hd
    have hnot := List.filter_eq_nil_iff.1 hbetween d hd
    simp only [decide_eq_true_eq] at hnot
    omega
  have hnone : below code between = [] := by
    refine List.filter_eq_nil_iff.2 fun d hd => ?_
    have hd' := habove d hd
    simp only [decide_eq_true_eq]
    omega
  rw [List.foldl_append, foldl_pass_of_forall_ne e hbefore, List.foldl_cons, pass_of_eq _ hc,
    List.foldl_append, foldl_pass_of_forall_ne _ fun d hd => Nat.ne_of_gt (habove d hd), hnone]
  rfl

/-- An encoder that looks for a code point in what is left of a label, and then for the higher
ones. -/
def Encoder.finish (label behind : List Char) (code : Nat) (e : Encoder) : Encoder :=
  let e := behind.foldl (Encoder.pass code) e
  Encoder.passes label (code + 1) { e with delta := e.delta + 1 } (codesFrom (code + 1) label)

/-! ## An encoder follows a decoder -/

theorem toNat_ofNat {n : Nat} (h : n.isValidChar) : (Char.ofNat n).toNat = n := by
  rw [Char.ofNat, dif_pos h]
  rfl

theorem take_insertIdx {label : List Char} {i : Nat} (c : Char) (h : i ≤ label.length) :
    (label.insertIdx i c).take (i + 1) = label.take i ++ [c] := by
  induction label generalizing i with
  | nil =>
      rw [List.length_nil, Nat.le_zero] at h
      rw [h]
      rfl
  | cons d label ih =>
      cases i with
      | zero => rfl
      | succ i =>
          rw [List.insertIdx_succ_cons, List.take_succ_cons, ih (Nat.le_of_succ_le_succ h)]
          rfl

theorem drop_insertIdx {label : List Char} {i : Nat} (c : Char) (h : i ≤ label.length) :
    (label.insertIdx i c).drop (i + 1) = label.drop i := by
  induction label generalizing i with
  | nil =>
      rw [List.length_nil, Nat.le_zero] at h
      rw [h]
      rfl
  | cons d label ih =>
      cases i with
      | zero => rfl
      | succ i =>
          rw [List.insertIdx_succ_cons, List.drop_succ_cons, ih (Nat.le_of_succ_le_succ h)]
          rfl

/-- Of a label, what a decoder has that stands before `position` and looks at `code`. -/
structure Reading (code position : Nat) (label : List Char) : Prop where
  le : ∀ c ∈ label, c.toNat ≤ code
  lt : ∀ c ∈ label.drop position, c.toNat < code
  position_le : position ≤ label.length

/-- How a whole label is cut in two where a decoder stands that has read a part of it. -/
structure Cut (code position : Nat) (label front behind : List Char) : Prop where
  front : below (code + 1) front = label.take position
  behind : below code behind = label.drop position

theorem below_below {m n : Nat} (h : m ≤ n) (label : List Char) :
    below m (below n label) = below m label := by
  rw [below, below, List.filter_filter]
  refine List.filter_congr fun c _ => ?_
  rw [Bool.and_eq_left_iff_imp]
  simp only [decide_eq_true_eq]
  omega

theorem below_eq_self {n : Nat} {label : List Char} (h : ∀ c ∈ label, c.toNat < n) :
    below n label = label :=
  List.filter_eq_self.2 fun c hc => decide_eq_true (h c hc)

theorem below_append (n : Nat) (first second : List Char) :
    below n (first ++ second) = below n first ++ below n second :=
  List.filter_append _ _

theorem mem_below {n : Nat} {c : Char} {label : List Char} :
    c ∈ below n label ↔ c ∈ label ∧ c.toNat < n := by
  rw [below, List.mem_filter, decide_eq_true_iff]

section Step

variable {code code' position i : Nat} {label front behind : List Char} {c : Char}

/-- A character put in leaves a part of the label that a decoder can have: it has a higher code
point, or the same one and a later place. -/
theorem Reading.put (h : Reading code position label) (hi : i ≤ label.length)
    (hc : c.toNat = code') (hcode : code < code' ∨ code = code' ∧ position ≤ i) :
    Reading code' (i + 1) (label.insertIdx i c) where
  le := by
    intro d hd
    rcases (List.mem_insertIdx hi).1 hd with rfl | hd
    · exact Nat.le_of_eq hc
    · have hle := h.le d hd
      omega
  lt := by
    intro d hd
    rw [drop_insertIdx c hi] at hd
    rcases hcode with hlt | ⟨rfl, hle⟩
    · exact Nat.lt_of_le_of_lt (h.le d (List.mem_of_mem_drop hd)) hlt
    · exact h.lt d (List.drop_subset_drop_left label hle hd)
  position_le := by
    rw [List.length_insertIdx_of_le_length hi]
    omega

/-- Where a character was put in, the whole label is cut in two at that character. -/
theorem Cut.exists_eq (h : Cut code' (i + 1) (label.insertIdx i c) front behind)
    (hi : i ≤ label.length) :
    ∃ before between, front = before ++ c :: between ∧ below (code' + 1) before = label.take i ∧
      below (code' + 1) between = [] ∧ below code' behind = label.drop i := by
  have hfront := h.front
  have hbehind := h.behind
  rw [take_insertIdx c hi] at hfront
  rw [drop_insertIdx c hi] at hbehind
  obtain ⟨before, later, rfl, hbefore, hlater⟩ := List.filter_eq_append_iff.1 hfront
  obtain ⟨skipped, between, rfl, hskipped, _, hbetween⟩ := List.filter_eq_cons_iff.1 hlater
  refine ⟨before ++ skipped, between, by rw [List.append_assoc], ?_, hbetween, hbehind⟩
  have hnone : below (code' + 1) skipped = [] := List.filter_eq_nil_iff.2 hskipped
  rw [below_append, hnone, List.append_nil]
  exact hbefore

/-- The encoder that has written a step of a label with so many characters. -/
def Encoder.wrote (size step bias : Nat) (first : Bool) (written : List Char) : Encoder :=
  { size := size + 1
    delta := 0
    bias := adapt step (size + 1) first
    first := false
    written := (stepDigits bias 0 step).reverse ++ written }

/-- Characters behind the decoder have lower code points than the one that it looks at. -/
theorem Reading.below_eq (h : Reading code position label) (part : List Char)
    (hpart : ∀ d ∈ below (code + 1) part, d ∈ label.drop position) :
    below code part = below (code + 1) part ∧ ∀ d ∈ part, d.toNat ≠ code := by
  refine ⟨?_, ?_⟩
  · rw [← below_below (Nat.le_succ code)]
    exact below_eq_self fun d hd => h.lt d (hpart d hd)
  · intro d hd heq
    exact Nat.ne_of_lt (h.lt d (hpart d (mem_below.2 ⟨hd, by omega⟩))) heq

/-- What an encoder does where the next character put in has the same code point. -/
theorem Reading.exists_cut_same (h : Reading code position label) (hi : i ≤ label.length)
    (hc : c.toNat = code) (hle : position ≤ i)
    (hcut : Cut code (i + 1) (label.insertIdx i c) front behind) :
    ∃ front' behind', front ++ behind = front' ++ behind' ∧ Cut code position label front' behind' ∧
      ∀ bias first written,
        Encoder.finish (front ++ behind) behind' code
            { size := label.length, bias := bias, first := first, written := written } =
          Encoder.finish (front ++ behind) behind code
            (.wrote label.length (i - position) bias first written) := by
  obtain ⟨before, between, rfl, hbefore, hbetween, hbehind⟩ := hcut.exists_eq hi
  have htake : label.take i = label.take position ++ (label.drop position).take (i - position) := by
    rw [← List.take_add, Nat.add_sub_cancel' hle]
  rw [htake] at hbefore
  obtain ⟨front', passed, rfl, hfront', hpassed⟩ := List.filter_eq_append_iff.1 hbefore
  replace hpassed : below (code + 1) passed = (label.drop position).take (i - position) := hpassed
  have hmem : ∀ d ∈ below (code + 1) passed, d ∈ label.drop position := by
    rw [hpassed]
    exact fun d => List.mem_of_mem_take
  obtain ⟨hlow, hne⟩ := h.below_eq passed hmem
  have hlength : (below code passed).length = i - position := by
    rw [hlow, hpassed, List.length_take, List.length_drop]
    omega
  refine ⟨front', passed ++ c :: (between ++ behind), by simp, ⟨hfront', ?_⟩, ?_⟩
  · have hnone : below code between = [] := by
      rw [← below_below (Nat.le_succ code), hbetween]
      rfl
    have hskip : below code (c :: (between ++ behind)) = below code (between ++ behind) :=
      List.filter_cons_of_neg (by simp [hc])
    have hdrop : label.drop i = (label.drop position).drop (i - position) := by
      rw [List.drop_drop, Nat.add_sub_cancel' hle]
    rw [below_append, hskip, below_append, hlow, hpassed, hnone, hbehind, List.nil_append, hdrop,
      List.take_append_drop]
  · intro bias first written
    rw [Encoder.finish, foldl_pass_put _ hne hc hbetween, hlength, Nat.zero_add]
    rfl

/-- What an encoder does where the next character put in has a higher code point. -/
theorem Reading.exists_cut_next (h : Reading code position label) (hi : i ≤ label.length)
    (hc : c.toNat = code') (hlt : code < code')
    (hcut : Cut code' (i + 1) (label.insertIdx i c) front behind) :
    ∃ front' behind', front ++ behind = front' ++ behind' ∧ Cut code position label front' behind' ∧
      ∀ bias first written,
        Encoder.finish (front ++ behind) behind' code
            { size := label.length, bias := bias, first := first, written := written } =
          Encoder.finish (front ++ behind) behind code'
            (.wrote label.length ((code' - code) * (label.length + 1) + i - position) bias first
              written) := by
  obtain ⟨before, between, rfl, hbefore, hbetween, hbehind⟩ := hcut.exists_eq hi
  have hlow : ∀ d ∈ label, d.toNat < code' := fun d hd => Nat.lt_of_le_of_lt (h.le d hd) hlt
  have hbefore' : below code' before = label.take i := by
    rw [← below_below (Nat.le_succ code'), hbefore]
    exact below_eq_self fun d hd => hlow d (List.mem_of_mem_take hd)
  have hbetween' : below code' between = [] := by
    rw [← below_below (Nat.le_succ code'), hbetween]
    rfl
  -- What the label already has is what the whole label has of lower code points.
  have hall : below code' ((before ++ c :: between) ++ behind) = label := by
    have hskip : below code' (c :: between) = below code' between :=
      List.filter_cons_of_neg (by simp [hc])
    rw [below_append, below_append, hskip, hbefore', hbetween', hbehind, List.append_nil,
      List.take_append_drop]
  have hcodes : codesFrom (code + 1) ((before ++ c :: between) ++ behind) =
      code' :: codesFrom (code' + 1) ((before ++ c :: between) ++ behind) := by
    refine codesFrom_eq_cons hlt ⟨c, by simp, hc⟩ fun d hd => ?_
    by_cases hd' : d.toNat < code'
    · have hmem := mem_below.2 ⟨hd, hd'⟩
      rw [hall] at hmem
      exact .inl (Nat.lt_succ_of_le (h.le d hmem))
    · exact .inr (Nat.not_lt.1 hd')
  have hsplit : below (code + 1) ((before ++ c :: between) ++ behind) =
      label.take position ++ label.drop position := by
    rw [← below_below hlt, hall, List.take_append_drop]
    exact below_eq_self fun d hd => Nat.lt_succ_of_le (h.le d hd)
  obtain ⟨front', behind', heq, hfront', hbehind'⟩ := List.filter_eq_append_iff.1 hsplit
  replace hbehind' : below (code + 1) behind' = label.drop position := hbehind'
  obtain ⟨hlow', hne⟩ := h.below_eq behind' fun d hd => hbehind' ▸ hd
  rw [hbehind'] at hlow'
  refine ⟨front', behind', heq, ⟨hfront', hlow'⟩, ?_⟩
  intro bias first written
  have hne' : ∀ d ∈ before, d.toNat ≠ code' := by
    intro d hd heq'
    have hmem : d ∈ below (code' + 1) before := mem_below.2 ⟨hd, by omega⟩
    rw [hbefore] at hmem
    exact Nat.ne_of_lt (hlow d (List.mem_of_mem_take hmem)) heq'
  have hstep : 0 + (label.drop position).length + 1 + (code' - (code + 1)) * (label.length + 1) +
      (label.take i).length = (code' - code) * (label.length + 1) + i - position := by
    have hpos := h.position_le
    obtain ⟨m, rfl⟩ := Nat.exists_eq_add_of_lt hlt
    have hm : code + m + 1 - (code + 1) = m := by omega
    have hm' : code + m + 1 - code = m + 1 := by omega
    rw [List.length_drop, List.length_take, Nat.min_eq_left hi, hm, hm', Nat.succ_mul]
    omega
  have hfold : ((before ++ c :: between) ++ behind).foldl (Encoder.pass code')
      { size := label.length
        delta := 0 + (label.drop position).length + 1 + (code' - (code + 1)) * (label.length + 1)
        bias := bias, first := first, written := written } =
      behind.foldl (Encoder.pass code') (.wrote label.length
        ((code' - code) * (label.length + 1) + i - position) bias first written) := by
    rw [List.append_assoc, List.cons_append, foldl_pass_put _ hne' hc hbetween, hbefore', hstep]
    rfl
  rw [Encoder.finish, foldl_pass_of_forall_ne _ hne, hlow', hcodes, Encoder.passes, hfold]
  rfl

end Step

/-! ## Decoding undone -/

/-- An encoder that has got as far as a decoder writes what is left for the decoder to read. -/
theorem exists_written_of_decodeSteps {bias code position : Nat} {label cs whole : List Char}
    (h : decodeSteps bias code position label cs = some whole)
    (hread : Reading code position label) :
    ∃ front behind, whole = front ++ behind ∧ Cut code position label front behind ∧
      ∀ written,
        (Encoder.finish whole behind code
          { size := label.length, bias := bias, first := position == 0,
            written := written }).written = cs.reverse ++ written := by
  fun_induction decodeSteps bias code position label cs with
  | case1 bias code position label cs hnil =>
      obtain rfl := Option.some.inj h
      obtain rfl := List.isEmpty_iff.1 hnil
      refine ⟨label.take position, label.drop position, (List.take_append_drop _ _).symm,
        ⟨below_eq_self fun d hd => Nat.lt_succ_of_le (hread.le d (List.mem_of_mem_take hd)),
          below_eq_self hread.lt⟩, fun written => ?_⟩
      rw [Encoder.finish, foldl_pass_of_forall_ne _ fun d hd => Nat.ne_of_lt (hread.lt d hd),
        codesFrom_eq_nil fun d hd => Nat.lt_succ_of_le (hread.le d hd)]
      rfl
  | case2 => exact nomatch h
  | case3 bias code position label cs _ total rest hstep size code' hvalid ih =>
      obtain ⟨q, htotal, rfl⟩ := eq_stepDigits_of_readStep hstep
      rw [Nat.mul_one] at htotal
      have hi : total % size ≤ label.length :=
        Nat.le_of_lt_succ (Nat.mod_lt _ (Nat.succ_pos _))
      have hdiv : size * (total / size) + total % size = total := Nat.div_add_mod _ _
      have hsize : size = label.length + 1 := rfl
      have hcode : code' = code + total / size := rfl
      clear_value size code'
      rw [Bool.and_eq_true, decide_eq_true_eq] at hvalid
      have hchar : (Char.ofNat code').toNat = code' := toNat_ofNat hvalid.1
      have hcases : code = code' ∧ total % size = total ∨ code < code' := by
        rcases Nat.eq_zero_or_pos (total / size) with hzero | hpos
        · rw [hzero, Nat.mul_zero] at hdiv
          exact .inl ⟨by omega, by omega⟩
        · exact .inr (by omega)
      have hread' : Reading code' (total % size + 1)
          (label.insertIdx (total % size) (Char.ofNat code')) :=
        hread.put hi hchar (hcases.symm.imp_right fun hsame => ⟨hsame.1, by omega⟩)
      obtain ⟨front, behind, rfl, hcut, hwritten⟩ := ih h hread'
      have hwrote : ∀ written,
          (Encoder.finish (front ++ behind) behind code'
            (.wrote label.length q bias (position == 0) written)).written =
              (stepDigits bias 0 q ++ rest).reverse ++ written := by
        intro written
        have hlength : (label.insertIdx (total % size) (Char.ofNat code')).length =
            label.length + 1 := List.length_insertIdx_of_le_length hi _
        have hq : total - position = q := by omega
        have hrest := hwritten ((stepDigits bias 0 q).reverse ++ written)
        rw [hlength, hsize, hq] at hrest
        rw [List.reverse_append, List.append_assoc]
        exact hrest
      rcases hcases with ⟨rfl, hsame⟩ | hlt
      · obtain ⟨front', behind', heq, hcut', hfinish⟩ :=
          hread.exists_cut_same hi hchar (by omega) hcut
        refine ⟨front', behind', heq, hcut', fun written => ?_⟩
        have hq : total % size - position = q := by omega
        rw [hfinish, hq, ← hwrote]
      · obtain ⟨front', behind', heq, hcut', hfinish⟩ := hread.exists_cut_next hi hchar hlt hcut
        refine ⟨front', behind', heq, hcut', fun written => ?_⟩
        have hq : (code' - code) * (label.length + 1) + total % size - position = q := by
          have hdiff : code' - code = total / size := by omega
          rw [hdiff, Nat.mul_comm, ← hsize]
          omega
        rw [hfinish, hq, ← hwrote]
  | case4 => exact nomatch h

/-- At the start, nothing of the label being written, an encoder does what one does that has the
part of the label behind it that a decoder begins with. -/
theorem passes_eq_finish {whole front behind : List Char} (hwhole : whole = front ++ behind)
    (hfront : below 129 front = []) (e : Encoder) (hdelta : e.delta = 0)
    (hsize : e.size = (below 128 behind).length) :
    (Encoder.passes whole 128 e (codesFrom 128 whole)).written =
      (Encoder.finish whole behind 128 e).written := by
  by_cases hex : ∃ c ∈ whole, c.toNat = 128
  · have hcodes : codesFrom 128 whole = 128 :: codesFrom 129 whole :=
      codesFrom_eq_cons (Nat.le_refl _) hex fun c _ => Nat.lt_or_ge _ _
    have hne : ∀ c ∈ front, c.toNat ≠ 128 := by
      intro c hc heq
      have hmem : c ∈ below 129 front := mem_below.2 ⟨hc, by omega⟩
      rw [hfront] at hmem
      exact absurd hmem List.not_mem_nil
    have hnone : below 128 front = [] := by
      rw [← below_below (Nat.le_succ 128), hfront]
      rfl
    have hfold : whole.foldl (Encoder.pass 128) e = behind.foldl (Encoder.pass 128) e := by
      rw [hwhole, List.foldl_append, foldl_pass_of_forall_ne e hne, hnone]
      rfl
    rw [Encoder.finish, hcodes, Encoder.passes, Nat.sub_self, Nat.zero_mul]
    exact congrArg (fun e' : Encoder =>
      (Encoder.passes whole 129 { e' with delta := e'.delta + 1 } (codesFrom 129 whole)).written)
      hfold
  · have hcodes : codesFrom 128 whole = codesFrom 129 whole := by
      refine (pairwise_codesFrom _ _).eq_of_mem_iff (pairwise_codesFrom _ _) fun m => ?_
      rw [mem_codesFrom, mem_codesFrom]
      refine and_congr_left fun hm => ⟨fun hle => ?_, Nat.le_of_succ_le⟩
      exact Nat.lt_of_le_of_ne hle fun heq => hex (heq ▸ hm)
    have hne : ∀ c ∈ behind, c.toNat ≠ 128 := by
      intro c hc heq
      exact hex ⟨c, hwhole ▸ List.mem_append_right front hc, heq⟩
    rw [Encoder.finish, foldl_pass_of_forall_ne e hne, hcodes, hdelta, ← hsize]
    cases hcase : codesFrom 129 whole with
    | nil => rfl
    | cons m codes =>
        have hm : 129 ≤ m := (mem_codesFrom.1 (hcase ▸ List.mem_cons_self)).1
        have hstep : 0 + (m - 128) * (e.size + 1) =
            0 + e.size + 1 + (m - 129) * (e.size + 1) := by
          have hsplit : m - 128 = (m - 129) + 1 := by omega
          rw [hsplit, Nat.succ_mul]
          omega
        simp only [Encoder.passes, hdelta, hstep]

/-- The parts before and behind the last hyphen make up a text. -/
theorem append_of_splitAtHyphen {cs plain steps : List Char}
    (h : splitAtHyphen cs = (plain, steps)) :
    plain ++ (if plain.isEmpty then [] else ['-']) ++ steps = cs := by
  simp only [splitAtHyphen] at h
  split at h
  · obtain ⟨rfl, rfl⟩ := Prod.mk.inj h
    rfl
  · next hplain =>
    obtain ⟨rfl, rfl⟩ := Prod.mk.inj h
    rw [if_neg hplain]
    have hsplit := List.takeWhile_append_dropWhile (p := fun c => decide (c ≠ '-'))
      (l := cs.reverse)
    generalize cs.reverse.takeWhile (fun c => decide (c ≠ '-')) = tail at *
    have hhead := List.head?_dropWhile_not (fun c => decide (c ≠ '-')) cs.reverse
    cases hrest : cs.reverse.dropWhile (fun c => decide (c ≠ '-')) with
    | nil =>
        rw [hrest, List.append_nil] at hsplit
        refine absurd ?_ hplain
        have hcs : cs.length - tail.reverse.length - 1 = 0 := by
          rw [hsplit, List.reverse_reverse]
          omega
        rw [hcs]
        rfl
    | cons c rest =>
        rw [hrest] at hhead hsplit
        have hc : c = '-' := by simpa using hhead
        have hcs : cs = rest.reverse ++ '-' :: tail.reverse := by
          have hrev := congrArg List.reverse hsplit
          rw [List.reverse_reverse, hc] at hrev
          simpa using hrev.symm
        have hlength : cs.length - tail.reverse.length - 1 = rest.reverse.length := by
          rw [hcs, List.length_append, List.length_cons]
          omega
        rw [hlength, hcs, List.take_left, List.append_assoc]
        rfl

/-- Encoding undoes decoding. -/
theorem encode_of_decode? {cs label : List Char} (h : decode? cs = some label) :
    encode label = cs := by
  unfold decode? at h
  cases hcs : splitAtHyphen cs with
  | mk plain steps =>
      simp only [hcs] at h
      split at h
      · next hascii =>
        rw [List.all_eq_true] at hascii
        have hlow : ∀ c ∈ plain, c.toNat < 128 := fun c hc => of_decide_eq_true (hascii c hc)
        have hread : Reading 128 0 plain :=
          ⟨fun c hc => Nat.le_of_lt (hlow c hc), hlow, Nat.zero_le _⟩
        obtain ⟨front, behind, heq, hcut, hwritten⟩ := exists_written_of_decodeSteps h hread
        have hfront : below 129 front = [] := hcut.front
        have hbehind : below 128 behind = plain := hcut.behind
        have hnone : below 128 front = [] := by
          rw [← below_below (Nat.le_succ 128), hfront]
          rfl
        have hplain : asciiPart label = plain := by
          have hpart : asciiPart label = below 128 label := rfl
          rw [hpart, heq, below_append, hnone, hbehind, List.nil_append]
        have hsteps : (Encoder.passes label 128 { size := plain.length }
            (codesFrom 128 label)).written = steps.reverse := by
          rw [passes_eq_finish heq hfront _ rfl (by rw [hbehind])]
          exact (hwritten []).trans (List.append_nil _)
        have hencode : encode label = asciiPart label ++
            (if (asciiPart label).isEmpty then [] else ['-']) ++
              (Encoder.passes label 128 { size := (asciiPart label).length }
                (codesFrom 128 label)).written.reverse := rfl
        rw [hencode, hplain, hsteps, List.reverse_reverse]
        exact append_of_splitAtHyphen hcs
      · exact nomatch h

/-! ## Labels as ASCII characters -/

theorem toNat_digit_lt {n : Nat} (h : n < 36) : (digit n).toNat < 128 := by
  revert n
  decide

theorem ascii_stepDigits (bias k q : Nat) : ∀ c ∈ stepDigits bias k q, c.toNat < 128 := by
  have hle := threshold_le bias k
  by_cases h : q < threshold bias k
  · rw [stepDigits_of_lt h]
    intro c hc
    rw [List.mem_singleton.1 hc]
    exact toNat_digit_lt (by omega)
  · rw [stepDigits_of_le (Nat.not_lt.1 h)]
    intro c hc
    rcases List.mem_cons.1 hc with rfl | hc
    · have hmod := Nat.mod_lt (q - threshold bias k) (by omega : 0 < 36 - threshold bias k)
      exact toNat_digit_lt (by omega)
    · exact ascii_stepDigits bias (k + 1) _ c hc
termination_by q
decreasing_by
  have hpos := threshold_pos bias k
  exact Nat.lt_of_le_of_lt (Nat.div_le_self _ _) (by omega)

/-- Whether an encoder has written ASCII characters only. -/
def Encoder.IsAscii (e : Encoder) : Prop :=
  ∀ c ∈ e.written, c.toNat < 128

theorem Encoder.IsAscii.pass {e : Encoder} (h : e.IsAscii) (code : Nat) (c : Char) :
    (e.pass code c).IsAscii := by
  rcases Nat.lt_trichotomy c.toNat code with hlt | heq | hgt
  · rw [pass_of_lt e hlt]
    exact h
  · rw [pass_of_eq e heq]
    intro d hd
    rcases List.mem_append.1 hd with hd | hd
    · exact ascii_stepDigits _ _ _ d (List.mem_reverse.1 hd)
    · exact h d hd
  · rw [pass_of_gt e hgt]
    exact h

theorem Encoder.IsAscii.foldl_pass {e : Encoder} (h : e.IsAscii) (code : Nat) (cs : List Char) :
    (cs.foldl (Encoder.pass code) e).IsAscii := by
  induction cs generalizing e with
  | nil => exact h
  | cons c cs ih => exact ih (h.pass code c)

theorem Encoder.IsAscii.passes {e : Encoder} (h : e.IsAscii) (label : List Char) (next : Nat)
    (codes : List Nat) : (Encoder.passes label next e codes).IsAscii := by
  induction codes generalizing next e with
  | nil => exact h
  | cons code codes ih =>
      have hstep :
          ({ e with delta := e.delta + (code - next) * (e.size + 1) } : Encoder).IsAscii := h
      have hfold := hstep.foldl_pass code label
      rw [Encoder.passes]
      apply ih
      exact hfold

/-- Labels are encoded as ASCII characters. -/
theorem ascii_encode (label : List Char) : ∀ c ∈ encode label, c.toNat < 128 := by
  have hnew : ({ size := (asciiPart label).length } : Encoder).IsAscii :=
    fun _ hc => absurd hc List.not_mem_nil
  have hwritten := hnew.passes label 128 (codesFrom 128 label)
  intro c hc
  unfold encode at hc
  rcases List.mem_append.1 hc with hc | hc
  · rcases List.mem_append.1 hc with hc | hc
    · exact of_decide_eq_true (List.mem_filter.1 hc).2
    · split at hc
      · exact absurd hc List.not_mem_nil
      · rw [List.mem_singleton.1 hc]
        decide
  · exact hwritten c (List.mem_reverse.1 hc)

end Prospector.Url.Punycode
