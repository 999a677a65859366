import Prospector.Proofs.Text.Digit
import Prospector.Proofs.Url.Punycode
import Prospector.Url.Domain

/-!
# The ASCII form of a name is its own

The ASCII form of a name consists of ASCII characters that are not forbidden, and a name of such
characters that has an ASCII form at all is that form: mapping leaves it alone, labels of ASCII
characters are kept, and labels in Punycode are encoded as they were decoded.

## Main results

* `Domain.isPlain_of_toAscii?` : what the ASCII form of a name is made of.
* `Domain.toAscii?_of_isPlain` : the ASCII form of such a name is the name itself.
* `Domain.toAscii?_eq_self` : a name without labels in Punycode has an ASCII form.
-/

namespace Prospector.Url.Domain

/-- Whether a name consists of ASCII characters that names have. -/
def IsPlain (name : List Char) : Prop :=
  ∀ c ∈ name, c.toNat < 128 ∧ isForbidden c = false

theorem isAscii_iff {cs : List Char} : isAscii cs = true ↔ ∀ c ∈ cs, c.toNat < 128 := by
  simp only [isAscii, List.all_eq_true, decide_eq_true_eq]

/-! ## Labels -/

/-- A label is written in ASCII characters. -/
theorem isAscii_of_writeLabel? {label written : List Char} (h : writeLabel? label = some written) :
    isAscii written = true := by
  unfold writeLabel? at h
  split at h
  · next hascii =>
    obtain rfl := Option.some.inj h
    exact hascii
  · split at h
    · exact nomatch h
    · obtain rfl := Option.some.inj h
      refine isAscii_iff.2 fun c hc => ?_
      rcases List.mem_append.1 hc with hc | hc
      · exact isAscii_iff.1 (show isAscii punycodeMark = true from rfl) c hc
      · exact Punycode.ascii_encode label c hc

/-- A label of ASCII characters that was read is written as it was. -/
theorem eq_of_readLabel?_of_writeLabel? {label chars written : List Char}
    (hascii : isAscii label = true) (hread : readLabel? label = some chars)
    (hwrite : writeLabel? chars = some written) : written = label := by
  simp only [readLabel?] at hread
  have hchars := (Option.filter_eq_some_iff.1 hread).1
  split at hchars
  · next hmark =>
    obtain ⟨hdecoded, hproper⟩ := Option.filter_eq_some_iff.1 hchars
    rw [Bool.and_eq_true, Bool.not_eq_true'] at hproper
    have hdecode : Punycode.decode? (label.drop punycodeMark.length) = some chars := by
      unfold decoded? at hdecoded
      split at hdecoded
      · exact nomatch hdecoded
      · exact hdecoded
    rw [writeLabel?, hproper.1] at hwrite
    simp only [Bool.false_eq_true, if_false] at hwrite
    split at hwrite
    · exact nomatch hwrite
    · obtain rfl := Option.some.inj hwrite
      rw [Punycode.encode_of_decode? hdecode]
      exact List.prefix_iff_eq_append.1 (List.isPrefixOf_iff_prefix.1 hmark)
  · obtain rfl := Option.some.inj hchars
    rw [writeLabel?, if_pos hascii] at hwrite
    exact (Option.some.inj hwrite).symm

/-! ## Names -/

/-- The steps by which a name gets its ASCII form. -/
theorem toAscii?_eq_some {name ascii : List Char} (h : toAscii? name = some ascii) :
    ∃ whole labels written, mapped? name = some whole ∧
      (Text.splitAtChar '.' whole).mapM readLabel? = some labels ∧
      labels.mapM writeLabel? = some written ∧ ascii = ['.'].intercalate written ∧
      ascii.any isForbidden = false := by
  simp only [toAscii?, Option.bind_eq_bind, Option.bind_eq_some_iff] at h
  obtain ⟨whole, hwhole, labels, hlabels, h⟩ := h
  split at h
  · exact nomatch h
  · obtain ⟨written, hwritten, h⟩ := Option.bind_eq_some_iff.1 h
    split at h
    · exact nomatch h
    · next hforbidden =>
      obtain rfl := Option.some.inj h
      exact ⟨whole, labels, written, hwhole, hlabels, hwritten, rfl,
        Bool.eq_false_iff.2 hforbidden⟩

/-- The ASCII form of a name consists of ASCII characters that are not forbidden. -/
theorem isPlain_of_toAscii? {name ascii : List Char} (h : toAscii? name = some ascii) :
    IsPlain ascii := by
  obtain ⟨whole, labels, written, -, -, hwritten, rfl, hforbidden⟩ := toAscii?_eq_some h
  intro c hc
  refine ⟨?_, by simpa using List.any_eq_false.1 hforbidden c hc⟩
  rcases Text.mem_intercalate hc with rfl | ⟨part, hpart, hc⟩
  · decide
  · obtain ⟨label, -, hlabel⟩ := Text.exists_of_mem_mapM hwritten part hpart
    exact isAscii_iff.1 (isAscii_of_writeLabel? hlabel) c hc

theorem lowerAscii_of_isForbidden_eq_false {c : Char} (h : isForbidden c = false) :
    Text.lowerAscii c = c := by
  simp only [isForbidden, Bool.or_eq_false_iff] at h
  rw [Text.lowerAscii, h.1.2]
  rfl

/-- Mapping leaves a plain name as it is. -/
theorem mapped?_of_isPlain {name : List Char} (h : IsPlain name) : mapped? name = some name := by
  have hmap : name.map Text.lowerAscii = name := by
    refine (List.map_congr_left fun c hc => ?_).trans (List.map_id name)
    exact lowerAscii_of_isForbidden_eq_false (h c hc).2
  rw [mapped?, if_pos (isAscii_iff.2 fun c hc => (h c hc).1), hmap]

/-- The ASCII form of a plain name is the name itself. -/
theorem toAscii?_of_isPlain {name ascii : List Char} (hplain : IsPlain name)
    (h : toAscii? name = some ascii) : ascii = name := by
  obtain ⟨whole, labels, written, hwhole, hlabels, hwritten, rfl, -⟩ := toAscii?_eq_some h
  rw [mapped?_of_isPlain hplain] at hwhole
  obtain rfl := Option.some.inj hwhole
  have hsame : written = Text.splitAtChar '.' name := by
    refine Text.eq_of_mapM_of_mapM hlabels hwritten
      fun label hlabel chars written hread hwrite => ?_
    refine eq_of_readLabel?_of_writeLabel? (isAscii_iff.2 fun c hc => ?_) hread hwrite
    exact (hplain c (Text.mem_of_mem_splitAtChar hlabel hc).1).1
  rw [hsame, Text.splitAtChar_eq_splitOn, List.intercalate_splitOn]

/-! ## Names without Punycode -/

theorem startsUpTo_eq_low {runs : Array Text.CodeRun} {n : Nat}
    (h : ∀ (k : Nat) (r : Text.CodeRun), runs[k]? = some r → n < r.first) (low high : Nat) :
    Text.CodeTable.startsUpTo runs n low high = low := by
  fun_induction Text.CodeTable.startsUpTo runs n low high with
  | case1 low high hlt middle r hr hfirst ih => exact absurd hfirst (Nat.not_le.2 (h middle r hr))
  | case2 low high hlt middle r hr hfirst ih => exact ih
  | case3 low high hlt middle hr => rfl
  | case4 low high hlt => rfl

/-- A table without runs of ASCII characters has none of them. The characters of its text are gone
through one by one. -/
theorem contains_ofText_eq_false {s : String} {chars : List Char} (hs : s = String.ofList chars)
    (h : ((Text.wordsFrom [] chars).map Text.entryOf).all
      (fun r : Text.CodeRun => 128 ≤ r.first) = true) {c : Char} (hc : c.toNat < 128) :
    (Text.CodeTable.ofText s).contains c.toNat = false := by
  have hfirst : ∀ (k : Nat) (r : Text.CodeRun),
      (Text.CodeTable.ofText s).runs[k]? = some r → c.toNat < r.first := by
    intro k r hr
    rw [Text.CodeTable.ofText, List.getElem?_toArray, hs, String.toList_ofList] at hr
    have hbound := List.all_eq_true.1 h r (List.mem_of_getElem? hr)
    exact Nat.lt_of_lt_of_le hc (of_decide_eq_true hbound)
  rw [Text.CodeTable.contains, Text.CodeTable.run?, startsUpTo_eq_low hfirst]
  rfl

set_option maxRecDepth 100000 in
theorem contains_markTable {c : Char} (h : c.toNat < 128) :
    markTable.contains c.toNat = false :=
  contains_ofText_eq_false (s := markRanges) rfl (by decide +kernel) h

set_option maxRecDepth 100000 in
theorem contains_rightToLeftTable {c : Char} (h : c.toNat < 128) :
    rightToLeftTable.contains c.toNat = false :=
  contains_ofText_eq_false (s := rightToLeftRanges) rfl (by decide +kernel) h

theorem contains_arabicNumberTable {c : Char} (h : c.toNat < 128) :
    arabicNumberTable.contains c.toNat = false :=
  contains_ofText_eq_false (s := arabicNumberRanges) rfl (by decide +kernel) h

/-- Labels of ASCII characters have no joiners. -/
theorem joinersFit_of_isAscii {before label : List Char} (h : isAscii label = true) :
    joinersFit before label = true := by
  induction label generalizing before with
  | nil => rfl
  | cons c label ih =>
      obtain ⟨hc, hlabel⟩ := List.forall_mem_cons.1 (isAscii_iff.1 h)
      have hseparator : c ≠ '\u200C' := by
        rintro rfl
        exact absurd hc (by decide)
      have hjoiner : c ≠ '\u200D' := by
        rintro rfl
        exact absurd hc (by decide)
      simp only [joinersFit, hseparator, hjoiner, if_false, Bool.true_and]
      exact ih (isAscii_iff.2 hlabel)

theorem isWellFormed_of_isAscii {label : List Char} (h : isAscii label = true) :
    isWellFormed label = true := by
  unfold isWellFormed
  rw [joinersFit_of_isAscii h, Bool.and_true]
  cases label with
  | nil => rfl
  | cons c label =>
      have hc := isAscii_iff.1 h c List.mem_cons_self
      simp only [contains_markTable hc, Bool.not_false]

/-- A label of ASCII characters that is not in Punycode stands for itself. -/
theorem readLabel?_of_isAscii {label : List Char} (h : isAscii label = true)
    (hplain : punycodeMark.isPrefixOf label = false) : readLabel? label = some label := by
  simp [readLabel?, hplain, isWellFormed_of_isAscii h]

theorem isRightward_of_ascii {c : Char} (h : c.toNat < 128) : isRightward c = false := by
  rw [isRightward, contains_rightToLeftTable h, contains_arabicNumberTable h]
  rfl

/-- A plain name without labels in Punycode is its own ASCII form. -/
theorem toAscii?_eq_self {name : List Char} (h : IsPlain name)
    (hlabels : ∀ label ∈ Text.splitAtChar '.' name, punycodeMark.isPrefixOf label = false) :
    toAscii? name = some name := by
  have hascii : ∀ label ∈ Text.splitAtChar '.' name, isAscii label = true := by
    intro label hlabel
    rw [isAscii_iff]
    intro c hc
    exact (h c (Text.mem_of_mem_splitAtChar hlabel hc).1).1
  have hread : (Text.splitAtChar '.' name).mapM readLabel? =
      some (Text.splitAtChar '.' name) := by
    rw [Text.mapM_eq_some_iff, List.forall₂_same]
    intro label hlabel
    exact readLabel?_of_isAscii (hascii label hlabel) (hlabels label hlabel)
  have hwrite : (Text.splitAtChar '.' name).mapM writeLabel? =
      some (Text.splitAtChar '.' name) := by
    rw [Text.mapM_eq_some_iff, List.forall₂_same]
    intro label hlabel
    rw [writeLabel?, if_pos (hascii label hlabel)]
  have hforward : ((Text.splitAtChar '.' name).any fun label => label.any isRightward) = false := by
    rw [List.any_eq_false]
    intro label hlabel
    rw [Bool.not_eq_true, List.any_eq_false]
    intro c hc
    rw [isRightward_of_ascii (isAscii_iff.1 (hascii label hlabel) c hc)]
    exact Bool.false_ne_true
  have hallowed : name.any isForbidden = false := by
    rw [List.any_eq_false]
    intro c hc
    rw [(h c hc).2]
    exact Bool.false_ne_true
  have hjoined : ['.'].intercalate (Text.splitAtChar '.' name) = name := by
    rw [Text.splitAtChar_eq_splitOn, List.intercalate_splitOn]
  simp only [toAscii?, mapped?_of_isPlain h, hread, hwrite, hforward, Option.bind_eq_bind,
    Option.bind_some, Bool.false_and, Bool.false_eq_true, if_false, hjoined, hallowed]

end Prospector.Url.Domain
