import Prospector.CommandLine.Program
import Prospector.Proofs.Settings.Loading
import Prospector.Proofs.Text.Utf8

/-!
# The identity in the header of requests

The four texts of an identity make up a header, which holds no control character but the tab.
Validation treats each of the texts in its own way. A name consists of letters, numerals and
hyphens, and no control character is one of these. The version is not looked at. An address is only
read, and the reader passes over line breaks and escapes what must not stand in a path. An e-mail
address is only cut at its `@`. So the header of valid settings depends on the last three, and it is
when the requests are made and not before that a control character in one of them comes up.

## Main definitions

* `Identity.Sendable` : whether the texts of an identity other than its name can stand in a header.

## Main results

* `isHeader_iff_utf8` : headers byte by byte.
* `Settings.crawlAll_of_valid` : when valid settings are crawled.
* `Settings.not_crawlAll_blunt` : valid settings that are not crawled.
-/

namespace Prospector

/-! ## Headers -/

theorem isHeader_append (s t : String) : isHeader (s ++ t) = (isHeader s && isHeader t) := by
  rw [isHeader, String.toList_append, List.all_append]
  rfl

/-- A text can stand in a header just if none of its bytes is a control character but the tab. -/
theorem isHeader_iff_utf8 (s : String) :
    isHeader s = true ↔ ∀ b ∈ Text.utf8 s, b = 9 ∨ 32 ≤ b ∧ b ≠ 127 := by
  have hchar : ∀ c : Char, (c == '\t' || (0x20 ≤ c.toNat && c.toNat != 0x7F)) = true ↔
      ∀ b ∈ String.utf8EncodeChar c, b = 9 ∨ 32 ≤ b ∧ b ≠ 127 := by
    intro c
    by_cases hc : c.toNat < 128
    · exact Text.forall_ascii (P := fun c =>
        (c == '\t' || (0x20 ≤ c.toNat && c.toNat != 0x7F)) = true ↔
          ∀ b ∈ String.utf8EncodeChar c, b = 9 ∨ 32 ≤ b ∧ b ≠ 127) (by decide +kernel) hc
    · have hle := Nat.not_lt.1 hc
      have hleft : (c == '\t' || (0x20 ≤ c.toNat && c.toNat != 0x7F)) = true := by
        simp only [Bool.or_eq_true, Bool.and_eq_true, decide_eq_true_eq, bne_iff_ne]
        omega
      refine iff_of_true hleft fun b hb => .inr ?_
      have hbyte := Text.le_of_mem_utf8EncodeChar hle hb
      refine ⟨UInt8.le_iff_toNat_le.2 (Nat.le_trans (by decide) hbyte), ?_⟩
      rintro rfl
      exact absurd hbyte (by decide)
  unfold isHeader Text.utf8 Text.utf8Of
  simp only [List.all_eq_true, List.mem_flatMap, hchar]
  constructor
  · rintro h b ⟨c, hc, hb⟩
    exact h c hc b hb
  · exact fun h c hc b hb => h b ⟨c, hc, hb⟩

/-- Letters, numerals and hyphens can stand in a header. -/
theorem isHeader_of_alphanumeric {s : String}
    (h : s.toList.all (fun c => Text.isAlphanumeric c || c == '-') = true) : isHeader s = true := by
  have hchar : ∀ c : Char, (Text.isAlphanumeric c || c == '-') = true →
      (c == '\t' || (0x20 ≤ c.toNat && c.toNat != 0x7F)) = true := by
    intro c
    by_cases hc : c.toNat < 128
    · exact Text.forall_ascii (P := fun c => (Text.isAlphanumeric c || c == '-') = true →
        (c == '\t' || (0x20 ≤ c.toNat && c.toNat != 0x7F)) = true) (by decide) hc
    · intro _
      simp only [Bool.or_eq_true, Bool.and_eq_true, decide_eq_true_eq, bne_iff_ne]
      omega
  unfold isHeader
  rw [List.all_eq_true] at h ⊢
  exact fun c hc => hchar c (h c hc)

/-! ## Identities -/

namespace Identity

/-- Whether the texts of an identity other than its name can stand in a header. -/
structure Sendable (i : Identity) : Prop where
  version : isHeader i.version = true
  url : isHeader i.url = true
  email : isHeader i.email = true

theorem isHeader_header_iff {i : Identity} (hname : isHeader i.name = true) :
    isHeader i.header = true ↔ i.Sendable := by
  simp only [header, isHeader_append, Bool.and_eq_true, hname]
  constructor
  · rintro ⟨⟨⟨⟨⟨⟨⟨-, -⟩, hversion⟩, -⟩, hurl⟩, -⟩, hemail⟩, -⟩
    exact ⟨hversion, hurl, hemail⟩
  · intro h
    exact ⟨⟨⟨⟨⟨⟨⟨trivial, by decide⟩, h.version⟩, by decide⟩, h.url⟩, by decide⟩, h.email⟩,
      by decide⟩

end Identity

/-! ## Commands -/

namespace Options

/-- The settings of a command are those in its file, some of them replaced. -/
theorem settings_eq_ok {o : Options} {t : FileTree} {r : Settings} (h : o.settings t = .ok r) :
    ∃ s warnings, Settings.load t o.config = .ok (s, warnings) ∧ r = s.override o.overrides ∧
      r.overrideViolation? = none := by
  unfold settings at h
  split at h
  · cases h
  · next s warnings hload =>
    simp only at h
    split at h
    · cases h
    · next hnone =>
      obtain rfl := Except.ok.inj h
      exact ⟨s, warnings, hload, rfl, hnone⟩

/-- What a command is about: the settings in its file, some of them replaced, and some of their
sources. -/
theorem plan_eq_ok {o : Options} {t : FileTree} {r : Settings} {sources : List Source}
    (h : o.plan t = .ok (r, sources)) :
    ∃ s warnings, Settings.load t o.config = .ok (s, warnings) ∧ r = s.override o.overrides ∧
      r.overrideViolation? = none ∧ o.selected r = .ok sources := by
  obtain ⟨settings, hsettings, hrest⟩ := bind_eq_ok.1 h
  obtain ⟨selected, hselected, hpair⟩ := bind_eq_ok.1 hrest
  obtain ⟨rfl, rfl⟩ := Prod.mk.inj (Except.ok.inj hpair)
  obtain ⟨s, warnings, hload, hr, hnone⟩ := settings_eq_ok hsettings
  exact ⟨s, warnings, hload, hr, hnone, hselected⟩

/-- A rehearsal that finds nothing wrong has settings and sources to crawl. -/
theorem exists_plan_of_rehearsal {o : Options} {t : FileTree} {w : Web}
    (h : ({ o with dryRun := true }.perform t w).exitCode = 0) :
    ∃ s sources, o.plan t = .ok (s, sources) := by
  cases hplan : o.plan t with
  | error f =>
      have hsame : { o with dryRun := true }.plan t = .error f := hplan
      rw [perform, hsame] at h
      exact absurd h Nat.one_ne_zero
  | ok plan => exact ⟨plan.1, plan.2, rfl⟩

end Options

/-! ## Valid settings -/

namespace Settings

/-- The end of a run that crawls the given sources. -/
def crawled (s : Settings) (w : Web) (t : FileTree) (sources : List Source) : Completion :=
  .ofHarvests s.resultsPath (s.harvest w (fun _ => Session.inTurn) Harvest.isComplete t sources).1
    (s.harvest w (fun _ => Session.inTurn) Harvest.isComplete t sources).2

theorem crawlAll_of_isHeader {s : Settings} (h : isHeader s.identity.header = true) (w : Web)
    (t : FileTree) (sources : List Source) : s.crawlAll w t sources = s.crawled w t sources := by
  rw [crawlAll, if_pos h]
  rfl

/-- Let nothing be wrong with settings. Their header is allowed, byte by byte in its UTF-8 form,
just if neither the version nor the address nor the e-mail address of the identity holds a control
character other than the tab. If so, their sources are crawled, also if some of the settings are
replaced, and a command with these settings that a rehearsal finds nothing wrong with does crawl. If
not, no crawl begins. -/
theorem crawlAll_of_valid {s : Settings} (h : s.validate.violation = none) :
    (isHeader s.identity.header = true ↔ s.identity.Sendable) ∧
      (isHeader s.identity.header = true ↔
        ∀ b ∈ Text.utf8 s.identity.header, b = 9 ∨ 32 ≤ b ∧ b ≠ 127) ∧
      (∀ (o : Overrides) (w : Web) (t : FileTree) (sources : List Source),
        (s.identity.Sendable →
          (s.override o).crawlAll w t sources = (s.override o).crawled w t sources) ∧
        (¬s.identity.Sendable → (s.override o).crawlAll w t sources = .failed t .header)) ∧
      ∀ (o : Options) (w : Web) (t : FileTree) (warnings : List Warning),
        load t o.config = .ok (s, warnings) →
        ({ o with dryRun := true }.perform t w).exitCode = 0 → s.identity.Sendable →
          ∃ sources, o.selected (s.override o.overrides) = .ok sources ∧
            { o with dryRun := false }.perform t w =
              (s.override o.overrides).crawled w t sources := by
  have hvalid := (violation_validate_eq_none_iff s).1 h
  have hheader := Identity.isHeader_header_iff (isHeader_of_alphanumeric hvalid.identity.name)
  have hcrawls : s.identity.Sendable → ∀ (o : Overrides) (w : Web) (t : FileTree)
      (sources : List Source),
      (s.override o).crawlAll w t sources = (s.override o).crawled w t sources :=
    fun hsendable o => crawlAll_of_isHeader (s := s.override o) (hheader.2 hsendable)
  refine ⟨hheader, isHeader_iff_utf8 _, fun o w t sources =>
    ⟨fun hsendable => hcrawls hsendable o w t sources, fun hnot => ?_⟩,
    fun o w t warnings hload hrehearsed hsendable => ?_⟩
  · rw [← hheader] at hnot
    exact if_neg hnot
  · obtain ⟨r, sources, hplan⟩ := Options.exists_plan_of_rehearsal hrehearsed
    obtain ⟨s', warnings', hload', rfl, -, hselected⟩ := Options.plan_eq_ok hplan
    obtain ⟨rfl, -⟩ := Prod.mk.inj (Except.ok.inj (hload.symm.trans hload'))
    have hsame : { o with dryRun := false }.plan t =
        .ok (s.override o.overrides, sources) := hplan
    refine ⟨sources, hselected, ?_⟩
    rw [Options.perform, hsame]
    exact hcrawls hsendable o.overrides w t sources

/-- Settings with one source and an identity of the given texts. -/
def blunt (version url email : String) : Settings :=
  { identity := { name := "scout", version, url, email }
    sources := [{ name := "tea", rootUrl := "http://[::1]/", rule := some (.oneOf []) }] }

/-- A tab does no harm: the sources are crawled. -/
theorem crawlAll_of_valid_blunt :
    (blunt "1\t0" "http://[::1]/" "a@b.c").validate.violation = none ∧
      isHeader (blunt "1\t0" "http://[::1]/" "a@b.c").identity.header = true ∧
      (blunt "1\t0" "http://[::1]/" "a@b.c").crawlAll .offline {} [] =
        (blunt "1\t0" "http://[::1]/" "a@b.c").crawled .offline {} [] := by
  have hsome : (blunt "1\t0" "http://[::1]/" "a@b.c").validate.violation.isNone = true := by
    decide +kernel
  have hvalid := Option.isNone_iff_eq_none.1 hsome
  have hsendable : (blunt "1\t0" "http://[::1]/" "a@b.c").identity.Sendable :=
    ⟨by decide, by decide, by decide⟩
  obtain ⟨hheader, -, hcrawls, -⟩ := crawlAll_of_valid hvalid
  exact ⟨hvalid, hheader.2 hsendable, (hcrawls {} .offline {} []).1 hsendable⟩

/-- A line break in the version, one behind the address and a control character in the e-mail
address pass, and no crawl begins. -/
theorem not_crawlAll_blunt :
    ([blunt "1\n" "http://[::1]/" "a@b.c", blunt "1" "http://[::1]/\n" "a@b.c",
        blunt "1" "http://[::1]/" "a\x01@b.c"].all fun s =>
      s.validate.violation.isNone && !isHeader s.identity.header) = true ∧
      (blunt "1\n" "http://[::1]/" "a@b.c").validate.violation = none ∧
      (blunt "1\n" "http://[::1]/" "a@b.c").crawlAll .offline {} [] = .failed {} .header := by
  have hall : ([blunt "1\n" "http://[::1]/" "a@b.c", blunt "1" "http://[::1]/\n" "a@b.c",
      blunt "1" "http://[::1]/" "a\x01@b.c"].all fun s =>
        s.validate.violation.isNone && !isHeader s.identity.header) = true := by
    decide +kernel
  obtain ⟨hfirst, -⟩ := Bool.and_eq_true_iff.1 hall
  obtain ⟨hvalid, hheader⟩ := Bool.and_eq_true_iff.1 hfirst
  rw [Bool.not_eq_true'] at hheader
  refine ⟨hall, Option.isNone_iff_eq_none.1 hvalid, ?_⟩
  rw [crawlAll, hheader]
  rfl

end Settings

end Prospector
