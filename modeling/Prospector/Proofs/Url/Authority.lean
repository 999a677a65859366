import Mathlib.Data.List.TakeDrop
import Prospector.Proofs.Url.Canonical

/-!
# Canonical authorities are read back

A canonical authority is the one that is read from what it is written as, if it is read at all: a
label in Punycode may stand for more characters than a label may have. Each of its parts is cut off
where the next begins, because none of its characters ends it, and what was cut off is encoded
already.

## Main definitions

* `Url.Host.Readable` : whether a host can be read at all.

## Main results

* `Url.of_userSpecial_eq_false`, `Url.of_isForbidden_eq_false` and the like : what the characters
  of a part are not.
* `Url.readHost_written`, `Url.readAuthority_written` : hosts and authorities are read back.
* `Url.Host.readable_iff`, `Url.readAuthority_eq_ok_iff` : they are, just if the host can be read.
-/

namespace Prospector.Url

open Text (Spared forall_ascii)

/-! ## Characters of parts -/

theorem of_userSpecial_eq_false {c : Char} (h : c.toNat < 128 ∧ userSpecial c = false) :
    0x20 < c.toNat ∧ endsAuthority true c = false ∧ c ≠ ':' :=
  forall_ascii (P := fun c => userSpecial c = false →
    0x20 < c.toNat ∧ endsAuthority true c = false ∧ c ≠ ':') (by decide) h.1 h.2

theorem of_isForbidden_eq_false {c : Char} (h : c.toNat < 128 ∧ Domain.isForbidden c = false) :
    0x20 < c.toNat ∧ endsAuthority true c = false ∧
      c ∉ ['@', ':', '[', ']'] :=
  forall_ascii (P := fun c => Domain.isForbidden c = false →
    0x20 < c.toNat ∧ endsAuthority true c = false ∧ c ∉ ['@', ':', '[', ']'])
    (by decide) h.1 h.2

theorem of_pathSpecial_eq_false {c : Char} (h : c.toNat < 128 ∧ pathSpecial c = false) :
    0x20 < c.toNat ∧ endsPath c = false :=
  forall_ascii (P := fun c => pathSpecial c = false → 0x20 < c.toNat ∧ endsPath c = false)
    (by decide) h.1 h.2

theorem of_querySpecial_eq_false {c : Char} (h : c.toNat < 128 ∧ querySpecial true c = false) :
    0x20 < c.toNat ∧ c ≠ '#' :=
  forall_ascii (P := fun c => querySpecial true c = false → 0x20 < c.toNat ∧ c ≠ '#')
    (by decide) h.1 h.2

theorem of_fragmentSpecial_eq_false {c : Char} (h : c.toNat < 128 ∧ fragmentSpecial c = false) :
    0x20 < c.toNat :=
  forall_ascii (P := fun c => fragmentSpecial c = false → 0x20 < c.toNat) (by decide) h.1 h.2

/-- A part that is encoded already is encoded as it is. -/
theorem encoded_of_spared {needs : Char → Bool} {s : String} (h : Spared needs s.toList) :
    encoded needs s.toList = s := by
  rw [encoded, Text.percentEncode_of_spared h, String.ofList_toList]

/-- A part is cut off where a character begins the next one. -/
theorem span_append {p : Char → Bool} {cs rest : List Char} (h : ∀ c ∈ cs, p c = true)
    (hrest : ∀ c ∈ rest.head?, p c = false) : (cs ++ rest).span p = (cs, rest) := by
  rw [List.span_eq_takeWhile_dropWhile, List.takeWhile_append_of_pos h,
    List.dropWhile_append_of_pos h]
  cases rest with
  | nil => rw [List.takeWhile_nil, List.append_nil, List.dropWhile_nil]
  | cons c rest =>
      have hc : ¬p c = true := Bool.eq_false_iff.1 (hrest c rfl)
      rw [List.takeWhile_cons_of_neg hc, List.dropWhile_cons_of_neg hc, List.append_nil]

/-! ## Hosts -/

theorem isPlain_writeFour (n : Nat) : Domain.IsPlain (Address.writeFour n) := by
  intro c hc
  rcases Address.mem_writeFour hc with rfl | hdigit
  · decide
  · have hlt : c.toNat < 128 := by
      simp only [Text.isDigit, Bool.and_eq_true, decide_eq_true_eq] at hdigit
      have hhigh : c.toNat ≤ 57 := hdigit.2
      omega
    exact ⟨hlt, forall_ascii (P := fun c => Text.isDigit c = true → Domain.isForbidden c = false)
      (by decide) hlt hdigit⟩

theorem mem_writeEight {groups : List Nat} {c : Char} (h : c ∈ Address.writeEight groups) :
    0x20 < c.toNat ∧ endsAuthority true c = false ∧ c ∉ ['@', '[', ']'] := by
  rcases Address.mem_writeEight h with rfl | ⟨d, hd, rfl⟩
  · decide
  · have hall : ∀ d < 16, 0x20 < (Text.lowerDigit d).toNat ∧
        endsAuthority true (Text.lowerDigit d) = false ∧ Text.lowerDigit d ∉ ['@', '[', ']'] := by
      decide
    exact hall d hd

/-- A plain name with an ASCII form is read as that name, or as the address that it is. -/
theorem readDomain_eq {cs : List Char} (hplain : Domain.IsPlain cs) :
    readDomain cs =
      if (Domain.toAscii? cs).isSome then
        if cs = [] then .error .emptyHost
        else if Address.endsInNumber cs then
          (Address.readFour? cs).elim (.error .invalidFourNumbers) fun n => .ok (.four n)
        else .ok (.name (String.ofList cs))
      else .error .invalidDomain := by
  have hpercent : '%' ∉ cs := by
    intro hmem
    exact absurd (hplain _ hmem).2 (by decide)
  simp only [readDomain, Text.percentDecode_of_not_mem hpercent, Text.decodeUtf8?_utf8Of,
    String.toList_ofList]
  cases hascii : Domain.toAscii? cs with
  | none => rfl
  | some ascii =>
      obtain rfl := Domain.toAscii?_of_isPlain hplain hascii
      simp only [Option.isSome_some, if_true, List.isEmpty_iff]
      cases Address.readFour? ascii <;> rfl

/-- The domain that a plain name is read as is that name, or an address that the name is. -/
theorem readDomain_of_isPlain {cs : List Char} {host : Host} (hplain : Domain.IsPlain cs)
    (h : readDomain cs = .ok host) :
    (Domain.toAscii? cs).isSome = true ∧ cs ≠ [] ∧
      (if Address.endsInNumber cs then (Address.readFour? cs).map Host.four = some host
        else host = .name (String.ofList cs)) := by
  rw [readDomain_eq hplain] at h
  by_cases hascii : (Domain.toAscii? cs).isSome = true
  · rw [if_pos hascii] at h
    by_cases hne : cs = []
    · rw [if_pos hne] at h
      cases h
    · rw [if_neg hne] at h
      refine ⟨hascii, hne, ?_⟩
      by_cases hnumber : Address.endsInNumber cs = true
      · rw [if_pos hnumber] at h ⊢
        cases hfour : Address.readFour? cs with
        | none =>
            rw [hfour] at h
            cases h
        | some n =>
            rw [hfour] at h
            obtain rfl := Except.ok.inj h
            rfl
      · rw [if_neg hnumber] at h ⊢
        exact (Except.ok.inj h).symm
  · rw [if_neg hascii] at h
    cases h

theorem toList_written_eight (groups : List Nat) :
    (Host.eight groups).written.toList = '[' :: (Address.writeEight groups ++ [']']) := by
  simp [Host.written]

theorem readHost_of_isPlain {cs : List Char} (h : Domain.IsPlain cs) :
    readHost true cs = readDomain cs := by
  unfold readHost
  split
  · exact absurd (h '[' List.mem_cons_self).2 (by decide)
  · rfl

/-- A host is read back. -/
theorem readHost_written {host host' : Host} (h : host.Canonical)
    (hread : readHost true host.written.toList = .ok host') : host' = host := by
  cases host with
  | name s =>
      obtain ⟨-, hplain, hnumber⟩ := h
      replace hread : readHost true s.toList = .ok host' := hread
      rw [readHost_of_isPlain hplain] at hread
      obtain ⟨-, -, hhost⟩ := readDomain_of_isPlain hplain hread
      rw [hnumber, if_neg Bool.false_ne_true, String.ofList_toList] at hhost
      exact hhost
  | four n =>
      have hplain := isPlain_writeFour n
      rw [Host.written, String.toList_ofList, readHost_of_isPlain hplain] at hread
      obtain ⟨-, -, hhost⟩ := readDomain_of_isPlain hplain hread
      rw [if_pos (Address.endsInNumber_writeFour n), Address.readFour?_writeFour h] at hhost
      exact (Option.some.inj hhost).symm
  | eight groups =>
      have hbracketed : readBracketed (Address.writeEight groups ++ [']']) = .ok host' := by
        rw [toList_written_eight] at hread
        exact hread
      simp only [readBracketed, List.getLast?_concat, List.dropLast_concat,
        Address.readEight?_writeEight h] at hbracketed
      exact (Except.ok.inj hbracketed).symm

/-- Whether a host can be read at all. A label of other characters than ASCII ones is written in
Punycode, which may take more characters than are read. -/
def Host.Readable : Host → Prop
  | .name s =>
    (∃ label ∈ Text.splitAtChar '.' s.toList, Domain.punycodeMark.isPrefixOf label = true) →
      (Domain.toAscii? s.toList).isSome = true
  | .four _ => True
  | .eight _ => True

theorem Host.Readable.isSome_toAscii? {s : String} (h : (Host.name s).Readable)
    (hplain : Domain.IsPlain s.toList) : (Domain.toAscii? s.toList).isSome = true := by
  by_cases hmark : ∃ label ∈ Text.splitAtChar '.' s.toList,
      Domain.punycodeMark.isPrefixOf label = true
  · exact h hmark
  · rw [Domain.toAscii?_eq_self hplain fun label hlabel => Bool.eq_false_iff.2 fun htrue =>
      hmark ⟨label, hlabel, htrue⟩]
    rfl

/-- Numbers with dots between them have no labels in Punycode. -/
theorem isSome_toAscii?_writeFour (n : Nat) :
    (Domain.toAscii? (Address.writeFour n)).isSome = true := by
  have hself := Domain.toAscii?_eq_self (isPlain_writeFour n) (by
    intro label hlabel
    rw [Bool.eq_false_iff, Ne, List.isPrefixOf_iff_prefix]
    intro hmark
    have hmem : 'x' ∈ Address.writeFour n :=
      (Text.mem_of_mem_splitAtChar hlabel (hmark.subset (by decide : 'x' ∈ Domain.punycodeMark))).1
    rcases Address.mem_writeFour hmem with hdot | hdigit
    · exact absurd hdot (by decide)
    · exact absurd hdigit (by decide))
  rw [hself]
  rfl

/-- A host that can be read is read back. -/
theorem readHost_of_readable {host : Host} (h : host.Canonical) (hreadable : host.Readable) :
    readHost true host.written.toList = .ok host := by
  cases host with
  | name s =>
      obtain ⟨hne, hplain, hnumber⟩ := h
      show readHost true s.toList = _
      rw [readHost_of_isPlain hplain, readDomain_eq hplain,
        if_pos (hreadable.isSome_toAscii? hplain), if_neg hne, hnumber,
        if_neg Bool.false_ne_true, String.ofList_toList]
  | four n =>
      have hplain := isPlain_writeFour n
      have hnumber := Address.endsInNumber_writeFour n
      have hne : Address.writeFour n ≠ [] := by
        intro hnil
        rw [hnil] at hnumber
        exact absurd hnumber (by decide)
      rw [Host.written, String.toList_ofList, readHost_of_isPlain hplain, readDomain_eq hplain,
        if_pos (isSome_toAscii?_writeFour n), if_neg hne, if_pos hnumber,
        Address.readFour?_writeFour h, Option.elim_some]
  | eight groups =>
      rw [toList_written_eight]
      show readBracketed (Address.writeEight groups ++ [']']) = _
      simp only [readBracketed, List.getLast?_concat, List.dropLast_concat,
        Address.readEight?_writeEight h]
      rfl

/-- What can be read is what is read back. -/
theorem Host.readable_iff {host : Host} (h : host.Canonical) :
    host.Readable ↔ readHost true host.written.toList = .ok host := by
  constructor
  · exact readHost_of_readable h
  · intro hread
    cases host with
    | name s =>
        obtain ⟨-, hplain, -⟩ := h
        replace hread : readHost true s.toList = .ok (.name s) := hread
        rw [readHost_of_isPlain hplain] at hread
        exact fun _ => (readDomain_of_isPlain hplain hread).1
    | four n => trivial
    | eight groups => trivial

/-- Host characters do not end an authority. -/
theorem of_mem_host {host : Host} (h : host.Canonical) {c : Char}
    (hc : c ∈ host.written.toList) :
    0x20 < c.toNat ∧ endsAuthority true c = false ∧ c ≠ '@' := by
  have hplain : ∀ cs, Domain.IsPlain cs → c ∈ cs →
      0x20 < c.toNat ∧ endsAuthority true c = false ∧ c ≠ '@' := by
    intro cs hcs hmem
    obtain ⟨hvisible, hends, hne⟩ := of_isForbidden_eq_false (hcs c hmem)
    exact ⟨hvisible, hends, fun heq => hne (by simp [heq])⟩
  cases host with
  | name s => exact hplain _ h.2.1 hc
  | four n =>
      rw [Host.written, String.toList_ofList] at hc
      exact hplain _ (isPlain_writeFour n) hc
  | eight groups =>
      rw [toList_written_eight] at hc
      rcases List.mem_cons.1 hc with rfl | hc
      · decide
      · rcases List.mem_append.1 hc with hc | hc
        · obtain ⟨hvisible, hends, hne⟩ := mem_writeEight hc
          exact ⟨hvisible, hends, fun heq => hne (by simp [heq])⟩
        · rw [List.mem_singleton.1 hc]
          decide

/-! ## Authorities -/

theorem splitHost_cons {inBrackets : Bool} {c : Char} (hopen : c ≠ '[') (hclose : c ≠ ']')
    (hcolon : (c == ':' && !inBrackets) = false) (cs : List Char) :
    splitHost inBrackets (c :: cs) =
      (c :: (splitHost inBrackets cs).1, (splitHost inBrackets cs).2) := by
  rw [splitHost, hcolon]
  simp only [beq_iff_eq, hopen, hclose, if_false, Bool.false_eq_true]

theorem splitHost_append {cs : List Char} (h : ∀ c ∈ cs, c ∉ ['@', ':', '[', ']'])
    (rest : List Char) :
    splitHost false (cs ++ rest) = (cs ++ (splitHost false rest).1, (splitHost false rest).2) := by
  induction cs with
  | nil => rfl
  | cons c cs ih =>
      have hc := h c List.mem_cons_self
      simp only [List.mem_cons, List.not_mem_nil, or_false, not_or] at hc
      obtain ⟨-, hcolon, hopen, hclose⟩ := hc
      rw [List.cons_append, splitHost_cons hopen hclose (by simp [hcolon]),
        ih fun d hd => h d (List.mem_cons_of_mem c hd)]
      rfl

theorem splitHost_bracketed {cs : List Char} (h : ∀ c ∈ cs, c ∉ ['@', '[', ']'])
    (rest : List Char) :
    splitHost true (cs ++ ']' :: rest) =
      (cs ++ ']' :: (splitHost false rest).1, (splitHost false rest).2) := by
  induction cs with
  | nil => rfl
  | cons c cs ih =>
      have hc := h c List.mem_cons_self
      simp only [List.mem_cons, List.not_mem_nil, or_false, not_or] at hc
      obtain ⟨-, hopen, hclose⟩ := hc
      rw [List.cons_append, splitHost_cons hopen hclose (by simp),
        ih fun d hd => h d (List.mem_cons_of_mem c hd)]
      rfl

/-- A host is cut off where the colon of a port or nothing stands behind it. -/
theorem splitHost_written {host : Host} (h : host.Canonical) {rest : List Char}
    (hrest : ∀ c ∈ rest.head?, c = ':') :
    splitHost false (host.written.toList ++ rest) = (host.written.toList, rest) := by
  have hend : splitHost false rest = ([], rest) := by
    cases rest with
    | nil => rfl
    | cons c rest =>
        obtain rfl := hrest c rfl
        rfl
  have hplain : ∀ cs, Domain.IsPlain cs → splitHost false (cs ++ rest) = (cs, rest) := by
    intro cs hcs
    rw [splitHost_append (fun c hc => (of_isForbidden_eq_false (hcs c hc)).2.2), hend,
      List.append_nil]
  cases host with
  | name s => exact hplain _ h.2.1
  | four n =>
      rw [Host.written, String.toList_ofList]
      exact hplain _ (isPlain_writeFour n)
  | eight groups =>
      have hinner : ∀ c ∈ Address.writeEight groups, c ∉ ['@', '[', ']'] :=
        fun c hc => (mem_writeEight hc).2.2
      have hopen : ∀ cs, splitHost false ('[' :: cs) =
          ('[' :: (splitHost true cs).1, (splitHost true cs).2) := fun _ => rfl
      rw [toList_written_eight, List.cons_append, List.append_assoc, List.singleton_append, hopen,
        splitHost_bracketed hinner, hend]

/-- What stands behind the host of an authority. -/
def Authority.portText (a : Authority) : List Char :=
  match a.port with
  | some n => ':' :: Text.decimal n
  | none => []

/-- The user name and the password of an authority. -/
def Authority.credentialText (a : Authority) : List Char :=
  a.user.toList ++
    match a.password with
    | some p => ':' :: p.toList
    | none => []

theorem toList_written_authority (a : Authority) :
    a.written.toList = (if a.credentialText = [] then [] else a.credentialText ++ ['@']) ++
      (a.host.written.toList ++ a.portText) := by
  have hempty : ∀ s : String, s.isEmpty = true ↔ s.toList = [] := by
    intro s
    rw [String.isEmpty_iff, ← String.toList_inj]
    rfl
  obtain ⟨user, password, host, port⟩ := a
  cases password <;> cases port <;>
    simp [Authority.written, Authority.credentialText, Authority.portText,
      apply_ite String.toList, hempty]

theorem of_mem_credentialText {scheme : String} {a : Authority} (h : a.Canonical scheme) {c : Char}
    (hc : c ∈ a.credentialText) : 0x20 < c.toNat ∧ endsAuthority true c = false := by
  have hspared : ∀ s : String, Spared userSpecial s.toList → c ∈ s.toList →
      0x20 < c.toNat ∧ endsAuthority true c = false := by
    intro s hs hmem
    obtain ⟨hvisible, hends, -⟩ := of_userSpecial_eq_false (hs c hmem)
    exact ⟨hvisible, hends⟩
  rcases List.mem_append.1 hc with hc | hc
  · exact hspared _ h.user hc
  · split at hc
    · next p hp =>
      rcases List.mem_cons.1 hc with rfl | hc
      · decide
      · exact hspared _ (h.password p hp).2 hc
    · exact absurd hc List.not_mem_nil

theorem of_mem_portText {a : Authority} {c : Char} (hc : c ∈ a.portText) :
    0x20 < c.toNat ∧ endsAuthority true c = false ∧ c ≠ '@' := by
  unfold Authority.portText at hc
  split at hc
  · rcases List.mem_cons.1 hc with rfl | hc
    · decide
    · have hall : ∀ d < 10, 0x20 < (Text.lowerDigit d).toNat ∧
          endsAuthority true (Text.lowerDigit d) = false ∧ Text.lowerDigit d ≠ '@' := by
        decide
      obtain ⟨d, hd, rfl⟩ := Text.mem_decimal hc
      exact hall d hd
  · exact absurd hc List.not_mem_nil

/-- The characters of an authority do not end it. -/
theorem of_mem_authority {scheme : String} {a : Authority} (h : a.Canonical scheme) {c : Char}
    (hc : c ∈ a.written.toList) : 0x20 < c.toNat ∧ endsAuthority true c = false := by
  rw [toList_written_authority] at hc
  rcases List.mem_append.1 hc with hc | hc
  · split at hc
    · exact absurd hc List.not_mem_nil
    · rcases List.mem_append.1 hc with hc | hc
      · exact of_mem_credentialText h hc
      · rw [List.mem_singleton.1 hc]
        decide
  · rcases List.mem_append.1 hc with hc | hc
    · exact (of_mem_host h.host hc).imp_right And.left
    · exact (of_mem_portText hc).imp_right And.left

theorem toList_host_ne_nil {host : Host} (h : host.Canonical) : host.written.toList ≠ [] := by
  cases host with
  | name s => exact h.1
  | four n =>
      rw [Host.written, String.toList_ofList, Address.writeFour, List.map_cons, List.map_cons,
        List.intercalate_cons_cons, List.append_assoc]
      exact List.append_ne_nil_of_left_ne_nil (Text.decimal_ne_nil _) _
  | eight groups =>
      rw [toList_written_eight]
      exact List.cons_ne_nil _ _

theorem toList_authority_ne_nil {scheme : String} {a : Authority} (h : a.Canonical scheme) :
    a.written.toList ≠ [] := by
  rw [toList_written_authority]
  refine List.append_ne_nil_of_right_ne_nil _ ?_
  exact List.append_ne_nil_of_left_ne_nil (toList_host_ne_nil h.host) _

/-- The last `@` of a text is the one behind which there is none. -/
theorem splitCredentials_append (before : List Char) {behind : List Char} (h : '@' ∉ behind) :
    splitCredentials (before ++ '@' :: behind) = some (before, behind) := by
  have hbehind : ∀ c ∈ behind.reverse, (c != '@') = true := by
    intro c hc
    exact bne_iff_ne.2 fun heq => h (heq ▸ List.mem_reverse.1 hc)
  have htake : ((before ++ '@' :: behind).reverse.takeWhile (· != '@')).reverse = behind := by
    rw [List.reverse_append, List.reverse_cons, List.append_assoc,
      List.takeWhile_append_of_pos hbehind]
    simp
  have hlength : (before ++ '@' :: behind).length - behind.length - 1 = before.length := by
    rw [List.length_append, List.length_cons]
    omega
  rw [splitCredentials, if_pos (by simp)]
  simp only [htake, hlength, List.take_left]

theorem splitCredentials_of_not_mem {cs : List Char} (h : '@' ∉ cs) :
    splitCredentials cs = none := by
  rw [splitCredentials, if_neg]
  rwa [List.contains_iff_mem]

/-- User name and password are read back. -/
theorem readCredentials_credentialText {scheme : String} {a : Authority} (h : a.Canonical scheme) :
    readCredentials a.credentialText = (a.user, a.password) := by
  have huser : ∀ c ∈ a.user.toList, (c != ':') = true :=
    fun c hc => bne_iff_ne.2 (of_userSpecial_eq_false (h.user c hc)).2.2
  have hencoded : encoded userSpecial a.user.toList = a.user := encoded_of_spared h.user
  simp only [readCredentials, Authority.credentialText, List.takeWhile_append_of_pos huser,
    List.dropWhile_append_of_pos huser]
  cases hpassword : a.password with
  | none => simp [hencoded]
  | some p =>
      obtain ⟨hne, hspared⟩ := h.password p hpassword
      obtain ⟨c, rest, hp⟩ := List.exists_cons_of_ne_nil hne
      have hencodedp : encoded userSpecial (c :: rest) = p := hp ▸ encoded_of_spared hspared
      simp [hencoded, hp, hencodedp]

/-- User name and password are cut off before the host. -/
theorem cutCredentials_written {scheme : String} {a : Authority} (h : a.Canonical scheme)
    (rest : List Char) :
    cutCredentials a.written.toList rest =
      .ok (a.user, a.password, a.host.written.toList ++ a.portText) := by
  have haddress : '@' ∉ a.host.written.toList ++ a.portText := by
    intro hmem
    rcases List.mem_append.1 hmem with hmem | hmem
    · exact (of_mem_host h.host hmem).2.2 rfl
    · exact (of_mem_portText hmem).2.2 rfl
  have hread := readCredentials_credentialText h
  rw [toList_written_authority]
  by_cases hnone : a.credentialText = []
  · rw [if_pos hnone, List.nil_append, cutCredentials, splitCredentials_of_not_mem haddress]
    rw [hnone] at hread
    obtain ⟨huser, hpassword⟩ := Prod.mk.inj hread
    rw [← huser, ← hpassword]
    rfl
  · rw [if_neg hnone, List.append_assoc, List.singleton_append, cutCredentials,
      splitCredentials_append _ haddress]
    split
    · next heq => exact absurd (Prod.mk.inj (Option.some.inj heq)).1 hnone
    · next before behind _ heq =>
      obtain ⟨rfl, rfl⟩ := Prod.mk.inj (Option.some.inj heq)
      rw [hread]
    · next heq => exact nomatch heq

/-- A port is read back. -/
theorem readPort_portText {scheme : String} {a : Authority} (h : a.Canonical scheme) :
    readPort scheme (a.portText.drop 1) = .ok a.port := by
  unfold Authority.portText
  split
  · next n hn =>
    obtain ⟨hlt, hport⟩ := h.port n hn
    have hne : (Text.decimal n).isEmpty = false :=
      List.isEmpty_eq_false_iff.2 (Text.decimal_ne_nil n)
    have hdigits : (Text.decimal n).all Text.isDigit = true :=
      List.all_eq_true.2 fun c hc => Text.isDigit_of_mem_decimal hc
    rw [List.drop_one, List.tail_cons, readPort, hne]
    simp [hdigits, Text.decimalValue_decimal, hlt, hport, hn]
  · next hnone =>
    rw [hnone]
    rfl

theorem eq_colon_of_mem_head?_portText {a : Authority} : ∀ c ∈ a.portText.head?, c = ':' := by
  unfold Authority.portText
  split
  · exact fun c hc => (Option.some.inj hc).symm
  · exact fun c hc => (nomatch hc)

/-- An authority is read back but for its host. -/
theorem readAuthority_eq {scheme : String} {a : Authority} (hspecial : isSpecial scheme = true)
    (h : a.Canonical scheme) (rest : List Char) :
    readAuthority scheme a.written.toList rest =
      (readHost true a.host.written.toList).map fun host => { a with host } := by
  have hne : a.host.written.toList.isEmpty = false :=
    List.isEmpty_eq_false_iff.2 (toList_host_ne_nil h.host)
  simp only [readAuthority, cutCredentials_written h, bind, Except.bind, readAddress,
    splitHost_written h.host eq_colon_of_mem_head?_portText, hne, hspecial, Bool.false_and,
    Bool.false_eq_true, if_false, readPort_portText h]
  cases readHost true a.host.written.toList <;> rfl

/-- An authority is read back. -/
theorem readAuthority_written {scheme : String} {a a' : Authority} {rest : List Char}
    (hspecial : isSpecial scheme = true) (h : a.Canonical scheme)
    (hread : readAuthority scheme a.written.toList rest = .ok a') : a' = a := by
  rw [readAuthority_eq hspecial h] at hread
  cases hhost : readHost true a.host.written.toList with
  | error fault =>
      rw [hhost] at hread
      cases hread
  | ok host =>
      rw [hhost] at hread
      obtain rfl := readHost_written h.host hhost
      exact (Except.ok.inj hread).symm

/-- An authority can be read just if its host can. -/
theorem readAuthority_eq_ok_iff {scheme : String} {a : Authority}
    (hspecial : isSpecial scheme = true) (h : a.Canonical scheme) (rest : List Char) :
    readAuthority scheme a.written.toList rest = .ok a ↔ a.host.Readable := by
  rw [readAuthority_eq hspecial h, Host.readable_iff h.host]
  cases readHost true a.host.written.toList with
  | error fault => exact ⟨nofun, nofun⟩
  | ok host =>
      constructor
      · intro hsame
        exact congrArg (fun read : Authority => Except.ok read.host) (Except.ok.inj hsame)
      · intro hsame
        obtain rfl := Except.ok.inj hsame
        rfl

end Prospector.Url
