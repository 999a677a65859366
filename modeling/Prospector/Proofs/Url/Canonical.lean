import Prospector.Proofs.Text.Percent
import Prospector.Proofs.Url.Address
import Prospector.Proofs.Url.Domain
import Prospector.Url.Reader

/-!
# What is read is canonical

The parts of a URL of the web that was read, be it on its own or relative to another one, are such
that reading them once more changes nothing: they are encoded already, the host is in its ASCII
form or an address in its bounds, the port is not the one that the scheme stands for, and no path
segment names a directory.

## Main definitions

* `Url.Canonical` : whether the parts of a URL of the web are of this kind.

## Main results

* `Url.canonical_of_read` : what is read is canonical.
-/

namespace Prospector.Url

open Text (Spared)

/-! ## Canonical parts -/

/-- Whether a host is one that was read. -/
def Host.Canonical : Host → Prop
  | .name s =>
    s.toList ≠ [] ∧ Domain.IsPlain s.toList ∧ Address.endsInNumber s.toList = false
  | .four n => n < 2 ^ 32
  | .eight groups => Address.IsEight groups

/-- Whether the parts of an authority are such as a scheme leaves them. -/
structure Authority.Canonical (scheme : String) (a : Authority) : Prop where
  user : Spared userSpecial a.user.toList
  password : ∀ p, a.password = some p → p.toList ≠ [] ∧ Spared userSpecial p.toList
  host : a.host.Canonical
  port : ∀ n, a.port = some n → n < 65536 ∧ defaultPort? scheme ≠ some n

/-- Whether a text is a path segment between slashes, encoded and naming no directory. -/
structure IsSegment (s : String) : Prop where
  spared : Spared pathSpecial s.toList
  slashless : ∀ c ∈ s.toList, isSlash true c = false
  single : isSingleDot s = false
  double : isDoubleDot s = false

/-- Whether a path consists of segments, one at least. -/
def Path.IsRooted (p : Path) : Prop :=
  ∃ segments, p = .rooted segments ∧ segments ≠ [] ∧ ∀ s ∈ segments, IsSegment s

/-- Whether the parts of a URL are such as reading leaves them. -/
structure Canonical (u : Url) : Prop where
  web : u.isWeb = true
  authority : ∃ a, u.authority = some a ∧ a.Canonical u.scheme
  path : u.path.IsRooted
  query : ∀ q, u.query = some q → Spared (querySpecial true) q.toList
  fragment : ∀ f, u.fragment = some f → Spared fragmentSpecial f.toList

/-! ## Encoded text -/

theorem isCodeFree_userSpecial : Text.IsCodeFree userSpecial := by
  refine ⟨by decide, by decide⟩

theorem isCodeFree_pathSpecial : Text.IsCodeFree pathSpecial := by
  refine ⟨by decide, by decide⟩

theorem isCodeFree_querySpecial : Text.IsCodeFree (querySpecial true) := by
  refine ⟨by decide, by decide⟩

theorem isCodeFree_fragmentSpecial : Text.IsCodeFree fragmentSpecial := by
  refine ⟨by decide, by decide⟩

theorem isCodeFree_isSlash : Text.IsCodeFree (isSlash true) := by
  refine ⟨by decide, by decide⟩

theorem spared_encoded {needs : Char → Bool} (hfree : Text.IsCodeFree needs) (cs : List Char) :
    Spared needs (encoded needs cs).toList := by
  rw [encoded, String.toList_ofList]
  exact Text.spared_percentEncode hfree cs

/-! ## Hosts -/

theorem canonical_of_readDomain {cs : List Char} {host : Host} (h : readDomain cs = .ok host) :
    host.Canonical := by
  unfold readDomain at h
  split at h
  · next name _ =>
    split at h
    · next ascii hascii =>
      have hplain := Domain.isPlain_of_toAscii? hascii
      split at h
      · exact nomatch h
      · next hne =>
        split at h
        · split at h
          · next n hfour =>
            obtain rfl := Except.ok.inj h
            exact Address.lt_of_readFour? hfour
          · exact nomatch h
        · next hnumber =>
          obtain rfl := Except.ok.inj h
          rw [Host.Canonical, String.toList_ofList]
          exact ⟨fun hnil => hne (List.isEmpty_iff.2 hnil), hplain, Bool.eq_false_iff.2 hnumber⟩
    · exact nomatch h
  · exact nomatch h

theorem canonical_of_readBracketed {cs : List Char} {host : Host}
    (h : readBracketed cs = .ok host) : host.Canonical := by
  unfold readBracketed at h
  split at h
  · split at h
    · next groups hgroups =>
      obtain rfl := Except.ok.inj h
      exact Address.isEight_of_readEight? hgroups
    · exact nomatch h
  · exact nomatch h

theorem canonical_of_readHost {cs : List Char} {host : Host} (h : readHost true cs = .ok host) :
    host.Canonical := by
  unfold readHost at h
  split at h
  · exact canonical_of_readBracketed h
  · exact canonical_of_readDomain h

/-! ## Authorities -/

theorem readPort_eq_ok {scheme : String} {cs : List Char} {port : Option Nat}
    (h : readPort scheme cs = .ok port) :
    ∀ n, port = some n → n < 65536 ∧ defaultPort? scheme ≠ some n := by
  unfold readPort at h
  split at h
  · obtain rfl := Except.ok.inj h
    exact fun n hn => nomatch hn
  · split at h
    · next hfits =>
      obtain rfl := Except.ok.inj h
      intro n hn
      obtain ⟨heq, hport⟩ := Option.filter_eq_some_iff.1 hn
      obtain rfl := Option.some.inj heq
      simp only [Bool.and_eq_true, decide_eq_true_eq] at hfits
      exact ⟨hfits.2, by simpa using hport⟩
    · exact nomatch h

theorem readCredentials_eq {cs : List Char} {user : String} {password : Option String}
    (h : readCredentials cs = (user, password)) :
    Spared userSpecial user.toList ∧
      ∀ p, password = some p → p.toList ≠ [] ∧ Spared userSpecial p.toList := by
  have huser := spared_encoded isCodeFree_userSpecial (cs.takeWhile (· != ':'))
  simp only [readCredentials] at h
  split at h
  · next c rest _ =>
    obtain ⟨rfl, rfl⟩ := Prod.mk.inj h
    refine ⟨huser, fun p hp => ?_⟩
    obtain rfl := Option.some.inj hp
    refine ⟨?_, spared_encoded isCodeFree_userSpecial _⟩
    rw [encoded, String.toList_ofList]
    exact Text.percentEncode_ne_nil (List.cons_ne_nil c rest)
  · obtain ⟨rfl, rfl⟩ := Prod.mk.inj h
    exact ⟨huser, fun p hp => (nomatch hp)⟩

theorem cutCredentials_eq_ok {cs rest address : List Char} {user : String}
    {password : Option String} (h : cutCredentials cs rest = .ok (user, password, address)) :
    Spared userSpecial user.toList ∧
      ∀ p, password = some p → p.toList ≠ [] ∧ Spared userSpecial p.toList := by
  have hnone : Spared userSpecial "".toList ∧
      ∀ p, (none : Option String) = some p → p.toList ≠ [] ∧ Spared userSpecial p.toList :=
    ⟨fun c hc => absurd hc List.not_mem_nil, fun p hp => (nomatch hp)⟩
  unfold cutCredentials at h
  split at h
  · split at h
    · simp only [Except.ok.injEq, Prod.mk.injEq] at h
      obtain ⟨rfl, rfl, -⟩ := h
      exact hnone
    · exact nomatch h
  · next before behind _ _ =>
    simp only [Except.ok.injEq, Prod.mk.injEq] at h
    obtain ⟨rfl, rfl, -⟩ := h
    exact readCredentials_eq rfl
  · simp only [Except.ok.injEq, Prod.mk.injEq] at h
    obtain ⟨rfl, rfl, -⟩ := h
    exact hnone

/-- The parts of an authority are read one by one. -/
theorem readAddress_eq_ok {scheme user : String} {password : Option String} {cs : List Char}
    {a : Authority} (h : readAddress scheme user password cs = .ok a)
    (hspecial : isSpecial scheme = true) :
    a.user = user ∧ a.password = password ∧ readHost true (splitHost false cs).1 = .ok a.host ∧
      readPort scheme ((splitHost false cs).2.drop 1) = .ok a.port := by
  simp only [readAddress, hspecial] at h
  split at h
  · exact nomatch h
  · obtain ⟨host, hhost, h⟩ := bind_eq_ok.1 h
    obtain ⟨port, hport, h⟩ := bind_eq_ok.1 h
    split at h
    · exact nomatch h
    · obtain rfl := Except.ok.inj h
      exact ⟨rfl, rfl, hhost, hport⟩

theorem canonical_of_readAuthority {scheme : String} {cs rest : List Char} {a : Authority}
    (hspecial : isSpecial scheme = true) (h : readAuthority scheme cs rest = .ok a) :
    a.Canonical scheme := by
  obtain ⟨⟨user, password, address⟩, hcut, h⟩ := bind_eq_ok.1 h
  obtain ⟨huser, hpassword⟩ := cutCredentials_eq_ok hcut
  obtain ⟨rfl, rfl, hhost, hport⟩ := readAddress_eq_ok h hspecial
  exact ⟨huser, hpassword, canonical_of_readHost hhost, readPort_eq_ok hport⟩

/-! ## Paths -/

theorem isSegment_empty : IsSegment "" :=
  ⟨fun c hc => absurd hc List.not_mem_nil, fun c hc => absurd hc List.not_mem_nil, by decide,
    by decide⟩

/-- The segments of a text are encoded and have no slashes. -/
theorem of_mem_segmentsOf {cs : List Char} {s : String} (h : s ∈ segmentsOf true cs) :
    Spared pathSpecial s.toList ∧ ∀ c ∈ s.toList, isSlash true c = false := by
  obtain ⟨piece, hpiece, rfl⟩ := List.mem_map.1 h
  refine ⟨spared_encoded isCodeFree_pathSpecial piece, ?_⟩
  rw [encoded, String.toList_ofList]
  refine Text.eq_false_of_mem_percentEncode isCodeFree_isSlash fun c hc => ?_
  obtain ⟨hmem, hne⟩ := Text.mem_of_mem_splitAtChar hpiece hc
  obtain ⟨d, -, rfl⟩ := List.mem_map.1 hmem
  split
  · next hslash => exact absurd (if_pos hslash) hne
  · next hslash => exact Bool.eq_false_iff.2 hslash

theorem segmentsOf_ne_nil (special : Bool) (cs : List Char) : segmentsOf special cs ≠ [] :=
  mt List.map_eq_nil_iff.1 (Text.splitAtChar_ne_nil _ _)

/-- Segments appended to a path are segments, and there is one at least. -/
theorem isSegment_of_mem_resolve {path added : List String} (hpath : ∀ s ∈ path, IsSegment s)
    (hadded : ∀ s ∈ added, Spared pathSpecial s.toList ∧ ∀ c ∈ s.toList, isSlash true c = false) :
    ∀ s ∈ resolve path added, IsSegment s := by
  have hclose : ∀ (ends : Bool) (path : List String), (∀ s ∈ path, IsSegment s) →
      ∀ s ∈ (if ends then path ++ [""] else path), IsSegment s := by
    intro ends path hpath
    split
    · exact List.forall_mem_append.2 ⟨hpath, List.forall_mem_singleton.2 isSegment_empty⟩
    · exact hpath
  induction added generalizing path with
  | nil => exact hpath
  | cons segment rest ih =>
      obtain ⟨hsegment, hrest⟩ := List.forall_mem_cons.1 hadded
      simp only [resolve]
      split
      · exact ih (hclose _ _ fun s hs => hpath s (List.dropLast_subset _ hs)) hrest
      · next hdouble =>
        split
        · exact ih (hclose _ _ hpath) hrest
        · next hsingle =>
          refine ih (List.forall_mem_append.2 ⟨hpath, List.forall_mem_singleton.2 ?_⟩) hrest
          exact ⟨hsegment.1, hsegment.2, Bool.eq_false_iff.2 hsingle, Bool.eq_false_iff.2 hdouble⟩

theorem resolve_ne_nil {path added : List String} (h : path ≠ [] ∨ added ≠ []) :
    resolve path added ≠ [] := by
  induction added generalizing path with
  | nil => exact h.resolve_right fun hnil => hnil rfl
  | cons segment rest ih =>
      simp only [resolve]
      cases rest with
      | nil =>
          split <;> [skip; split] <;>
            exact List.append_ne_nil_of_right_ne_nil _ (List.cons_ne_nil _ _)
      | cons next rest => split <;> [skip; split] <;> exact ih (.inr (List.cons_ne_nil _ _))

theorem isRooted_resolve {path : List String} (hpath : ∀ s ∈ path, IsSegment s) (cs : List Char) :
    Path.IsRooted (.rooted (resolve path (segmentsOf true cs))) :=
  ⟨_, rfl, resolve_ne_nil (.inr (segmentsOf_ne_nil true cs)),
    isSegment_of_mem_resolve hpath fun _ => of_mem_segmentsOf⟩

theorem isRooted_pathAfterAuthority (cs : List Char) : (pathAfterAuthority true cs).IsRooted := by
  unfold pathAfterAuthority
  split
  · exact ⟨_, rfl, List.cons_ne_nil _ _, List.forall_mem_singleton.2 isSegment_empty⟩
  · exact isRooted_resolve (fun s hs => absurd hs List.not_mem_nil) _

/-! ## Queries and fragments -/

theorem readTail_eq {cs : List Char} {query fragment : Option String}
    (h : readTail true cs = (query, fragment)) :
    (∀ q, query = some q → Spared (querySpecial true) q.toList) ∧
      ∀ f, fragment = some f → Spared fragmentSpecial f.toList := by
  simp only [readTail] at h
  split at h
  · obtain ⟨rfl, rfl⟩ := Prod.mk.inj h
    refine ⟨fun q hq => ?_, fun f hf => ?_⟩
    · obtain rfl := Option.some.inj hq
      exact spared_encoded isCodeFree_querySpecial _
    · split at hf
      · cases hf
      · obtain rfl := Option.some.inj hf
        exact spared_encoded isCodeFree_fragmentSpecial _
  · obtain ⟨rfl, rfl⟩ := Prod.mk.inj h
    refine ⟨fun q hq => (by cases hq), fun f hf => ?_⟩
    split at hf
    · cases hf
    · obtain rfl := Option.some.inj hf
      exact spared_encoded isCodeFree_fragmentSpecial _

/-! ## Whole URLs -/

theorem isSpecial_of_isWeb {u : Url} (h : u.isWeb = true) : isSpecial u.scheme = true := by
  simp only [isWeb, Bool.or_eq_true, decide_eq_true_eq] at h
  rcases h with h | h <;> rw [h] <;> rfl

theorem scheme_ne_file_of_isWeb {u : Url} (h : u.isWeb = true) : u.scheme ≠ "file" := by
  rintro hfile
  simp [isWeb, hfile] at h

/-- A query and a fragment read at the end leave a URL canonical. -/
theorem Canonical.withTail {u : Url} (h : u.Canonical) (cs : List Char) :
    (u.withTail cs).Canonical := by
  rcases htail : readTail true cs with ⟨query, fragment⟩
  obtain ⟨hquery, hfragment⟩ := readTail_eq htail
  rw [Url.withTail, isSpecial_of_isWeb h.web, htail]
  exact ⟨h.web, h.authority, h.path, hquery, hfragment⟩

theorem Canonical.withPath {u : Url} (h : u.Canonical) {p : Path} (hp : p.IsRooted) :
    ({ u with path := p } : Url).Canonical :=
  ⟨h.web, h.authority, hp, h.query, h.fragment⟩

theorem Canonical.withFragment {u : Url} (h : u.Canonical) (cs : List Char) :
    ({ u with fragment := (readTail true cs).2 } : Url).Canonical := by
  rcases htail : readTail true cs with ⟨query, fragment⟩
  exact ⟨h.web, h.authority, h.path, h.query, (readTail_eq htail).2⟩

theorem scheme_of_readAbsolute {scheme : String} {cs : List Char} {u : Url}
    (h : readAbsolute scheme cs = .ok u) : u.scheme = scheme := by
  obtain ⟨a, _, h⟩ := bind_eq_ok.1 h
  obtain rfl := Except.ok.inj h
  rfl

theorem canonical_of_readAbsolute {scheme : String} {cs : List Char} {u : Url}
    (h : readAbsolute scheme cs = .ok u) (hweb : u.isWeb = true) : u.Canonical := by
  have hspecial := isSpecial_of_isWeb hweb
  rw [scheme_of_readAbsolute h] at hspecial
  obtain ⟨a, ha, h⟩ := bind_eq_ok.1 h
  rw [hspecial] at ha h
  obtain rfl := Except.ok.inj h
  have hparts : ∀ path, ({ scheme, authority := some a
                           path := pathAfterAuthority true path } : Url).Canonical :=
    fun path => ⟨hweb, ⟨a, rfl, canonical_of_readAuthority hspecial ha⟩,
      isRooted_pathAfterAuthority path, fun q hq => (nomatch hq), fun f hf => (nomatch hf)⟩
  exact (hparts _).withTail _

theorem canonical_of_readRelative {base u : Url} (hbase : base.Canonical) {cs : List Char}
    (h : readRelative base (base.segments?.getD []) cs = .ok u) (hweb : u.isWeb = true) :
    u.Canonical := by
  simp only [readRelative, isSpecial_of_isWeb hbase.web] at h
  split at h
  · exact canonical_of_readAbsolute h hweb
  · split at h
    · split at h
      · obtain rfl := Except.ok.inj h
        exact hbase.withTail _
      · obtain rfl := Except.ok.inj h
        exact hbase.withFragment _
    · split at h
      · obtain rfl := Except.ok.inj h
        refine (hbase.withPath ?_).withTail _
        exact isRooted_resolve (fun s hs => absurd hs List.not_mem_nil) _
      · obtain rfl := Except.ok.inj h
        refine (hbase.withPath (isRooted_resolve (fun s hs => ?_) _)).withTail _
        obtain ⟨segments, hpath, -, hsegments⟩ := hbase.path
        rw [segments?, hpath] at hs
        exact hsegments s (List.dropLast_subset _ hs)

theorem scheme_of_readRelative {base u : Url} {segments : List String} {cs : List Char}
    (h : readRelative base segments cs = .ok u) : u.scheme = base.scheme := by
  simp only [readRelative] at h
  split at h
  · exact scheme_of_readAbsolute h
  · split at h
    · split at h <;> obtain rfl := Except.ok.inj h <;> rfl
    · split at h <;> obtain rfl := Except.ok.inj h <;> rfl

theorem scheme_of_readSingle {base : Option Url} {segments : List String} {host : Host}
    {cs : List Char} {u : Url} (hbase : ∀ b, base = some b → b.scheme = "file")
    (h : readFile.readSingle base segments host cs = .ok u) : u.scheme = "file" := by
  unfold readFile.readSingle at h
  simp only at h
  split at h
  · split at h
    · next b =>
      split at h
      · obtain rfl := Except.ok.inj h
        exact hbase b rfl
      · obtain rfl := Except.ok.inj h
        exact hbase b rfl
    · obtain rfl := Except.ok.inj h
      rfl
  · split at h
    · obtain rfl := Except.ok.inj h
      rfl
    · split at h
      · obtain rfl := Except.ok.inj h
        rfl
      · obtain rfl := Except.ok.inj h
        rfl

theorem scheme_of_readFile {base : Option Url} {cs : List Char} {u : Url}
    (hbase : ∀ b, base = some b → b.scheme = "file") (h : readFile base cs = .ok u) :
    u.scheme = "file" := by
  unfold readFile at h
  simp only at h
  split at h
  · split at h
    · split at h
      · obtain rfl := Except.ok.inj h
        rfl
      · obtain ⟨host, _, h⟩ := bind_eq_ok.1 h
        obtain rfl := Except.ok.inj h
        rfl
    · exact scheme_of_readSingle hbase h
  · exact scheme_of_readSingle hbase h

theorem scheme_of_readPlain {scheme : String} {cs : List Char} {u : Url}
    (h : readPlain scheme cs = .ok u) : u.scheme = scheme := by
  unfold readPlain at h
  split at h
  · exact scheme_of_readAbsolute h
  · obtain rfl := Except.ok.inj h
    rfl

/-- A URL behind a scheme has that scheme. -/
theorem scheme_of_readBehindScheme {base : Option Url} {scheme : String} {cs : List Char} {u : Url}
    (h : readBehindScheme base scheme cs = .ok u) : u.scheme = scheme := by
  unfold readBehindScheme at h
  split at h
  · next hfile =>
    rw [hfile]
    refine scheme_of_readFile (fun b hb => ?_) h
    simpa using (Option.filter_eq_some_iff.1 hb).2
  · split at h
    · simp only at h
      split at h
      · split at h
        · next hrelative =>
          simp only [Bool.and_eq_true, decide_eq_true_eq] at hrelative
          rw [scheme_of_readRelative h]
          exact hrelative.2
        · exact scheme_of_readAbsolute h
      · exact scheme_of_readAbsolute h
    · exact scheme_of_readPlain h

theorem canonical_of_readBehindScheme {base : Option Url} {scheme : String} {cs : List Char}
    {u : Url} (h : readBehindScheme base scheme cs = .ok u)
    (hbase : ∀ b, base = some b → b.Canonical) (hweb : u.isWeb = true) : u.Canonical := by
  have hscheme := scheme_of_readBehindScheme h
  have hfile : scheme ≠ "file" := hscheme ▸ scheme_ne_file_of_isWeb hweb
  have hspecial : isSpecial scheme = true := hscheme ▸ isSpecial_of_isWeb hweb
  simp only [readBehindScheme, if_neg hfile, hspecial, if_true] at h
  split at h
  · next b =>
    split at h
    · exact canonical_of_readRelative (hbase b rfl) h hweb
    · exact canonical_of_readAbsolute h hweb
  · exact canonical_of_readAbsolute h hweb

/-- What is read, alone or relative to a canonical URL of the web, is canonical if it is one of the
web. -/
theorem canonical_of_read {base : Option Url} {s : String} {u : Url} (h : read base s = .ok u)
    (hbase : ∀ b, base = some b → b.Canonical) (hweb : u.isWeb = true) : u.Canonical := by
  simp only [read] at h
  split at h
  · exact canonical_of_readBehindScheme h hbase hweb
  · split at h
    · exact nomatch h
    · next b =>
      have hb := hbase b rfl
      obtain ⟨segments, hpath, -, -⟩ := hb.path
      have hsegments : b.segments? = some segments := by rw [segments?, hpath]
      have hget : segments = b.segments?.getD [] := by rw [hsegments, Option.getD_some]
      simp only [hsegments, if_neg (scheme_ne_file_of_isWeb hb.web)] at h
      exact canonical_of_readRelative hb (hget ▸ h) hweb

end Prospector.Url
