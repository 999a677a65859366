import Prospector.Proofs.Url.Authority

/-!
# Canonical URLs are read back

A canonical URL of the web is the one that is read from what it is written as, if it is read at all.
So different canonical URLs are written differently, and what is written can be taken for the URL.
As for authorities, each part is cut off where the next begins.

## Main definitions

* `Url.Readable` : whether the host of a URL can be read at all.

## Main results

* `Url.pathAfterAuthority_written`, `Url.readTail_tailText` : paths, queries and fragments are read
  back.
* `Url.ofText_written` : URLs of the web are read back, if they are read at all.
* `Url.ofText_written_iff` : they are, just if their host can be read.
* `Url.scheme_of_ofText_written` : any URL is read back with its scheme.
-/

namespace Prospector.Url

open Text (Spared forall_ascii)

/-! ## Paths -/

theorem toList_written_path {segments : List String} (h : segments ≠ []) :
    (Path.rooted segments).written.toList =
      '/' :: ['/'].intercalate (segments.map String.toList) := by
  rw [Path.written, String.toList_join]
  induction segments with
  | nil => exact absurd rfl h
  | cons s rest ih =>
      cases rest with
      | nil => simp
      | cons next rest =>
          rw [List.map_cons, List.flatMap_cons, ih (List.cons_ne_nil _ _), List.map_cons,
            List.map_cons, List.map_cons, List.intercalate_cons_cons, String.toList_append,
            List.append_assoc, List.append_assoc]
          rfl

theorem of_mem_path {segments : List String} (h : ∀ s ∈ segments, IsSegment s) {c : Char}
    (hc : c ∈ (Path.rooted segments).written.toList) :
    0x20 < c.toNat ∧ endsPath c = false := by
  rw [Path.written, String.toList_join, List.mem_flatMap] at hc
  obtain ⟨part, hpart, hc⟩ := hc
  obtain ⟨s, hs, rfl⟩ := List.mem_map.1 hpart
  rw [String.toList_append] at hc
  rcases List.mem_append.1 hc with hc | hc
  · rw [List.mem_singleton.1 (show c ∈ ['/'] from hc)]
    decide
  · exact of_pathSpecial_eq_false ((h s hs).spared c hc)

/-- Segments are cut apart at the slashes between them. -/
theorem segmentsOf_intercalate {segments : List String} (hne : segments ≠ [])
    (h : ∀ s ∈ segments, IsSegment s) :
    segmentsOf true (['/'].intercalate (segments.map String.toList)) = segments := by
  have hslash : ∀ c ∈ ['/'].intercalate (segments.map String.toList),
      (if isSlash true c then '/' else c) = c := by
    intro c hc
    rcases Text.mem_intercalate hc with rfl | ⟨part, hpart, hc⟩
    · rfl
    · obtain ⟨s, hs, rfl⟩ := List.mem_map.1 hpart
      rw [(h s hs).slashless c hc]
      rfl
  have hsplit : Text.splitAtChar '/' (['/'].intercalate (segments.map String.toList)) =
      segments.map String.toList := by
    rw [Text.splitAtChar_eq_splitOn]
    refine List.splitOn_intercalate '/' ?_ (mt List.map_eq_nil_iff.1 hne)
    intro part hpart hmem
    obtain ⟨s, hs, rfl⟩ := List.mem_map.1 hpart
    exact absurd ((h s hs).slashless '/' hmem) (by decide)
  rw [segmentsOf, List.map_congr_left hslash, List.map_id', hsplit, List.map_map]
  refine (List.map_congr_left fun s hs => ?_).trans (List.map_id segments)
  exact encoded_of_spared (h s hs).spared

/-- Segments that name no directory are appended as they are. -/
theorem resolve_of_isSegment {path added : List String} (h : ∀ s ∈ added, IsSegment s) :
    resolve path added = path ++ added := by
  induction added generalizing path with
  | nil => exact (List.append_nil path).symm
  | cons s rest ih =>
      obtain ⟨hs, hrest⟩ := List.forall_mem_cons.1 h
      simp only [resolve, hs.double, hs.single, Bool.false_eq_true, if_false]
      rw [ih hrest, List.append_assoc, List.singleton_append]

/-- A path is read back. -/
theorem pathAfterAuthority_written {segments : List String} (hne : segments ≠ [])
    (h : ∀ s ∈ segments, IsSegment s) :
    pathAfterAuthority true (Path.rooted segments).written.toList = .rooted segments := by
  have hfirst : isSlash true '/' = true := rfl
  rw [toList_written_path hne, pathAfterAuthority]
  simp only [hfirst, if_true, rootedPath]
  rw [segmentsOf_intercalate hne h, resolve_of_isSegment h, List.nil_append]

/-! ## Queries and fragments -/

theorem toList_part_some (mark s : String) :
    (part mark (some s)).toList = mark.toList ++ s.toList :=
  String.toList_append

/-- What stands behind the path of a URL. -/
def tailText (u : Url) : List Char :=
  (part "?" u.query).toList ++ (part "#" u.fragment).toList

theorem eq_of_mem_head?_part {mark : String} {m : Char} (hmark : mark.toList = [m])
    (text : Option String) : ∀ c ∈ (part mark text).toList.head?, c = m := by
  cases text with
  | none => exact fun c hc => (nomatch hc)
  | some s =>
      rw [toList_part_some, hmark]
      exact fun c hc => (Option.some.inj hc).symm

theorem endsPath_of_mem_head?_tailText (u : Url) :
    ∀ c ∈ u.tailText.head?, endsPath c = true := by
  intro c hc
  unfold tailText at hc
  rw [List.head?_append, Option.mem_def, Option.or_eq_some_iff] at hc
  rcases hc with hc | ⟨-, hc⟩
  · rw [eq_of_mem_head?_part rfl u.query c hc]
    rfl
  · rw [eq_of_mem_head?_part rfl u.fragment c hc]
    rfl

theorem of_mem_tailText {u : Url} (h : u.Canonical) {c : Char} (hc : c ∈ u.tailText) :
    0x20 < c.toNat := by
  rcases List.mem_append.1 hc with hc | hc
  · cases hquery : u.query with
    | none =>
        rw [hquery] at hc
        exact absurd hc List.not_mem_nil
    | some q =>
        rw [hquery, toList_part_some] at hc
        rcases List.mem_append.1 hc with hc | hc
        · rw [List.mem_singleton.1 (show c ∈ ['?'] from hc)]
          decide
        · exact (of_querySpecial_eq_false (h.query q hquery c hc)).1
  · cases hfragment : u.fragment with
    | none =>
        rw [hfragment] at hc
        exact absurd hc List.not_mem_nil
    | some f =>
        rw [hfragment, toList_part_some] at hc
        rcases List.mem_append.1 hc with hc | hc
        · rw [List.mem_singleton.1 (show c ∈ ['#'] from hc)]
          decide
        · exact of_fragmentSpecial_eq_false (h.fragment f hfragment c hc)

/-- A fragment behind a query does not belong to it. -/
theorem readTail_query {q : String} (h : Spared (querySpecial true) q.toList) {rest : List Char}
    (hrest : ∀ c ∈ rest.head?, c = '#') :
    readTail true ('?' :: (q.toList ++ rest)) = (some q, (readTail true rest).2) := by
  have hplain : ∀ c ∈ q.toList, (c != '#') = true :=
    fun c hc => bne_iff_ne.2 (of_querySpecial_eq_false (h c hc)).2
  have hhash : ∀ c ∈ rest.head?, (c != '#') = false := by
    intro c hc
    rw [hrest c hc]
    rfl
  have hcut := span_append hplain hhash
  rw [List.span_eq_takeWhile_dropWhile] at hcut
  obtain ⟨htake, hdrop⟩ := Prod.mk.inj hcut
  simp only [readTail, htake, hdrop, encoded_of_spared h]
  cases rest with
  | nil => rfl
  | cons c rest =>
      obtain rfl := hrest c rfl
      rfl

/-- A fragment is read back. -/
theorem readTail_fragment {fragment : Option String}
    (h : ∀ f, fragment = some f → Spared fragmentSpecial f.toList) :
    readTail true (part "#" fragment).toList = (none, fragment) := by
  cases fragment with
  | none => rfl
  | some f =>
      have hencoded := encoded_of_spared (h f rfl)
      rw [toList_part_some]
      show (none, some (encoded fragmentSpecial f.toList)) = _
      rw [hencoded]

/-- Query and fragment are read back. -/
theorem readTail_tailText {u : Url} (h : u.Canonical) :
    readTail true u.tailText = (u.query, u.fragment) := by
  have hfragment := readTail_fragment h.fragment
  unfold tailText
  cases hquery : u.query with
  | none => exact hfragment
  | some q =>
      have hhead : ∀ c ∈ (part "#" u.fragment).toList.head?, c = '#' :=
        eq_of_mem_head?_part rfl u.fragment
      rw [toList_part_some, List.append_assoc]
      show readTail true ('?' :: (q.toList ++ (part "#" u.fragment).toList)) = _
      rw [readTail_query (h.query q hquery) hhead, hfragment]

/-! ## Whole URLs -/

/-- A canonical URL written out, part by part. -/
theorem toList_written {u : Url} {a : Authority} {segments : List String}
    (ha : u.authority = some a) (hpath : u.path = .rooted segments) :
    u.written.toList = u.scheme.toList ++ ':' :: '/' :: '/' ::
      (a.written.toList ++ ((Path.rooted segments).written.toList ++ u.tailText)) := by
  simp [written, resource, ha, hpath, tailText]

theorem dropWhile_of_forall {p : Char → Bool} {cs : List Char} (h : ∀ c ∈ cs, p c = false) :
    cs.dropWhile p = cs := by
  cases cs with
  | nil => rfl
  | cons c cs => exact List.dropWhile_cons_of_neg (Bool.eq_false_iff.1 (h c List.mem_cons_self))

/-- A text that begins without blanks and controls counts from its first character on. -/
theorem cleaned_append {s : String} {front rest : List Char} (hs : s.toList = front ++ rest)
    (hne : front ≠ []) (h : ∀ c ∈ front, 0x20 < c.toNat) :
    ∃ counted, cleaned s = front ++ counted ∧ (rest = [] → counted = []) := by
  have houter : ∀ c ∈ front, decide (c.toNat ≤ 0x20) = false :=
    fun c hc => decide_eq_false (Nat.not_le.2 (h c hc))
  have hkept : ∀ c ∈ front, (!(c == '\t' || c == '\n' || c == '\r')) = true := by
    intro c hc
    have hc' := h c hc
    simp only [Bool.not_eq_true', Bool.or_eq_false_iff, beq_eq_false_iff_ne]
    refine ⟨⟨?_, ?_⟩, ?_⟩ <;> rintro rfl <;> exact absurd hc' (by decide)
  have hstart : (front ++ rest).dropWhile (fun c => decide (c.toNat ≤ 0x20)) = front ++ rest := by
    obtain ⟨c, tail, rfl⟩ := List.exists_cons_of_ne_nil hne
    exact List.dropWhile_cons_of_neg (Bool.eq_false_iff.1 (houter c List.mem_cons_self))
  have hend : ((front ++ rest).reverse.dropWhile fun c => decide (c.toNat ≤ 0x20)).reverse =
      front ++ (rest.reverse.dropWhile fun c => decide (c.toNat ≤ 0x20)).reverse := by
    rw [List.reverse_append, List.dropWhile_append]
    split
    · next hempty =>
      rw [dropWhile_of_forall fun c hc => houter c (List.mem_reverse.1 hc), List.reverse_reverse,
        List.isEmpty_iff.1 hempty]
      exact (List.append_nil front).symm
    · rw [List.reverse_append, List.reverse_reverse]
  have hcounted : cleaned s = front ++
      (rest.reverse.dropWhile fun c => decide (c.toNat ≤ 0x20)).reverse.filter
        fun c => !(c == '\t' || c == '\n' || c == '\r') := by
    simp only [cleaned, hs]
    rw [hstart, hend, List.filter_append, List.filter_eq_self.2 hkept]
  refine ⟨_, hcounted, ?_⟩
  rintro rfl
  rfl

/-! ## Schemes -/

/-- Whether a character may be the first one of a scheme. -/
def beginsScheme (c : Char) : Bool :=
  isSchemeChar c && !(Text.isDigit c || c == '+' || c == '-' || c == '.')

theorem lt_of_isSchemeChar {c : Char} (h : isSchemeChar c = true) : c.toNat < 128 := by
  have hrange : ∀ a b : Char, (decide (a ≤ c) && decide (c ≤ b)) = true → c.toNat ≤ b.toNat :=
    fun a b hab => of_decide_eq_true (Bool.and_eq_true_iff.1 hab).2
  simp only [isSchemeChar, Bool.or_eq_true, beq_iff_eq] at h
  rcases h with ((((h | h) | h) | rfl) | rfl) | rfl
  · exact Nat.lt_of_le_of_lt (hrange _ _ h) (by decide)
  · exact Nat.lt_of_le_of_lt (hrange _ _ h) (by decide)
  · exact Nat.lt_of_le_of_lt (hrange _ _ h) (by decide)
  · decide
  · decide
  · decide

theorem of_isSchemeChar {c : Char} (h : isSchemeChar c = true) :
    isSchemeChar (Text.lowerAscii c) = true ∧
      Text.lowerAscii (Text.lowerAscii c) = Text.lowerAscii c ∧ 0x20 < c.toNat ∧
      (beginsScheme c = true → beginsScheme (Text.lowerAscii c) = true) :=
  forall_ascii (P := fun c => isSchemeChar c = true → isSchemeChar (Text.lowerAscii c) = true ∧
      Text.lowerAscii (Text.lowerAscii c) = Text.lowerAscii c ∧ 0x20 < c.toNat ∧
      (beginsScheme c = true → beginsScheme (Text.lowerAscii c) = true))
    (by decide) (lt_of_isSchemeChar h) h

/-- Whether a text is a scheme in lower case. -/
structure IsScheme (scheme : String) : Prop where
  begins : ∃ first tail, scheme.toList = first :: tail ∧ beginsScheme first = true
  chars : ∀ c ∈ scheme.toList, isSchemeChar c = true ∧ Text.lowerAscii c = c

/-- What is cut off as a scheme is one. -/
theorem isScheme_of_splitScheme {cs rest : List Char} {scheme : String}
    (h : splitScheme cs = some (scheme, rest)) : IsScheme scheme := by
  unfold splitScheme at h
  split at h
  · exact nomatch h
  · next first tail =>
    split at h
    · next hfirst =>
      split at h
      · obtain ⟨rfl, rfl⟩ := Prod.mk.inj (Option.some.inj h)
        have hchar : isSchemeChar first = true := (Bool.and_eq_true_iff.1 hfirst).1
        refine ⟨⟨Text.lowerAscii first, (tail.takeWhile isSchemeChar).map Text.lowerAscii, ?_,
          (of_isSchemeChar hchar).2.2.2 hfirst⟩, ?_⟩
        · rw [String.toList_ofList, List.takeWhile_cons_of_pos hchar, List.map_cons]
        · intro c hc
          rw [String.toList_ofList] at hc
          obtain ⟨d, hd, rfl⟩ := List.mem_map.1 hc
          have hd' := of_isSchemeChar (List.mem_takeWhile_imp hd)
          exact ⟨hd'.1, hd'.2.1⟩
      · exact nomatch h
    · exact nomatch h

/-- A scheme is read back, whatever stands behind its colon. -/
theorem IsScheme.splitScheme_append {scheme : String} (h : IsScheme scheme) (rest : List Char) :
    splitScheme (scheme.toList ++ ':' :: rest) = some (scheme, rest) := by
  obtain ⟨first, tail, htoList, hfirst⟩ := h.begins
  have hcolon : ∀ c ∈ (':' :: rest).head?, isSchemeChar c = false := by
    intro c hc
    rw [← Option.some.inj (show some ':' = some c from hc)]
    rfl
  have hcut := span_append (fun c hc => (h.chars c hc).1) hcolon
  rw [List.span_eq_takeWhile_dropWhile] at hcut
  obtain ⟨htake, hdrop⟩ := Prod.mk.inj hcut
  have hlower : scheme.toList.map Text.lowerAscii = scheme.toList :=
    (List.map_congr_left fun c hc => (h.chars c hc).2).trans (List.map_id _)
  have hcons : scheme.toList ++ ':' :: rest = first :: (tail ++ ':' :: rest) := by
    rw [htoList]
    rfl
  unfold beginsScheme at hfirst
  unfold splitScheme
  rw [hcons]
  simp only
  rw [if_pos hfirst, ← hcons, htake, hdrop]
  simp only [hlower, String.ofList_toList]

theorem IsScheme.visible {scheme : String} (h : IsScheme scheme) :
    ∀ c ∈ scheme.toList ++ [':'], 0x20 < c.toNat := by
  intro c hc
  rcases List.mem_append.1 hc with hc | hc
  · exact (of_isSchemeChar (h.chars c hc).1).2.2.1
  · rw [List.mem_singleton.1 hc]
    decide

theorem isScheme_of_isWeb {u : Url} (h : u.isWeb = true) : IsScheme u.scheme := by
  simp only [isWeb, Bool.or_eq_true, decide_eq_true_eq] at h
  rcases h with h | h <;> rw [h]
  · exact isScheme_of_splitScheme (show splitScheme "http:".toList = some ("http", []) from rfl)
  · exact isScheme_of_splitScheme (show splitScheme "https:".toList = some ("https", []) from rfl)

/-! ## Whole URLs -/

/-- What stands behind the two slashes of a scheme is read back but for the authority. -/
theorem readAbsolute_eq {u : Url} {a : Authority} {segments : List String} (h : u.Canonical)
    (ha : u.authority = some a) (hpath : u.path = .rooted segments) :
    readAbsolute u.scheme (a.written.toList ++
        ((Path.rooted segments).written.toList ++ u.tailText)) =
      (readAuthority u.scheme a.written.toList ((Path.rooted segments).written.toList ++
        u.tailText)).map fun read => { u with authority := some read } := by
  have hspecial := isSpecial_of_isWeb h.web
  obtain ⟨a', ha', hcanonical⟩ := h.authority
  obtain rfl := Option.some.inj (ha.symm.trans ha')
  obtain ⟨segments', hpath', hne, hsegments⟩ := h.path
  obtain rfl := Path.rooted.inj (hpath.symm.trans hpath')
  have hpathText := toList_written_path hne
  have hauthorityEnd : ∀ c ∈ ((Path.rooted segments).written.toList ++ u.tailText).head?,
      (!endsAuthority true c) = false := by
    rw [hpathText]
    intro c hc
    rw [← Option.some.inj (show some '/' = some c from hc)]
    rfl
  have hauthority := span_append (p := fun c => !endsAuthority true c)
    (fun c hc => by rw [(of_mem_authority hcanonical hc).2]; rfl) hauthorityEnd
  have hcut : cutPath ((Path.rooted segments).written.toList ++ u.tailText) =
      ((Path.rooted segments).written.toList, u.tailText) := by
    refine span_append (fun c hc => ?_) fun c hc => ?_
    · rw [(of_mem_path hsegments hc).2]
      rfl
    · rw [endsPath_of_mem_head?_tailText u c hc]
      rfl
  have hrest : ∀ read, withTail { scheme := u.scheme, authority := some read
                                  path := .rooted segments } u.tailText =
      { u with authority := some read } := by
    intro read
    rw [withTail]
    simp only [hspecial, readTail_tailText h]
    obtain ⟨scheme, authority, path, query, fragment⟩ := u
    simp only at hpath
    rw [hpath]
  simp only [readAbsolute, hspecial, hauthority, hcut, pathAfterAuthority_written hne hsegments,
    hrest]
  cases readAuthority u.scheme a.written.toList
    ((Path.rooted segments).written.toList ++ u.tailText) <;> rfl

/-- The characters of a canonical URL are neither blanks nor controls. -/
theorem visible_written {u : Url} (h : u.Canonical) : ∀ c ∈ u.written.toList, 0x20 < c.toNat := by
  obtain ⟨a, ha, hcanonical⟩ := h.authority
  obtain ⟨segments, hpath, -, hsegments⟩ := h.path
  intro c hc
  rw [toList_written ha hpath, ← List.singleton_append, ← List.append_assoc] at hc
  rcases List.mem_append.1 hc with hc | hc
  · exact (isScheme_of_isWeb h.web).visible c hc
  · rcases List.mem_cons.1 hc with rfl | hc
    · decide
    · rcases List.mem_cons.1 hc with rfl | hc
      · decide
      · rcases List.mem_append.1 hc with hc | hc
        · exact (of_mem_authority hcanonical hc).1
        · rcases List.mem_append.1 hc with hc | hc
          · exact (of_mem_path hsegments hc).1
          · exact of_mem_tailText h hc

/-- A canonical URL is read back but for its authority. -/
theorem ofText_written_eq {u : Url} {a : Authority} {segments : List String} (h : u.Canonical)
    (ha : u.authority = some a) (hpath : u.path = .rooted segments) :
    ofText u.written = (readAuthority u.scheme a.written.toList
        ((Path.rooted segments).written.toList ++ u.tailText)).map fun read =>
      { u with authority := some read } := by
  obtain ⟨a', ha', hcanonical⟩ := h.authority
  obtain rfl := Option.some.inj (ha.symm.trans ha')
  have htext := toList_written ha hpath
  have hwhole : u.written.toList = u.written.toList ++ [] := (List.append_nil _).symm
  obtain ⟨counted, hcounted, hnil⟩ := cleaned_append hwhole
    (by rw [htext]; exact List.append_ne_nil_of_right_ne_nil _ (List.cons_ne_nil _ _))
    (visible_written h)
  rw [hnil rfl, List.append_nil, htext] at hcounted
  obtain ⟨c, tail, hcons⟩ := List.exists_cons_of_ne_nil (toList_authority_ne_nil hcanonical)
  have hslash : isSlash true c = false := by
    have hends := (of_mem_authority hcanonical (hcons ▸ List.mem_cons_self)).2
    exact (Bool.or_eq_false_iff.1 hends).1
  have hfirst : isSlash true '/' = true := rfl
  have hslashes : ∀ rest, ('/' :: '/' :: (a.written.toList ++ rest)).takeWhile (isSlash true) =
      ['/', '/'] := by
    intro rest
    simp [hcons, hfirst, hslash]
  simp only [ofText, read, hcounted, (isScheme_of_isWeb h.web).splitScheme_append,
    readBehindScheme, if_neg (scheme_ne_file_of_isWeb h.web), isSpecial_of_isWeb h.web,
    if_true, hslashes]
  exact readAbsolute_eq h ha hpath

/-- A canonical URL is read back. -/
theorem ofText_written {u u' : Url} (h : u.Canonical) (hread : ofText u.written = .ok u') :
    u' = u := by
  obtain ⟨a, ha, hcanonical⟩ := h.authority
  obtain ⟨segments, hpath, -, -⟩ := h.path
  rw [ofText_written_eq h ha hpath] at hread
  cases hauthority : readAuthority u.scheme a.written.toList
      ((Path.rooted segments).written.toList ++ u.tailText) with
  | error fault =>
      rw [hauthority] at hread
      cases hread
  | ok a' =>
      rw [hauthority] at hread
      obtain rfl := readAuthority_written (isSpecial_of_isWeb h.web) hcanonical hauthority
      obtain rfl := Except.ok.inj hread
      obtain ⟨scheme, authority, path, query, fragment⟩ := u
      simp only at ha
      rw [ha]

/-- Whether the host of a URL, if it has one, can be read at all. -/
def Readable (u : Url) : Prop :=
  ∀ a, u.authority = some a → a.host.Readable

/-- A canonical URL is read back just if its host can be read. -/
theorem ofText_written_iff {u : Url} (h : u.Canonical) :
    ofText u.written = .ok u ↔ u.Readable := by
  obtain ⟨a, ha, hcanonical⟩ := h.authority
  obtain ⟨segments, hpath, -, -⟩ := h.path
  have hauthority := readAuthority_eq_ok_iff (isSpecial_of_isWeb h.web) hcanonical
    ((Path.rooted segments).written.toList ++ u.tailText)
  constructor
  · intro hread a' ha'
    obtain rfl := Option.some.inj (ha.symm.trans ha')
    rw [← hauthority]
    rw [ofText_written_eq h ha hpath] at hread
    cases hparsed : readAuthority u.scheme a.written.toList
        ((Path.rooted segments).written.toList ++ u.tailText) with
    | error fault =>
        rw [hparsed] at hread
        cases hread
    | ok read =>
        rw [readAuthority_written (isSpecial_of_isWeb h.web) hcanonical hparsed]
  · intro hreadable
    rw [ofText_written_eq h ha hpath, hauthority.2 (hreadable a ha)]
    obtain ⟨scheme, authority, path, query, fragment⟩ := u
    simp only at ha
    rw [ha]
    rfl

/-- A URL is read back with its scheme. -/
theorem scheme_of_ofText_written {s : String} {u u' : Url} (h : ofText s = .ok u)
    (hread : ofText u.written = .ok u') : u'.scheme = u.scheme := by
  have hscheme : IsScheme u.scheme := by
    simp only [ofText, read] at h
    split at h
    · next scheme rest hsplit =>
      rw [scheme_of_readBehindScheme h]
      exact isScheme_of_splitScheme hsplit
    · cases h
  obtain ⟨rest, hrest⟩ : ∃ rest, u.written.toList = (u.scheme.toList ++ [':']) ++ rest :=
    ⟨_, by simp [written, resource]; rfl⟩
  obtain ⟨counted, hcounted, -⟩ :=
    cleaned_append hrest (List.append_ne_nil_of_right_ne_nil _ (List.cons_ne_nil _ _))
      hscheme.visible
  rw [List.append_assoc, List.singleton_append] at hcounted
  simp only [ofText, read, hcounted, hscheme.splitScheme_append] at hread
  exact scheme_of_readBehindScheme hread

end Prospector.Url
