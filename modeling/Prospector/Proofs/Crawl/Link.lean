import Prospector.Crawl.Link
import Prospector.Proofs.Url.Roundtrip

/-!
# Where links lead

The links of a page lead to canonical URLs, for references are read relative to the root of its
server, and only URLs of the web are followed. A reference that begins with a path leads to a page
with this path, whatever query and fragment stand behind it.

## Main results

* `Url.canonical_of_mem_targets` : links lead to canonical URLs.
* `Crawl.path_of_target?` : a reference that begins with a path leads to a page with this path.
-/

namespace Prospector

namespace Url

theorem canonical_of_ofText {s : String} {u : Url} (h : ofText s = .ok u) (hweb : u.isWeb = true) :
    u.Canonical :=
  canonical_of_read h (fun _ hb => nomatch hb) hweb

/-- The page at the root of a server is canonical if another one is. -/
theorem Canonical.bare {u : Url} {a : Authority} (h : u.Canonical) (ha : u.authority = some a) :
    ({ scheme := u.scheme, authority := some { host := a.host, port := a.port }
       path := .rooted [""] } : Url).Canonical := by
  obtain ⟨a', ha', hcanonical⟩ := h.authority
  obtain rfl := Option.some.inj (ha.symm.trans ha')
  exact
    { web := h.web
      authority :=
        ⟨_, rfl, fun c hc => absurd hc List.not_mem_nil, fun p hp => (by cases hp),
          hcanonical.host, hcanonical.port⟩
      path := ⟨_, rfl, List.cons_ne_nil _ _, List.forall_mem_singleton.2 isSegment_empty⟩
      query := fun q hq => (by cases hq)
      fragment := fun f hf => (by cases hf) }

/-- The root of a server is canonical if one of its pages is. -/
theorem Canonical.root {u root : Url} (h : u.Canonical) (hroot : u.root? = some root) :
    root.Canonical := by
  obtain ⟨a, ha, -⟩ := h.authority
  have hweb := h.web
  have hblob : u.scheme ≠ "blob" := by
    intro hblob
    simp [isWeb, hblob] at hweb
  have hfile : (u.scheme != "file") = true := bne_iff_ne.2 (scheme_ne_file_of_isWeb hweb)
  rw [root?, rootWithin, if_neg hblob, hfile, isSpecial_of_isWeb hweb, ha] at hroot
  obtain rfl := Option.some.inj hroot
  exact h.bare ha

/-- The root of a server of the web is canonical, be it that of a page or of one named in a path. -/
theorem canonical_of_rootWithin {depth : Nat} {u root : Url} (hu : u.isWeb = true → u.Canonical)
    (h : u.rootWithin depth = some root) (hweb : root.isWeb = true) : root.Canonical := by
  induction depth generalizing u with
  | zero => cases h
  | succ depth ih =>
      rw [rootWithin] at h
      by_cases hblob : u.scheme = "blob"
      · rw [if_pos hblob] at h
        split at h
        · next inner hinner => exact ih (canonical_of_ofText hinner) h
        · cases h
      · rw [if_neg hblob] at h
        split at h
        · obtain ⟨a, ha, rfl⟩ := Option.map_eq_some_iff.1 h
          exact (hu hweb).bare ha
        · cases h

/-- What is read relative to a URL of another kind is no URL of the web or is read on its own. -/
theorem canonical_of_join {b u : Url} {s : String} (hb : b.isWeb = true → b.Canonical)
    (h : b.join s = .ok u) (hweb : u.isWeb = true) : u.Canonical := by
  by_cases hbase : b.isWeb = true
  · refine canonical_of_read h (fun b' hb' => ?_) hweb
    obtain rfl := Option.some.inj hb'
    exact hb hbase
  have hscheme : u.scheme ≠ b.scheme := by
    intro hsame
    rw [isWeb, hsame] at hweb
    exact hbase hweb
  simp only [join, read] at h
  split at h
  · next scheme rest hsplit =>
    have hbehind := scheme_of_readBehindScheme h
    have hfile : scheme ≠ "file" := hbehind ▸ scheme_ne_file_of_isWeb hweb
    have hspecial : isSpecial scheme = true := hbehind ▸ isSpecial_of_isWeb hweb
    have hother : b.scheme ≠ scheme := fun hsame => hscheme (hbehind.trans hsame.symm)
    simp only [readBehindScheme, if_neg hfile, hspecial, if_true, hother, decide_false,
      Bool.and_false, Bool.false_eq_true, if_false] at h
    exact canonical_of_readAbsolute h hweb
  · split at h
    · split at h
      · next hfile =>
        have hread := scheme_of_readFile (fun b' hb' => by rw [← Option.some.inj hb', hfile]) h
        exact absurd hread (scheme_ne_file_of_isWeb hweb)
      · exact absurd (scheme_of_readRelative h) hscheme
    · split at h
      · obtain rfl := Except.ok.inj h
        exact absurd rfl hscheme
      · cases h

/-- Links lead to canonical URLs, whatever the page. -/
theorem canonical_of_mem_targets {page : Url} (h : page.isWeb = true → page.Canonical)
    {d : Document} {u : Url} (hu : u ∈ Crawl.targets d page) : u.Canonical := by
  unfold Crawl.targets at hu
  split at hu
  · exact absurd hu List.not_mem_nil
  · next root hroot =>
    obtain ⟨href, -, htarget⟩ := List.mem_filterMap.1 hu
    unfold Crawl.target? at htarget
    split at htarget
    · next v hjoin =>
      split at htarget
      · next hweb =>
        obtain rfl := Option.some.inj htarget
        exact canonical_of_join (canonical_of_rootWithin h hroot) hjoin hweb
      · exact nomatch htarget
    · exact nomatch htarget

/-- Links of a canonical page lead to canonical URLs. -/
theorem Canonical.of_mem_targets {page : Url} (h : page.Canonical) {d : Document} {u : Url}
    (hu : u ∈ Crawl.targets d page) : u.Canonical :=
  canonical_of_mem_targets (fun _ => h) hu

end Url

namespace Crawl

open Url

/-- A document without anchors leads nowhere. -/
theorem targets_eq_nil {d : Document} (h : d.elements "a" = []) (page : Url) :
    targets d page = [] := by
  unfold targets
  rw [h]
  cases page.root? <;> rfl

/-- A path that a query or a fragment follows, if anything, is what counts of it, and what counts
behind it begins with the same character. -/
theorem cleaned_path_append {s : String} {segments : List String} {tail : List Char}
    (hs : s.toList = (Path.rooted segments).written.toList ++ tail) (hne : segments ≠ [])
    (hsegments : ∀ part ∈ segments, IsSegment part) (htail : ∀ c ∈ tail.head?, endsPath c = true) :
    ∃ behind, cleaned s = (Path.rooted segments).written.toList ++ behind ∧
      ∀ c ∈ behind.head?, endsPath c = true := by
  have hpath : (Path.rooted segments).written.toList ≠ [] := by
    rw [toList_written_path hne]
    exact List.cons_ne_nil _ _
  have hvisible : ∀ c ∈ (Path.rooted segments).written.toList, 0x20 < c.toNat :=
    fun c hc => (of_mem_path hsegments hc).1
  cases tail with
  | nil =>
      obtain ⟨counted, hcounted, hnil⟩ := cleaned_append hs hpath hvisible
      refine ⟨counted, hcounted, ?_⟩
      rw [hnil rfl]
      exact fun c hc => (by cases hc)
  | cons mark rest =>
      have hmark : endsPath mark = true := htail mark rfl
      have hseen : 0x20 < mark.toNat := by
        rcases Bool.or_eq_true_iff.1 hmark with h | h
        · rw [beq_iff_eq.1 h]
          decide
        · rw [beq_iff_eq.1 h]
          decide
      rw [← List.singleton_append, ← List.append_assoc] at hs
      obtain ⟨counted, hcounted, -⟩ := cleaned_append hs
        (List.append_ne_nil_of_left_ne_nil hpath _) (by
          intro c hc
          rcases List.mem_append.1 hc with hc | hc
          · exact hvisible c hc
          · rw [List.mem_singleton.1 hc]
            exact hseen)
      rw [List.append_assoc, List.singleton_append] at hcounted
      refine ⟨mark :: counted, hcounted, fun c hc => ?_⟩
      rw [← Option.some.inj (show some mark = some c from hc)]
      exact hmark

/-- What begins with one slash is a path and what stands behind it. -/
theorem path_of_readRelative {base u : Url} {segments path : List String} {c : Char}
    {chars behind : List Char} (hspecial : isSpecial base.scheme = true)
    (hpath : (Path.rooted path).written.toList = '/' :: c :: chars) (hc : isSlash true c = false)
    (hne : path ≠ []) (hsegments : ∀ s ∈ path, IsSegment s)
    (hbehind : ∀ d ∈ behind.head?, endsPath d = true)
    (h : readRelative base segments ('/' :: c :: (chars ++ behind)) = .ok u) :
    u.path = .rooted path := by
  have hslash : isSlash true '/' = true := rfl
  have hslashes : ('/' :: c :: (chars ++ behind)).takeWhile (isSlash true) = ['/'] := by
    rw [List.takeWhile_cons_of_pos hslash, List.takeWhile_cons_of_neg (Bool.eq_false_iff.1 hc)]
  have hcut : cutPath ('/' :: c :: (chars ++ behind)) = ('/' :: c :: chars, behind) := by
    show (('/' :: c :: chars) ++ behind).span _ = _
    refine span_append (fun d hd => ?_) fun d hd => ?_
    · rw [(of_mem_path hsegments (hpath ▸ hd)).2]
      rfl
    · rw [hbehind d hd]
      rfl
  have hread : pathAfterAuthority true ('/' :: c :: chars) = .rooted path := by
    rw [← hpath]
    exact pathAfterAuthority_written hne hsegments
  simp only [readRelative, hspecial, hslashes, hcut, hslash, if_true] at h
  obtain rfl := Except.ok.inj h
  exact hread

/-- A reference that begins with a path leads to a page with this path. -/
theorem path_of_target? {root u : Url} (hroot : root.Canonical) {href : String}
    {segments : List String} {tail : List Char}
    (hhref : (Text.trim href).toList = (Path.rooted segments).written.toList ++ tail)
    (hfirst : segments.head?.getD "" ≠ "") (hsegments : ∀ s ∈ segments, IsSegment s)
    (htail : ∀ c ∈ tail.head?, endsPath c = true) (h : target? root href = some u) :
    u.path = .rooted segments := by
  obtain ⟨first, rest, rfl⟩ : ∃ first rest, segments = first :: rest := by
    cases segments with
    | nil => exact absurd rfl hfirst
    | cons first rest => exact ⟨first, rest, rfl⟩
  have hne : first :: rest ≠ [] := List.cons_ne_nil first rest
  obtain ⟨c, more, hfirst⟩ : ∃ c more, first.toList = c :: more :=
    List.exists_cons_of_ne_nil (mt String.toList_eq_nil_iff.1 hfirst)
  obtain ⟨chars, hpath⟩ : ∃ chars,
      (Path.rooted (first :: rest)).written.toList = '/' :: c :: chars := by
    rw [toList_written_path hne, List.map_cons, hfirst]
    cases rest with
    | nil => exact ⟨more, by rw [List.map_nil, List.intercalate_singleton]⟩
    | cons next rest => exact ⟨_, by rw [List.map_cons, List.intercalate_cons_cons]; rfl⟩
  have hc : isSlash true c = false :=
    (hsegments first List.mem_cons_self).slashless c (hfirst ▸ List.mem_cons_self)
  obtain ⟨behind, hcleaned, hbehind⟩ := cleaned_path_append hhref hne hsegments htail
  obtain ⟨base, hbase, -, -⟩ := hroot.path
  have hnone : splitScheme ('/' :: c :: (chars ++ behind)) = none := rfl
  have hscheme := scheme_ne_file_of_isWeb hroot.web
  unfold target? join at h
  split at h
  · next v hread =>
    rw [hpath] at hcleaned
    simp only [Url.read, hcleaned, List.cons_append, hnone, segments?, hbase, if_neg hscheme]
      at hread
    split at h
    · obtain rfl := Option.some.inj h
      exact path_of_readRelative (isSpecial_of_isWeb hroot.web) hpath hc hne hsegments hbehind hread
    · cases h
  · cases h

end Crawl

end Prospector
