import Prospector.Proofs.Crawl.Section
import Prospector.Proofs.Url.Path

/-!
# Anchors that mention the path of their page

An anchor whose reference mentions the path of its page, as it is written or with its percent
encoding undone, should be followed. The two are compared in lower case, in which the path may read
otherwise by itself than within the reference: a capital sigma at the end of a word is a different
one there if the word goes on. Any other mention is followed, and what anchors lead to is kept in
their order, as often as they name it.

## Main definitions

* `Crawl.Mentions` : whether a reference mentions the path of a page, no word being cut.
* `Crawl.follow?` : the page that an anchor leads on to.

## Main results

* `Crawl.follows_mentions` : anchors that mention the path of their page are followed.
* `Crawl.not_follows_cut` : an anchor is not followed where the path ends within a word.
-/

namespace Prospector.Crawl

/-- Whether a reference mentions the path of a page: any does on the page at the root; else it
contains the path as it is written, or with its percent encoding undone and not so that a word which
a capital sigma ends in the path goes on behind it. -/
inductive Mentions (page : Url) (href : String) : Prop where
  | root (h : page.path.written = "/")
  | written (h : page.path.written.toList <:+: href.toList)
  | decoded {s : String} {before behind : List Char}
      (hs : Text.decodeUtf8? (Text.percentDecode page.path.written.toList) = some s)
      (h : href.toList = before ++ s.toList ++ behind)
      (hcut : ¬Text.CutsWord false s.toList behind)

/-- The page that an anchor leads on to from a page, whose server has the given root. -/
def follow? (page root : Url) (anchor : Element) : Option Url :=
  match anchor.attr "href" with
  | some href => if isWithin (sectionPaths page) href then target? root href else none
  | none => none

/-! ## Mentions are found -/

theorem isWithin_of_mem {forms : List String} {form href : String} (hform : form ∈ forms)
    (h : form.toList <:+: (Text.lower href).toList) : isWithin forms href = true :=
  List.any_eq_true.2 ⟨form, hform, Text.occursIn_iff.2 h⟩

/-- The path in lower case is searched for as it is written. -/
theorem lower_mem_sectionPaths {page : Url} (h : page.path.written ≠ "/") :
    Text.lower page.path.written ∈ sectionPaths page := by
  unfold sectionPaths
  rw [if_neg h]
  exact List.mem_cons_self

/-- The path in lower case is searched for with its percent encoding undone. -/
theorem mem_sectionPaths_of_comparedPath? {page : Url} (h : page.path.written ≠ "/")
    {form : String} (hform : comparedPath? page = some form) : form ∈ sectionPaths page := by
  unfold comparedPath? at hform
  unfold sectionPaths
  rw [if_neg h]
  by_cases hsame : form = Text.lower page.path.written
  · rw [hsame]
    exact List.mem_cons_self
  · refine List.mem_cons_of_mem _ (Option.mem_toList.2 (Option.filter_eq_some_iff.2 ⟨hform, ?_⟩))
    exact bne_iff_ne.2 hsame

/-- What a path stands for begins as the path does. -/
theorem beginsPlainly_decoded {path : List Char} (h : Url.BeginsPlainly path) {s : String}
    (hs : Text.decodeUtf8? (Text.percentDecode path) = some s) : Url.BeginsPlainly s.toList := by
  have hbytes := Text.utf8Of_of_decodeUtf8? hs
  cases hpath : path.head? with
  | none =>
      rw [List.head?_eq_none_iff.1 hpath] at hs
      obtain rfl := Option.some.inj hs
      exact fun c hc => (by cases hc)
  | some c =>
      intro d hd
      have hfirst := Text.head?_of_utf8Of_of_ne (h c hpath).1 hpath hbytes
      obtain rfl := Option.some.inj (hfirst.symm.trans hd)
      exact h c hpath

/-- A mention of the path is found. -/
theorem Mentions.isWithin {page root : Url} {href : String} (h : Mentions page href)
    (hpage : page.IsRead) (hroot : page.root? = some root) :
    isWithin (sectionPaths page) href = true := by
  have hsound := hpage.hasSoundPath
  have hbegins := hsound.beginsPlainly hroot
  by_cases hhome : page.path.written = "/"
  · have hempty : "" ∈ sectionPaths page := by
      unfold sectionPaths
      rw [if_pos hhome]
      exact List.mem_cons_self
    exact isWithin_of_mem hempty List.nil_infix
  · cases h with
    | root h => exact absurd h hhome
    | written h =>
        refine isWithin_of_mem (lower_mem_sectionPaths hhome) ?_
        have hsigma : 'Σ' ∉ page.path.written.toList :=
          fun hmem => absurd (hsound.ascii _ hmem) (by decide)
        rw [Text.lower, Text.lower, String.toList_ofList, String.toList_ofList]
        exact Text.lowerFrom_infix h hsigma false false
    | decoded hs h hcut =>
        next s before behind =>
        have hcompared : comparedPath? page = some (Text.lower s) := by
          rw [comparedPath?, hs]
          rfl
        refine isWithin_of_mem (mem_sectionPaths_of_comparedPath? hhome hcompared) ?_
        rw [Text.lower, Text.lower, String.toList_ofList, String.toList_ofList, h]
        have hstart := beginsPlainly_decoded hbegins hs
        cases hchars : s.toList with
        | nil => exact List.nil_infix
        | cons c cs =>
            rw [hchars] at hcut hstart
            obtain ⟨-, hsigma, hcounts⟩ := hstart c rfl
            exact Text.lowerFrom_infix_of_not_cutsWord hsigma hcounts hcut false before

/-! ## Mentions are followed -/

theorem links_eq_follow? {page root : Url} (hroot : page.root? = some root) (d : Document) :
    links d page = ((d.elements "a").filterMap (follow? page root)).map Url.written := by
  rw [links, targets]
  simp only [hroot]
  rw [List.filterMap_filter, List.filterMap_filterMap]
  congr 2
  funext anchor
  unfold follow?
  cases anchor.attr "href" with
  | none => rfl
  | some href => rfl

/-- On a page that belongs to a server, every anchor that mentions the path of the page, and whose
reference leads from the root of the server to a page of the web, leads on to that page; and what
anchors lead on to is listed in their order, for each of them once. -/
theorem follows_mentions (d : Document) (page root : Url) (hpage : page.IsRead)
    (hroot : page.root? = some root) :
    links d page = ((d.elements "a").filterMap (follow? page root)).map Url.written ∧
      ∀ anchor ∈ d.elements "a", ∀ href, anchor.attr "href" = some href → Mentions page href →
        ∀ u, root.join (Text.trim href) = .ok u → u.isWeb = true →
          follow? page root anchor = some u := by
  refine ⟨links_eq_follow? hroot d, ?_⟩
  intro anchor _ href hhref hmentions u hjoin hweb
  have hwithin := hmentions.isWithin hpage hroot
  rw [follow?, hhref]
  simp only [hwithin, target?, hjoin, hweb, if_true]

/-- A page whose path ends in a capital sigma. -/
def sigmaPage : Url :=
  { scheme := "http"
    authority := some { host := .eight [0, 0, 0, 0, 0, 0, 0, 1] }
    path := .rooted ["a%CE%A3"] }

/-- An anchor with a reference. -/
def anchorTo (href : String) : Element :=
  { attr := fun name => if name = "href" then some href else none
    chunks := []
    markup := "" }

/-- Anchors that mention the path of their page before a slash are followed, each of them. -/
theorem follows_mentions_sigma :
    let d : Document := ⟨fun _ => [anchorTo "/aΣ/b", anchorTo "/b", anchorTo "/aΣ/b"]⟩
    let root : Url := { sigmaPage with path := .rooted [""] }
    let u : Url := { sigmaPage with path := .rooted ["a%CE%A3", "b"] }
    links d sigmaPage = [u.written, u.written] ∧
      follow? sigmaPage root (anchorTo "/aΣ/b") = some u := by
  intro d root u
  have hread : Url.ofText "http://[::1]/aΣ" = .ok sigmaPage := by decide +kernel
  obtain ⟨hlinks, hfollows⟩ :=
    follows_mentions d sigmaPage root (.alone hread) (by decide +kernel)
  have hpath : Text.decodeUtf8? (Text.percentDecode sigmaPage.path.written.toList) =
      some "/aΣ" := by
    decide +kernel
  have hslash : ¬Text.CutsWord false "/aΣ".toList "/b".toList := by
    rintro ⟨_, _, -, -, -, hletter⟩
    exact absurd hletter (by decide)
  have hmentions : Mentions sigmaPage "/aΣ/b" :=
    .decoded hpath (show _ = [] ++ "/aΣ".toList ++ "/b".toList from rfl) hslash
  have hfollowed : follow? sigmaPage root (anchorTo "/aΣ/b") = some u :=
    hfollows (anchorTo "/aΣ/b") List.mem_cons_self "/aΣ/b" rfl hmentions u (by decide +kernel)
      (by decide)
  have hother : follow? sigmaPage root (anchorTo "/b") = none := by decide +kernel
  refine ⟨?_, hfollowed⟩
  rw [hlinks]
  show ([anchorTo "/aΣ/b", anchorTo "/b", anchorTo "/aΣ/b"].filterMap _).map _ = _
  simp only [List.filterMap_cons, List.filterMap_nil, hfollowed, hother, List.map_cons,
    List.map_nil]

/-- An anchor is not followed although its reference contains the path of its page, if the path ends
in a capital sigma and a letter follows in the reference. -/
theorem not_follows_cut :
    ¬∀ root, sigmaPage.root? = some root →
      ∀ anchor ∈ (Html.document "<a href=/aΣb>").elements "a", ∀ href path,
        anchor.attr "href" = some href →
        Text.decodeUtf8? (Text.percentDecode sigmaPage.path.written.toList) = some path →
        path.toList <:+: href.toList →
        ∀ u, root.join (Text.trim href) = .ok u → u.isWeb = true →
          u.written ∈ links (Html.document "<a href=/aΣb>") sigmaPage := by
  intro hfollows
  have hlinks : links (Html.document "<a href=/aΣb>") sigmaPage = [] := by decide +kernel
  have hanchors : ((Html.document "<a href=/aΣb>").elements "a").map (fun e => e.attr "href") =
      [some "/aΣb"] := by
    decide +kernel
  obtain ⟨anchor, hanchor, hhref⟩ :=
    List.mem_map.1 (hanchors ▸ List.mem_singleton_self (some "/aΣb"))
  have hmem := hfollows { sigmaPage with path := .rooted [""] } (by decide +kernel) anchor hanchor
    "/aΣb" "/aΣ" hhref (by decide +kernel) ⟨[], ['b'], rfl⟩
    { sigmaPage with path := .rooted ["a%CE%A3b"] } (by decide +kernel) (by decide)
  rw [hlinks] at hmem
  exact absurd hmem List.not_mem_nil

end Prospector.Crawl
