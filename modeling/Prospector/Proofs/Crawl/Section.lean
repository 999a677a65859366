import Prospector.Proofs.Crawl.Breadth
import Prospector.Proofs.Text.Escape
import Prospector.Proofs.Crawl.Link

/-!
# The section that a crawl stays in

A crawl is meant to stay in the section of a site that it starts in: the path of every page it hands
out should contain the path of the start, percent encoding undone and letter case left aside. What
it looks at is not the path of the page that a link leads to, but the reference as it is written,
so a mention of the path in a query, in a fragment or before dot segments leads out of the section.
The crawl does stay in the section if, of each page it follows a link to, the path would pass the
test that the reference has passed, and the paths are such that their written form says what they
contain.

## Main definitions

* `Crawl.LiesUnder` : whether the path of a page contains the path of another one.
* `Crawl.IsLegible` : whether the written form of a path says what the path contains.
* `Crawl.NamesPath` : whether a reference begins with a path that passes the test.
* `Site.LinksByPath` : whether the pages that links lead to pass it.

## Main results

* `Crawl.liesUnder_of_isWithin` : what passes the test of a page with its path lies under the page.
* `Site.linksByPath_of_namesPath` : references that are paths lead where they say.
* `Session.stays_in_section` : when a crawl stays in its section.
* `Session.not_stays_in_section_mention` : a crawl leaves its section through a query.
-/

namespace Prospector

namespace Crawl

/-! ## Paths compared -/

/-- A path as it is compared: percent encoding undone, in lower case. -/
def comparedPath? (u : Url) : Option String :=
  (Text.decodeUtf8? (Text.percentDecode u.path.written.toList)).map Text.lower

/-- Whether the path of a URL contains the path of a page, percent encoding undone and letter case
left aside. -/
def LiesUnder (u page : Url) : Prop :=
  ∃ part whole, comparedPath? page = some part ∧ comparedPath? u = some whole ∧
    part.toList <:+: whole.toList

/-- Whether the written form of a path says what the path contains: percent signs begin escapes, the
escapes write a text, and in that text there is neither a capital sigma, whose form in lower case
depends on what stands around it, nor a percent sign, which would look like an escape itself. -/
structure IsLegible (path : Url.Path) : Prop where
  escaped : Text.isEscaped path.written.toList = true
  text : ∃ s, Text.decodeUtf8? (Text.percentDecode path.written.toList) = some s ∧
    'Σ' ∉ s.toList ∧ '%' ∉ (Text.lower s).toList

theorem IsLegible.liesUnder_self {u : Url} (h : IsLegible u.path) : LiesUnder u u := by
  obtain ⟨s, hs, -, -⟩ := h.text
  have hpath : comparedPath? u = some (Text.lower s) := by
    rw [comparedPath?, hs]
    rfl
  exact ⟨_, _, hpath, hpath, List.infix_refl _⟩

theorem LiesUnder.trans {u v page : Url} (h : LiesUnder u v) (hpage : LiesUnder v page) :
    LiesUnder u page := by
  obtain ⟨middle, whole, hv, hu, hwhole⟩ := h
  obtain ⟨part, middle', hp, hv', hpart⟩ := hpage
  obtain rfl := Option.some.inj (hv.symm.trans hv')
  exact ⟨part, whole, hp, hu, hpart.trans hwhole⟩

/-- A canonical path begins with a slash and is ASCII text. -/
theorem of_canonical_path {u : Url} (h : u.Canonical) :
    u.path.written.toList.head? = some '/' ∧ ∀ c ∈ u.path.written.toList, c.toNat < 128 := by
  obtain ⟨segments, hpath, hne, hsegments⟩ := h.path
  rw [hpath, Url.toList_written_path hne]
  refine ⟨rfl, fun c hc => ?_⟩
  rcases List.mem_cons.1 hc with rfl | hc
  · decide
  · rcases Text.mem_intercalate hc with rfl | ⟨part, hpart, hc⟩
    · decide
    · obtain ⟨s, hs, rfl⟩ := List.mem_map.1 hpart
      exact ((hsegments s hs).spared c hc).1

theorem mem_sectionPaths {page : Url} {form : String} (h : form ∈ sectionPaths page) :
    page.path.written = "/" ∨ form = Text.lower page.path.written ∨
      comparedPath? page = some form := by
  simp only [sectionPaths] at h
  split at h
  · next hroot => exact .inl hroot
  · rcases List.mem_cons.1 h with rfl | h
    · exact .inr (.inl rfl)
    · obtain ⟨hform, -⟩ := Option.filter_eq_some_iff.1 (Option.mem_toList.1 h)
      exact .inr (.inr hform)

/-- What passes the test of a page with its path, and not just with the reference to it, lies under
the page. -/
theorem liesUnder_of_isWithin {u page : Url} (hu : u.Canonical) (hpage : page.Canonical)
    (hlegible : IsLegible page.path) (hlegible' : IsLegible u.path)
    (h : isWithin (sectionPaths page) u.path.written = true) : LiesUnder u page := by
  obtain ⟨s, hs, hsigma, hpercent⟩ := hlegible.text
  obtain ⟨t, ht, -, -⟩ := hlegible'.text
  have hcompared : comparedPath? page = some (Text.lower s) := by
    rw [comparedPath?, hs]
    rfl
  refine ⟨_, Text.lower t, hcompared, by rw [comparedPath?, ht]; rfl, ?_⟩
  obtain ⟨hslash, hascii⟩ := of_canonical_path hpage
  obtain ⟨hslash', hascii'⟩ := of_canonical_path hu
  have hbytes := Text.utf8Of_of_decodeUtf8? hs
  have hbytes' := Text.utf8Of_of_decodeUtf8? ht
  have hwritten : page.path.written.toList.map Text.lowerAscii <:+:
      u.path.written.toList.map Text.lowerAscii →
        (Text.lower s).toList <:+: (Text.lower t).toList :=
    Text.lower_unescaped_infix hslash hlegible.escaped hbytes hsigma hbytes'
  obtain ⟨form, hform, hcontains⟩ := List.any_eq_true.1 h
  have hinfix := Text.occursIn_iff.1 hcontains
  rw [Text.lower_of_ascii hascii'] at hinfix
  rcases mem_sectionPaths hform with hroot | rfl | hdecoded
  · apply hwritten
    obtain ⟨rest, hrest⟩ := List.head?_eq_some_iff.1 hslash'
    rw [hroot, hrest]
    exact (List.prefix_append ['/'] (rest.map Text.lowerAscii)).isInfix
  · rw [Text.lower_of_ascii hascii] at hinfix
    exact hwritten hinfix
  · obtain rfl := Option.some.inj (hcompared.symm.trans hdecoded)
    have hhead := Text.head?_lower (Text.head?_of_utf8Of hslash hbytes)
    exact Text.lower_infix_of_not_mem hhead hpercent hascii' hbytes' hinfix

/-- Whether a reference begins with a legible path, which a query or a fragment may follow, and it
is in this path that one of the given texts occurs. -/
structure NamesPath (forms : List String) (href : String) (segments : List String)
    (tail : List Char) : Prop where
  text : (Text.trim href).toList = (Url.Path.rooted segments).written.toList ++ tail
  first : segments.head?.getD "" ≠ ""
  segment : ∀ s ∈ segments, Url.IsSegment s
  tail : ∀ c ∈ tail.head?, Url.endsPath c = true
  legible : IsLegible (.rooted segments)
  within : isWithin forms (Url.Path.rooted segments).written = true

/-- A reference that names a path leads to a page whose path passes the same test. -/
theorem NamesPath.of_target? {forms : List String} {href : String} {segments : List String}
    {tail : List Char} (h : NamesPath forms href segments tail) {root u : Url}
    (hroot : root.Canonical) (hu : target? root href = some u) :
    IsLegible u.path ∧ isWithin forms u.path.written = true := by
  rw [path_of_target? hroot h.text h.first h.segment h.tail hu]
  exact ⟨h.legible, h.within⟩

end Crawl

/-- Whether every link that is followed from a page under the start leads to a page with a legible
path, which itself passes the test that the reference to it has passed. -/
def Site.LinksByPath (site : Site) (start : Url) : Prop :=
  ∀ page : Url, page.Canonical → Crawl.LiesUnder page start →
    ∀ text, site page.written = .page text →
      ∀ u ∈ Crawl.targets (Html.document text) page,
        Crawl.IsLegible u.path ∧ Crawl.isWithin (Crawl.sectionPaths page) u.path.written = true

/-- A site links by paths if the references that are followed name paths. -/
theorem Site.linksByPath_of_namesPath {site : Site} {start : Url}
    (h : ∀ page : Url, page.Canonical → Crawl.LiesUnder page start →
      ∀ text, site page.written = .page text →
        ∀ anchor ∈ (Html.document text).elements "a", ∀ href, anchor.attr "href" = some href →
          Crawl.isWithin (Crawl.sectionPaths page) href = true →
            ∃ segments tail, Crawl.NamesPath (Crawl.sectionPaths page) href segments tail) :
    site.LinksByPath start := by
  intro page hpage hunder text hfetched u hu
  unfold Crawl.targets at hu
  split at hu
  · exact absurd hu List.not_mem_nil
  · next root hroot =>
    obtain ⟨href, hhref, htarget⟩ := List.mem_filterMap.1 hu
    obtain ⟨hhref, hwithin⟩ := List.mem_filter.1 hhref
    obtain ⟨anchor, hanchor, hattr⟩ := List.mem_filterMap.1 hhref
    obtain ⟨segments, tail, hnames⟩ :=
      h page hpage hunder text hfetched anchor hanchor href hattr hwithin
    exact hnames.of_target? (hpage.root hroot) htarget

namespace Session

open Crawl

section Confinement

variable {site : Site} {start : Url}

/-- A link of a page in the section of the start leads to a page in the section, if its path passes
the test that the reference has passed. -/
theorem liesUnder_of_linksFrom {page : Url} (hpage : page.Canonical)
    (hlegible : IsLegible page.path) (hstart : LiesUnder page start) {d : Document}
    (hlinks : ∀ u ∈ targets d page,
      IsLegible u.path ∧ isWithin (sectionPaths page) u.path.written = true)
    {url : String} (hurl : url ∈ Outcome.linksFrom d page.written) :
    ∃ u : Url, u.Canonical ∧ u.written = url ∧ IsLegible u.path ∧ LiesUnder u start := by
  unfold Outcome.linksFrom at hurl
  split at hurl
  · next page' hread =>
    obtain rfl := Url.ofText_written hpage hread
    obtain ⟨u, hu, rfl⟩ := List.mem_map.1 hurl
    obtain ⟨hlegible', hwithin⟩ := hlinks u hu
    have hcanonical := hpage.of_mem_targets hu
    have hunder := liesUnder_of_isWithin hcanonical hpage hlegible hlegible' hwithin
    exact ⟨u, hcanonical, rfl, hlegible', hunder.trans hstart⟩
  · exact absurd hurl List.not_mem_nil

/-- The pages of a chain of links lie in the section of the start. -/
theorem liesUnder_of_chain (hstart : start.Canonical) (hlegible : IsLegible start.path)
    (hlinks : site.LinksByPath start) {d : Nat} {url : String}
    (h : site.Chain start.written d url) :
    ∃ u : Url, u.Canonical ∧ u.written = url ∧ IsLegible u.path ∧ LiesUnder u start := by
  induction h with
  | start => exact ⟨start, hstart, rfl, hlegible, hlegible.liesUnder_self⟩
  | link _ hlink ih =>
      obtain ⟨page, hpage, rfl, hlegible', hunder⟩ := ih
      obtain ⟨text, hfetched, hurl⟩ := hlink
      exact liesUnder_of_linksFrom hpage hlegible' hunder
        (hlinks page hpage hunder text hfetched) hurl

end Confinement

/-- If a site links by paths, then, whatever the rule, the limits and the order in which visits end,
and wherever the crawl is interrupted, every page handed out lies under the start. -/
theorem stays_in_section (site : Site) (rule : Rule) (text : String) (start : Url)
    (hstart : Url.ofText text = .ok start) (hweb : start.isWeb = true)
    (hlegible : IsLegible start.path) (hlinks : site.LinksByPath start) (limits : Limits)
    (order : Order) (stop : Session → Bool) :
    ∀ e ∈ ((new start limits).runUntil site rule order stop).2.dispatched,
      ∃ u : Url, u.Canonical ∧ u.written = e.url ∧ LiesUnder u start := by
  intro e he
  have hreached : Reached site rule start limits
      ((new start limits).runUntil site rule order stop).2 := Reached.new.runUntil order stop
  have hchain := hreached.chain e (List.mem_append_left _ he)
  obtain ⟨u, hu, hurl, -, hunder⟩ :=
    liesUnder_of_chain (Url.canonical_of_ofText hstart hweb) hlegible hlinks hchain
  exact ⟨u, hu, hurl, hunder⟩

/-! ## Mentions -/

/-- The home page of a section. -/
def sectionHome : Url :=
  { scheme := "http"
    authority := some { host := .eight [0, 0, 0, 0, 0, 0, 0, 1] }
    path := .rooted ["cat", ""] }

/-- A site whose pages mention their section in queries, before dot segments and in fragments. -/
def mention : Site
  | "http://[::1]/cat/" =>
    .page "<a href=/other?from=/cat/><a href=/cat/../other><a href=/#/cat/>"
  | "http://[::1]/#/cat/" => .page "<a href=b>"
  | _ => .page ""

theorem run_mention :
    ((new sectionHome ⟨10, 3, 1⟩).run mention (.oneOf []) inTurn).dispatched.map Entry.url =
      ["http://[::1]/cat/", "http://[::1]/other?from=/cat/", "http://[::1]/other",
        "http://[::1]/#/cat/", "http://[::1]/b"] := by
  have hcourse :
      let s := course mention (.oneOf []) inTurn 12 (new sectionHome ⟨10, 3, 1⟩)
      s.isFinished = true ∧ s.dispatched.map Entry.url =
      ["http://[::1]/cat/", "http://[::1]/other?from=/cat/", "http://[::1]/other",
        "http://[::1]/#/cat/", "http://[::1]/b"] := by
    decide +kernel
  rw [run_eq_course 12 hcourse.1]
  exact hcourse.2

/-- A crawl that starts in a section leaves it through a query, through dot segments and through a
fragment, and behind the last it follows links to anywhere. -/
theorem not_stays_in_section_mention :
    ¬∀ e ∈ ((new sectionHome ⟨10, 3, 1⟩).run mention (.oneOf []) inTurn).dispatched,
      ∃ u : Url, u.Canonical ∧ u.written = e.url ∧ LiesUnder u sectionHome := by
  intro hstays
  have hdispatched : "http://[::1]/b" ∈
      ((new sectionHome ⟨10, 3, 1⟩).run mention (.oneOf []) inTurn).dispatched.map Entry.url := by
    rw [run_mention]
    decide
  obtain ⟨e, he, hurl⟩ := List.mem_map.1 hdispatched
  obtain ⟨u, hu, hwritten, hunder⟩ := hstays e he
  have hread : Url.ofText "http://[::1]/b" = .ok { sectionHome with path := .rooted ["b"] } := by
    decide +kernel
  rw [← hurl, ← hwritten] at hread
  obtain rfl := Url.ofText_written hu hread
  obtain ⟨part, whole, hpart, hwhole, hinfix⟩ := hunder
  have hhome : comparedPath? sectionHome = some "/cat/" := by decide +kernel
  have hother : comparedPath? { sectionHome with path := .rooted ["b"] } = some "/b" := by
    decide +kernel
  obtain rfl := Option.some.inj (hhome.symm.trans hpart)
  obtain rfl := Option.some.inj (hother.symm.trans hwhole)
  exact absurd hinfix.length_le (by decide)

/-- A site whose home page names pages of its section, with a query and a fragment behind their
paths, and a page elsewhere. -/
def shelf : Site
  | "http://[::1]/cat/" => .page "<a href=/cat/x?y><a href=/Cat/%41#z><a href=/b>"
  | _ => .page ""

theorem linksByPath_shelf : shelf.LinksByPath sectionHome := by
  intro page hpage _ text htext u hu
  by_cases hhome : page.written = "http://[::1]/cat/"
  · have hread : Url.ofText "http://[::1]/cat/" = .ok sectionHome := by decide +kernel
    obtain rfl := Url.ofText_written hpage (hhome ▸ hread)
    rw [hhome] at htext
    obtain rfl := Fetched.page.inj htext
    have htargets : targets (Html.document "<a href=/cat/x?y><a href=/Cat/%41#z><a href=/b>")
        sectionHome =
          [{ sectionHome with path := .rooted ["cat", "x"], query := some "y" },
            { sectionHome with path := .rooted ["Cat", "%41"], fragment := some "z" }] := by
      decide +kernel
    rw [htargets] at hu
    rcases List.mem_pair.1 hu with rfl | rfl
    · exact ⟨⟨by decide +kernel, "/cat/x", by decide +kernel⟩, by decide +kernel⟩
    · exact ⟨⟨by decide +kernel, "/Cat/A", by decide +kernel⟩, by decide +kernel⟩
  · have hempty : text = "" := by
      unfold shelf at htext
      split at htext
      · next hwritten => exact absurd hwritten hhome
      · exact (Fetched.page.inj htext).symm
    rw [hempty, targets_eq_nil (by decide +kernel)] at hu
    exact absurd hu List.not_mem_nil

/-- On the shelf a crawl stays in its section, and hands out three pages. -/
theorem stays_in_section_shelf :
    let s := ((new sectionHome ⟨10, 3, 1⟩).runUntil shelf (.oneOf []) inTurn fun _ => false).2
    s.dispatched.map Entry.url =
        ["http://[::1]/cat/", "http://[::1]/cat/x?y", "http://[::1]/Cat/%41#z"] ∧
      ∀ e ∈ s.dispatched,
        ∃ u : Url, u.Canonical ∧ u.written = e.url ∧ LiesUnder u sectionHome := by
  have hhome : Url.ofText "http://[::1]/cat/" = .ok sectionHome := by decide +kernel
  have hlegible : IsLegible sectionHome.path :=
    ⟨by decide +kernel, "/cat/", by decide +kernel⟩
  have hcourse :
      let s := course shelf (.oneOf []) inTurn 8 (new sectionHome ⟨10, 3, 1⟩)
      s.isFinished = true ∧ s.dispatched.map Entry.url =
        ["http://[::1]/cat/", "http://[::1]/cat/x?y", "http://[::1]/Cat/%41#z"] := by
    decide +kernel
  refine ⟨?_, stays_in_section shelf (.oneOf []) "http://[::1]/cat/" sectionHome hhome (by decide)
    hlegible linksByPath_shelf ⟨10, 3, 1⟩ inTurn fun _ => false⟩
  show ((new sectionHome ⟨10, 3, 1⟩).run shelf (.oneOf []) inTurn).dispatched.map Entry.url = _
  rw [run_eq_course 8 hcourse.1]
  exact hcourse.2

end Session

end Prospector
