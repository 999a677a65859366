import Prospector.Proofs.Crawl.Breadth
import Prospector.Proofs.Crawl.Link
import Prospector.Proofs.Crawl.Safety

/-!
# One spelling for each page

A crawl tells pages apart by their texts. That this works is because every text it holds is the
written form of the URL that it is read as: the start is read when the crawl is set up, links are
resolved to URLs before they are compared, and both are written out again. So however references
spell a URL, the crawl has one text for it, and what it visits can be read.

Two things are taken for granted of URLs, for without them a written form could not be read at all:
the hosts of links can be read, which may fail for labels in Punycode alone, and a start of another
kind than the web is read back as it is. Of a URL of the web no less would do, by
`Url.ofText_written_iff`.

## Main definitions

* `Url.IsSpelling` : whether a text is the written form of the URL that it is read as.
* `Url.Lasting` : whether the written form of a URL read from a text can be read.
* `Site.ReadableLinks` : whether the hosts that links name can be read.
* `Session.texts` : every text that a crawl keeps.

## Main results

* `Site.Chain.exists_isSpelling` : chains of links lead to written forms.
* `Session.spelled_once` : what a crawl keeps are written forms, and it has one for each URL.
-/

namespace Prospector

namespace Url

/-- Whether a text is the written form of the URL that it is read as. -/
def IsSpelling (u : Url) (text : String) : Prop :=
  ofText text = .ok u ∧ u.written = text

/-- Whether the written form of a URL read from a text can be read: of a URL of the web its host,
and of another one the whole of it. -/
structure Lasting (u : Url) : Prop where
  host : u.isWeb = true → u.Readable
  other : u.isWeb = false → ofText u.written = .ok u

theorem Lasting.isSpelling_written {text : String} {u : Url} (h : u.Lasting)
    (hread : ofText text = .ok u) : u.IsSpelling u.written := by
  refine ⟨?_, rfl⟩
  cases hweb : u.isWeb with
  | true => exact (ofText_written_iff (canonical_of_ofText hread hweb)).2 (h.host hweb)
  | false => exact h.other hweb

/-- A text that is a written form is the one of whatever it is read as. -/
theorem IsSpelling.ofText_eq_iff {text : String} {page u : Url} (h : page.IsSpelling text)
    (hu : u.IsSpelling u.written) : ofText text = .ok u ↔ text = u.written := by
  constructor
  · intro hread
    obtain rfl := Except.ok.inj (h.1.symm.trans hread)
    exact h.2.symm
  · rintro rfl
    exact hu.1

end Url

/-- Whether the hosts that the links of a site name can be read. -/
def Site.ReadableLinks (site : Site) : Prop :=
  ∀ (page : Url) (url : String), page.IsSpelling url → ∀ text, site url = .page text →
    ∀ u ∈ Crawl.targets (Html.document text) page, u.Readable

section Links

variable {site : Site} {page : Url} {url : String}

/-- The links of a page lead to URLs of the web, which are read back. -/
theorem Site.ReadableLinks.of_mem_targets (h : site.ReadableLinks)
    (hpage : page.IsSpelling url) {text : String} (htext : site url = .page text) {u : Url}
    (hu : u ∈ Crawl.targets (Html.document text) page) :
    u.IsSpelling u.written ∧ u.isWeb = true := by
  have hcanonical : u.Canonical := Url.canonical_of_mem_targets (Url.canonical_of_ofText hpage.1) hu
  have hreadable : u.Readable := h page url hpage text htext u hu
  exact ⟨⟨(Url.ofText_written_iff hcanonical).2 hreadable, rfl⟩, hcanonical.web⟩

/-- The links of a page that is written out are those of the page. -/
theorem Url.IsSpelling.linksFrom_eq (h : page.IsSpelling url) (d : Document) :
    Outcome.linksFrom d url = Crawl.links d page := by
  simp only [Outcome.linksFrom, h.1]

/-- A chain of links leads to a written form, and behind its start to one of the web. -/
theorem Site.Chain.exists_isSpelling {start : Url} (hstart : start.IsSpelling start.written)
    (hlinks : site.ReadableLinks) {d : Nat} (h : site.Chain start.written d url) :
    ∃ u : Url, u.IsSpelling url ∧ (url = start.written ∨ u.isWeb = true) := by
  induction h with
  | start => exact ⟨start, hstart, .inl rfl⟩
  | link _ hlink ih =>
      obtain ⟨page, hpage, -⟩ := ih
      obtain ⟨text, htext, hurl⟩ := hlink
      rw [hpage.linksFrom_eq] at hurl
      obtain ⟨u, hu, rfl⟩ := List.mem_map.1 hurl
      obtain ⟨hspelling, hweb⟩ := hlinks.of_mem_targets hpage htext hu
      exact ⟨u, hspelling, .inr hweb⟩

end Links

namespace Session

/-- Every text that a crawl keeps: the pages that wait, those that ever waited, those that were
visited and those that there are findings about. -/
def texts (s : Session) : List String :=
  s.scheduler.frontier.map Entry.url ++ s.scheduler.queued ++ s.scheduler.visited.urls ++
    s.findings.byUrl.map Prod.fst

section Spelling

variable {site : Site} {rule : Rule} {start : Url} {limits : Limits} {s : Session}

/-- The texts that a crawl keeps are those of its agenda. -/
theorem Reached.mem_texts (h : Reached site rule start limits s) {url : String}
    (hurl : url ∈ s.texts) : ∃ e ∈ s.agenda, e.url = url := by
  have hdispatched : url ∈ s.dispatched.map Entry.url → ∃ e ∈ s.agenda, e.url = url := by
    intro hmem
    obtain ⟨e, he, hname⟩ := List.mem_map.1 hmem
    exact ⟨e, List.mem_append_left _ he, hname⟩
  simp only [texts, List.append_assoc, List.mem_append] at hurl
  rcases hurl with hwaits | hqueued | hvisited | hfound
  · obtain ⟨e, he, hname⟩ := List.mem_map.1 hwaits
    exact ⟨e, List.mem_append_right _ he, hname⟩
  · exact List.mem_map.1 ((h.orderly.mem_queued url).1 hqueued)
  · exact hdispatched ((h.orderly.mem_visited url).1 hvisited)
  · obtain ⟨⟨_, f⟩, hf, rfl⟩ := List.mem_map.1 hfound
    obtain ⟨⟨e, he, hname⟩, -⟩ := h.findings _ f hf
    exact hdispatched (hname ▸ List.mem_map_of_mem he)

/-- The start is on the agenda from the first moment on. -/
theorem Reached.start_mem (h : Reached site rule start limits s) :
    ⟨start.written, 0⟩ ∈ s.agenda := by
  induction h with
  | new => exact List.mem_singleton_self _
  | dispatch hreached _ ih =>
      rw [agenda_dispatch hreached.orderly]
      exact ih
  | takeIn _ _ _ ih =>
      rw [agenda_takeIn]
      exact List.mem_append_left _ ih
  | interrupt _ ih => exact ih

/-- Pages on the agenda whose texts are read alike are one. -/
theorem Reached.eq_of_ofText_eq (h : Reached site rule start limits s)
    (hspelling : ∀ e ∈ s.agenda, ∃ u : Url, u.IsSpelling e.url) {e f : Entry} (he : e ∈ s.agenda)
    (hf : f ∈ s.agenda) (heq : Url.ofText e.url = Url.ofText f.url) : e = f := by
  obtain ⟨u, hread, hwritten⟩ := hspelling e he
  obtain ⟨v, hread', hwritten'⟩ := hspelling f hf
  obtain rfl := Except.ok.inj ((hread.symm.trans heq).trans hread')
  exact List.inj_on_of_nodup_map h.orderly.distinct he hf (hwritten.symm.trans hwritten')

end Spelling

/-- Let the hosts that links name be readable, and the start as well. Whatever the site, the rule,
the limits and the text that the start is read from, and whatever happens in a crawl:

* each text that it keeps is the written form of the URL that it is read as, and this URL is one of
  the web, but for the start at most;
* what is handed out can be read, so the links of a page are always looked for;
* no URL is on the agenda twice, the start being there from the first moment on;
* however the references of pages handed out spell a URL, it is on the agenda under its written form
  alone. -/
theorem spelled_once (site : Site) (rule : Rule) (text : String) (start : Url)
    (hstart : Url.ofText text = .ok start) (hlasting : start.Lasting)
    (hlinks : site.ReadableLinks) (limits : Limits) (moves : List Move) :
    let s := (new start limits).replay site rule moves
    (∀ url ∈ s.texts, ∃ u : Url, u.IsSpelling url ∧ (url = s.start ∨ u.isWeb = true)) ∧
      (∀ e ∈ s.dispatched, ∃ page, Url.ofText e.url = .ok page ∧
        ∀ d, Outcome.linksFrom d e.url = Crawl.links d page) ∧
      (s.agenda.map fun e => Url.ofText e.url).Nodup ∧
      (∀ e ∈ s.agenda, Url.ofText e.url = .ok start → e = ⟨s.start, 0⟩) ∧
      ∀ e ∈ s.dispatched, ∀ page, Url.ofText e.url = .ok page → ∀ body, site e.url = .page body →
        ∀ u ∈ Crawl.targets (Html.document body) page, ∀ f ∈ s.agenda,
          Url.ofText f.url = .ok u ↔ f.url = u.written := by
  intro s
  have hreached : Reached site rule start limits s := reached_replay site rule start limits moves
  have hhome : start.IsSpelling start.written := hlasting.isSpelling_written hstart
  have hspelled : ∀ e ∈ s.agenda,
      ∃ u : Url, u.IsSpelling e.url ∧ (e.url = start.written ∨ u.isWeb = true) :=
    fun e he => (hreached.chain e he).exists_isSpelling hhome hlinks
  have hspelling : ∀ e ∈ s.agenda, ∃ u : Url, u.IsSpelling e.url :=
    fun e he => (hspelled e he).imp fun u hu => hu.1
  have hdistinct := hreached.orderly.distinct
  refine ⟨?_, ?_, ?_, ?_, ?_⟩
  · intro url hurl
    obtain ⟨e, he, rfl⟩ := hreached.mem_texts hurl
    rw [hreached.start_eq]
    exact hspelled e he
  · intro e he
    obtain ⟨page, hpage⟩ := hspelling e (List.mem_append_left _ he)
    exact ⟨page, hpage.1, hpage.linksFrom_eq⟩
  · refine List.Nodup.map_on (fun e he f hf => ?_) hdistinct.of_map
    exact hreached.eq_of_ofText_eq hspelling he hf
  · intro e he hread
    rw [hreached.start_eq]
    exact hreached.eq_of_ofText_eq hspelling he hreached.start_mem (hread.trans hhome.1.symm)
  · intro e he page hread body hbody u hu f hf
    obtain ⟨_, hpage⟩ := hspelling e (List.mem_append_left _ he)
    obtain rfl := Except.ok.inj (hpage.1.symm.trans hread)
    obtain ⟨_, hother⟩ := hspelling f hf
    exact hother.ofText_eq_iff (hlinks.of_mem_targets hpage hbody hu).1

/-! ## Variants -/

/-- A site whose home page names itself and one other page, the latter in two ways. -/
def variants : Site
  | "http://[::1]/" =>
    .page "<a href=HTTP://[::1]:80/x/..><a href=?a><a href=//[0:0::1]:0080/./?a>"
  | _ => .page ""

theorem readableLinks_variants : variants.ReadableLinks := by
  intro page url hpage text htext u hu
  by_cases hhome : url = "http://[::1]/"
  · have hread : Url.ofText "http://[::1]/" = .ok detourHome := by decide +kernel
    obtain rfl := Except.ok.inj (hpage.1.symm.trans (hhome ▸ hread))
    rw [hhome] at htext
    obtain rfl := Fetched.page.inj htext
    have hauthority : ∀ v ∈ Crawl.targets (Html.document
        "<a href=HTTP://[::1]:80/x/..><a href=?a><a href=//[0:0::1]:0080/./?a>") detourHome,
          v.authority = detourHome.authority := by
      decide +kernel
    intro a ha
    obtain rfl := Option.some.inj (ha.symm.trans (hauthority u hu))
    trivial
  · have hempty : text = "" := by
      unfold variants at htext
      split at htext
      · exact absurd rfl hhome
      · exact (Fetched.page.inj htext).symm
    rw [hempty, Crawl.targets_eq_nil (by decide +kernel)] at hu
    exact absurd hu List.not_mem_nil

/-- The two pages of the site are handed out once each, although the start is spelled in another way
as well. -/
theorem spelled_once_variants :
    let s := (new detourHome ⟨10, 3, 4⟩).replay variants (.oneOf [])
      [.dispatch, .settle 0, .dispatch, .settle 0]
    Url.ofText "HTTP://[0:0::1]:80/./" = .ok detourHome ∧
      s.dispatched = [⟨"http://[::1]/", 0⟩, ⟨"http://[::1]/?a", 1⟩] ∧
      (s.agenda.map fun e => Url.ofText e.url).Nodup := by
  intro s
  have hstart : Url.ofText "HTTP://[0:0::1]:80/./" = .ok detourHome := by decide +kernel
  have hlasting : detourHome.Lasting := by
    constructor
    · intro _ a ha
      obtain rfl := Option.some.inj ha
      trivial
    · intro hweb
      exact absurd hweb (by decide)
  have honce := spelled_once variants (.oneOf []) "HTTP://[0:0::1]:80/./" detourHome hstart hlasting
    readableLinks_variants ⟨10, 3, 4⟩ [.dispatch, .settle 0, .dispatch, .settle 0]
  refine ⟨hstart, ?_, honce.2.2.1⟩
  decide +kernel

end Session

end Prospector
