import Prospector.Crawl.Outcome

/-!
# Chains of links

What can be reached from a page by following links. A page leads on to an address if it can be
fetched and one of its links names the address. A page that cannot be fetched leads nowhere, so a
chain of links ends there.

## Main definitions

* `Site.LeadsTo` : one link.
* `Site.Chain` : a chain of links of a given length.
-/

namespace Prospector.Site

/-- Whether a page can be fetched and has a link to an address. -/
def LeadsTo (site : Site) (page url : String) : Prop :=
  ∃ text, site page = .page text ∧ url ∈ Outcome.linksFrom (Html.document text) page

/-- `site.Chain start d url` says that a chain of exactly `d` links leads from `start` to `url`. -/
inductive Chain (site : Site) (start : String) : Nat → String → Prop
  | start : Chain site start 0 start
  | link {d : Nat} {page url : String} :
      Chain site start d page → site.LeadsTo page url → Chain site start (d + 1) url

theorem Chain.eq_start {site : Site} {start url : String} (h : site.Chain start 0 url) :
    url = start := by
  cases h
  rfl

/-- The links of a visit are those that the page leads on to, whatever the rule. -/
theorem leadsTo_iff (site : Site) (rule : Rule) (page url : String) :
    site.LeadsTo page url ↔ url ∈ (Outcome.ofVisit site rule page).links := by
  unfold LeadsTo Outcome.ofVisit
  cases hsite : site page with
  | page text => simp [Outcome.ofFetched, Outcome.ofDocument]
  | failed fault => simp [Outcome.ofFetched]

end Prospector.Site
