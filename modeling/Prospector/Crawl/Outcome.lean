import Prospector.Crawl.Link
import Prospector.Crawl.PageState
import Prospector.Crawl.Scheduler
import Prospector.Html.Printer
import Prospector.Rule.Evaluation
import Prospector.Web.Fault

/-!
# Outcomes of visits

What the visit of a page brings: the state it ends in, the classification of the page and the
addresses that the page leads on to. A page that could not be fetched has neither classification
nor links.
-/

namespace Prospector

/-- What the visit of a page brings. -/
structure Outcome where
  state : PageState
  classification : Option Classification := none
  links : List String := []
  deriving DecidableEq, Repr, Inhabited

namespace Outcome

/-- The addresses that the page at an address leads on to. -/
def linksFrom (d : Document) (url : String) : List String :=
  match Url.ofText url with
  | .ok page => Crawl.links d page
  | .error _ => []

/-- The outcome for a fetched page. -/
def ofDocument (rule : Rule) (url : String) (d : Document) : Outcome :=
  let classification := (rule.classify d).value
  { state := if classification.isSome then .classified else .unmatched
    classification
    links := linksFrom d url }

/-- The outcome of the attempt to fetch a page. -/
def ofFetched (rule : Rule) (url : String) : Fetched → Outcome
  | .page text => ofDocument rule url (Html.document text)
  | .failed fault => { state := fault.state }

/-- The outcome of the visit of a page of a site. -/
def ofVisit (site : Site) (rule : Rule) (url : String) : Outcome :=
  ofFetched rule url (site url)

/-- The outcome of a visit that broke down. -/
def breakdown : Outcome :=
  { state := .failed }

/-- The outcome without the links to pages that were visited already. -/
def without (o : Outcome) (visited : VisitedSet) : Outcome :=
  { o with links := o.links.filter fun url => !visited.contains url }

@[simp] theorem state_without (o : Outcome) (v : VisitedSet) : (o.without v).state = o.state := rfl

@[simp] theorem classification_without (o : Outcome) (v : VisitedSet) :
    (o.without v).classification = o.classification := rfl

end Outcome

end Prospector
