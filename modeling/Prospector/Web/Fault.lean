import Prospector.Crawl.PageState
import Prospector.Text.Digit

/-!
# Failed fetches

Why a page could not be fetched, and the state that its visit ends in then.
-/

namespace Prospector

/-- Why a page could not be fetched. -/
inductive FetchFault where
  | timeout
  /-- No connection came about. -/
  | refused
  /-- The request failed in another way before an answer came. -/
  | network
  | status (code : Nat)
  /-- The content could not be read to its end. -/
  | body
  deriving DecidableEq, Repr, Inhabited

namespace FetchFault

/-- The state in which the visit of the page ends. -/
def state : FetchFault → PageState
  | .status 404 | .status 410 => .deadLink
  | .status 429 => .rateLimited
  | .timeout | .refused => .unreachable
  | _ => .failed

/-- What is said about a failed fetch. -/
def message (url : String) : FetchFault → String
  | .timeout => "Request timeout for " ++ url
  | .refused | .network => "Network error for " ++ url ++ ": "
  | .status code => "HTTP " ++ String.ofList (Text.decimal code) ++ " for " ++ url
  | .body => "Failed to read body of " ++ url ++ ": "

theorem isError_state (f : FetchFault) : f.state.isError = true := by
  unfold state
  split <;> rfl

end FetchFault

/-- What comes of the attempt to fetch a page. -/
inductive Fetched where
  | page (text : String)
  | failed (fault : FetchFault)
  deriving DecidableEq, Repr, Inhabited

/-- A site: what comes of fetching each address. -/
abbrev Site := String → Fetched

end Prospector
