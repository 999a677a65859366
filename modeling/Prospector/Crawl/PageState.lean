/-!
# How pages end

The state in which the visit of a page ends, and the tally of the states of many pages.
-/

namespace Prospector

/-- The state in which the visit of a page ends. -/
inductive PageState where
  /-- The page was fetched and a rule matched it. -/
  | classified
  /-- The page was fetched and no rule matched it. -/
  | unmatched
  /-- The page is gone. -/
  | deadLink
  /-- The server asks for fewer requests. -/
  | rateLimited
  /-- The server cannot be reached or does not answer in time. -/
  | unreachable
  /-- The page could not be fetched for any other reason. -/
  | failed
  deriving DecidableEq, Repr, Inhabited

namespace PageState

/-- All states, in the order of display. -/
def all : List PageState :=
  [.classified, .unmatched, .deadLink, .rateLimited, .unreachable, .failed]

/-- Whether the page was fetched. -/
def isSuccess : PageState → Bool
  | .classified | .unmatched => true
  | _ => false

/-- Whether the page was not fetched. -/
def isError (s : PageState) : Bool :=
  !s.isSuccess

/-- The name of a state. -/
def name : PageState → String
  | .classified => "classified"
  | .unmatched => "unmatched"
  | .deadLink => "dead_link"
  | .rateLimited => "rate_limited"
  | .unreachable => "unreachable"
  | .failed => "failed"

theorem mem_all (s : PageState) : s ∈ all := by
  cases s <;> decide

end PageState

/-- The states of the pages whose visit has ended, the last one first. -/
structure Tally where
  states : List PageState := []
  deriving DecidableEq, Repr, Inhabited

namespace Tally

/-- The tally with one more page. -/
def record (t : Tally) (s : PageState) : Tally :=
  ⟨s :: t.states⟩

/-- How many pages ended in a state. -/
def count (t : Tally) (s : PageState) : Nat :=
  t.states.count s

/-- How many pages ended. -/
def total (t : Tally) : Nat :=
  t.states.length

/-- How many pages ended in an error state. -/
def errors (t : Tally) : Nat :=
  t.states.countP PageState.isError

@[simp] theorem total_record (t : Tally) (s : PageState) : (t.record s).total = t.total + 1 := rfl

theorem count_record_self (t : Tally) (s : PageState) : (t.record s).count s = t.count s + 1 := by
  simp [record, count]

theorem count_record_of_ne {s u : PageState} (t : Tally) (h : s ≠ u) :
    (t.record s).count u = t.count u := by
  simp [record, count, h]

end Tally

end Prospector
