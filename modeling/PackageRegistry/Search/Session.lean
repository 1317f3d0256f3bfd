import PackageRegistry.Filter

/-!
When an edit of the filters becomes a search. Typing waits for a quiet period; a changed control
and an explicit submission search at once and take a waiting query along.
-/

namespace PackageRegistry.Search

/-- Times and durations, in milliseconds. -/
abbrev Millis := Nat

inductive Phase where
  | idle
  /-- A query edit waits for its deadline. -/
  | pending (deadline : Millis)
  | dispatching
deriving DecidableEq, Repr

/-- The filters of one search page and the timing of its searches. -/
structure Session where
  filters : Filters
  phase : Phase
  quiescence : Millis
deriving DecidableEq, Repr

namespace Session

def start (filters : Filters) (quiescence : Millis) : Session := ⟨filters, .idle, quiescence⟩

/-- When the waiting search is due. -/
def deadline (s : Session) : Option Millis :=
  match s.phase with
  | .pending d => some d
  | _ => none

/-- Begins a search with the filters as they are. -/
def dispatch (s : Session) : Option Filters × Session :=
  (some s.filters, { s with phase := .dispatching })

/-- An edit of the page. The filters come back when they are to be searched at once; a query edit
starts the quiet period, and one that changes nothing still prolongs it. -/
def edit (s : Session) (p : Patch) (now : Millis) : Option Filters × Session :=
  let next := { s with filters := s.filters.merge p }
  match Trigger.classify s.filters next.filters with
  | .immediate => next.dispatch
  | .debounced => (none, { next with phase := .pending (now + s.quiescence) })
  | .unchanged =>
    match p.query, s.phase with
    | some _, .pending _ => (none, { next with phase := .pending (now + s.quiescence) })
    | _, _ => (none, next)

/-- An explicit submission searches at once. -/
def submit (s : Session) (p : Patch) : Option Filters × Session :=
  { s with filters := s.filters.merge p }.dispatch

/-- Fires the waiting search once its deadline has passed. -/
def poll (s : Session) (now : Millis) : Option Filters × Session :=
  match s.phase with
  | .pending d => if d ≤ now then s.dispatch else (none, s)
  | _ => (none, s)

/-- The running search has finished; a query edit made meanwhile keeps waiting. -/
def completed (s : Session) : Session :=
  match s.phase with
  | .dispatching => { s with phase := .idle }
  | _ => s

end Session

/-- Something that happens to a search page. -/
inductive Event where
  | edit (p : Patch) (now : Millis)
  | submit (p : Patch)
  | poll (now : Millis)
  | completed
deriving Repr

namespace Session

/-- The filters to search, if any, and the page after an event. -/
def step (s : Session) : Event → Option Filters × Session
  | .edit p now => s.edit p now
  | .submit p => s.submit p
  | .poll now => s.poll now
  | .completed => (none, s.completed)

/-- What each event of a run gives, and the page after it. -/
def trace (s : Session) : List Event → List (Option Filters × Session)
  | [] => []
  | e :: es => s.step e :: (s.step e).2.trace es

end Session

end PackageRegistry.Search
