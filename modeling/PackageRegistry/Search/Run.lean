import PackageRegistry.Search.Session

/-!
A search page at work on a clock. A typist sends edits and submissions through a queue of sixteen
places and waits while it is full; a worker takes them one by one, searches when the session says
so, and takes nothing until the result of its search has found a place in a second queue of
sixteen, from which a listener reads. When the typist is done and the first queue is empty, a
waiting search still fires before the page closes. Every step lowers a weight, so each run ends.
-/

namespace PackageRegistry.Search

/-- What the worker takes from the queue. -/
inductive Command where
  | edit (p : Patch)
  | submit (p : Patch)
deriving DecidableEq, Repr

/-- What the typist does next. -/
inductive Action where
  | sleep (duration : Millis)
  | send (c : Command)
  /-- Puts a remark on the screen, past both queues. -/
  | note (text : String)
deriving DecidableEq, Repr

namespace Command

def patch : Command → Patch
  | .edit p => p
  | .submit p => p

/-- What a command asks of the session at an instant. -/
def event (now : Millis) : Command → Event
  | .edit p => .edit p now
  | .submit p => .submit p

end Command

/-- What is given to a run: how long to wait for quiet, how long a search takes, what the searches
answer, what the typist does, whether somebody listens for results or has turned away from them,
and for each meeting of a command with an expired deadline whether the command goes first. -/
structure Plan (α : Type) where
  quiescence : Millis
  latency : Millis
  initial : Filters
  answer : Nat → Filters → α
  script : List Action
  listening : Bool
  commandFirst : Nat → Bool

/-- A search and when it began. -/
structure Call where
  began : Millis
  filters : Filters
deriving DecidableEq, Repr

/-- A result made known to the listener. -/
structure Update (α : Type) where
  published : Millis
  filters : Filters
  outcome : α
deriving DecidableEq, Repr

/-- What comes to the screen: a remark of the typist, or a result that the listener has read. -/
inductive Shown (α : Type) where
  | note (text : String)
  | result (u : Update α)
deriving DecidableEq, Repr

/-- The same update with another outcome. -/
def Update.map {α β : Type} (g : α → β) (u : Update α) : Update β :=
  { u with outcome := g u.outcome }

def Shown.map {α β : Type} (g : α → β) : Shown α → Shown β
  | .note text => .note text
  | .result u => .result (u.map g)

/-- A run in progress: the clock, the typist (what is left of the script, and until when to sleep),
the queue, the session, the running search (it runs until its result has a place among the unread
ones), and what has happened so far. -/
structure Run (α : Type) where
  clock : Millis
  script : List Action
  wake : Millis
  queue : List Command
  session : Session
  running : Option Call
  taken : List (Millis × Command)
  calls : List Call
  updates : List (Update α)
  unread : List (Update α)
  screen : List (Shown α)

/-- The places of the command queue, and those of the queue of results. -/
def capacity : Nat := 16

namespace Run

variable {α : Type}

def start (p : Plan α) : Run α where
  clock := 0
  script := p.script
  wake := 0
  queue := []
  session := .start p.initial p.quiescence
  running := none
  taken := []
  calls := []
  updates := []
  unread := []
  screen := []

/-- Goes on with what the session gave: a search begins when filters came back. -/
def follow (r : Run α) : Option Filters × Session → Run α
  | (none, session) => { r with session }
  | (some filters, session) =>
    { r with
      session
      running := some ⟨r.clock, filters⟩
      calls := r.calls ++ [⟨r.clock, filters⟩] }

/-- Takes the first command of the queue. -/
def take (r : Run α) (c : Command) (rest : List Command) : Run α :=
  { r with queue := rest, taken := r.taken ++ [(r.clock, c)] }.follow
    (r.session.step (c.event r.clock))

/-- Lets the waiting search fire. -/
def fire (r : Run α) : Run α := r.follow (r.session.poll r.clock)

/-- What the listener is told of a search that ends now. -/
def report (p : Plan α) (r : Run α) (c : Call) : List (Update α) :=
  if p.listening then [⟨r.clock, c.filters, p.answer (r.calls.length - 1) c.filters⟩] else []

/-- Ends the running search and makes its result known. -/
def complete (p : Plan α) (r : Run α) (c : Call) : Run α :=
  { r with
    session := r.session.completed
    running := none
    updates := r.updates ++ report p r c
    unread := r.unread ++ report p r c }

/-- Whether no place is left for a result. A result that nobody listens for needs none. -/
def crowded (p : Plan α) (r : Run α) : Bool := p.listening && capacity ≤ r.unread.length

/-- Takes the oldest result that has not been read, and shows it. -/
def read (r : Run α) (u : Update α) (rest : List (Update α)) : Run α :=
  { r with unread := rest, screen := r.screen ++ [.result u] }

/-- Whether a waiting search is due. -/
def expired (r : Run α) : Bool :=
  match r.session.deadline with
  | some d => d ≤ r.clock
  | none => false

/-- The later instants at which something can happen. -/
def alarms (p : Plan α) (r : Run α) : List Millis :=
  (r.wake ::
    match r.running with
    | some c => [c.began + p.latency]
    | none => r.session.deadline.toList).filter (r.clock < ·)

/-- Moves the clock to the next instant at which something can happen, if there is one. -/
def advance (p : Plan α) (r : Run α) : Option (Run α) :=
  (alarms p r).min?.map fun t => { r with clock := t }

/-- Whether a result of a kind is on the screen. -/
def shows (kind : α → Bool) (r : Run α) : Bool :=
  r.screen.any fun
    | .note _ => false
    | .result u => kind u.outcome

/-- What the worker does; with nothing to do, time passes. -/
def work (p : Plan α) (r : Run α) : Option (Run α) :=
  match r.running, r.queue with
  | some c, _ =>
    if c.began + p.latency ≤ r.clock ∧ r.crowded p = false then some (complete p r c)
    else advance p r
  | none, c :: rest =>
    if r.expired && !p.commandFirst (r.taken.length + r.calls.length) then some r.fire
    else some (r.take c rest)
  | none, [] => if r.expired then some r.fire else advance p r

/-- The typist acts when awake, else the worker does. -/
def act (p : Plan α) (r : Run α) : Option (Run α) :=
  if r.wake ≤ r.clock then
    match r.script with
    | .sleep d :: rest => some { r with script := rest, wake := r.clock + d }
    | .send c :: rest =>
      if r.queue.length < capacity then some { r with script := rest, queue := r.queue ++ [c] }
      else work p r
    | .note text :: rest => some { r with script := rest, screen := r.screen ++ [.note text] }
    | [] => work p r
  else work p r

/-- One step: the listener reads what there is to read before anybody else acts. Nothing follows
the end. -/
def step (p : Plan α) (r : Run α) : Option (Run α) :=
  match r.unread with
  | u :: rest => some (r.read u rest)
  | [] => act p r

/-- One if an instant is still to come. -/
def ahead (clock t : Millis) : Nat := if clock < t then 1 else 0

/-- The part of the weight that stands for a waiting search. -/
def pendingWeight (clock : Millis) : Option Millis → Nat
  | some d => 4 + ahead clock d
  | none => 0

/-- The part of the weight that stands for a running search. -/
def runningWeight (clock latency : Millis) : Option Call → Nat
  | some c => 2 + ahead clock (c.began + latency)
  | none => 0

/-- How much is left to do at most. -/
def weight (p : Plan α) (r : Run α) : Nat :=
  12 * r.script.length + 8 * r.queue.length + pendingWeight r.clock r.session.deadline +
    runningWeight r.clock p.latency r.running + ahead r.clock r.wake + r.unread.length

theorem ahead_le (clock t : Millis) : ahead clock t ≤ 1 := by
  unfold ahead; split <;> omega

theorem ahead_mono {clock later : Millis} (t : Millis) (h : clock ≤ later) :
    ahead later t ≤ ahead clock t := by
  by_cases hl : later < t
  · simp [ahead, hl, Nat.lt_of_le_of_lt h hl]
  · simp [ahead, hl]

theorem ahead_lt {clock t : Millis} (h : clock < t) : ahead t t < ahead clock t := by
  simp [ahead, h]

theorem pendingWeight_le (clock : Millis) (d : Option Millis) : pendingWeight clock d ≤ 5 := by
  cases d with
  | none => simp [pendingWeight]
  | some d => have := ahead_le clock d; simp only [pendingWeight]; omega

theorem pendingWeight_mono {clock later : Millis} (d : Option Millis) (h : clock ≤ later) :
    pendingWeight later d ≤ pendingWeight clock d := by
  cases d with
  | none => exact Nat.le_refl _
  | some d => have := ahead_mono d h; simp only [pendingWeight]; omega

theorem runningWeight_mono {clock later : Millis} (latency : Millis) (c : Option Call)
    (h : clock ≤ later) :
    runningWeight later latency c ≤ runningWeight clock latency c := by
  cases c with
  | none => exact Nat.le_refl _
  | some c => have := ahead_mono (c.began + latency) h; simp only [runningWeight]; omega

theorem deadline_completed (s : Session) : s.completed.deadline = s.deadline := by
  unfold Session.completed Session.deadline
  cases h : s.phase <;> simp [h]

/-- No search waits once one has begun. -/
theorem deadline_of_step_some {s : Session} {e : Event} {f : Filters}
    (h : (s.step e).1 = some f) : (s.step e).2.deadline = none := by
  cases e with
  | edit q now =>
    simp only [Session.step, Session.edit] at h ⊢
    split at h
    · simp [Session.dispatch, Session.deadline]
    · simp at h
    · split at h <;> simp at h
  | submit q => simp [Session.step, Session.submit, Session.dispatch, Session.deadline]
  | poll now =>
    simp only [Session.step, Session.poll] at h ⊢
    split at h
    · rename_i d hd
      split at h
      · simp [*, Session.dispatch, Session.deadline]
      · simp at h
    · simp at h
  | completed => simp [Session.step] at h

theorem weight_follow_some (p : Plan α) (r : Run α) (f : Filters) (s : Session)
    (hs : s.deadline = none) :
    (r.follow (some f, s)).weight p ≤
      12 * r.script.length + 8 * r.queue.length + 3 + ahead r.clock r.wake +
        r.unread.length := by
  have := ahead_le r.clock (r.clock + p.latency)
  simp only [follow, weight, pendingWeight, runningWeight, hs]
  omega

theorem weight_follow_none (p : Plan α) (r : Run α) (s : Session) (h : r.running = none) :
    (r.follow (none, s)).weight p ≤
      12 * r.script.length + 8 * r.queue.length + 5 + ahead r.clock r.wake +
        r.unread.length := by
  have := pendingWeight_le r.clock s.deadline
  simp only [follow, weight, runningWeight, h]
  omega

theorem weight_follow_step (p : Plan α) (r : Run α) (s : Session) (e : Event)
    (h : r.running = none) :
    (r.follow (s.step e)).weight p ≤
      12 * r.script.length + 8 * r.queue.length + 5 + ahead r.clock r.wake +
        r.unread.length := by
  match he : s.step e with
  | (none, t) => exact weight_follow_none p r t h
  | (some f, t) =>
    have ht : t.deadline = none := by
      have := deadline_of_step_some (s := s) (e := e) (f := f) (by rw [he])
      rwa [he] at this
    exact Nat.le_trans (weight_follow_some p r f t ht) (by omega)

theorem weight_take_lt (p : Plan α) {r : Run α} {c : Command} {rest : List Command}
    (hq : r.queue = c :: rest) (hr : r.running = none) :
    (r.take c rest).weight p < r.weight p := by
  have h := weight_follow_step p
    { r with queue := rest, taken := r.taken ++ [(r.clock, c)] } r.session (c.event r.clock) hr
  refine Nat.lt_of_le_of_lt h ?_
  simp only [weight, hq, List.length_cons]
  omega

theorem weight_fire_lt (p : Plan α) {r : Run α} (he : r.expired = true) :
    r.fire.weight p < r.weight p := by
  unfold expired at he
  cases hd : r.session.deadline with
  | none => simp [hd] at he
  | some d =>
    have hle : d ≤ r.clock := by simpa [hd] using he
    have hp : r.session.phase = .pending d := by
      unfold Session.deadline at hd
      split at hd <;> simp_all
    have hpoll : r.session.poll r.clock = r.session.dispatch := by
      simp [Session.poll, hp, hle]
    have h := weight_follow_some p r r.session.filters r.session.dispatch.2 rfl
    unfold fire
    rw [hpoll]
    refine Nat.lt_of_le_of_lt h ?_
    simp only [weight, hd, pendingWeight]
    omega

theorem length_report_le (p : Plan α) (r : Run α) (c : Call) : (report p r c).length ≤ 1 := by
  unfold report
  split <;> simp

theorem weight_complete_lt (p : Plan α) {r : Run α} {c : Call} (hr : r.running = some c) :
    (complete p r c).weight p < r.weight p := by
  have hreport := length_report_le p r c
  simp only [weight, complete, deadline_completed, hr, runningWeight, List.length_append]
  omega

theorem weight_advance_lt (p : Plan α) {r s : Run α} (h : advance p r = some s) :
    s.weight p < r.weight p := by
  obtain ⟨t, ht, rfl⟩ := Option.map_eq_some_iff.1 h
  obtain ⟨hin, hlt⟩ := List.mem_filter.1 (List.min?_mem ht)
  have hlt : r.clock < t := by simpa using hlt
  have hle : r.clock ≤ t := Nat.le_of_lt hlt
  have hwake := ahead_mono r.wake hle
  have hpend := pendingWeight_mono r.session.deadline hle
  have hrun := runningWeight_mono p.latency r.running hle
  have hone := ahead_lt hlt
  simp only [weight]
  rcases List.mem_cons.1 hin with hw | hin
  · rw [← hw] at hwake ⊢
    omega
  · cases hr : r.running with
    | some c =>
      rw [hr] at hin
      have hc : t = c.began + p.latency := by simpa using hin
      simp only [runningWeight, ← hc]
      omega
    | none =>
      rw [hr] at hin
      have hd : r.session.deadline = some t := by simpa using hin
      simp only [pendingWeight, hd, runningWeight]
      omega

theorem weight_work_lt (p : Plan α) {r s : Run α} (h : work p r = some s) :
    s.weight p < r.weight p := by
  unfold work at h
  split at h
  · rename_i hr
    split at h
    · obtain rfl := Option.some.inj h
      exact weight_complete_lt p hr
    · exact weight_advance_lt p h
  · rename_i c rest hr hq
    split at h
    · rename_i he
      obtain rfl := Option.some.inj h
      exact weight_fire_lt p (Bool.and_eq_true_iff.1 he).1
    · obtain rfl := Option.some.inj h
      exact weight_take_lt p hq hr
  · split at h
    · rename_i he
      obtain rfl := Option.some.inj h
      exact weight_fire_lt p he
    · exact weight_advance_lt p h

theorem weight_read_lt (p : Plan α) {r : Run α} {u : Update α} {rest : List (Update α)}
    (hu : r.unread = u :: rest) : (r.read u rest).weight p < r.weight p := by
  simp only [weight, read, hu, List.length_cons]
  omega

theorem weight_act_lt (p : Plan α) {r s : Run α} (h : act p r = some s) :
    s.weight p < r.weight p := by
  unfold act at h
  split at h
  · split at h
    · rename_i d rest hs
      obtain rfl := Option.some.inj h
      have := ahead_le r.clock (r.clock + d)
      simp only [weight, hs, List.length_cons]
      omega
    · rename_i c rest hs
      split at h
      · obtain rfl := Option.some.inj h
        simp only [weight, hs, List.length_cons, List.length_append, List.length_nil]
        omega
      · exact weight_work_lt p h
    · rename_i text rest hs
      obtain rfl := Option.some.inj h
      simp only [weight, hs, List.length_cons]
      omega
    · exact weight_work_lt p h
  · exact weight_work_lt p h

/-- Every step leaves less to do. -/
theorem weight_step_lt (p : Plan α) {r s : Run α} (h : step p r = some s) :
    s.weight p < r.weight p := by
  unfold step at h
  split at h
  · rename_i u rest hu
    obtain rfl := Option.some.inj h
    exact weight_read_lt p hu
  · exact weight_act_lt p h

/-- The run from here to the first state that halts it, or to its end. -/
def finishUnless (halts : Run α → Bool) (p : Plan α) (r : Run α) : Run α :=
  if halts r then r
  else
    match h : step p r with
    | none => r
    | some s =>
      have : s.weight p < r.weight p := weight_step_lt p h
      finishUnless halts p s
termination_by r.weight p

/-- The run from here to its end. -/
def finish (p : Plan α) (r : Run α) : Run α := finishUnless (fun _ => false) p r

end Run

namespace Plan

/-- The whole run of a plan, at its end. -/
def run {α : Type} (p : Plan α) : Run α := Run.finish p (.start p)

/-- The run of a plan up to the first state that halts it. -/
def runUnless {α : Type} (halts : Run α → Bool) (p : Plan α) : Run α :=
  Run.finishUnless halts p (.start p)

end Plan

end PackageRegistry.Search
