import Mathlib.Logic.Relation
import Mathlib.Tactic.ByContra
import PackageRegistry.Search.Run

/-! # The moves of typist, worker, clock and listener

`Run.step` lets the listener go first and then the typist, and asks the plan when a command meets
an expired deadline. `Run.Move` leaves all this open, so what holds along its moves holds of every
order in which things of one instant can happen, and of every listener, however late he reads.
-/

namespace PackageRegistry.Search

/-- The plan from when nobody listens any more. -/
def Plan.unheard {α : Type} (p : Plan α) : Plan α := { p with listening := false }

namespace Run

variable {α : Type} {p : Plan α} {r s : Run α}

/-- The listener has left, and nobody will read what he has not. -/
def left (r : Run α) : Run α := { r with unread := [] }

/-! ## Fields of a run -/

@[simp] theorem follow_clock (r : Run α) (o : Option Filters × Session) :
    (r.follow o).clock = r.clock := by
  obtain ⟨_ | _, _⟩ := o <;> rfl

@[simp] theorem follow_script (r : Run α) (o : Option Filters × Session) :
    (r.follow o).script = r.script := by
  obtain ⟨_ | _, _⟩ := o <;> rfl

@[simp] theorem follow_queue (r : Run α) (o : Option Filters × Session) :
    (r.follow o).queue = r.queue := by
  obtain ⟨_ | _, _⟩ := o <;> rfl

@[simp] theorem follow_taken (r : Run α) (o : Option Filters × Session) :
    (r.follow o).taken = r.taken := by
  obtain ⟨_ | _, _⟩ := o <;> rfl

@[simp] theorem follow_session (r : Run α) (o : Option Filters × Session) :
    (r.follow o).session = o.2 := by
  obtain ⟨_ | _, _⟩ := o <;> rfl

@[simp] theorem follow_calls (r : Run α) (o : Option Filters × Session) :
    (r.follow o).calls = r.calls ++ (o.1.map (Call.mk r.clock)).toList := by
  obtain ⟨_ | _, _⟩ := o <;> simp [follow]

@[simp] theorem follow_unread (r : Run α) (o : Option Filters × Session) :
    (r.follow o).unread = r.unread := by
  obtain ⟨_ | _, _⟩ := o <;> rfl

@[simp] theorem follow_screen (r : Run α) (o : Option Filters × Session) :
    (r.follow o).screen = r.screen := by
  obtain ⟨_ | _, _⟩ := o <;> rfl

@[simp] theorem follow_running (r : Run α) (o : Option Filters × Session) :
    (r.follow o).running = (o.1.map (Call.mk r.clock)).or r.running := by
  obtain ⟨_ | _, _⟩ := o <;> simp [follow]

theorem expired_iff : r.expired = true ↔ ∃ d, r.session.deadline = some d ∧ d ≤ r.clock := by
  unfold expired
  split <;> simp_all

theorem clock_lt_deadline {d : Millis} (hdue : r.expired = false)
    (hdeadline : r.session.deadline = some d) : r.clock < d := by
  simpa [expired, hdeadline] using hdue

/-! ## Moves -/

/-- The typist sleeps, has finished, or finds the queue full. -/
def Paused (r : Run α) : Prop :=
  r.clock < r.wake ∨ r.script = [] ∨
    (∃ c rest, r.script = .send c :: rest) ∧ capacity ≤ r.queue.length

/-- The search is not over, or its result finds no place. -/
def Kept (p : Plan α) (r : Run α) : Prop :=
  ∃ c, r.running = some c ∧ (r.clock < c.began + p.latency ∨ r.crowded p = true)

/-- The worker is kept by its search, or waits for something to take or to fall due. -/
def Waiting (p : Plan α) (r : Run α) : Prop :=
  r.Kept p ∨ r.running = none ∧ r.queue = [] ∧ r.expired = false

/-- What typist and worker can do next. Time passes only when neither can act. -/
inductive Act (p : Plan α) (r : Run α) : Run α → Prop where
  | sleep (d rest) (hawake : r.wake ≤ r.clock) (hscript : r.script = .sleep d :: rest) :
      Act p r { r with script := rest, wake := r.clock + d }
  | send (c rest) (hawake : r.wake ≤ r.clock) (hscript : r.script = .send c :: rest)
      (hroom : r.queue.length < capacity) :
      Act p r { r with script := rest, queue := r.queue ++ [c] }
  | note (text rest) (hawake : r.wake ≤ r.clock) (hscript : r.script = .note text :: rest) :
      Act p r { r with script := rest, screen := r.screen ++ [.note text] }
  | take (c rest) (hfree : r.running = none) (hqueue : r.queue = c :: rest) :
      Act p r (r.take c rest)
  | fire (hfree : r.running = none) (hdue : r.expired = true) : Act p r r.fire
  | complete (c) (hrunning : r.running = some c) (hover : c.began + p.latency ≤ r.clock)
      (hplace : r.crowded p = false) :
      Act p r (complete p r c)
  | advance (later : Run α) (hpaused : r.Paused) (hwaiting : r.Waiting p)
      (hlater : advance p r = some later) :
      Act p r later

/-- What can happen next. The listener reads whenever he likes. -/
inductive Move (p : Plan α) (r : Run α) : Run α → Prop where
  | act {s : Run α} (h : Act p r s) : Move p r s
  | read (u rest) (hunread : r.unread = u :: rest) : Move p r (r.read u rest)

/-- A run can come to `r`. -/
def Reachable (p : Plan α) (r : Run α) : Prop :=
  Relation.ReflTransGen (Move p) (.start p) r

/-- What holds at the start and survives every move holds wherever a run can come. -/
theorem Reachable.invariant {I : Run α → Prop} (h : Reachable p r) (hstart : I (.start p))
    (hmove : ∀ r s, I r → Move p r s → I s) : I r := by
  induction h with
  | refl => exact hstart
  | tail _ hlast ih => exact hmove _ _ ih hlast

/-- Nothing can happen any more. -/
def Ended (p : Plan α) (r : Run α) : Prop := ∀ s, ¬ Move p r s

/-- Nothing can happen any more unless the listener reads. -/
def Idle (p : Plan α) (r : Run α) : Prop := ∀ s, ¬ Act p r s

theorem advance_cases (h : advance p r = some s) :
    ∃ t, s = { r with clock := t } ∧ r.clock < t ∧ ∀ a ∈ alarms p r, t ≤ a := by
  obtain ⟨t, hmin, rfl⟩ := Option.map_eq_some_iff.mp h
  obtain ⟨hmem, hle⟩ := List.min?_eq_some_iff.mp hmin
  refine ⟨t, rfl, ?_, hle⟩
  simpa using (List.mem_filter.mp hmem).2

theorem advance_eq_none_iff : advance p r = none ↔ alarms p r = [] := by
  simp [advance]

/-- A search that does not end now keeps the worker. -/
theorem kept_of_not_over {c : Call} (hrunning : r.running = some c)
    (h : ¬ (c.began + p.latency ≤ r.clock ∧ r.crowded p = false)) : r.Kept p := by
  refine ⟨c, hrunning, ?_⟩
  by_contra hnot
  simp only [not_or, Nat.not_lt, Bool.not_eq_true] at hnot
  exact h hnot

/-! ## The run as one order of moves -/

theorem work_act (hpaused : r.Paused) (h : work p r = some s) : Act p r s := by
  unfold work at h
  split at h
  · rename_i c hrunning
    split at h
    · rename_i hover
      obtain rfl := Option.some.inj h
      exact .complete c hrunning hover.1 hover.2
    · rename_i hover
      exact .advance s hpaused (.inl (kept_of_not_over hrunning hover)) h
  · rename_i c rest hfree hqueue
    split at h
    · rename_i hfirst
      obtain rfl := Option.some.inj h
      exact .fire hfree (Bool.and_eq_true_iff.mp hfirst).1
    · obtain rfl := Option.some.inj h
      exact .take c rest hfree hqueue
  · rename_i hfree hqueue
    split at h
    · rename_i hdue
      obtain rfl := Option.some.inj h
      exact .fire hfree hdue
    · rename_i hdue
      exact .advance s hpaused (.inr ⟨hfree, hqueue, by simpa using hdue⟩) h

theorem act_act (h : act p r = some s) : Act p r s := by
  unfold act at h
  split at h
  · rename_i hawake
    split at h
    · rename_i d rest hscript
      obtain rfl := Option.some.inj h
      exact .sleep d rest hawake hscript
    · rename_i c rest hscript
      split at h
      · rename_i hroom
        obtain rfl := Option.some.inj h
        exact .send c rest hawake hscript hroom
      · rename_i hroom
        exact work_act (.inr (.inr ⟨⟨c, rest, hscript⟩, Nat.le_of_not_lt hroom⟩)) h
    · rename_i text rest hscript
      obtain rfl := Option.some.inj h
      exact .note text rest hawake hscript
    · rename_i hscript
      exact work_act (.inr (.inl hscript)) h
  · rename_i hawake
    exact work_act (.inl (Nat.lt_of_not_le hawake)) h

theorem step_move (h : step p r = some s) : Move p r s := by
  unfold step at h
  split at h
  · rename_i u rest hunread
    obtain rfl := Option.some.inj h
    exact .read u rest hunread
  · exact .act (act_act h)

/-! ## Ends -/

/-- Script, queue and search are over, nothing waits and nobody sleeps. -/
structure Settled (r : Run α) : Prop where
  script : r.script = []
  queue : r.queue = []
  running : r.running = none
  deadline : r.session.deadline = none
  awake : r.wake ≤ r.clock

/-- All is over, and every result has been read. -/
structure Done (r : Run α) : Prop extends r.Settled where
  unread : r.unread = []

/-- As many results wait for the listener as there are places, a search that is over waits for one
of them, and the typist has finished or waits for a place as well. -/
structure Blocked (p : Plan α) (r : Run α) : Prop where
  crowded : r.crowded p = true
  finished : ∃ c, r.running = some c ∧ c.began + p.latency ≤ r.clock
  awake : r.wake ≤ r.clock
  paused : r.Paused

theorem wake_mem_alarms (h : r.clock < r.wake) : r.wake ∈ alarms p r := by
  simp [alarms, h]

theorem deadline_mem_alarms {d : Millis} (hfree : r.running = none)
    (hdeadline : r.session.deadline = some d) (h : r.clock < d) : d ∈ alarms p r := by
  simp [alarms, hfree, hdeadline, h]

theorem running_mem_alarms {c : Call} (hrunning : r.running = some c)
    (h : r.clock < c.began + p.latency) : c.began + p.latency ∈ alarms p r := by
  simp [alarms, hrunning, h]

theorem wake_le_clock (halarms : alarms p r = []) : r.wake ≤ r.clock := by
  by_contra hlt
  have hmem := wake_mem_alarms (p := p) (Nat.lt_of_not_le hlt)
  simp [halarms] at hmem

/-- A free worker for whom no instant is left to come has nothing to do. -/
theorem settled_of_alarms_eq_nil (hfree : r.running = none) (hqueue : r.queue = [])
    (hdue : r.expired = false) (halarms : alarms p r = []) (hscript : r.script = []) :
    r.Settled := by
  refine ⟨hscript, hqueue, hfree, ?_, wake_le_clock halarms⟩
  rw [Option.eq_none_iff_forall_ne_some]
  intro d hdeadline
  have hmem := deadline_mem_alarms (p := p) hfree hdeadline (clock_lt_deadline hdue hdeadline)
  simp [halarms] at hmem

/-- A kept worker for whom no instant is left to come waits for the listener. -/
theorem Kept.blocked (h : r.Kept p) (halarms : alarms p r = []) (hpaused : r.Paused) :
    r.Blocked p := by
  obtain ⟨c, hrunning, hkept⟩ := h
  have hover : c.began + p.latency ≤ r.clock := by
    by_contra hlt
    have hmem := running_mem_alarms (p := p) hrunning (Nat.lt_of_not_le hlt)
    simp [halarms] at hmem
  have hcrowded := hkept.resolve_left (Nat.not_lt.mpr hover)
  exact ⟨hcrowded, ⟨c, hrunning, hover⟩, wake_le_clock halarms, hpaused⟩

theorem work_eq_none (h : work p r = none) : r.Waiting p ∧ alarms p r = [] := by
  unfold work at h
  split at h
  · rename_i c hrunning
    split at h
    · cases h
    · rename_i hover
      exact ⟨.inl (kept_of_not_over hrunning hover), advance_eq_none_iff.mp h⟩
  · split at h <;> cases h
  · rename_i hfree hqueue
    split at h
    · cases h
    · rename_i hdue
      exact ⟨.inr ⟨hfree, hqueue, by simpa using hdue⟩, advance_eq_none_iff.mp h⟩

theorem act_eq_none (h : act p r = none) : r.Settled ∨ r.Blocked p := by
  unfold act at h
  split at h
  · split at h
    · cases h
    · rename_i c rest hscript
      split at h
      · cases h
      · rename_i hroom
        obtain ⟨hkept | ⟨_, hqueue, _⟩, halarms⟩ := work_eq_none h
        · exact .inr (hkept.blocked halarms
            (.inr (.inr ⟨⟨c, rest, hscript⟩, Nat.le_of_not_lt hroom⟩)))
        · -- the queue is empty, so the typist could have sent
          simp [hqueue, capacity] at hroom
    · cases h
    · rename_i hscript
      obtain ⟨hkept | ⟨hfree, hqueue, hdue⟩, halarms⟩ := work_eq_none h
      · exact .inr (hkept.blocked halarms (.inr (.inl hscript)))
      · exact .inl (settled_of_alarms_eq_nil hfree hqueue hdue halarms hscript)
  · rename_i hawake
    obtain ⟨_, halarms⟩ := work_eq_none h
    exact (hawake (wake_le_clock halarms)).elim

theorem Settled.idle (h : r.Settled) : Idle p r := by
  intro s hact
  cases hact with
  | sleep d rest _ hscript => simp [h.script] at hscript
  | send c rest _ hscript => simp [h.script] at hscript
  | note text rest _ hscript => simp [h.script] at hscript
  | take c rest _ hqueue => simp [h.queue] at hqueue
  | fire _ hdue => simp [expired, h.deadline] at hdue
  | complete c hrunning => simp [h.running] at hrunning
  | advance later _ _ hlater =>
      have halarms : alarms p r = [] := by
        simp [alarms, h.running, h.deadline, h.awake]
      rw [advance_eq_none_iff.mpr halarms] at hlater
      cases hlater

/-- A paused typist who is awake neither sleeps nor notes nor sends. -/
theorem Blocked.script (h : r.Blocked p) :
    r.script = [] ∨ (∃ c rest, r.script = .send c :: rest) ∧ capacity ≤ r.queue.length :=
  h.paused.resolve_left (Nat.not_lt.mpr h.awake)

theorem Blocked.idle (h : r.Blocked p) : Idle p r := by
  obtain ⟨c, hrunning, hover⟩ := h.finished
  intro s hact
  cases hact with
  | sleep d rest _ hscript => simpa [hscript] using h.script
  | send c rest _ hscript hroom =>
      rcases h.script with hnil | ⟨_, hfull⟩
      · simp [hscript] at hnil
      · exact Nat.not_lt.mpr hfull hroom
  | note text rest _ hscript => simpa [hscript] using h.script
  | take c rest hfree => simp [hrunning] at hfree
  | fire hfree => simp [hrunning] at hfree
  | complete c _ _ hplace => simp [h.crowded] at hplace
  | advance later _ _ hlater =>
      have halarms : alarms p r = [] := by
        simp [alarms, hrunning, hover, h.awake]
      rw [advance_eq_none_iff.mpr halarms] at hlater
      cases hlater

theorem Blocked.not_unread (h : r.Blocked p) : r.unread ≠ [] := by
  intro hunread
  have hcrowded := h.crowded
  simp [Run.crowded, hunread, capacity] at hcrowded

/-- Without the listener a run comes to a stop when all is over or no place is left, and not
before. -/
theorem idle_iff : Idle p r ↔ r.Settled ∨ r.Blocked p := by
  constructor
  · intro h
    apply act_eq_none
    rw [Option.eq_none_iff_forall_ne_some]
    exact fun s hact => h s (act_act hact)
  · rintro (h | h)
    · exact h.idle
    · exact h.idle

/-- With the listener no order of moves gets stuck before all is done. -/
theorem ended_iff_done : Ended p r ↔ r.Done := by
  constructor
  · intro h
    have hidle : Idle p r := fun s hact => h s (.act hact)
    have hunread : r.unread = [] := by
      cases hu : r.unread with
      | nil => rfl
      | cons u rest => exact (h _ (.read u rest hu)).elim
    rcases idle_iff.mp hidle with hsettled | hblocked
    · exact ⟨hsettled, hunread⟩
    · exact (hblocked.not_unread hunread).elim
  · intro h s hmove
    cases hmove with
    | act hact => exact h.toSettled.idle s hact
    | read u rest hunread => simp [h.unread] at hunread

theorem step_eq_none (h : step p r = none) : r.Done := by
  unfold step at h
  split at h
  · cases h
  · rename_i hunread
    rcases act_eq_none h with hsettled | hblocked
    · exact ⟨hsettled, hunread⟩
    · exact (hblocked.not_unread hunread).elim

/-! ## Termination -/

theorem Act.weight_lt (h : Act p r s) : s.weight p < r.weight p := by
  cases h with
  | sleep d rest _ hscript =>
      have := ahead_le r.clock (r.clock + d)
      simp only [weight, hscript, List.length_cons]
      omega
  | send c rest _ hscript =>
      simp only [weight, hscript, List.length_cons, List.length_append, List.length_nil]
      omega
  | note text rest _ hscript =>
      simp only [weight, hscript, List.length_cons]
      omega
  | take c rest hfree hqueue => exact weight_take_lt p hqueue hfree
  | fire _ hdue => exact weight_fire_lt p hdue
  | complete c hrunning => exact weight_complete_lt p hrunning
  | advance later _ _ hlater => exact weight_advance_lt p hlater

theorem Move.weight_lt (h : Move p r s) : s.weight p < r.weight p := by
  cases h with
  | act hact => exact hact.weight_lt
  | read u rest hunread => exact weight_read_lt p hunread

theorem move_wellFounded (p : Plan α) : WellFounded fun s r : Run α => Move p r s :=
  Subrelation.wf Move.weight_lt (measure fun r : Run α => r.weight p).wf

/-! ## The run of a plan -/

/-- The run of the plan comes through `r`. -/
def Visits (p : Plan α) (r : Run α) : Prop :=
  Relation.ReflTransGen (fun r s => step p r = some s) (.start p) r

theorem Visits.reachable (h : Visits p r) : Reachable p r :=
  Relation.ReflTransGen.mono (fun _ _ => step_move) _ _ h

/-- The run goes on to a state that halts it, or to its end. -/
theorem finishUnless_steps (halts : Run α → Bool) (p : Plan α) (r : Run α) :
    Relation.ReflTransGen (fun r s => step p r = some s) r (finishUnless halts p r) ∧
      (halts (finishUnless halts p r) = true ∨ step p (finishUnless halts p r) = none) := by
  fun_induction finishUnless halts p r with
  | case1 r h => exact ⟨.refl, .inl h⟩
  | case2 r _ h => exact ⟨.refl, .inr h⟩
  | case3 r _ s h _ ih => exact ⟨.head h ih.1, ih.2⟩

theorem finishUnless_of_halts {halts : Run α → Bool} (h : halts r = true) :
    finishUnless halts p r = r := by
  rw [finishUnless, if_pos h]

theorem finishUnless_of_step_none {halts : Run α → Bool} (h : step p r = none) :
    finishUnless halts p r = r := by
  rw [finishUnless]
  split
  · rfl
  · split
    · rfl
    · rename_i s hs
      simp [h] at hs

theorem finishUnless_of_step_some {halts : Run α → Bool} (hhalts : halts r = false)
    (h : step p r = some s) : finishUnless halts p r = finishUnless halts p s := by
  rw [finishUnless, if_neg (by simp [hhalts])]
  split
  · rename_i hnone
    simp [h] at hnone
  · rename_i s' hs'
    rw [Option.some.inj (h.symm.trans hs')]

theorem finish_of_step_some (h : step p r = some s) : finish p r = finish p s :=
  finishUnless_of_step_some rfl h

theorem finish_steps (p : Plan α) (r : Run α) :
    Relation.ReflTransGen (fun r s => step p r = some s) r (finish p r) ∧
      step p (finish p r) = none := by
  obtain ⟨hsteps, hlast⟩ := finishUnless_steps (fun _ => false) p r
  exact ⟨hsteps, hlast.resolve_left Bool.false_ne_true⟩

theorem visits_run (p : Plan α) : Visits p p.run :=
  (finish_steps p (.start p)).1

theorem done_run (p : Plan α) : p.run.Done :=
  step_eq_none (finish_steps p (.start p)).2

end Run

end PackageRegistry.Search
