import PackageRegistry.Proofs.Search.Effects
import PackageRegistry.Proofs.Search.Moves

/-! # No edit of a run is lost -/

namespace PackageRegistry.Search

/-- The commands of a script, in order. -/
def commands (script : List Action) : List Command :=
  script.filterMap fun
    | .sleep _ => none
    | .send c => some c
    | .note _ => none

@[simp] theorem commands_sleep (d : Millis) (rest : List Action) :
    commands (.sleep d :: rest) = commands rest := rfl

@[simp] theorem commands_send (c : Command) (rest : List Action) :
    commands (.send c :: rest) = c :: commands rest := rfl

@[simp] theorem commands_note (text : String) (rest : List Action) :
    commands (.note text :: rest) = commands rest := rfl

@[simp] theorem Command.patch?_event (c : Command) (now : Millis) :
    (c.event now).patch? = some c.patch := by
  cases c <;> rfl

namespace Run

variable {α : Type} {p : Plan α} {r s : Run α}

/-- The patches taken so far, oldest first. -/
def patches (r : Run α) : List Patch := r.taken.map fun t => t.2.patch

/-- The books of a run: a command is taken, queued or yet to be sent, in the order of the script;
the page has every patch taken; and unless it waits, it has searched the last of them. -/
structure Accounted (p : Plan α) (r : Run α) : Prop where
  order : r.taken.map Prod.snd ++ r.queue ++ commands r.script = commands p.script
  filters : r.session.filters = p.initial.mergeAll r.patches
  synced : r.session.deadline = none →
    r.session.filters = (r.calls.map Call.filters).getLastD p.initial

theorem accounted_start (p : Plan α) : Accounted p (.start p) := by
  refine ⟨?_, ?_, fun _ => ?_⟩ <;> simp [start, Session.start, patches]

/-! ## One move -/

/-- A page that follows an event stays in step with its searches. -/
theorem synced_follow (h : Accounted p r) (e : Event) {base : Run α}
    (hcalls : base.calls = r.calls)
    (hdeadline : (base.follow (r.session.step e)).session.deadline = none) :
    (base.follow (r.session.step e)).session.filters =
      ((base.follow (r.session.step e)).calls.map Call.filters).getLastD p.initial := by
  rw [follow_session] at hdeadline ⊢
  rw [follow_calls, hcalls, List.map_append, (r.session.step_effect e).synced h.synced hdeadline,
    ← getLastD_append_toList]
  cases (r.session.step e).1 <;> rfl

theorem Accounted.take (h : Accounted p r) {c : Command} {rest : List Command}
    (hqueue : r.queue = c :: rest) : Accounted p (r.take c rest) := by
  refine ⟨?_, ?_, synced_follow h (c.event r.clock) rfl⟩
  · rw [← h.order, hqueue]
    simp [Run.take]
  · have hfilters := (r.session.step_effect (c.event r.clock)).filters_eq
    rw [h.filters] at hfilters
    simpa [Run.take, patches] using hfilters

theorem Accounted.fire (h : Accounted p r) : Accounted p r.fire := by
  refine ⟨?_, ?_, synced_follow h (.poll r.clock) rfl⟩
  · simpa [Run.fire] using h.order
  · have hfilters := (r.session.poll_effect r.clock).filters_eq
    rw [h.filters] at hfilters
    simpa [Run.fire, patches, Event.patch?] using hfilters

theorem Accounted.complete (h : Accounted p r) (c : Call) : Accounted p (complete p r c) := by
  refine ⟨h.order, ?_, ?_⟩
  · exact r.session.completed_effect.filters_eq.trans h.filters
  · exact r.session.completed_effect.synced h.synced

theorem Accounted.act (h : Accounted p r) (hact : Act p r s) : Accounted p s := by
  cases hact with
  | sleep d rest _ hscript =>
      refine ⟨?_, h.filters, h.synced⟩
      simpa [hscript] using h.order
  | send c rest _ hscript =>
      refine ⟨?_, h.filters, h.synced⟩
      simpa [hscript] using h.order
  | note text rest _ hscript =>
      refine ⟨?_, h.filters, h.synced⟩
      simpa [hscript] using h.order
  | take c rest _ hqueue => exact h.take hqueue
  | fire => exact h.fire
  | complete c => exact h.complete c
  | advance later _ _ hlater =>
      obtain ⟨t, rfl, _⟩ := advance_cases hlater
      exact ⟨h.order, h.filters, h.synced⟩

theorem Accounted.move (h : Accounted p r) (hmove : Move p r s) : Accounted p s := by
  cases hmove with
  | act hact => exact h.act hact
  | read u rest => exact ⟨h.order, h.filters, h.synced⟩

/-- Unread results, a search that runs and one that waits go back to commands taken, each to one of
its own. -/
def Answerable (r : Run α) : Prop :=
  r.unread.length + r.running.toList.length + r.session.deadline.toList.length ≤ r.taken.length

theorem length_toList_le {β : Type} (o : Option β) : o.toList.length ≤ 1 := by
  cases o <;> simp

theorem Answerable.take (h : Answerable r) (hfree : r.running = none) (c : Command)
    (rest : List Command) : Answerable (r.take c rest) := by
  have hnone := (r.session.step_effect (c.event r.clock)).deadline_isSome_iff
  have hdeadline := length_toList_le (r.session.step (c.event r.clock)).2.deadline
  simp only [Answerable, hfree, Option.toList_none, List.length_nil, Run.take, follow_unread,
    follow_running, follow_session, follow_taken, List.length_append, List.length_singleton] at h ⊢
  cases hout : (r.session.step (c.event r.clock)).1 with
  | none =>
      simp only [Option.map_none, Option.none_or, Option.toList_none, List.length_nil]
      omega
  | some f =>
      have hidle : (r.session.step (c.event r.clock)).2.deadline = none := by
        simpa [hout] using hnone
      simp only [hidle, Option.map_some, Option.some_or, Option.toList_some, Option.toList_none,
        List.length_singleton, List.length_nil]
      omega

theorem Answerable.fire (h : Answerable r) (hfree : r.running = none) (hdue : r.expired = true) :
    Answerable r.fire := by
  have heffect := r.session.poll_effect r.clock
  obtain ⟨d, hdeadline, hle⟩ := expired_iff.mp hdue
  obtain ⟨f, hout⟩ := Option.isSome_iff_exists.mp (heffect.isSome_iff.mpr ⟨d, hdeadline, hle⟩)
  have hidle : (r.session.poll r.clock).2.deadline = none := by
    simpa [hout] using heffect.deadline_isSome_iff
  simpa [Answerable, Run.fire, hfree, hdeadline, hout, hidle] using h

theorem Answerable.complete (h : Answerable r) {c : Call} (hrunning : r.running = some c) :
    Answerable (complete p r c) := by
  have hreport := length_report_le p r c
  simp only [Answerable, hrunning, Option.toList_some, List.length_singleton, Run.complete,
    deadline_completed, List.length_append, Option.toList_none, List.length_nil] at h ⊢
  omega

theorem Answerable.move (h : Answerable r) (hmove : Move p r s) : Answerable s := by
  cases hmove with
  | act hact =>
      cases hact with
      | sleep => exact h
      | send => exact h
      | note => exact h
      | take c rest hfree => exact h.take hfree c rest
      | fire hfree hdue => exact h.fire hfree hdue
      | complete c hrunning => exact h.complete hrunning
      | advance later _ _ hlater =>
          obtain ⟨t, rfl, _⟩ := advance_cases hlater
          exact h
  | read u rest hunread =>
      simp only [Answerable, hunread, List.length_cons, Run.read] at h ⊢
      omega

/-! ## Whole runs -/

theorem Accounted.moves (h : Accounted p r) (hmoves : Relation.ReflTransGen (Move p) r s) :
    Accounted p s := by
  induction hmoves with
  | refl => exact h
  | tail _ hmove ih => exact ih.move hmove

theorem Reachable.accounted (h : Reachable p r) : Accounted p r :=
  (accounted_start p).moves h

/-- Every command was taken once and in order, the page has all their patches, and it has
searched what it ended with unless that is what it began with. -/
structure Delivered (p : Plan α) (r : Run α) : Prop where
  taken : r.taken.map Prod.snd = commands p.script
  filters : r.session.filters = p.initial.mergeAll ((commands p.script).map Command.patch)
  searched : ∀ c, r.calls.getLast? = some c → c.filters = r.session.filters
  silent : r.calls = [] → r.session.filters = p.initial

theorem Accounted.delivered (h : Accounted p r) (hdone : r.Settled) : Delivered p r := by
  have htaken : r.taken.map Prod.snd = commands p.script := by
    rw [← h.order, hdone.queue, hdone.script]
    simp [commands]
  have hsynced := h.synced hdone.deadline
  refine ⟨htaken, ?_, ?_, ?_⟩
  · rw [h.filters, ← htaken, patches, List.map_map]
    rfl
  · intro c hlast
    rw [hsynced, List.getLastD_eq_getLast?, List.getLast?_map, hlast]
    rfl
  · intro hnil
    rw [hsynced, hnil]
    rfl

theorem Reachable.answerable (h : Reachable p r) : Answerable r :=
  h.invariant (by simp [Answerable, start, Session.start, Session.deadline])
    fun _ _ => Answerable.move

/-- Results without a reader fill the queue only if there are more commands than places. -/
theorem Blocked.capacity_lt_length_commands (h : r.Blocked p) (hreach : Reachable p r) :
    capacity < (commands p.script).length := by
  obtain ⟨c, hrunning, _⟩ := h.finished
  have hfull : capacity ≤ r.unread.length := by
    have hcrowded := h.crowded
    simp only [Run.crowded, Bool.and_eq_true, decide_eq_true_eq] at hcrowded
    exact hcrowded.2
  have hanswerable := hreach.answerable
  rw [Answerable, hrunning, Option.toList_some, List.length_singleton] at hanswerable
  calc
    capacity < r.taken.length := by omega
    _ = (r.taken.map Prod.snd).length := (List.length_map _).symm
    _ ≤ (commands p.script).length := by
      rw [← hreach.accounted.order, List.append_assoc, List.length_append]
      exact Nat.le_add_right _ _

theorem Accounted.unheard (h : Accounted p r) : Accounted p.unheard r.left :=
  ⟨h.order, h.filters, h.synced⟩

theorem Delivered.of_unheard (h : Delivered p.unheard r) : Delivered p r :=
  ⟨h.taken, h.filters, h.searched, h.silent⟩

/-- A run ends in whatever order its moves are made, however late the listener reads and wherever
he leaves, and what has ended has lost no edit. A listener who stays and reads no more holds it up
only with all places taken, which takes more commands than there are places. -/
theorem run_loses_no_edit (p : Plan α) :
    (Visits p p.run ∧ p.run.Done ∧ Delivered p p.run) ∧
    (WellFounded fun s r : Run α => Move p r s) ∧
    (∀ r, Reachable p r → Ended p r → r.Done ∧ Delivered p r) ∧
    (∀ r s, Reachable p r → Relation.ReflTransGen (Move p.unheard) r.left s →
      Idle p.unheard s → s.Settled ∧ Delivered p s) ∧
    ∀ r, Reachable p r → Idle p r →
      r.Settled ∧ Delivered p r ∨ r.Blocked p ∧ capacity < (commands p.script).length := by
  have hdelivered : ∀ r : Run α, Reachable p r → r.Settled → Delivered p r :=
    fun r hreach hsettled => hreach.accounted.delivered hsettled
  refine ⟨⟨visits_run p, done_run p, ?_⟩, move_wellFounded p, ?_, ?_, ?_⟩
  · exact hdelivered p.run (visits_run p).reachable (done_run p).toSettled
  · intro r hreach hended
    have hdone := ended_iff_done.mp hended
    exact ⟨hdone, hdelivered r hreach hdone.toSettled⟩
  · intro r s hreach hmoves hidle
    rcases idle_iff.mp hidle with hsettled | hblocked
    · have hbooks := hreach.accounted.unheard.moves hmoves
      exact ⟨hsettled, (hbooks.delivered hsettled).of_unheard⟩
    · -- a result that nobody listens for needs no place
      have hcrowded := hblocked.crowded
      simp [crowded, Plan.unheard] at hcrowded
  · intro r hreach hidle
    rcases idle_iff.mp hidle with hsettled | hblocked
    · exact .inl ⟨hsettled, hdelivered r hreach hsettled⟩
    · exact .inr ⟨hblocked, hblocked.capacity_lt_length_commands hreach⟩

end Run

end PackageRegistry.Search
