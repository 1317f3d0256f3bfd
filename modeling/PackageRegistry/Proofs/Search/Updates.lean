import PackageRegistry.Proofs.Search.Views

/-! # The updates of a run

Every search is reported once, when it is over or when there is a place for its result. What it
found, and whether anybody listens, changes nothing else: the run without its updates is the run of
the plan without a listener, if the listener always leaves a place free.
-/

namespace PackageRegistry.Search

variable {α β : Type}

/-- What an update says besides its time. -/
def Update.content (u : Update α) : Filters × α := (u.filters, u.outcome)

/-- The result on the screen, if it is one. -/
def Shown.result? : Shown α → Option (Update α)
  | .note _ => none
  | .result u => some u

/-- The remark on the screen, if it is one. -/
def Shown.remark? : Shown α → Option (Shown β)
  | .note text => some (.note text)
  | .result _ => none

/-- No updates, and only remarks on the screen. -/
def View.mute : View α Unit := ⟨fun _ => [], List.filterMap Shown.remark?⟩

namespace Plan

/-- The same plan with other answers, and with or without a listener. -/
def withOutcomes (p : Plan α) (answer : Nat → Filters → β) (listening : Bool) : Plan β :=
  { p with answer, listening }

/-- The plan without answers and listener. -/
def muted (p : Plan α) : Plan Unit := p.withOutcomes (fun _ _ => ()) false

@[simp] theorem muted_withOutcomes (p : Plan α) (answer : Nat → Filters → β) (listening : Bool) :
    (p.withOutcomes answer listening).muted = p.muted := rfl

/-- What a listener is told about searches that are over: of each one its filters and its answer,
when it has taken its time. -/
def reports (p : Plan α) (calls : List Call) : List (Update α) :=
  if p.listening then
    calls.mapIdx fun i c => ⟨c.began + p.latency, c.filters, p.answer i c.filters⟩
  else []

theorem reports_concat (p : Plan α) (calls : List Call) (c : Call) :
    p.reports (calls ++ [c]) = p.reports calls ++
      if p.listening then [⟨c.began + p.latency, c.filters, p.answer calls.length c.filters⟩]
      else [] := by
  unfold reports
  split
  · rw [List.mapIdx_concat]
  · rfl

end Plan

namespace Run

variable {p : Plan α} {r s : Run α}

/-! ## Listeners -/

/-- A move with which the listener keeps up: time passes only if a result would find a place. -/
def AttendedMove (p : Plan α) (r s : Run α) : Prop :=
  Move p r s ∧ (r.clock < s.clock → r.crowded p = false)

/-- A run whose listener keeps up can come to `r`. -/
def Attended (p : Plan α) (r : Run α) : Prop :=
  Relation.ReflTransGen (AttendedMove p) (.start p) r

theorem Attended.reachable (h : Attended p r) : Reachable p r :=
  Relation.ReflTransGen.mono (fun _ _ hmove => hmove.1) _ _ h

theorem crowded_of_unread_eq_nil (h : r.unread = []) : r.crowded p = false := by
  simp [crowded, h, capacity]

theorem step_attended (h : step p r = some s) : AttendedMove p r s := by
  refine ⟨step_move h, fun hlt => ?_⟩
  unfold step at h
  split at h
  · obtain rfl := Option.some.inj h
    exact (Nat.lt_irrefl _ hlt).elim
  · rename_i hunread
    exact crowded_of_unread_eq_nil hunread

theorem Visits.attended (h : Visits p r) : Attended p r :=
  Relation.ReflTransGen.mono (fun _ _ => step_attended) _ _ h

/-! ## Searches and reports -/

@[simp] theorem follow_updates (r : Run α) (o : Option Filters × Session) :
    (r.follow o).updates = r.updates := by
  obtain ⟨_ | _, _⟩ := o <;> rfl

/-- All searches but the running one have been reported, as far as a view of the updates goes. -/
def Reported {γ : Type} (view : Update α → γ) (p : Plan α) (r : Run α) : Prop :=
  ∃ past, r.calls = past ++ r.running.toList ∧ r.updates.map view = (p.reports past).map view

section

variable {γ : Type} {view : Update α → γ}

theorem reported_start (view : Update α → γ) (p : Plan α) : Reported view p (.start p) :=
  ⟨[], rfl, by simp [start, Plan.reports]⟩

theorem Reported.updates_eq (h : Reported view p r) (hfree : r.running = none) :
    r.updates.map view = (p.reports r.calls).map view := by
  obtain ⟨past, hcalls, hupdates⟩ := h
  rw [hupdates, hcalls, hfree]
  simp

theorem Reported.follow (h : Reported view p r) (hfree : r.running = none)
    (o : Option Filters × Session) : Reported view p (r.follow o) := by
  refine ⟨r.calls, ?_, ?_⟩
  · simp [hfree]
  · rw [follow_updates, h.updates_eq hfree]

/-- The time of a report is its search's own, as far as the view tells times apart. -/
theorem Reported.complete (h : Reported view p r) {c : Call} (hrunning : r.running = some c)
    (hview : ∀ f a, view ⟨r.clock, f, a⟩ = view ⟨c.began + p.latency, f, a⟩) :
    Reported view p (complete p r c) := by
  obtain ⟨past, hcalls, hupdates⟩ := h
  have hlast : r.calls = past ++ [c] := by simpa [hrunning] using hcalls
  refine ⟨r.calls, by simp [Run.complete], ?_⟩
  rw [hlast, Plan.reports_concat, List.map_append, ← hupdates, Run.complete, List.map_append,
    report]
  by_cases hlistening : p.listening = true
  · rw [if_pos hlistening, if_pos hlistening, hlast]
    simp [hview]
  · rw [if_neg hlistening, if_neg hlistening]

theorem Reported.move (h : Reported view p r) (hmove : Move p r s)
    (hview : ∀ c, r.running = some c → c.began + p.latency ≤ r.clock →
      ∀ f a, view ⟨r.clock, f, a⟩ = view ⟨c.began + p.latency, f, a⟩) :
    Reported view p s := by
  cases hmove with
  | read u rest => exact h
  | act hact =>
      cases hact with
      | sleep d rest => exact h
      | send c rest => exact h
      | note text rest => exact h
      | take c rest hfree =>
          let base : Run α := { r with queue := rest, taken := r.taken ++ [(r.clock, c)] }
          have hbase : Reported view p base := h
          exact hbase.follow hfree _
      | fire hfree => exact h.follow hfree _
      | complete c hrunning hover => exact h.complete hrunning (hview c hrunning hover)
      | advance later _ _ hlater =>
          obtain ⟨t, rfl, _⟩ := advance_cases hlater
          exact h

end

/-- Whatever the listener does, he is told of all searches and in their order. -/
theorem Reachable.reported (h : Reachable p r) : Reported Update.content p r :=
  h.invariant (reported_start _ p) fun _ _ hreported hmove =>
    hreported.move hmove fun _ _ _ _ _ => rfl

/-- The running search is not overdue. -/
def Timely (p : Plan α) (r : Run α) : Prop :=
  ∀ c, r.running = some c → r.clock ≤ c.began + p.latency

theorem Timely.follow (hfree : r.running = none) (o : Option Filters × Session) :
    Timely p (r.follow o) := by
  intro c hrunning
  obtain ⟨f, _, rfl⟩ : ∃ f, o.1 = some f ∧ Call.mk r.clock f = c := by
    simpa [hfree] using hrunning
  simp

theorem Timely.move (h : Timely p r) (hmove : AttendedMove p r s) : Timely p s := by
  obtain ⟨hmove, hplace⟩ := hmove
  cases hmove with
  | read u rest => exact h
  | act hact =>
      cases hact with
      | sleep d rest => exact h
      | send c rest => exact h
      | note text rest => exact h
      | take c rest hfree =>
          let base : Run α := { r with queue := rest, taken := r.taken ++ [(r.clock, c)] }
          exact Timely.follow (r := base) hfree _
      | fire hfree => exact Timely.follow hfree _
      | complete c => exact fun c' hc' => nomatch hc'
      | advance later _ hwaiting hlater =>
          obtain ⟨t, rfl, hlt, hle⟩ := advance_cases hlater
          intro c hrunning
          rcases hwaiting with ⟨c', hc', hkept⟩ | ⟨hfree, _⟩
          · obtain rfl : c' = c := Option.some.inj (hc'.symm.trans hrunning)
            have hnot : r.clock < c'.began + p.latency := by
              simpa [hplace hlt] using hkept
            exact hle _ (running_mem_alarms hc' hnot)
          · simp [hfree] at hrunning

/-- A listener who keeps up is told of each search when it is over. -/
theorem Attended.reported (h : Attended p r) : Timely p r ∧ Reported id p r := by
  induction h with
  | refl => exact ⟨fun _ => nofun, reported_start id p⟩
  | tail _ hmove ih =>
      obtain ⟨htimely, hreported⟩ := ih
      refine ⟨htimely.move hmove, hreported.move hmove.1 ?_⟩
      intro c hrunning hover f a
      rw [Nat.le_antisymm (htimely c hrunning) hover]

theorem Attended.updates_eq (h : Attended p r) (hfree : r.running = none) :
    r.updates = p.reports r.calls := by
  simpa using h.reported.2.updates_eq hfree

theorem updates_run (p : Plan α) : p.run.updates = p.reports p.run.calls :=
  (visits_run p).attended.updates_eq (done_run p).running

/-- What has been told is on the screen or yet to be read. -/
theorem Reachable.screen_append_unread (h : Reachable p r) :
    r.screen.filterMap Shown.result? ++ r.unread = r.updates := by
  refine h.invariant (I := fun r => r.screen.filterMap Shown.result? ++ r.unread = r.updates) rfl
    fun r s ih hmove => ?_
  cases hmove with
  | read u rest hunread => simpa [Run.read, Shown.result?, hunread] using ih
  | act hact =>
      cases hact with
      | sleep d rest => exact ih
      | send c rest => exact ih
      | note text rest => simpa [List.filterMap_cons, Shown.result?] using ih
      | take c rest => simpa [take] using ih
      | fire => simpa [fire] using ih
      | complete c => simp [complete, ← ih]
      | advance later _ _ hlater =>
          obtain ⟨t, rfl, _⟩ := advance_cases hlater
          exact ih

/-! ## The run without its updates -/

/-- The run as far as no answer has a part in it. -/
def muted (r : Run α) : Run Unit := View.mute.run r

theorem between_mute (p : Plan α) : View.mute.Between p p.muted := by
  refine ⟨rfl, rfl, fun _ _ _ => rfl, ?_⟩
  intro shown text
  simp [View.mute, Shown.remark?]

@[simp] theorem muted_left (r : Run α) : r.left.muted = r.muted := rfl

theorem muted_read (r : Run α) (u : Update α) (rest : List (Update α)) :
    (r.read u rest).muted = r.muted := by
  simp [muted, View.run, View.mute, read, Shown.remark?]

/-- Typist and worker go the same way whatever the answers are, if a result would find a place. -/
theorem muted_act (p : Plan α) (r : Run α) (hplace : r.crowded p = false) :
    (act p r).map muted = act p.muted r.muted :=
  (between_mute p).run_act r hplace.symm

theorem step_muted (p : Plan α) (r : Run α) : step p.muted r.muted = act p.muted r.muted := rfl

/-- A step is a reading, or one that the run without updates takes as well. -/
theorem muted_step (h : step p r = some s) :
    s.muted = r.muted ∨ step p.muted r.muted = some s.muted := by
  unfold step at h
  split at h
  · rename_i u rest _
    obtain rfl := Option.some.inj h
    exact .inl (muted_read r u rest)
  · rename_i hunread
    right
    rw [step_muted, ← muted_act p r (crowded_of_unread_eq_nil hunread), h]
    rfl

theorem muted_step_none (h : step p r = none) : step p.muted r.muted = none := by
  have hunread := (step_eq_none h).unread
  have hact : act p r = none := by
    rw [step, hunread] at h
    exact h
  rw [step_muted, ← muted_act p r (crowded_of_unread_eq_nil hunread), hact]
  rfl

/-- So does the whole rest of a run. -/
theorem muted_finish (p : Plan α) (r : Run α) :
    (finish p r).muted = finish p.muted r.muted := by
  unfold finish
  fun_induction finishUnless (fun _ => false) p r with
  | case1 r h => cases h
  | case2 r _ h => rw [finishUnless_of_step_none (muted_step_none h)]
  | case3 r _ s h _ ih =>
      rcases muted_step h with hsame | hstep
      · rw [ih, hsame]
      · rw [ih, finishUnless_of_step_some rfl hstep]

theorem muted_run (p : Plan α) : p.run.muted = p.muted.run :=
  muted_finish p (.start p)

theorem Visits.finish_eq (h : Visits p r) : finish p r = p.run := by
  induction h with
  | refl => rfl
  | tail _ hstep ih => rw [← ih, finish_of_step_some hstep]

/-! ## Every order of moves -/

theorem settled_muted_iff : r.muted.Settled ↔ r.Settled :=
  ⟨fun h => ⟨h.script, h.queue, h.running, h.deadline, h.awake⟩,
    fun h => ⟨h.script, h.queue, h.running, h.deadline, h.awake⟩⟩

theorem Act.muted (h : Act p r s) (hplace : r.clock < s.clock → r.crowded p = false) :
    Act p.muted r.muted s.muted := by
  unfold Run.muted
  cases h with
  | sleep d rest hawake hscript => exact .sleep d rest hawake hscript
  | send c rest hawake hscript hroom => exact .send c rest hawake hscript hroom
  | note text rest hawake hscript =>
      rw [(between_mute p).run_note]
      exact .note text rest hawake hscript
  | take c rest hfree hqueue =>
      rw [View.run_take]
      exact .take c rest hfree hqueue
  | fire hfree hdue =>
      rw [View.run_fire]
      exact .fire hfree hdue
  | complete c hrunning hover =>
      rw [(between_mute p).run_complete]
      exact .complete c hrunning hover rfl
  | advance later hpaused hwaiting hlater =>
      obtain ⟨t, hlater_eq, hlt, _⟩ := advance_cases hlater
      have hfree := hplace (by rw [hlater_eq]; exact hlt)
      refine .advance (View.mute.run s) hpaused ?_ ?_
      · rcases hwaiting with ⟨c, hrunning, hkept⟩ | hwaiting
        · have hnot : r.clock < c.began + p.latency := by simpa [hfree] using hkept
          exact .inl ⟨c, hrunning, .inl hnot⟩
        · exact .inr hwaiting
      · exact ((between_mute p).run_advance r).symm.trans (congrArg _ hlater)

/-- Whatever can happen without answers can happen with them, if a result would find a place. -/
theorem exists_act_of_muted {t : Run Unit} (h : Act p.muted r.muted t)
    (hplace : r.crowded p = false) : ∃ s, Act p r s ∧ s.muted = t := by
  cases h with
  | sleep d rest hawake hscript => exact ⟨_, .sleep d rest hawake hscript, rfl⟩
  | send c rest hawake hscript hroom => exact ⟨_, .send c rest hawake hscript hroom, rfl⟩
  | note text rest hawake hscript =>
      exact ⟨_, .note text rest hawake hscript, (between_mute p).run_note r text rest⟩
  | take c rest hfree hqueue => exact ⟨_, .take c rest hfree hqueue, View.run_take _ r c rest⟩
  | fire hfree hdue => exact ⟨_, .fire hfree hdue, View.run_fire _ r⟩
  | complete c hrunning hover =>
      exact ⟨_, .complete c hrunning hover hplace, (between_mute p).run_complete r c⟩
  | advance later hpaused hwaiting hlater =>
      have hview := (between_mute p).run_advance r
      rw [show (View.mute.run r).advance p.muted = some t from hlater] at hview
      obtain ⟨s, hs, rfl⟩ := Option.map_eq_some_iff.mp hview
      refine ⟨s, .advance s hpaused ?_ hs, rfl⟩
      rcases hwaiting with ⟨c, hrunning, hkept⟩ | hwaiting
      · have hnot : r.clock < c.began + p.latency := hkept.resolve_right Bool.false_ne_true
        exact .inl ⟨c, hrunning, .inl hnot⟩
      · exact .inr hwaiting

theorem Attended.muted (h : Attended p r) : Attended p.muted r.muted := by
  induction h with
  | refl => exact .refl
  | tail _ hmove ih =>
      obtain ⟨hmove, hplace⟩ := hmove
      cases hmove with
      | act hact => exact ih.tail ⟨.act (hact.muted hplace), fun _ => rfl⟩
      | read u rest =>
          rw [muted_read]
          exact ih

/-- A listener can read all there is before time passes. -/
theorem Attended.exists_read (h : Attended p r) :
    ∃ s, Attended p s ∧ s.unread = [] ∧ s.muted = r.muted := by
  generalize hu : r.unread = us
  induction us generalizing r with
  | nil => exact ⟨r, h, hu, rfl⟩
  | cons u rest ih =>
      have hread : AttendedMove p r (r.read u rest) :=
        ⟨.read u rest hu, fun hlt => (Nat.lt_irrefl _ hlt).elim⟩
      obtain ⟨s, hs, hnil, hsame⟩ := ih (h.tail hread) rfl
      exact ⟨s, hs, hnil, hsame.trans (muted_read r u rest)⟩

theorem exists_attended_of_muted {t : Run Unit} (h : Attended p.muted t) :
    ∃ r, Attended p r ∧ r.unread = [] ∧ r.muted = t := by
  induction h with
  | refl => exact ⟨.start p, .refl, rfl, rfl⟩
  | tail _ hmove ih =>
      obtain ⟨r, hreach, hunread, rfl⟩ := ih
      have hplace := crowded_of_unread_eq_nil (p := p) hunread
      cases hmove.1 with
      | read u rest hu => cases hu
      | act hact =>
          obtain ⟨s, hs, rfl⟩ := exists_act_of_muted hact hplace
          exact Attended.exists_read (hreach.tail ⟨.act hs, fun _ => hplace⟩)

/-- Two runs have made the same searches at the same instants and hold the same filters. -/
structure SameCourse (r : Run α) (s : Run β) : Prop where
  calls : r.calls = s.calls
  filters : r.session.filters = s.session.filters

theorem SameCourse.of_muted_eq {s : Run β} (h : r.muted = s.muted) : SameCourse r s := by
  refine ⟨?_, ?_⟩
  · exact congrArg Run.calls h
  · exact congrArg (fun t : Run Unit => t.session.filters) h

theorem sameCourse_run {q : Plan β} (hplans : p.muted = q.muted) : SameCourse p.run q.run := by
  refine .of_muted_eq ?_
  rw [muted_run, muted_run, hplans]

/-- A run that has ended under one plan has its like under every plan with other outcomes. -/
theorem exists_ended_of_muted_eq {q : Plan β} (hplans : p.muted = q.muted) (hreach : Attended p r)
    (hended : Ended p r) : ∃ s, Attended q s ∧ Ended q s ∧ SameCourse s r := by
  have hmuted : Attended q.muted r.muted := by
    rw [← hplans]
    exact hreach.muted
  obtain ⟨s, hs, hunread, hsame⟩ := exists_attended_of_muted hmuted
  have hsettled : s.muted.Settled := by
    rw [hsame]
    exact settled_muted_iff.mpr (ended_iff_done.mp hended).toSettled
  have hdone : s.Done := ⟨settled_muted_iff.mp hsettled, hunread⟩
  exact ⟨s, hs, ended_iff_done.mpr hdone, .of_muted_eq hsame⟩

/-- Updates mirror searches one by one, when they are over if the listener keeps up; and with other
answers, no listener or a listener who leaves on the way the same searches are made at the same
instants and end in the same filters; both in whatever order things of one instant happen. -/
theorem updates_mirror_calls_and_never_steer (p : Plan α) :
    (p.run.updates = p.reports p.run.calls ∧
      (∀ r, Attended p r → Ended p r → r.updates = p.reports r.calls) ∧
      ∀ r, Reachable p r → Ended p r →
        r.updates.map Update.content = (p.reports r.calls).map Update.content) ∧
    ∀ (β : Type) (answer : Nat → Filters → β) (listening : Bool),
      SameCourse (p.withOutcomes answer listening).run p.run ∧
      (∀ r, Attended p r → Ended p r →
        ∃ s, Attended (p.withOutcomes answer listening) s ∧
          Ended (p.withOutcomes answer listening) s ∧ SameCourse s r) ∧
      ∀ r, Visits p r → SameCourse (finish (p.withOutcomes p.answer listening) r) p.run ∧
        SameCourse (finish (p.withOutcomes p.answer listening) r.left) p.run := by
  refine ⟨⟨updates_run p, ?_, ?_⟩, fun β answer listening => ⟨?_, ?_, ?_⟩⟩
  · intro r hreach hended
    exact hreach.updates_eq (ended_iff_done.mp hended).running
  · intro r hreach hended
    exact hreach.reported.updates_eq (ended_iff_done.mp hended).running
  · exact sameCourse_run (p.muted_withOutcomes answer listening)
  · intro r hreach hended
    exact exists_ended_of_muted_eq (p.muted_withOutcomes answer listening).symm hreach hended
  · intro r hvisits
    have hrest : ∀ s : Run α, s.muted = r.muted →
        SameCourse (finish (p.withOutcomes p.answer listening) s) p.run := by
      intro s hsame
      refine .of_muted_eq ?_
      rw [muted_finish, Plan.muted_withOutcomes, hsame, ← muted_finish, hvisits.finish_eq]
    exact ⟨hrest r rfl, hrest r.left (muted_left r)⟩

end Run

end PackageRegistry.Search
