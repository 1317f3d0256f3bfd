import Mathlib.Data.List.Chain
import PackageRegistry.Proofs.Filter.Payload
import PackageRegistry.Proofs.Search.Causes

/-! # Typing is searched once

A worker that no search keeps takes every command at the instant it is sent, so what a run will
take is known beforehand: its agenda. While edits of the query come close behind one another, each
sets the deadline anew before it is due, and only the last deadline is reached.
-/

namespace PackageRegistry.Search

/-! ## Commands and when they are sent -/

namespace Command

/-- An edit that names the query and nothing else. -/
def NamesQueryOnly : Command → Prop
  | .edit q => q.query.isSome ∧ q.category = none ∧ q.license = none ∧ q.sort = none
  | .submit _ => False

instance : (c : Command) → Decidable c.NamesQueryOnly
  | .edit _ => inferInstanceAs (Decidable (_ ∧ _ ∧ _ ∧ _))
  | .submit _ => inferInstanceAs (Decidable False)

end Command

/-- The commands of a script, each with the instant at which a typist sends it who begins at `now`
and never finds the queue full. -/
def sendings (now : Millis) : List Action → Log
  | [] => []
  | .sleep d :: rest => sendings (now + d) rest
  | .send c :: rest => (now, c) :: sendings now rest
  | .note _ :: rest => sendings now rest

theorem map_snd_sendings (now : Millis) (script : List Action) :
    (sendings now script).map Prod.snd = commands script := by
  induction script generalizing now with
  | nil => rfl
  | cons action rest ih =>
      cases action with
      | sleep d => exact ih (now + d)
      | send c => exact congrArg (List.cons c) (ih now)
      | note text => exact ih now

theorem le_of_mem_sendings {now : Millis} {script : List Action} {e : Millis × Command}
    (h : e ∈ sendings now script) : now ≤ e.1 := by
  induction script generalizing now with
  | nil => cases h
  | cons action rest ih =>
      cases action with
      | sleep d => exact (Nat.le_add_right now d).trans (ih h)
      | send c =>
          rcases List.mem_cons.mp h with rfl | hrest
          · exact le_rfl
          · exact ih hrest
      | note text => exact ih h

/-- Edits of nothing but the query, each less than a quiet period behind the one before it. -/
structure Burst (quiet : Millis) (log : Log) : Prop where
  typed : ∀ e ∈ log, e.2.NamesQueryOnly
  close : log.IsChain fun a b => b.1 < a.1 + quiet

theorem Burst.nil (quiet : Millis) : Burst quiet [] := ⟨by simp, .nil⟩

theorem Burst.tail {quiet : Millis} {e : Millis × Command} {log : Log}
    (h : Burst quiet (e :: log)) : Burst quiet log :=
  ⟨fun e' he' => h.typed e' (List.mem_cons_of_mem e he'), h.close.tail⟩

/-! ## What a log does to the filters -/

/-- The filters of a page that began with `f`, after a log. -/
def filtersAfter (f : Filters) (log : Log) : Filters := f.mergeAll (log.map fun t => t.2.patch)

/-- Some command of the log changes what a view of the filters shows. -/
def Changes {β : Type} (view : Filters → β) (f : Filters) : Log → Prop
  | [] => False
  | (_, c) :: log => view (f.merge c.patch) ≠ view f ∨ Changes view (f.merge c.patch) log

instance decidableChanges {β : Type} [DecidableEq β] (view : Filters → β) :
    (f : Filters) → (log : Log) → Decidable (Changes view f log)
  | _, [] => inferInstanceAs (Decidable False)
  | f, (_, c) :: log =>
    have := decidableChanges view (f.merge c.patch) log
    inferInstanceAs (Decidable (_ ∨ _))

/-- Of canonical filters, the query changes when it does as it is searched. -/
theorem changes_normal_iff {f : Filters} (h : f.Canonical) (log : Log) :
    Changes (fun f => f.normal.query) f log ↔ Changes Filters.query f log := by
  induction log generalizing f with
  | nil => exact Iff.rfl
  | cons e log ih =>
      have hnext := h.merge e.2.patch
      rw [Changes, Changes, ih hnext, f.canonical_iff_normal_eq.mp h,
        (f.merge e.2.patch).canonical_iff_normal_eq.mp hnext]

/-- The first edit that names the query changes it where it was not canonical. -/
theorem changes_of_not_canonical {f : Filters} (h : ¬ f.Canonical) {e : Millis × Command}
    (hnamed : e.2.patch.query.isSome) (log : Log) : Changes Filters.query f (e :: log) := by
  refine .inl fun heq => h ?_
  intro q hq
  exact f.canonical_merge_of_named hnamed q (heq.trans hq)

/-! ## What is to come of a burst -/

/-- The search that a burst ends in, if the page it comes to has these filters and this deadline. -/
def forecast (quiet : Millis) (f : Filters) (deadline : Option Millis) : Log → List Call
  | [] => (deadline.map fun d => ⟨d, f⟩).toList
  | (t, c) :: log =>
    forecast quiet (f.merge c.patch)
      (if deadline.isSome ∨ (f.merge c.patch).query ≠ f.query then some (t + quiet) else none) log

variable {quiet : Millis} {f : Filters} {log : Log}

theorem forecast_of_waiting (quiet : Millis) (f : Filters) (d : Millis) (log : Log) :
    forecast quiet f (some d) log =
      [⟨(log.map fun e => e.1 + quiet).getLastD d, filtersAfter f log⟩] := by
  induction log generalizing f d with
  | nil => rfl
  | cons e log ih =>
      rw [forecast, if_pos (.inl rfl), ih, List.map_cons, List.getLastD_cons]
      rfl

/-- Nothing is searched if the query stays as it is. -/
theorem forecast_of_not_changes (h : ¬ Changes Filters.query f log) :
    forecast quiet f none log = [] := by
  induction log generalizing f with
  | nil => rfl
  | cons e log ih =>
      simp only [Changes, not_or] at h
      rw [forecast, if_neg (by simpa using h.1), ih h.2]

/-- A change is searched once, when the query has been left alone for a quiet period. -/
theorem forecast_of_changes (h : Changes Filters.query f log) (d : Millis) :
    forecast quiet f none log =
      [⟨(log.map fun e => e.1 + quiet).getLastD d, filtersAfter f log⟩] := by
  induction log generalizing f d with
  | nil => exact h.elim
  | cons e log ih =>
      rw [List.map_cons, List.getLastD_cons]
      by_cases hnow : (f.merge e.2.patch).query = f.query
      · have hlater : Changes Filters.query (f.merge e.2.patch) log :=
          h.resolve_left (not_not_intro hnow)
        rw [forecast, if_neg (by simpa using hnow), ih hlater (e.1 + quiet)]
        rfl
      · rw [forecast, if_pos (.inr hnow), forecast_of_waiting]
        rfl

/-! ## One command -/

theorem Command.NamesQueryOnly.named {c : Command} (h : c.NamesQueryOnly) :
    c.patch.query.isSome := by
  cases c with
  | edit q => exact h.1
  | submit q => exact h.elim

/-- What an edit of the query does to a page: it merges, searches nothing, and sets the deadline if
it changes the query or one was set. -/
theorem Session.step_typed (s : Session) {c : Command} (h : c.NamesQueryOnly) (now : Millis) :
    (s.step (c.event now)).1 = none ∧
      (s.step (c.event now)).2.filters = s.filters.merge c.patch ∧
      (s.step (c.event now)).2.quiescence = s.quiescence ∧
      (s.step (c.event now)).2.deadline =
        if s.deadline.isSome ∨ (s.filters.merge c.patch).query ≠ s.filters.query then
          some (now + s.quiescence)
        else none := by
  cases c with
  | submit q => exact h.elim
  | edit q =>
      obtain ⟨hnamed, hcategory, hlicense, hsort⟩ := h
      have heffect := s.step_effect (.edit q now)
      have hcontrols : s.filters.SameControls (s.filters.merge q) := by
        simp [Filters.SameControls, Filters.merge, hcategory, hlicense, hsort]
      have hnone : (s.step (.edit q now)).1 = none := by
        have hcalm := mt heffect.isSome_iff.mp (not_not_intro hcontrols)
        simpa using hcalm
      refine ⟨hnone, heffect.filters_eq, heffect.quiescence_eq, ?_⟩
      have hwaits : (s.step (.edit q now)).2.deadline.isSome ↔
          s.deadline.isSome ∨ (s.filters.merge q).query ≠ s.filters.query := by
        rw [heffect.deadline_isSome_iff]
        simp only [hnone, Retypes, hcontrols, true_and]
        exact or_comm.trans (or_congr_right ne_comm)
      by_cases hreason : s.deadline.isSome ∨ (s.filters.merge q).query ≠ s.filters.query
      · obtain ⟨d, hdeadline⟩ := Option.isSome_iff_exists.mp (hwaits.mpr hreason)
        obtain ⟨change, hchange⟩ := Option.isSome_iff_exists.mp hnamed
        have htyped : (Event.edit q now).typed? = some now := by simp [Event.typed?, hchange]
        rcases heffect.deadline_cases hdeadline with ⟨t, ht, hd⟩ | ⟨hnone, _⟩
        · obtain rfl : t = now := Option.some.inj (ht.symm.trans htyped)
          exact hdeadline.trans ((congrArg some hd).trans (if_pos hreason).symm)
        · rw [htyped] at hnone
          cases hnone
      · have hnever : (s.step (.edit q now)).2.deadline = none := by
          simpa using mt hwaits.mp hreason
        exact hnever.trans (if_neg hreason).symm

namespace Run

variable {α : Type} {p : Plan α} {r s : Run α}

/-! ## The agenda of a run -/

@[simp] theorem follow_wake (r : Run α) (o : Option Filters × Session) :
    (r.follow o).wake = r.wake := by
  obtain ⟨_ | _, _⟩ := o <;> rfl

/-- What is left to take, each command with the instant at which a worker takes it that no search
keeps. -/
def agenda (r : Run α) : Log :=
  r.queue.map (Prod.mk r.clock) ++ sendings (max r.clock r.wake) r.script

theorem clock_le_of_mem_agenda {e : Millis × Command} (h : e ∈ r.agenda) : r.clock ≤ e.1 := by
  rcases List.mem_append.mp h with hqueue | hscript
  · obtain ⟨c, _, rfl⟩ := List.mem_map.mp hqueue
    exact le_rfl
  · exact (le_max_left _ _).trans (le_of_mem_sendings hscript)

theorem agenda_eq_nil_iff : r.agenda = [] ↔ r.queue = [] ∧ commands r.script = [] := by
  rw [agenda, List.append_eq_nil_iff, List.map_eq_nil_iff, ← map_snd_sendings (max r.clock r.wake),
    List.map_eq_nil_iff]

theorem agenda_sleep {d : Millis} {rest : List Action} (hawake : r.wake ≤ r.clock)
    (hscript : r.script = .sleep d :: rest) :
    { r with script := rest, wake := r.clock + d }.agenda = r.agenda := by
  simp [agenda, hscript, sendings, hawake]

theorem agenda_send {c : Command} {rest : List Action} (hawake : r.wake ≤ r.clock)
    (hscript : r.script = .send c :: rest) :
    { r with script := rest, queue := r.queue ++ [c] }.agenda = r.agenda := by
  simp [agenda, hscript, sendings, hawake]

theorem agenda_note {text : String} {rest : List Action} (hscript : r.script = .note text :: rest) :
    { r with script := rest, screen := r.screen ++ [Shown.note text] }.agenda = r.agenda := by
  simp [agenda, hscript, sendings]

theorem agenda_take {c : Command} {rest : List Command} (hqueue : r.queue = c :: rest) :
    r.agenda = (r.clock, c) :: (r.take c rest).agenda := by
  simp [agenda, hqueue, take]

theorem agenda_follow (r : Run α) (o : Option Filters × Session) :
    (r.follow o).agenda = r.agenda := by
  simp [agenda]

/-- As time passes, a free worker finds what it expected. -/
theorem agenda_advance (hpaused : r.Paused) (hwaiting : r.Waiting p)
    (hlater : advance p r = some s) (hkept : r.running.isSome → r.agenda = []) :
    s.agenda = r.agenda := by
  obtain ⟨t, rfl, hlt, hle⟩ := advance_cases hlater
  rcases hwaiting with ⟨c, hrunning, _⟩ | ⟨_, hqueue, _⟩
  · have hnil : r.agenda = [] := hkept (by simp [hrunning])
    rw [hnil, agenda_eq_nil_iff]
    exact (agenda_eq_nil_iff (r := r)).mp hnil
  · rcases hpaused with hasleep | hscript | ⟨_, hfull⟩
    · have hwake : t ≤ r.wake := hle r.wake (wake_mem_alarms hasleep)
      simp [agenda, hqueue, hwake, hasleep.le]
    · simp [agenda, hqueue, hscript, sendings]
    · simp [hqueue, capacity] at hfull

/-! ## One move of a run that types -/

/-- The worker has nothing before it but a burst that begins before anything falls due, and while
it searches it has nothing before it at all. -/
structure Typing (r : Run α) : Prop where
  burst : Burst r.session.quiescence r.agenda
  ahead : ∀ d, r.session.deadline = some d →
    r.running = none ∧ r.clock ≤ d ∧ ∀ e ∈ r.agenda.head?, e.1 < d
  silent : r.running.isSome → r.agenda = []

/-- The searches made and the one that is to come. -/
def outlook (r : Run α) : List Call :=
  r.calls ++ forecast r.session.quiescence r.session.filters r.session.deadline r.agenda

/-- From `r` to `s` nothing came otherwise than it was to be expected. -/
structure AsExpected (r s : Run α) : Prop where
  taken : s.taken ++ s.agenda = r.taken ++ r.agenda
  outlook : s.outlook = r.outlook

theorem AsExpected.refl (r : Run α) : AsExpected r r := ⟨rfl, rfl⟩

theorem AsExpected.trans {t : Run α} (h : AsExpected r s) (h' : AsExpected s t) : AsExpected r t :=
  ⟨h'.taken.trans h.taken, h'.outlook.trans h.outlook⟩

/-- What typist and listener do is expected. -/
theorem Typing.expects (h : Typing r) {script : List Action} {wake : Millis}
    {queue : List Command} {unread : List (Update α)} {screen : List (Shown α)}
    (hagenda : { r with script, wake, queue, unread, screen }.agenda = r.agenda) :
    Typing { r with script, wake, queue, unread, screen } ∧
      AsExpected r { r with script, wake, queue, unread, screen } := by
  refine ⟨⟨?_, ?_, ?_⟩, ?_, ?_⟩
  · rw [hagenda]
    exact h.burst
  · rw [hagenda]
    exact h.ahead
  · rw [hagenda]
    exact h.silent
  · rw [hagenda]
  · rw [Run.outlook, hagenda]
    rfl

theorem Typing.take (h : Typing r) (hfree : r.running = none) {c : Command} {rest : List Command}
    (hqueue : r.queue = c :: rest) : Typing (r.take c rest) ∧ AsExpected r (r.take c rest) := by
  have hagenda := agenda_take hqueue
  have hburst := h.burst
  rw [hagenda] at hburst
  obtain ⟨hnone, hfilters, hquiescence, hdeadline⟩ :=
    r.session.step_typed (hburst.typed (r.clock, c) List.mem_cons_self) r.clock
  have hsession : (r.take c rest).session = (r.session.step (c.event r.clock)).2 := by
    simp [Run.take]
  have hcalls : (r.take c rest).calls = r.calls := by simp [Run.take, hnone]
  have hrunning : (r.take c rest).running = none := by simp [Run.take, hnone, hfree]
  rw [← hsession] at hfilters hquiescence hdeadline
  refine ⟨⟨hquiescence ▸ hburst.tail, ?_, by simp [hrunning]⟩, ?_, ?_⟩
  · intro d hd
    have hset : d = r.clock + r.session.quiescence := by
      rw [hd] at hdeadline
      split_ifs at hdeadline
      exact Option.some.inj hdeadline
    refine ⟨hrunning, ?_, ?_⟩
    · rw [hset]
      simp [Run.take]
    · intro e he
      rw [hset]
      exact hburst.close.rel_head? he
  · rw [hagenda]
    simp [Run.take]
  · rw [Run.outlook, Run.outlook, hcalls, hagenda, forecast, hquiescence, hfilters, hdeadline]

/-- The search begins when its time has come, and no edit is left that could put it off. -/
theorem Typing.fire (h : Typing r) (hdue : r.expired = true) :
    Typing r.fire ∧ AsExpected r r.fire := by
  obtain ⟨d, hdeadline, hle⟩ := expired_iff.mp hdue
  obtain ⟨_, hclock, hbefore⟩ := h.ahead d hdeadline
  obtain rfl : d = r.clock := Nat.le_antisymm hle hclock
  have hnil : r.agenda = [] := by
    rw [← List.head?_eq_none_iff, Option.eq_none_iff_forall_not_mem]
    intro e he
    exact absurd (hbefore e he) (Nat.not_lt.mpr (clock_le_of_mem_agenda (List.mem_of_mem_head? he)))
  have hpoll : r.session.poll r.clock = r.session.dispatch := by
    simp [Session.poll, Session.deadline_eq_some_iff.mp hdeadline]
  have hagenda : r.fire.agenda = [] := (agenda_follow r _).trans hnil
  have hsession : r.fire.session = r.session.dispatch.2 := by simp [Run.fire, hpoll]
  have hcalls : r.fire.calls = r.calls ++ [⟨r.clock, r.session.filters⟩] := by
    simp [Run.fire, hpoll, Session.dispatch]
  refine ⟨⟨hagenda ▸ .nil _, ?_, fun _ => hagenda⟩, ?_, ?_⟩
  · intro d hd
    rw [hsession] at hd
    cases hd
  · rw [hagenda, hnil]
    simp [Run.fire]
  · rw [Run.outlook, Run.outlook, hcalls, hagenda, hnil, hsession, hdeadline, List.append_assoc]
    rfl

theorem Typing.complete (h : Typing r) {c : Call} (hrunning : r.running = some c) :
    Typing (complete p r c) ∧ AsExpected r (complete p r c) := by
  have hsession : (Run.complete p r c).session = r.session.completed := rfl
  have hagenda : (Run.complete p r c).agenda = r.agenda := rfl
  have hnil : r.agenda = [] := h.silent (by simp [hrunning])
  refine ⟨⟨?_, ?_, fun _ => hagenda.trans hnil⟩, rfl, ?_⟩
  · rw [hagenda, hnil]
    exact .nil _
  · intro d hd
    -- nothing waits while a search runs
    rw [hsession, deadline_completed] at hd
    simp [(h.ahead d hd).1] at hrunning
  · rw [Run.outlook, Run.outlook, hsession, hagenda, deadline_completed, Session.filters_completed,
      Session.quiescence_completed]
    rfl

theorem Typing.advance (h : Typing r) (hpaused : r.Paused) (hwaiting : r.Waiting p)
    (hlater : advance p r = some s) : Typing s ∧ AsExpected r s := by
  have hagenda := agenda_advance hpaused hwaiting hlater h.silent
  obtain ⟨t, rfl, hlt, hle⟩ := advance_cases hlater
  refine ⟨⟨hagenda ▸ h.burst, ?_, fun hrunning => hagenda.trans (h.silent hrunning)⟩, ?_, ?_⟩
  · intro d hdeadline
    obtain ⟨hfree, _, hbefore⟩ := h.ahead d hdeadline
    refine ⟨hfree, ?_, hagenda ▸ hbefore⟩
    rcases hwaiting with ⟨c, hrunning, _⟩ | ⟨_, _, hdue⟩
    · simp [hfree] at hrunning
    · exact hle d (deadline_mem_alarms hfree hdeadline (clock_lt_deadline hdue hdeadline))
  · rw [hagenda]
  · rw [Run.outlook, hagenda]
    rfl

theorem Typing.act (h : Typing r) (hact : Act p r s) : Typing s ∧ AsExpected r s := by
  cases hact with
  | sleep d rest hawake hscript => exact h.expects (agenda_sleep hawake hscript)
  | send c rest hawake hscript => exact h.expects (agenda_send hawake hscript)
  | note text rest _ hscript => exact h.expects (agenda_note hscript)
  | take c rest hfree hqueue => exact h.take hfree hqueue
  | fire _ hdue => exact h.fire hdue
  | complete c hrunning => exact h.complete hrunning
  | advance later hpaused hwaiting hlater => exact h.advance hpaused hwaiting hlater

theorem Typing.move (h : Typing r) (hmove : Move p r s) : Typing s ∧ AsExpected r s := by
  cases hmove with
  | act hact => exact h.act hact
  | read u rest => exact h.expects rfl

/-! ## Whole runs -/

theorem Typing.moves (h : Typing r) (hmoves : Relation.ReflTransGen (Move p) r s) :
    Typing s ∧ AsExpected r s := by
  induction hmoves with
  | refl => exact ⟨h, .refl r⟩
  | tail _ hmove ih =>
      obtain ⟨htyping, hexpected⟩ := ih
      obtain ⟨hnext, hstep⟩ := htyping.move hmove
      exact ⟨hnext, hexpected.trans hstep⟩

/-- What has become of a burst at the end: every edit was taken when it was sent; and unless the
query was trimmed from the start and no edit changed it, there was one search more, a quiet period
after the last edit, with all of them. -/
structure SearchedOnce (r e : Run α) : Prop where
  taken : e.taken = r.taken ++ r.agenda
  silent : r.session.filters.Canonical →
    ¬ Changes (fun f => f.normal.query) r.session.filters r.agenda → e.calls = r.calls
  once : ¬ r.session.filters.Canonical ∨
      Changes (fun f => f.normal.query) r.session.filters r.agenda →
    ∃ last, r.agenda.getLast? = some last ∧
      e.calls = r.calls ++
        [⟨last.1 + r.session.quiescence, filtersAfter r.session.filters r.agenda⟩]

theorem Typing.searchedOnce {e : Run α} (h : Typing r) (hidle : r.session.deadline = none)
    (hne : r.agenda ≠ []) (hmoves : Relation.ReflTransGen (Move p) r e) (hdone : e.Done) :
    SearchedOnce r e := by
  obtain ⟨_, hexpected⟩ := h.moves hmoves
  have hagenda : e.agenda = [] := by
    rw [agenda_eq_nil_iff, hdone.script]
    exact ⟨hdone.queue, rfl⟩
  have hcalls : e.calls = r.calls ++
      forecast r.session.quiescence r.session.filters none r.agenda := by
    have houtlook := hexpected.outlook
    rw [outlook, outlook, hagenda, hdone.deadline, hidle] at houtlook
    simpa [forecast] using houtlook
  refine ⟨?_, ?_, ?_⟩
  · have htaken := hexpected.taken
    rwa [hagenda, List.append_nil] at htaken
  · intro hcanonical hsame
    rw [changes_normal_iff hcanonical] at hsame
    rw [hcalls, forecast_of_not_changes hsame, List.append_nil]
  · intro hreason
    have hchanges : Changes Filters.query r.session.filters r.agenda := by
      by_cases hcanonical : r.session.filters.Canonical
      · exact (changes_normal_iff hcanonical _).mp (hreason.resolve_left (not_not_intro hcanonical))
      · obtain ⟨first, rest, hfirst⟩ := List.exists_cons_of_ne_nil hne
        rw [hfirst]
        exact changes_of_not_canonical hcanonical
          (h.burst.typed first (hfirst ▸ List.mem_cons_self)).named rest
    have hlast := List.getLast?_eq_some_getLast hne
    refine ⟨_, hlast, ?_⟩
    rw [hcalls, forecast_of_changes hchanges 0, List.getLastD_eq_getLast?, List.getLast?_map, hlast]
    rfl

/-- Rapid typing is searched once. A worker that is free and waits for nothing has a burst of query
edits before it, and then silence for as long as the typist likes, or the end; whatever the order
of what happens at one instant, the burst ends in a single search, or in none if it changes
nothing. -/
theorem typing_is_searched_once (p : Plan α) (r : Run α) (hfree : r.running = none)
    (hidle : r.session.deadline = none) (hburst : Burst r.session.quiescence r.agenda)
    (hne : r.agenda ≠ []) :
    SearchedOnce r (finish p r) ∧
      ∀ e, Relation.ReflTransGen (Move p) r e → Ended p e → SearchedOnce r e := by
  have htyping : Typing r := by
    refine ⟨hburst, ?_, ?_⟩
    · intro d hd
      rw [hidle] at hd
      cases hd
    · intro hrunning
      simp [hfree] at hrunning
  obtain ⟨hsteps, hlast⟩ := finish_steps p r
  refine ⟨?_, ?_⟩
  · have hmoves := Relation.ReflTransGen.mono (fun _ _ => step_move) _ _ hsteps
    exact htyping.searchedOnce hidle hne hmoves (step_eq_none hlast)
  · intro e hmoves hended
    exact htyping.searchedOnce hidle hne hmoves (ended_iff_done.mp hended)

/-- The last edit adds blanks only, and the search waits for it all the same. -/
theorem blanks_behind_typing_put_it_off :
    let p : Plan Unit := {
      quiescence := 300
      latency := 50
      initial := { category := some .web }
      answer := fun _ _ => ()
      script := [.send (.edit (.setQuery "h")), .sleep 100, .send (.edit (.setQuery "http")),
        .sleep 299, .send (.edit (.setQuery "http ")), .sleep 1000]
      listening := true
      commandFirst := fun _ => true }
    Burst 300 (start p).agenda ∧
      (finish p (start p)).calls = [⟨699, { query := some "http", category := some .web }⟩] := by
  intro p
  have hburst : Burst 300 (start p).agenda := ⟨by decide, by decide⟩
  refine ⟨hburst, ?_⟩
  obtain ⟨hsearched, _⟩ := typing_is_searched_once p (start p) rfl rfl hburst (by decide)
  obtain ⟨last, hlast, hcalls⟩ := hsearched.once (.inr (by decide))
  obtain rfl : last = (399, .edit (.setQuery "http ")) :=
    Option.some.inj (hlast.symm.trans (by decide))
  exact hcalls.trans (by decide)

/-- A query that was there with blanks around it is searched when it is typed without them, although
it is the same query to the registry. -/
theorem untrimmed_query_is_searched_again :
    let p : Plan Unit := {
      quiescence := 300
      latency := 0
      initial := { query := some " a " }
      answer := fun _ _ => ()
      script := [.send (.edit (.setQuery "a"))]
      listening := true
      commandFirst := fun _ => true }
    (start p).running = none ∧ (start p).session.deadline = none ∧ Burst 300 (start p).agenda ∧
      (start p).agenda ≠ [] ∧
      ¬ Changes (fun f => f.normal.query) (start p).session.filters (start p).agenda ∧
      (finish p (start p)).calls = [⟨300, { query := some "a" }⟩] :=
  ⟨rfl, rfl, ⟨by decide, by decide⟩, by decide, by decide, by decide +kernel⟩

end Run

end PackageRegistry.Search
