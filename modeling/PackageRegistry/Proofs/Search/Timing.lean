import Mathlib.Data.Nat.Basic
import PackageRegistry.Proofs.Search.Effects
import PackageRegistry.Proofs.Search.Moves

/-! # The clock of a run

The worker is free while a search waits, so the clock never passes a deadline; and one search is
over before the next begins.
-/

namespace PackageRegistry.Search

namespace Command

/-- An edit whose patch names the query. -/
def NamesQuery : Command → Prop
  | .edit q => q.query.isSome
  | .submit _ => False

theorem typed?_event_eq_some_iff (c : Command) (now t : Millis) :
    (c.event now).typed? = some t ↔ c.NamesQuery ∧ t = now := by
  cases c with
  | edit q => cases hquery : q.query <;> simp [event, Event.typed?, NamesQuery, hquery, eq_comm]
  | submit q => simp [event, Event.typed?, NamesQuery]

end Command

namespace Run

variable {α : Type} {p : Plan α} {r s : Run α}

/-- A deadline is ahead of a free worker, and searches keep their distance. -/
structure Punctual (p : Plan α) (r : Run α) : Prop where
  quiescence : r.session.quiescence = p.quiescence
  ahead : ∀ d, r.session.deadline = some d → r.running = none ∧ r.clock ≤ d
  apart : r.calls.Pairwise fun a b => a.began + p.latency ≤ b.began
  ended : r.running = none → ∀ a ∈ r.calls, a.began + p.latency ≤ r.clock
  latest : ∀ c, r.running = some c → ∀ a ∈ r.calls, a.began ≤ c.began

theorem punctual_start (p : Plan α) : Punctual p (.start p) := by
  refine ⟨rfl, ?_, ?_, ?_, ?_⟩ <;> simp [start, Session.start, Session.deadline]

/-- A free worker goes on with an event of the present instant. -/
theorem Punctual.follow (h : Punctual p r) (hfree : r.running = none) {e : Event}
    (hnow : ∀ t, e.typed? = some t → t = r.clock) : Punctual p (r.follow (r.session.step e)) := by
  have heffect := r.session.step_effect e
  have hover := h.ended hfree
  refine ⟨?_, ?_, ?_, ?_, ?_⟩
  · rw [follow_session, heffect.quiescence_eq, h.quiescence]
  · intro d hdeadline
    rw [follow_session] at hdeadline
    have hnone : (r.session.step e).1 = none :=
      (heffect.deadline_isSome_iff.mp (by simp [hdeadline])).1
    refine ⟨by simp [hnone, hfree], ?_⟩
    rw [follow_clock]
    rcases heffect.deadline_cases hdeadline with ⟨t, ht, hd⟩ | ⟨_, hold⟩
    · rw [hd, hnow t ht]
      exact Nat.le_add_right _ _
    · exact (h.ahead d hold).2
  · rw [follow_calls, List.pairwise_append]
    refine ⟨h.apart, ?_, ?_⟩
    · cases (r.session.step e).1 <;> simp
    · intro a ha b hb
      obtain ⟨g, _, rfl⟩ : ∃ g, (r.session.step e).1 = some g ∧ Call.mk r.clock g = b := by
        simpa using hb
      exact hover a ha
  · intro hrunning a ha
    cases hout : (r.session.step e).1 with
    | some g => simp [hout] at hrunning
    | none => simpa using hover a (by simpa [hout] using ha)
  · intro c hrunning a ha
    cases hout : (r.session.step e).1 with
    | none => simp [hout, hfree] at hrunning
    | some g =>
        obtain rfl : Call.mk r.clock g = c := by simpa [hout] using hrunning
        rw [follow_calls, hout, List.mem_append] at ha
        rcases ha with ha | ha
        · exact Nat.le_trans (Nat.le_add_right _ _) (hover a ha)
        · obtain rfl : a = Call.mk r.clock g := by simpa using ha
          exact le_rfl

theorem Punctual.take (h : Punctual p r) (hfree : r.running = none) (c : Command)
    (rest : List Command) : Punctual p (r.take c rest) := by
  let base : Run α := { r with queue := rest, taken := r.taken ++ [(r.clock, c)] }
  have hbase : Punctual p base := ⟨h.quiescence, h.ahead, h.apart, h.ended, h.latest⟩
  refine hbase.follow hfree ?_
  intro t ht
  exact ((c.typed?_event_eq_some_iff r.clock t).mp ht).2

theorem Punctual.complete (h : Punctual p r) {c : Call} (hrunning : r.running = some c)
    (hover : c.began + p.latency ≤ r.clock) : Punctual p (complete p r c) := by
  refine ⟨?_, ?_, h.apart, ?_, ?_⟩
  · exact r.session.quiescence_completed.trans h.quiescence
  · intro d hdeadline
    -- nothing waits while a search runs
    have hold : r.session.deadline = some d := by
      rw [← deadline_completed]
      exact hdeadline
    simp [(h.ahead d hold).1] at hrunning
  · intro _ a ha
    calc
      a.began + p.latency ≤ c.began + p.latency :=
        Nat.add_le_add_right (h.latest c hrunning a ha) _
      _ ≤ r.clock := hover
  · intro c' hc'
    cases hc'

theorem Punctual.advance (h : Punctual p r) (hwaiting : r.Waiting p)
    (hlater : advance p r = some s) : Punctual p s := by
  obtain ⟨t, rfl, hlt, hle⟩ := advance_cases hlater
  refine ⟨h.quiescence, ?_, h.apart, ?_, h.latest⟩
  · intro d hdeadline
    obtain ⟨hfree, _⟩ := h.ahead d hdeadline
    rcases hwaiting with ⟨c, hrunning, _⟩ | ⟨_, _, hdue⟩
    · simp [hfree] at hrunning
    · have hahead := clock_lt_deadline hdue hdeadline
      exact ⟨hfree, hle d (deadline_mem_alarms hfree hdeadline hahead)⟩
  · intro hfree a ha
    exact Nat.le_trans (h.ended hfree a ha) (Nat.le_of_lt hlt)

theorem Punctual.act (h : Punctual p r) (hact : Act p r s) : Punctual p s := by
  cases hact with
  | sleep d rest => exact ⟨h.quiescence, h.ahead, h.apart, h.ended, h.latest⟩
  | send c rest => exact ⟨h.quiescence, h.ahead, h.apart, h.ended, h.latest⟩
  | note text rest => exact ⟨h.quiescence, h.ahead, h.apart, h.ended, h.latest⟩
  | take c rest hfree => exact h.take hfree c rest
  | fire hfree => exact h.follow hfree (e := .poll r.clock) (by simp [Event.typed?])
  | complete c hrunning hover => exact h.complete hrunning hover
  | advance later _ hwaiting hlater => exact h.advance hwaiting hlater

theorem Punctual.move (h : Punctual p r) (hmove : Move p r s) : Punctual p s := by
  cases hmove with
  | act hact => exact h.act hact
  | read u rest => exact ⟨h.quiescence, h.ahead, h.apart, h.ended, h.latest⟩

theorem Reachable.punctual (h : Reachable p r) : Punctual p r :=
  h.invariant (punctual_start p) fun _ _ => Punctual.move

/-- A waiting search fires at its deadline, neither early nor late. -/
theorem Punctual.deadline_eq_clock (h : Punctual p r) (hdue : r.expired = true) :
    r.session.deadline = some r.clock := by
  obtain ⟨d, hdeadline, hle⟩ := expired_iff.mp hdue
  rw [hdeadline, Nat.le_antisymm hle (h.ahead d hdeadline).2]

end Run

end PackageRegistry.Search
