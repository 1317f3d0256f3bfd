import Mathlib.Data.Fin.Pigeonhole
import Mathlib.Order.Fin.Basic
import PackageRegistry.Proofs.Search.Delivery
import PackageRegistry.Proofs.Search.Timing

/-! # Every search has one cause

The causes of the searches are kept as a list of positions in the log of commands taken. A move
adds to the log, to the searches and to the causes at their ends only.
-/

namespace PackageRegistry.Search

namespace Command

/-- A submission, or an edit that changes a control besides the query. -/
def Urgent (f : Filters) : Command → Prop
  | .edit q => ¬ f.SameControls (f.merge q)
  | .submit _ => True

def isSubmit : Command → Bool
  | .edit _ => false
  | .submit _ => true

theorem due_event_iff (s : Session) (c : Command) (now : Millis) :
    s.Due (c.event now) ↔ c.Urgent s.filters := by
  cases c <;> rfl

end Command

/-! ## Positions in a log -/

/-- The commands that were taken, each with its instant. -/
abbrev Log := List (Millis × Command)

/-- The filters of a page when it took the `j`-th command, if it began with `f`. -/
def filtersAt (f : Filters) (log : Log) (j : ℕ) : Filters :=
  f.mergeAll ((log.take j).map fun t => t.2.patch)

def UrgentAt (f : Filters) (log : Log) (j : ℕ) : Prop :=
  ∃ t c, log[j]? = some (t, c) ∧ c.Urgent (filtersAt f log j)

def NamesQueryAt (log : Log) (j : ℕ) : Prop :=
  ∃ t c, log[j]? = some (t, c) ∧ c.NamesQuery

/-- The `i`-th command names the query and does not search at once; it was taken a quiet period
before `d`; and of the first `n` commands, those behind it are neither urgent nor name the query. -/
structure WaitsAt (f : Filters) (quiet : Millis) (log : Log) (n i : ℕ) (d : Millis) : Prop where
  named : ∃ t c, log[i]? = some (t, c) ∧ c.NamesQuery ∧ d = t + quiet
  calm : ¬ UrgentAt f log i
  since : ∀ j, i < j → j < n → ¬ UrgentAt f log j ∧ ¬ NamesQueryAt log j

section Growth

variable {f : Filters} {quiet : Millis} {log : Log} {entry : Millis × Command} {i j n : ℕ}

theorem filtersAt_concat (h : j ≤ log.length) :
    filtersAt f (log ++ [entry]) j = filtersAt f log j := by
  rw [filtersAt, List.take_append_of_le_length h, filtersAt]

theorem urgentAt_concat_iff (h : j < log.length) :
    UrgentAt f (log ++ [entry]) j ↔ UrgentAt f log j := by
  simp only [UrgentAt, List.getElem?_append_left h, filtersAt_concat h.le]

theorem namesQueryAt_concat_iff (h : j < log.length) :
    NamesQueryAt (log ++ [entry]) j ↔ NamesQueryAt log j := by
  simp only [NamesQueryAt, List.getElem?_append_left h]

theorem urgentAt_length_iff :
    UrgentAt f (log ++ [entry]) log.length ↔ entry.2.Urgent (filtersAt f log log.length) := by
  obtain ⟨t, c⟩ := entry
  simp [UrgentAt, filtersAt_concat]

theorem namesQueryAt_length_iff :
    NamesQueryAt (log ++ [entry]) log.length ↔ entry.2.NamesQuery := by
  obtain ⟨t, c⟩ := entry
  simp [NamesQueryAt]

theorem UrgentAt.lt_length (h : UrgentAt f log j) : j < log.length := by
  obtain ⟨t, c, hget, _⟩ := h
  exact (List.getElem?_eq_some_iff.mp hget).1

/-- An urgent command of a grown log was urgent before, or it is the new one. -/
theorem UrgentAt.of_concat (h : UrgentAt f (log ++ [entry]) j) :
    UrgentAt f log j ∨ j = log.length ∧ entry.2.Urgent (filtersAt f log log.length) := by
  by_cases hlt : j < log.length
  · exact .inl ((urgentAt_concat_iff hlt).mp h)
  · have hle := h.lt_length
    rw [List.length_append, List.length_singleton] at hle
    obtain rfl : j = log.length := by omega
    exact .inr ⟨rfl, urgentAt_length_iff.mp h⟩

theorem WaitsAt.lt_length {d : Millis} (h : WaitsAt f quiet log n i d) : i < log.length := by
  obtain ⟨t, c, hget, _⟩ := h.named
  exact (List.getElem?_eq_some_iff.mp hget).1

theorem WaitsAt.concat {d : Millis} (h : WaitsAt f quiet log n i d) (hn : n ≤ log.length) :
    WaitsAt f quiet (log ++ [entry]) n i d := by
  refine ⟨?_, ?_, ?_⟩
  · rw [List.getElem?_append_left h.lt_length]
    exact h.named
  · rw [urgentAt_concat_iff h.lt_length]
    exact h.calm
  · intro j hij hjn
    rw [urgentAt_concat_iff (hjn.trans_le hn), namesQueryAt_concat_iff (hjn.trans_le hn)]
    exact h.since j hij hjn

end Growth

namespace Run

variable {α : Type} {p : Plan α} {r s : Run α}

/-- The run of the plan begins its `k`-th search with the step it takes from `m`. -/
def BeginsCall (p : Plan α) (k : ℕ) (m : Run α) : Prop :=
  Visits p m ∧ m.calls.length = k ∧ ∃ next, step p m = some next ∧ next.calls.length = k + 1

/-- The `i`-th command caused the `k`-th search: it is urgent and the search began as it was taken,
or the search had waited for it since. -/
def CausedBy (p : Plan α) (log : Log) (k i : ℕ) (call : Call) : Prop :=
  (UrgentAt p.initial log i ∧ ∃ c, log[i]? = some (call.began, c)) ∨
    ∃ m, BeginsCall p k m ∧ m.taken <+: log ∧
      WaitsAt p.initial p.quiescence log m.taken.length i call.began

section

variable {log : Log} {entry : Millis × Command} {k i : ℕ} {call : Call}

theorem CausedBy.of_urgent (h : CausedBy p log k i call) (hurgent : UrgentAt p.initial log i) :
    ∃ c, log[i]? = some (call.began, c) := by
  rcases h with ⟨_, hget⟩ | ⟨_, _, _, hwaits⟩
  · exact hget
  · exact (hwaits.calm hurgent).elim

theorem CausedBy.of_calm (h : CausedBy p log k i call) (hcalm : ¬ UrgentAt p.initial log i) :
    ∃ m, BeginsCall p k m ∧ m.taken <+: log ∧
      WaitsAt p.initial p.quiescence log m.taken.length i call.began := by
  rcases h with ⟨hurgent, _⟩ | hwaited
  · exact (hcalm hurgent).elim
  · exact hwaited

theorem CausedBy.concat (h : CausedBy p log k i call) : CausedBy p (log ++ [entry]) k i call := by
  rcases h with ⟨hurgent, c, hget⟩ | ⟨m, hbegins, htaken, hwaits⟩
  · refine .inl ⟨(urgentAt_concat_iff hurgent.lt_length).mpr hurgent, c, ?_⟩
    rw [List.getElem?_append_left hurgent.lt_length]
    exact hget
  · exact .inr ⟨m, hbegins, htaken.trans (List.prefix_append _ _),
      hwaits.concat htaken.length_le⟩

end

/-- Each search has its cause in the log, in order; no urgent command goes without a search; and
what waits has a cause behind all the others. -/
structure Explained (p : Plan α) (log : Log) (calls : List Call) (deadline : Option Millis)
    (causes : List ℕ) : Prop where
  length_eq : causes.length = calls.length
  increasing : causes.Pairwise (· < ·)
  bounded : ∀ i ∈ causes, i < log.length
  urgent : ∀ j, UrgentAt p.initial log j → j ∈ causes
  caused : ∀ k i call, causes[k]? = some i → calls[k]? = some call → CausedBy p log k i call
  waiting : ∀ d, deadline = some d → ∃ i, (∀ k ∈ causes, k < i) ∧
    WaitsAt p.initial p.quiescence log log.length i d
  submitted : log.countP (fun t => t.2.isSubmit) ≤ calls.length

theorem explained_nil (p : Plan α) : Explained p [] [] none [] := by
  refine ⟨rfl, .nil, by simp, ?_, by simp, by simp, by simp⟩
  intro j hurgent
  simpa using hurgent.lt_length

namespace Explained

variable {log : Log} {calls : List Call} {deadline : Option Millis} {causes : List ℕ}

/-- A new search has the new cause, and the old searches have the old ones. -/
theorem caused_concat {log' : Log} {i : ℕ} {call : Call}
    (hlength : causes.length = calls.length)
    (hold : ∀ k i call, causes[k]? = some i → calls[k]? = some call → CausedBy p log' k i call)
    (hnew : CausedBy p log' calls.length i call) (k i' : ℕ) (call' : Call)
    (hcause : (causes ++ [i])[k]? = some i') (hcall : (calls ++ [call])[k]? = some call') :
    CausedBy p log' k i' call' := by
  rcases Nat.lt_trichotomy k calls.length with hlt | rfl | hgt
  · rw [List.getElem?_append_left (hlength ▸ hlt)] at hcause
    rw [List.getElem?_append_left hlt] at hcall
    exact hold k i' call' hcause hcall
  · rw [← hlength, List.getElem?_concat_length] at hcause
    rw [List.getElem?_concat_length] at hcall
    obtain rfl := Option.some.inj hcause
    obtain rfl := Option.some.inj hcall
    exact hnew
  · have hlt := (List.getElem?_eq_some_iff.mp hcall).1
    simp only [List.length_append, List.length_singleton] at hlt
    omega

theorem increasing_concat {i : ℕ} (h : causes.Pairwise (· < ·)) (hi : ∀ k ∈ causes, k < i) :
    (causes ++ [i]).Pairwise (· < ·) := by
  rw [List.pairwise_append]
  refine ⟨h, by simp, ?_⟩
  intro k hk b hb
  rw [List.mem_singleton.mp hb]
  exact hi k hk

/-- An urgent command is taken, and its search begins. -/
theorem searches (h : Explained p log calls deadline causes) {t : Millis} {c : Command}
    (hurgent : c.Urgent (filtersAt p.initial log log.length)) (g : Filters) :
    Explained p (log ++ [(t, c)]) (calls ++ [⟨t, g⟩]) none (causes ++ [log.length]) := by
  have hnew : UrgentAt p.initial (log ++ [(t, c)]) log.length := urgentAt_length_iff.mpr hurgent
  refine ⟨by simp [h.length_eq], increasing_concat h.increasing h.bounded, ?_, ?_, ?_, by simp, ?_⟩
  · intro i hi
    rw [List.length_append, List.length_singleton, Nat.lt_succ_iff]
    rcases List.mem_append.mp hi with hi | hi
    · exact (h.bounded i hi).le
    · exact (List.mem_singleton.mp hi).le
  · intro j hj
    rcases hj.of_concat with hold | ⟨rfl, _⟩
    · exact List.mem_append_left _ (h.urgent j hold)
    · simp
  · refine caused_concat h.length_eq ?_ (.inl ⟨hnew, c, by simp⟩)
    exact fun k i call hcause hcall => (h.caused k i call hcause hcall).concat
  · have hsubmitted := h.submitted
    rw [List.countP_append, List.length_append]
    have hone : [(t, c)].countP (fun t => t.2.isSubmit) ≤ 1 := List.countP_le_length
    simp only [List.length_singleton]
    omega

/-- A command that is not urgent is taken. -/
theorem passes (h : Explained p log calls deadline causes) {t : Millis} {c : Command}
    (hcalm : ¬ c.Urgent (filtersAt p.initial log log.length))
    {deadline' : Option Millis}
    (hwaiting : ∀ d, deadline' = some d → ∃ i, (∀ k ∈ causes, k < i) ∧
      WaitsAt p.initial p.quiescence (log ++ [(t, c)]) (log.length + 1) i d) :
    Explained p (log ++ [(t, c)]) calls deadline' causes := by
  refine ⟨h.length_eq, h.increasing, ?_, ?_, ?_, ?_, ?_⟩
  · intro i hi
    rw [List.length_append]
    exact Nat.lt_add_right _ (h.bounded i hi)
  · intro j hj
    rcases hj.of_concat with hold | ⟨_, hurgent⟩
    · exact h.urgent j hold
    · exact (hcalm hurgent).elim
  · exact fun k i call hcause hcall => (h.caused k i call hcause hcall).concat
  · rw [List.length_append, List.length_singleton]
    exact hwaiting
  · have hedit : c.isSubmit = false := by
      cases c with
      | edit q => rfl
      | submit q => exact (hcalm trivial).elim
    simpa [hedit] using h.submitted

/-- An edit that names the query starts the quiet period anew. -/
theorem waits (h : Explained p log calls deadline causes) {t : Millis} {c : Command}
    (hcalm : ¬ c.Urgent (filtersAt p.initial log log.length))
    (hnamed : c.NamesQuery) :
    Explained p (log ++ [(t, c)]) calls (some (t + p.quiescence)) causes := by
  refine h.passes hcalm ?_
  intro d hd
  refine ⟨log.length, h.bounded, ⟨t, c, by simp, hnamed, (Option.some.inj hd).symm⟩, ?_, ?_⟩
  · rwa [urgentAt_length_iff]
  · intro j hlt hle
    omega

/-- A command that changes nothing leaves what waits as it is. -/
theorem keeps (h : Explained p log calls deadline causes) {t : Millis} {c : Command}
    (hcalm : ¬ c.Urgent (filtersAt p.initial log log.length))
    (hnamed : deadline.isSome → ¬ c.NamesQuery) :
    Explained p (log ++ [(t, c)]) calls deadline causes := by
  refine h.passes hcalm ?_
  intro d hd
  obtain ⟨i, hlast, hwaits⟩ := h.waiting d hd
  have hgrown : WaitsAt p.initial p.quiescence (log ++ [(t, c)]) log.length i d :=
    hwaits.concat le_rfl
  refine ⟨i, hlast, hgrown.named, hgrown.calm, ?_⟩
  intro j hij hj
  rcases Nat.lt_succ_iff_lt_or_eq.mp hj with hlt | rfl
  · exact hgrown.since j hij hlt
  · rw [urgentAt_length_iff, namesQueryAt_length_iff]
    exact ⟨hcalm, hnamed (by simp [hd])⟩

/-- What waited is searched. -/
theorem fires {d : Millis} (h : Explained p log calls (some d) causes) {m : Run α}
    (hbegins : BeginsCall p calls.length m) (htaken : m.taken = log) (g : Filters) :
    ∃ i, Explained p log (calls ++ [⟨d, g⟩]) none (causes ++ [i]) := by
  obtain ⟨i, hlast, hwaits⟩ := h.waiting d rfl
  refine ⟨i, by simp [h.length_eq], increasing_concat h.increasing hlast, ?_, ?_, ?_, by simp, ?_⟩
  · intro k hk
    rcases List.mem_append.mp hk with hk | hk
    · exact h.bounded k hk
    · exact List.mem_singleton.mp hk ▸ hwaits.lt_length
  · exact fun j hj => List.mem_append_left _ (h.urgent j hj)
  · refine caused_concat h.length_eq h.caused (.inr ⟨m, hbegins, ?_, ?_⟩)
    · exact htaken ▸ List.prefix_rfl
    · exact htaken ▸ hwaits
  · rw [List.length_append]
    exact Nat.le_add_right_of_le h.submitted

end Explained

/-! ## One step and whole runs -/

theorem explained_take {causes : List ℕ}
    (h : Explained p r.taken r.calls r.session.deadline causes) (haccounted : Accounted p r)
    (hpunctual : Punctual p r) (c : Command) (rest : List Command) :
    ∃ causes, Explained p (r.take c rest).taken (r.take c rest).calls
      (r.take c rest).session.deadline causes := by
  have heffect := r.session.step_effect (c.event r.clock)
  have hdue := heffect.isSome_iff.trans (c.due_event_iff r.session r.clock)
  have hwaits := heffect.deadline_isSome_iff
  have hfilters : r.session.filters = filtersAt p.initial r.taken r.taken.length := by
    rw [haccounted.filters, filtersAt, List.take_length, patches]
  simp only [take, follow_taken, follow_calls, follow_session]
  rw [hfilters] at hdue
  cases hout : (r.session.step (c.event r.clock)).1 with
  | some g =>
      have hnone : (r.session.step (c.event r.clock)).2.deadline = none := by
        simpa [hout] using hwaits
      rw [hnone]
      exact ⟨_, h.searches (hdue.mp (by simp [hout])) g⟩
  | none =>
      have hcalm := mt hdue.mpr (by simp [hout])
      refine ⟨causes, ?_⟩
      simp only [Option.map_none, Option.toList_none, List.append_nil]
      cases hdeadline : (r.session.step (c.event r.clock)).2.deadline with
      | none => exact h.passes hcalm (by simp)
      | some d =>
          -- the deadline is new if the command names the query, and else the old one
          rcases heffect.deadline_cases hdeadline with ⟨t, htyped, rfl⟩ | ⟨htyped, hold⟩
          · obtain ⟨hnamed, rfl⟩ := (c.typed?_event_eq_some_iff _ _).mp htyped
            rw [hpunctual.quiescence]
            exact h.waits hcalm hnamed
          · rw [hold] at h
            refine h.keeps hcalm fun _ hnamed => ?_
            have hsome := (c.typed?_event_eq_some_iff r.clock r.clock).mpr ⟨hnamed, rfl⟩
            rw [htyped] at hsome
            cases hsome

theorem explained_fire {causes : List ℕ}
    (h : Explained p r.taken r.calls r.session.deadline causes) (hpunctual : Punctual p r)
    (hvisits : Visits p r) (hdue : r.expired = true) (hstep : step p r = some r.fire) :
    ∃ causes, Explained p r.fire.taken r.fire.calls r.fire.session.deadline causes := by
  have heffect := r.session.poll_effect r.clock
  have hdeadline := hpunctual.deadline_eq_clock hdue
  obtain ⟨g, hout⟩ := Option.isSome_iff_exists.mp (heffect.isSome_iff.mpr (expired_iff.mp hdue))
  have hcalls : r.fire.calls = r.calls ++ [⟨r.clock, g⟩] := by simp [fire, hout]
  have hnone : r.fire.session.deadline = none := by
    simpa [fire, hout] using heffect.deadline_isSome_iff
  have hbegins : BeginsCall p r.calls.length r := ⟨hvisits, rfl, r.fire, hstep, by simp [hcalls]⟩
  rw [hdeadline] at h
  obtain ⟨i, hnext⟩ := h.fires hbegins rfl g
  refine ⟨causes ++ [i], ?_⟩
  rw [hcalls, hnone]
  simpa [fire] using hnext

theorem Visits.explained (h : Visits p r) :
    ∃ causes, Explained p r.taken r.calls r.session.deadline causes := by
  induction h with
  | refl => exact ⟨[], explained_nil p⟩
  | @tail r s hvisits hstep ih =>
      obtain ⟨causes, hcauses⟩ := ih
      have hreach : Reachable p r := Visits.reachable hvisits
      cases step_move hstep with
      | read u rest => exact ⟨causes, hcauses⟩
      | act hact =>
          cases hact with
          | sleep d rest => exact ⟨causes, hcauses⟩
          | send c rest => exact ⟨causes, hcauses⟩
          | note text rest => exact ⟨causes, hcauses⟩
          | take c rest => exact explained_take hcauses hreach.accounted hreach.punctual c rest
          | fire _ hdue => exact explained_fire hcauses hreach.punctual hvisits hdue hstep
          | complete c =>
              refine ⟨causes, ?_⟩
              simpa [complete, deadline_completed] using hcauses
          | advance later _ _ hlater =>
              obtain ⟨t, rfl, _⟩ := advance_cases hlater
              exact ⟨causes, hcauses⟩

/-- The causes of the searches as a map that keeps their order. -/
theorem Explained.exists_cause {log : Log} {calls : List Call} {deadline : Option Millis}
    {causes : List ℕ} (h : Explained p log calls deadline causes) :
    ∃ cause : Fin calls.length ↪o Fin log.length,
      (∀ k : Fin calls.length, CausedBy p log k (cause k) calls[k]) ∧
      ∀ j : Fin log.length, UrgentAt p.initial log j → ∃ k, cause k = j := by
  have hlt : ∀ k : Fin calls.length, (k : ℕ) < causes.length := by
    intro k
    rw [h.length_eq]
    exact k.isLt
  let cause (k : Fin calls.length) : Fin log.length :=
    ⟨causes.get ⟨k, hlt k⟩, h.bounded _ (List.get_mem _ _)⟩
  have hmono : StrictMono cause := by
    intro k l hkl
    exact List.pairwise_iff_get.mp h.increasing ⟨k, hlt k⟩ ⟨l, hlt l⟩ hkl
  refine ⟨OrderEmbedding.ofStrictMono cause hmono, ?_, ?_⟩
  · intro k
    exact h.caused k _ _ (by simp [cause, hlt k]) (by simp)
  · intro j hurgent
    obtain ⟨k, hk, hget⟩ := List.mem_iff_getElem.mp (h.urgent j hurgent)
    exact ⟨⟨k, h.length_eq ▸ hk⟩, Fin.ext hget⟩

/-- Every urgent command is the cause of a search that begins as it is taken; every other search
has waited one quiet period for an edit of the query, with nothing but idle commands taken since;
and searches do not overlap. -/
theorem every_search_has_one_cause (p : Plan α) :
    (∃ cause : Fin p.run.calls.length ↪o Fin p.run.taken.length,
      (∀ j : Fin p.run.taken.length, UrgentAt p.initial p.run.taken j →
        ∃ k, cause k = j ∧ p.run.calls[k].began = p.run.taken[j].1) ∧
      ∀ k : Fin p.run.calls.length, ¬ UrgentAt p.initial p.run.taken (cause k) →
        p.run.taken[cause k].2.NamesQuery ∧
        p.run.calls[k].began = p.run.taken[cause k].1 + p.quiescence ∧
        ∃ m, BeginsCall p k m ∧ m.taken <+: p.run.taken ∧
          ∀ j, (cause k : ℕ) < j → j < m.taken.length →
            ¬ UrgentAt p.initial p.run.taken j ∧ ¬ NamesQueryAt p.run.taken j) ∧
    (p.run.calls.Pairwise fun a b => a.began + p.latency ≤ b.began) ∧
    (commands p.script).countP Command.isSubmit ≤ p.run.calls.length ∧
    p.run.calls.length ≤ (commands p.script).length := by
  have hreach := (visits_run p).reachable
  have htaken := (hreach.accounted.delivered (done_run p).toSettled).taken
  obtain ⟨causes, h⟩ := (visits_run p).explained
  obtain ⟨cause, hcaused, hurgents⟩ := h.exists_cause
  refine ⟨⟨cause, ?_, ?_⟩, hreach.punctual.apart, ?_, ?_⟩
  · intro j hurgent
    obtain ⟨k, rfl⟩ := hurgents j hurgent
    obtain ⟨c, hget⟩ := (hcaused k).of_urgent hurgent
    exact ⟨k, rfl, congrArg Prod.fst (List.getElem?_eq_some_iff.mp hget).2.symm⟩
  · intro k hcalm
    obtain ⟨m, hbegins, hfirst, hwaits⟩ := (hcaused k).of_calm hcalm
    obtain ⟨t, c, hget, hnamed, hbegan⟩ := hwaits.named
    have hentry : p.run.taken[cause k] = (t, c) := (List.getElem?_eq_some_iff.mp hget).2
    rw [hentry]
    exact ⟨hnamed, hbegan, m, hbegins, hfirst, hwaits.since⟩
  · rw [← htaken, List.countP_map]
    exact h.submitted
  · rw [← htaken, List.length_map]
    exact Fin.le_of_embedding cause.toEmbedding

/-- The category is searched as it is chosen and takes the waiting query along; the last edit is
taken after that search and waits by itself. -/
example :
    let p : Plan Unit := {
      quiescence := 300
      latency := 50
      initial := {}
      answer := fun _ _ => ()
      script := [.send (.edit (.setQuery "json")), .sleep 100,
        .send (.edit (.toggleCategory .database)), .send (.edit (.setQuery "json path"))]
      listening := true
      commandFirst := fun _ => true }
    p.run.taken.map Prod.fst = [0, 100, 150] ∧ p.run.calls.map Call.began = [100, 450] := by
  decide +kernel

end Run

end PackageRegistry.Search
