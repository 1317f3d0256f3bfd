import PackageRegistry.Proofs.Search.Moves

/-! # Runs seen with other updates

What is known of the results, what is left to read and what is on the screen never steers a run, but
for the places that unread results take. So a view that rewrites these three follows every step.
-/

namespace PackageRegistry.Search

variable {α β : Type}

/-- The same plan with every answer changed in one way. -/
def Plan.map (g : α → β) (p : Plan α) : Plan β := { p with answer := fun n f => g (p.answer n f) }

/-- How to see the updates of a run and its screen. -/
structure View (α β : Type) where
  updates : List (Update α) → List (Update β)
  screen : List (Shown α) → List (Shown β)

namespace View

/-- A run as the view shows it. -/
def run (v : View α β) (r : Run α) : Run β :=
  { r with
    updates := v.updates r.updates
    unread := v.updates r.unread
    screen := v.screen r.screen }

/-- A view of the runs of one plan as runs of another: the plans differ in no time and no choice,
new results are seen behind the old ones, and remarks are seen as they are. -/
structure Between (v : View α β) (p : Plan α) (q : Plan β) : Prop where
  latency : q.latency = p.latency
  commandFirst : q.commandFirst = p.commandFirst
  report : ∀ us r c, v.updates (us ++ r.report p c) = v.updates us ++ (v.run r).report q c
  note : ∀ shown text, v.screen (shown ++ [.note text]) = v.screen shown ++ [.note text]

variable {v : View α β} {p : Plan α} {q : Plan β}

theorem run_follow (v : View α β) (r : Run α) (o : Option Filters × Session) :
    v.run (r.follow o) = (v.run r).follow o := by
  obtain ⟨_ | _, _⟩ := o <;> rfl

theorem run_take (v : View α β) (r : Run α) (c : Command) (rest : List Command) :
    v.run (r.take c rest) = (v.run r).take c rest :=
  v.run_follow _ _

theorem run_fire (v : View α β) (r : Run α) : v.run r.fire = (v.run r).fire :=
  v.run_follow _ _

theorem Between.run_complete (h : v.Between p q) (r : Run α) (c : Call) :
    v.run (r.complete p c) = (v.run r).complete q c := by
  simp only [Run.complete, run, h.report]

theorem Between.run_note (h : v.Between p q) (r : Run α) (text : String) (rest : List Action) :
    v.run { r with script := rest, screen := r.screen ++ [.note text] } =
      { v.run r with script := rest, screen := (v.run r).screen ++ [.note text] } := by
  simp only [run, h.note]

theorem Between.run_advance (h : v.Between p q) (r : Run α) :
    (r.advance p).map v.run = (v.run r).advance q := by
  have halarms : (v.run r).alarms q = r.alarms p := by
    rw [Run.alarms, h.latency]
    rfl
  rw [Run.advance, Run.advance, halarms, Option.map_map]
  rfl

theorem Between.run_work (h : v.Between p q) (r : Run α)
    (hplaces : (v.run r).crowded q = r.crowded p) : (r.work p).map v.run = (v.run r).work q := by
  have hrunning : (v.run r).running = r.running := rfl
  have hqueue : (v.run r).queue = r.queue := rfl
  simp only [Run.work, hrunning, hqueue, h.latency, h.commandFirst, hplaces]
  split
  · rename_i c _
    by_cases hover : c.began + p.latency ≤ r.clock ∧ r.crowded p = false
    · rw [if_pos hover]
      exact (congrArg some (h.run_complete r c)).trans (if_pos hover).symm
    · rw [if_neg hover]
      exact (h.run_advance r).trans (if_neg hover).symm
  · rename_i c rest _ _
    by_cases hfirst : (r.expired && !p.commandFirst (r.taken.length + r.calls.length)) = true
    · rw [if_pos hfirst]
      exact (congrArg some (v.run_fire r)).trans (if_pos hfirst).symm
    · rw [if_neg hfirst]
      exact (congrArg some (v.run_take r c rest)).trans (if_neg hfirst).symm
  · by_cases hdue : r.expired = true
    · rw [if_pos hdue]
      exact (congrArg some (v.run_fire r)).trans (if_pos hdue).symm
    · rw [if_neg hdue]
      exact (h.run_advance r).trans (if_neg hdue).symm

/-- Typist and worker do the same in a view. -/
theorem Between.run_act (h : v.Between p q) (r : Run α)
    (hplaces : (v.run r).crowded q = r.crowded p) : (r.act p).map v.run = (v.run r).act q := by
  have hscript : (v.run r).script = r.script := rfl
  unfold Run.act
  by_cases hawake : r.wake ≤ r.clock
  · rw [if_pos hawake]
    refine Eq.trans ?_ (if_pos hawake).symm
    rw [hscript]
    split
    · rfl
    · by_cases hroom : r.queue.length < capacity
      · rw [if_pos hroom]
        exact (if_pos hroom).symm
      · rw [if_neg hroom]
        exact (h.run_work r hplaces).trans (if_neg hroom).symm
    · rename_i text rest _
      exact congrArg some (h.run_note r text rest)
    · exact h.run_work r hplaces
  · rw [if_neg hawake]
    exact (h.run_work r hplaces).trans (if_neg hawake).symm

/-! ## Other outcomes -/

/-- Every outcome changed in one way. -/
def map (g : α → β) : View α β := ⟨List.map (Update.map g), List.map (Shown.map g)⟩

theorem between_map (g : α → β) (p : Plan α) : (map g).Between p (p.map g) := by
  refine ⟨rfl, rfl, ?_, ?_⟩
  · intro us r c
    have hreport : (r.report p c).map (Update.map g) = ((map g).run r).report (p.map g) c := by
      rw [Run.report, apply_ite (List.map (Update.map g))]
      rfl
    exact (List.map_append ..).trans (congrArg _ hreport)
  · intro shown text
    simp only [map, List.map_append]
    rfl

theorem crowded_map (g : α → β) (p : Plan α) (r : Run α) :
    ((map g).run r).crowded (p.map g) = r.crowded p := by
  simp [Run.crowded, run, map, Plan.map]

/-- The listener reads the same results. -/
theorem run_step_map (g : α → β) (p : Plan α) (r : Run α) :
    (r.step p).map (map g).run = ((map g).run r).step (p.map g) := by
  have hunread : ((map g).run r).unread = r.unread.map (Update.map g) := rfl
  unfold Run.step
  rw [hunread]
  cases r.unread with
  | nil => exact (between_map g p).run_act r (crowded_map g p r)
  | cons u rest =>
      simp only [List.map_cons, Option.map_some]
      simp [run, map, Run.read, Shown.map]

/-- So does the whole rest of a run, up to where it halts. -/
theorem run_finishUnless_map (g : α → β) (halts : Run β → Bool) (p : Plan α) (r : Run α) :
    (map g).run (r.finishUnless (fun r => halts ((map g).run r)) p) =
      ((map g).run r).finishUnless halts (p.map g) := by
  fun_induction Run.finishUnless (fun r => halts ((map g).run r)) p r with
  | case1 r h => rw [Run.finishUnless_of_halts h]
  | case2 r _ h =>
      have hstep : ((map g).run r).step (p.map g) = none := by rw [← run_step_map, h]; rfl
      rw [Run.finishUnless_of_step_none hstep]
  | case3 r hgoes s h _ ih =>
      have hstep : ((map g).run r).step (p.map g) = some ((map g).run s) := by
        rw [← run_step_map, h]
        rfl
      rw [ih, Run.finishUnless_of_step_some (by simpa using hgoes) hstep]

end View

end PackageRegistry.Search
