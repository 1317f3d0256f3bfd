import PackageRegistry.Proofs.Search.Updates

/-! # Runs that halt at a result

A run can be broken off where a result of some kind comes to the screen. Then that result is the
last one there is, and no other of its kind came before it.
-/

namespace PackageRegistry.Search.Run

variable {α β : Type} {p : Plan α} {r s : Run α} {kind : α → Bool}

theorem shows_iff :
    r.shows kind = true ↔ ∃ u ∈ r.screen.filterMap Shown.result?, kind u.outcome = true := by
  simp only [shows, List.any_eq_true, List.mem_filterMap]
  constructor
  · rintro ⟨entry, hentry, hkind⟩
    cases entry with
    | note text => cases hkind
    | result u => exact ⟨u, ⟨_, hentry, rfl⟩, hkind⟩
  · rintro ⟨u, ⟨entry, hentry, hu⟩, hkind⟩
    refine ⟨entry, hentry, ?_⟩
    cases entry with
    | note text => cases hu
    | result u' =>
        obtain rfl : u' = u := Option.some.inj hu
        exact hkind

theorem shows_map (g : α → β) (kind : β → Bool) (r : Run α) :
    ((View.map g).run r).shows kind = r.shows fun a => kind (g a) := by
  have hscreen : ((View.map g).run r).screen = r.screen.map (Shown.map g) := rfl
  rw [shows, shows, hscreen, List.any_map]
  congr 1
  funext entry
  cases entry <;> rfl

/-- One result at most is made known at a time, and it is the next to be read. -/
theorem Act.exists_updates (h : Act p r s) :
    ∃ us, us.length ≤ 1 ∧ s.updates = r.updates ++ us ∧ s.unread = r.unread ++ us := by
  have hnone : ∃ us : List (Update α), us.length ≤ 1 ∧ r.updates = r.updates ++ us ∧
      r.unread = r.unread ++ us := ⟨[], by simp⟩
  cases h with
  | sleep d rest => exact hnone
  | send c rest => exact hnone
  | note text rest => exact hnone
  | take c rest => exact ⟨[], by simp, by simp [Run.take], by simp [Run.take]⟩
  | fire => exact ⟨[], by simp, by simp [Run.fire], by simp [Run.fire]⟩
  | complete c => exact ⟨report p r c, length_report_le p r c, rfl, rfl⟩
  | advance later _ _ hlater =>
      obtain ⟨t, rfl, _⟩ := advance_cases hlater
      exact hnone

theorem mem_of_mem_dropLast_append {γ : Type} {l xs : List γ} (h : xs.length ≤ 1) {x : γ}
    (hx : x ∈ (l ++ xs).dropLast) : x ∈ l := by
  match xs, h with
  | [], _ => exact List.dropLast_subset l (by simpa using hx)
  | [y], _ => simpa using hx

/-- As long as no result of a kind is on the screen, only the last one made known can be of it. -/
theorem earlier_of_step (hvisits : Visits p r) (hshows : r.shows kind = false)
    (h : ∀ u ∈ r.updates.dropLast, kind u.outcome = false) (hstep : step p r = some s) :
    ∀ u ∈ s.updates.dropLast, kind u.outcome = false := by
  unfold step at hstep
  split at hstep
  · obtain rfl := Option.some.inj hstep
    exact h
  · rename_i hunread
    obtain ⟨us, hone, hupdates, _⟩ := (act_act hstep).exists_updates
    intro u hu
    rw [hupdates] at hu
    have hmem := mem_of_mem_dropLast_append hone hu
    rw [← hvisits.reachable.screen_append_unread, hunread, List.append_nil] at hmem
    by_contra hkind
    have hshown : r.shows kind = true := shows_iff.mpr ⟨u, hmem, by simpa using hkind⟩
    simp [hshown] at hshows

/-- A run up to the first result of a kind that is shown, or to its end. -/
structure UpTo (kind : α → Bool) (p : Plan α) (r : Run α) : Prop where
  visits : Visits p r
  done : r.shows kind = false → r.Done
  shown : r.shows kind = true ↔ ∃ u ∈ r.updates, kind u.outcome = true
  earlier : ∀ u ∈ r.updates.dropLast, kind u.outcome = false

theorem earlier_finishUnless (hvisits : Visits p r)
    (h : ∀ u ∈ r.updates.dropLast, kind u.outcome = false) :
    ∀ u ∈ (finishUnless (shows kind) p r).updates.dropLast, kind u.outcome = false := by
  fun_induction finishUnless (shows kind) p r with
  | case1 r _ => exact h
  | case2 r _ _ => exact h
  | case3 r hgoes s hstep _ ih =>
      have hshows : r.shows kind = false := by simpa using hgoes
      exact ih (hvisits.tail hstep) (earlier_of_step hvisits hshows h hstep)

theorem upTo_runUnless (kind : α → Bool) (p : Plan α) : UpTo kind p (p.runUnless (shows kind)) := by
  obtain ⟨hvisits, hlast⟩ := finishUnless_steps (shows kind) p (.start p)
  have hdone : (p.runUnless (shows kind)).shows kind = false → (p.runUnless (shows kind)).Done := by
    intro hshows
    refine step_eq_none (hlast.resolve_left ?_)
    rw [← Bool.not_eq_false]
    exact not_not_intro hshows
  have hscreen := Reachable.screen_append_unread (Visits.reachable hvisits)
  refine ⟨hvisits, hdone, ⟨?_, ?_⟩, earlier_finishUnless .refl ?_⟩
  · intro hshows
    obtain ⟨u, hu, hkind⟩ := shows_iff.mp hshows
    refine ⟨u, ?_, hkind⟩
    rw [Plan.runUnless, ← hscreen]
    exact List.mem_append_left _ hu
  · rintro ⟨u, hu, hkind⟩
    by_contra hnot
    have hshows : (p.runUnless (shows kind)).shows kind = false := by simpa using hnot
    -- at the end everything has been read
    refine hnot (shows_iff.mpr ⟨u, ?_, hkind⟩)
    have hunread := (hdone hshows).unread
    rw [Plan.runUnless] at hunread hu ⊢
    rwa [← hscreen, hunread, List.append_nil] at hu
  · simp [start]

end PackageRegistry.Search.Run
