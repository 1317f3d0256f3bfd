import Mathlib.Data.List.Induction
import PackageRegistry.Search.Run

/-! # What one event does to a search page

Whether a page is searching or idle shows nowhere but in the end of a search, so a page is known
by its filters and its deadline. `Session.Effect` says what an event does to the two.
-/

namespace PackageRegistry

/-- The last of a list that may have grown by one. -/
theorem getLastD_append_toList {β : Type*} (xs : List β) (o : Option β) (x : β) :
    (xs ++ o.toList).getLastD x = o.getD (xs.getLastD x) := by
  cases o <;> simp

/-! ## Filters and triggers -/

namespace Filters

/-- Two filters that differ in the query at most. -/
def SameControls (f g : Filters) : Prop :=
  f.category = g.category ∧ f.license = g.license ∧ f.sort = g.sort

instance (f g : Filters) : Decidable (f.SameControls g) :=
  inferInstanceAs (Decidable (_ ∧ _ ∧ _))

theorem eq_of_sameControls {f g : Filters} (hcontrols : f.SameControls g)
    (hquery : f.query = g.query) : f = g := by
  obtain ⟨hcategory, hlicense, hsort⟩ := hcontrols
  cases f
  cases g
  simp_all

/-- A patch that does not name the query keeps it. -/
theorem query_merge_of_none (f : Filters) {p : Patch} (h : p.query = none) :
    (f.merge p).query = f.query := by
  simp [merge, h]

@[simp] theorem mergeAll_nil (f : Filters) : f.mergeAll [] = f := rfl

@[simp] theorem mergeAll_cons (f : Filters) (p : Patch) (ps : List Patch) :
    f.mergeAll (p :: ps) = (f.merge p).mergeAll ps := rfl

@[simp] theorem mergeAll_append (f : Filters) (ps qs : List Patch) :
    f.mergeAll (ps ++ qs) = (f.mergeAll ps).mergeAll qs :=
  List.foldl_append

end Filters

namespace Trigger

theorem classify_eq_immediate_iff (f g : Filters) :
    classify f g = .immediate ↔ ¬ f.SameControls g := by
  unfold classify Filters.SameControls
  split
  · simp only [true_iff]
    tauto
  · split <;> simp <;> tauto

theorem classify_eq_debounced_iff (f g : Filters) :
    classify f g = .debounced ↔ f.SameControls g ∧ f.query ≠ g.query := by
  unfold classify Filters.SameControls
  split
  · simp only [reduceCtorEq, false_iff]
    tauto
  · split <;> simp <;> tauto

/-- Nothing is triggered exactly when nothing changed. -/
theorem classify_eq_unchanged_iff (f g : Filters) : classify f g = .unchanged ↔ g = f := by
  constructor
  · intro h
    have hcontrols : f.SameControls g := by
      by_contra hn
      rw [(classify_eq_immediate_iff f g).mpr hn] at h
      cases h
    have hquery : f.query = g.query := by
      by_contra hn
      rw [(classify_eq_debounced_iff f g).mpr ⟨hcontrols, hn⟩] at h
      cases h
    exact (Filters.eq_of_sameControls hcontrols hquery).symm
  · rintro rfl
    simp [classify]

end Trigger

namespace Search

/-! ## Events -/

namespace Event

/-- The patch an event brings. -/
def patch? : Event → Option Patch
  | .edit p _ => some p
  | .submit p => some p
  | .poll _ => none
  | .completed => none

/-- The instant of an edit whose patch names the query. -/
def typed? : Event → Option Millis
  | .edit p now => p.query.map fun _ => now
  | _ => none

/-- The patches of a run, oldest first. -/
def patches (es : List Event) : List Patch := es.filterMap patch?

/-- The instants at which the query was named in a run, oldest first. -/
def typed (es : List Event) : List Millis := es.filterMap typed?

end Event

namespace Session

/-- An event upon which a page searches. -/
def Due (s : Session) : Event → Prop
  | .edit p _ => ¬ s.filters.SameControls (s.filters.merge p)
  | .submit _ => True
  | .poll now => ∃ d, s.deadline = some d ∧ d ≤ now
  | .completed => False

/-- An edit that changes the query and leaves every other control as it is. -/
def Retypes (s : Session) : Event → Prop
  | .edit p _ => s.filters.SameControls (s.filters.merge p) ∧
      s.filters.query ≠ (s.filters.merge p).query
  | _ => False

/-- What an event does: it searches with the merged filters and drops the deadline, or it sets
the deadline, or it leaves filters and deadline as they are. -/
inductive Effect (s : Session) : Event → Option Filters → Session → Prop where
  | searches (e) {g : Filters} {t : Session} (hdue : s.Due e)
      (hmerge : g = s.filters.mergeAll e.patch?.toList) (hfilters : t.filters = g)
      (hdeadline : t.deadline = none) (hquiescence : t.quiescence = s.quiescence) :
      Effect s e (some g) t
  | waits (p : Patch) (now : Millis) {t : Session} (hnamed : p.query.isSome)
      (hdue : ¬ s.Due (.edit p now))
      (hreason : s.Retypes (.edit p now) ∨ s.deadline.isSome)
      (hfilters : t.filters = s.filters.merge p)
      (hdeadline : t.deadline = some (now + s.quiescence))
      (hquiescence : t.quiescence = s.quiescence) :
      Effect s (.edit p now) none t
  | keeps (e) {t : Session} (hdue : ¬ s.Due e) (hretypes : ¬ s.Retypes e)
      (hnamed : e.typed?.isSome → s.deadline = none)
      (hmerge : s.filters.mergeAll e.patch?.toList = s.filters)
      (hfilters : t.filters = s.filters) (hdeadline : t.deadline = s.deadline)
      (hquiescence : t.quiescence = s.quiescence) :
      Effect s e none t

theorem deadline_eq_some_iff {s : Session} {d : Millis} :
    s.deadline = some d ↔ s.phase = .pending d := by
  unfold deadline
  split <;> simp_all

/-- An edit can retype only if its patch names the query. -/
theorem Retypes.named {s : Session} {p : Patch} {now : Millis} (h : s.Retypes (.edit p now)) :
    p.query.isSome := by
  by_contra hn
  exact h.2 (Filters.query_merge_of_none s.filters (by simpa using hn)).symm

theorem Retypes.not_due {s : Session} {e : Event} (h : s.Retypes e) : ¬ s.Due e := by
  cases e with
  | edit p now => exact not_not_intro h.1
  | _ => exact h.elim

theorem edit_effect (s : Session) (p : Patch) (now : Millis) :
    Effect s (.edit p now) (s.edit p now).1 (s.edit p now).2 := by
  unfold edit
  dsimp only
  split
  · rename_i htrigger
    have hdue : s.Due (.edit p now) := (Trigger.classify_eq_immediate_iff _ _).mp htrigger
    exact .searches _ hdue rfl rfl rfl rfl
  · rename_i htrigger
    have hretypes : s.Retypes (.edit p now) := (Trigger.classify_eq_debounced_iff _ _).mp htrigger
    exact .waits p now hretypes.named hretypes.not_due (.inl hretypes) rfl rfl rfl
  · rename_i htrigger
    have hmerge : s.filters.merge p = s.filters :=
      (Trigger.classify_eq_unchanged_iff _ _).mp htrigger
    have hdue : ¬ s.Due (.edit p now) := by simp [Due, hmerge, Filters.SameControls]
    have hretypes : ¬ s.Retypes (.edit p now) := by simp [Retypes, hmerge]
    split
    · rename_i hquery hphase
      refine .waits p now (by simp [hquery]) hdue (.inr ?_) rfl rfl rfl
      simp [deadline_eq_some_iff.mpr hphase]
    · rename_i hpair
      refine .keeps _ hdue hretypes ?_ hmerge hmerge rfl rfl
      intro hnamed
      cases hdeadline : s.deadline with
      | none => rfl
      | some d =>
          obtain ⟨change, hchange⟩ : ∃ change, p.query = some change := by
            cases hquery : p.query <;> simp_all [Event.typed?]
          exact (hpair change d hchange (deadline_eq_some_iff.mp hdeadline)).elim

theorem poll_effect (s : Session) (now : Millis) :
    Effect s (.poll now) (s.poll now).1 (s.poll now).2 := by
  unfold poll
  split
  · rename_i d hphase
    have hdeadline := deadline_eq_some_iff.mpr hphase
    by_cases hdue : d ≤ now
    · rw [if_pos hdue]
      exact .searches (.poll now) ⟨d, hdeadline, hdue⟩ rfl rfl rfl rfl
    · rw [if_neg hdue]
      refine .keeps (.poll now) ?_ (by simp [Retypes]) (by simp [Event.typed?]) rfl rfl rfl rfl
      rintro ⟨d', hd', hle⟩
      rw [hdeadline] at hd'
      exact hdue (Option.some.inj hd' ▸ hle)
  · rename_i hphase
    refine .keeps (.poll now) ?_ (by simp [Retypes]) (by simp [Event.typed?]) rfl rfl rfl rfl
    rintro ⟨d, hdeadline, _⟩
    exact hphase d (deadline_eq_some_iff.mp hdeadline)

theorem filters_completed (s : Session) : s.completed.filters = s.filters := by
  unfold completed
  split <;> rfl

theorem quiescence_completed (s : Session) : s.completed.quiescence = s.quiescence := by
  unfold completed
  split <;> rfl

theorem completed_effect (s : Session) : Effect s .completed none s.completed :=
  .keeps .completed (by simp [Due]) (by simp [Retypes]) (by simp [Event.typed?]) rfl
    s.filters_completed (Run.deadline_completed s) s.quiescence_completed

/-- Every event has one of the effects. -/
theorem step_effect (s : Session) (e : Event) : Effect s e (s.step e).1 (s.step e).2 := by
  cases e with
  | edit p now => exact s.edit_effect p now
  | submit p => exact .searches (.submit p) trivial rfl rfl rfl rfl
  | poll now => exact s.poll_effect now
  | completed => exact s.completed_effect

/-! ## What every effect has in common -/

namespace Effect

variable {s t : Session} {e : Event} {o : Option Filters}

theorem quiescence_eq (h : Effect s e o t) : t.quiescence = s.quiescence := by
  cases h <;> assumption

/-- The patch of an event is merged, whatever else the event does. -/
theorem filters_eq (h : Effect s e o t) : t.filters = s.filters.mergeAll e.patch?.toList := by
  cases h with
  | searches _ _ hmerge hfilters => rw [hfilters, hmerge]
  | waits p now _ _ _ hfilters => exact hfilters
  | keeps _ _ _ _ hmerge hfilters => rw [hfilters, hmerge]

theorem out_eq {g : Filters} (h : Effect s e (some g) t) : g = t.filters := by
  cases h with
  | searches _ _ _ hfilters => exact hfilters.symm

theorem isSome_iff (h : Effect s e o t) : o.isSome ↔ s.Due e := by
  cases h with
  | searches _ hdue => simpa using hdue
  | waits p now _ hdue => simpa using hdue
  | keeps _ hdue => simpa using hdue

/-- A page without a deadline has the filters of its latest search. -/
theorem synced (h : Effect s e o t) {f : Filters} (hs : s.deadline = none → s.filters = f)
    (ht : t.deadline = none) : t.filters = o.getD f := by
  cases h with
  | searches _ _ _ hfilters => exact hfilters
  | waits p now _ _ _ _ hdeadline =>
      rw [hdeadline] at ht
      cases ht
  | keeps _ _ _ _ _ hfilters hdeadline =>
      rw [hfilters]
      exact hs (hdeadline ▸ ht)

theorem deadline_isSome_iff (h : Effect s e o t) :
    t.deadline.isSome ↔ o = none ∧ (s.Retypes e ∨ s.deadline.isSome) := by
  cases h with
  | searches _ _ _ _ hdeadline => simp [hdeadline]
  | waits p now _ _ hreason _ hdeadline => simpa [hdeadline] using hreason
  | keeps _ _ hretypes _ _ _ hdeadline => simp [hdeadline, hretypes]

/-- A deadline is set by an edit that names the query, or it was there and stays. -/
theorem deadline_cases (h : Effect s e o t) {d : Millis} (hd : t.deadline = some d) :
    (∃ now, e.typed? = some now ∧ d = now + s.quiescence) ∨
      (e.typed? = none ∧ s.deadline = some d) := by
  cases h with
  | searches _ _ _ _ hdeadline =>
      rw [hdeadline] at hd
      cases hd
  | waits p now hnamed _ _ _ hdeadline =>
      obtain ⟨change, hquery⟩ := Option.isSome_iff_exists.mp hnamed
      refine .inl ⟨now, by simp [Event.typed?, hquery], ?_⟩
      rw [hdeadline] at hd
      exact (Option.some.inj hd).symm
  | keeps e _ _ hnamed _ _ hdeadline =>
      rw [hdeadline] at hd
      refine .inr ⟨?_, hd⟩
      cases htyped : e.typed? with
      | none => rfl
      | some now => simp [hnamed (by simp [htyped])] at hd

end Effect

end Session

end Search

end PackageRegistry
