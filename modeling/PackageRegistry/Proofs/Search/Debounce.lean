import PackageRegistry.Proofs.Search.Effects

/-! # Runs of events on a search page

A page that waits for nothing has the filters of its latest search, and the deadline of a page
that waits is told by its history alone.
-/

namespace PackageRegistry.Search

namespace Session

/-! ## Pages and searches of a run -/

/-- The page after a run of events. -/
def after (s : Session) (es : List Event) : Session :=
  es.foldl (fun s e => (s.step e).2) s

/-- The filters that the events of a run gave for searching, oldest first. -/
def returned (s : Session) (es : List Event) : List Filters :=
  (s.trace es).filterMap Prod.fst

@[simp] theorem after_nil (s : Session) : s.after [] = s := rfl

@[simp] theorem after_cons (s : Session) (e : Event) (es : List Event) :
    s.after (e :: es) = (s.step e).2.after es := rfl

@[simp] theorem after_append (s : Session) (es fs : List Event) :
    s.after (es ++ fs) = (s.after es).after fs :=
  List.foldl_append

theorem trace_append (s : Session) (es fs : List Event) :
    s.trace (es ++ fs) = s.trace es ++ (s.after es).trace fs := by
  induction es generalizing s with
  | nil => rfl
  | cons e es ih =>
      rw [List.cons_append, trace, trace, List.cons_append, after_cons, ih]

@[simp] theorem returned_singleton (s : Session) (e : Event) :
    s.returned [e] = (s.step e).1.toList := by
  cases hout : (s.step e).1 <;> simp [returned, trace, hout]

@[simp] theorem returned_append (s : Session) (es fs : List Event) :
    s.returned (es ++ fs) = s.returned es ++ (s.after es).returned fs := by
  unfold returned
  rw [trace_append, List.filterMap_append]

@[simp] theorem quiescence_after (s : Session) (es : List Event) :
    (s.after es).quiescence = s.quiescence := by
  induction es generalizing s with
  | nil => rfl
  | cons e es ih => rw [after_cons, ih, (s.step_effect e).quiescence_eq]

/-! ## No change is forgotten -/

theorem filters_after (s : Session) (es : List Event) :
    (s.after es).filters = s.filters.mergeAll (Event.patches es) := by
  induction es generalizing s with
  | nil => rfl
  | cons e es ih =>
      rw [after_cons, ih, (s.step_effect e).filters_eq, ← Filters.mergeAll_append]
      congr 1
      cases hpatch : e.patch? <;> simp [Event.patches, hpatch]

/-- A page that waits for nothing has the filters of its latest search. -/
theorem synced_after (f : Filters) (q : Millis) (es : List Event)
    (h : ((start f q).after es).deadline = none) :
    ((start f q).after es).filters = ((start f q).returned es).getLastD f := by
  induction es using List.reverseRecOn with
  | nil => rfl
  | append_singleton es e ih =>
      rw [after_append, after_cons, after_nil] at h ⊢
      rw [(((start f q).after es).step_effect e).synced ih h, returned_append, returned_singleton,
        getLastD_append_toList]

/-- Every search takes all changes made so far along, and a page that waits for nothing has
searched its last change. -/
theorem change_is_searched_or_waits (f : Filters) (q : Millis) (es : List Event) :
    (∀ e g, (((start f q).after es).step e).1 = some g →
      g = ((start f q).after (es ++ [e])).filters ∧
        g = f.mergeAll (Event.patches (es ++ [e]))) ∧
    (((start f q).after es).deadline = none →
      ((start f q).after es).filters = ((start f q).returned es).getLastD f) := by
  refine ⟨?_, synced_after f q es⟩
  intro e g hout
  have hstep := ((start f q).after es).step_effect e
  rw [hout] at hstep
  have hfilters : g = ((start f q).after (es ++ [e])).filters := by
    rw [after_append]
    exact hstep.out_eq
  exact ⟨hfilters, hfilters.trans (filters_after (start f q) (es ++ [e]))⟩

/-! ## The deadline of a history -/

/-- An edit of the run retyped the query, and nothing was searched since. -/
def Awaits (s : Session) (es : List Event) : Prop :=
  ∃ before e since, es = before ++ e :: since ∧ (s.after before).Retypes e ∧
    (s.after (before ++ [e])).returned since = []

theorem not_awaits_nil (s : Session) : ¬ s.Awaits [] := by
  rintro ⟨before, e, since, hes, _⟩
  simp at hes

theorem awaits_concat_iff (s : Session) (es : List Event) (e : Event) :
    s.Awaits (es ++ [e]) ↔
      ((s.after es).step e).1 = none ∧ ((s.after es).Retypes e ∨ s.Awaits es) := by
  have heffect := (s.after es).step_effect e
  constructor
  · rintro ⟨before, typed, since, hes, hretypes, hsilent⟩
    rcases List.eq_nil_or_concat since with rfl | ⟨since, last, rfl⟩
    · obtain ⟨rfl, hlast⟩ := List.append_inj' hes rfl
      obtain rfl : e = typed := by simpa using hlast
      have hnone : ¬ ((s.after es).step e).1.isSome := mt heffect.isSome_iff.mp hretypes.not_due
      exact ⟨by simpa using hnone, .inl hretypes⟩
    · have hsplit : es ++ [e] = (before ++ typed :: since) ++ [last] := by simpa using hes
      obtain ⟨rfl, hlast⟩ := List.append_inj' hsplit rfl
      obtain rfl : e = last := by simpa using hlast
      simp only [List.concat_eq_append, returned_append, List.append_eq_nil_iff,
        returned_singleton] at hsilent
      refine ⟨?_, .inr ⟨before, typed, since, rfl, hretypes, hsilent.1⟩⟩
      simpa using hsilent.2
  · rintro ⟨hnone, hretypes | ⟨before, typed, since, rfl, hretypes, hsilent⟩⟩
    · exact ⟨es, e, [], rfl, hretypes, rfl⟩
    · refine ⟨before, typed, since ++ [e], by simp, hretypes, ?_⟩
      rw [returned_append, hsilent, returned_singleton]
      simpa using hnone

theorem deadline_isSome_iff_awaits (f : Filters) (q : Millis) (es : List Event) :
    ((start f q).after es).deadline.isSome ↔ (start f q).Awaits es := by
  induction es using List.reverseRecOn with
  | nil => simpa [start, deadline] using not_awaits_nil (start f q)
  | append_singleton es e ih =>
      rw [after_append, after_cons, after_nil,
        (((start f q).after es).step_effect e).deadline_isSome_iff, ih, awaits_concat_iff]

/-- A deadline is one quiet period after the query was last named. -/
theorem deadline_eq_typed (f : Filters) (q : Millis) (es : List Event) {d : Millis}
    (h : ((start f q).after es).deadline = some d) :
    ∃ now, (Event.typed es).getLast? = some now ∧ d = now + q := by
  induction es using List.reverseRecOn with
  | nil => cases h
  | append_singleton es e ih =>
      rw [after_append] at h
      have htyped : Event.typed (es ++ [e]) = Event.typed es ++ e.typed?.toList := by
        cases he : e.typed? <;> simp [Event.typed, he]
      rcases (((start f q).after es).step_effect e).deadline_cases h with
        ⟨now, he, hd⟩ | ⟨he, hold⟩
      · refine ⟨now, by simp [htyped, he], ?_⟩
        rw [hd, quiescence_after]
        rfl
      · obtain ⟨now, hlast, hd⟩ := ih hold
        exact ⟨now, by simpa [htyped, he] using hlast, hd⟩

/-- The deadline of a page, told by its history. -/
theorem deadline_exact (f : Filters) (q : Millis) (es : List Event) :
    (((start f q).after es).deadline.isSome ↔ (start f q).Awaits es) ∧
    (∀ d, ((start f q).after es).deadline = some d →
      ∃ now, (Event.typed es).getLast? = some now ∧ d = now + q) ∧
    (∀ now, (((start f q).after es).poll now).1.isSome ↔
      (start f q).Awaits es ∧ ∃ t, (Event.typed es).getLast? = some t ∧ t + q ≤ now) ∧
    ((start f q).after es).completed.deadline = ((start f q).after es).deadline := by
  refine ⟨deadline_isSome_iff_awaits f q es, fun d => deadline_eq_typed f q es, ?_,
    Run.deadline_completed _⟩
  intro now
  rw [(((start f q).after es).poll_effect now).isSome_iff, ← deadline_isSome_iff_awaits]
  constructor
  · rintro ⟨d, hdeadline, hle⟩
    obtain ⟨t, hlast, rfl⟩ := deadline_eq_typed f q es hdeadline
    exact ⟨by simp [hdeadline], t, hlast, hle⟩
  · rintro ⟨hsome, t, hlast, hle⟩
    obtain ⟨d, hdeadline⟩ := Option.isSome_iff_exists.mp hsome
    obtain ⟨t', hlast', rfl⟩ := deadline_eq_typed f q es hdeadline
    rw [hlast] at hlast'
    exact ⟨_, hdeadline, by rwa [← Option.some.inj hlast']⟩

/-- A blank behind the query changes nothing and still prolongs the quiet period. -/
example : ((start {} 300).after
    [.edit (.setQuery "http") 0, .edit (.setQuery "http ") 200]).deadline = some 500 := by
  decide

end Session

end PackageRegistry.Search
