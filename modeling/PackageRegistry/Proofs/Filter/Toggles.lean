import PackageRegistry.Proofs.Filter.Payload

/-! # Toggling twice

A toggle looks at the value that is kept. For a control that is the value it sets, and a second
toggle takes the first one back unless the first one replaced another value. A query is trimmed
before it is kept, so a toggle of a text with blanks around it never finds that text again.
-/

namespace PackageRegistry

variable {α β : Type}

/-! ## One field -/

namespace Change

/-- A control is as before unless its toggle replaced another value. -/
theorem toggle_toggle_eq_iff [DecidableEq α] (v : α) (x : Option α) :
    (toggle v).apply ((toggle v).apply x) = x ↔ x = none ∨ x = some v := by
  cases x with
  | none => simp [apply]
  | some w =>
      by_cases h : w = v
      · simp [apply, h]
      · simp [apply, h]

/-- The order is as before unless its toggle replaced one that is not the default. -/
theorem toggle_toggle_sort_iff (v s : SortKey) :
    ((toggle v).apply (some (((toggle v).apply (some s)).getD .relevance))).getD .relevance = s ↔
      s = .relevance ∨ s = v := by
  by_cases hs : s = v
  · subst hs
    by_cases hv : SortKey.relevance = s
    · simp [apply, ← hv]
    · simp [apply, hv]
  · simp only [apply, Option.some.injEq, hs, if_false, Option.getD_some, if_true, Option.getD_none,
      or_false]
    exact eq_comm

/-- When a toggle of the query undoes itself. -/
structure UndoesQuery (v : String) (q : Option String) : Prop where
  trimmed : Text.trim v = v → ¬ Text.isBlank v = true → q = none ∨ q = some v
  blank : Text.isBlank v = true → q = none
  padded : ¬ Text.isBlank v = true → Text.trim v ≠ v → q = some (Text.trim v)

/-- The query after a toggle, as it is kept. -/
def toggleQuery (v : String) (q : Option String) : Option String :=
  ((toggle v).apply q).bind Text.trimmed?

/-- A text that is not kept as it is is never found, and its toggle sets it each time. -/
theorem toggleQuery_of_ne {v : String} {q : Option String} (h : q ≠ some v) :
    toggleQuery v q = Text.trimmed? v := by
  simp [toggleQuery, apply, h]

theorem toggleQuery_self (v : String) : toggleQuery v (some v) = none := by
  simp [toggleQuery, apply]

theorem undoesQuery_iff_of_blank {v : String} (hblank : Text.isBlank v = true)
    (q : Option String) : UndoesQuery v q ↔ q = none :=
  ⟨fun h => h.blank hblank, fun h => ⟨fun _ hv => absurd hblank hv, fun _ => h,
    fun hv => absurd hblank hv⟩⟩

theorem undoesQuery_iff_of_trimmed {v : String} (hv : Text.trimmed? v = some v)
    (q : Option String) : UndoesQuery v q ↔ q = none ∨ q = some v := by
  obtain ⟨hne, htrim⟩ := Text.trimmed?_eq_some_iff.mp hv
  have hblank : ¬ Text.isBlank v = true := by rwa [Text.isBlank_iff, htrim]
  exact ⟨fun h => h.trimmed htrim hblank, fun h => ⟨fun _ _ => h, fun hb => absurd hb hblank,
    fun _ hpadded => absurd htrim hpadded⟩⟩

theorem undoesQuery_iff_of_padded {v : String} (hblank : ¬ Text.isBlank v = true)
    (hpadded : Text.trim v ≠ v) (q : Option String) :
    UndoesQuery v q ↔ q = some (Text.trim v) :=
  ⟨fun h => h.padded hblank hpadded, fun h => ⟨fun htrim => absurd htrim hpadded,
    fun hb => absurd hb hblank, fun _ _ => h⟩⟩

/-- The query is as before in three cases, told apart by the toggled text. -/
theorem toggleQuery_toggleQuery_iff {q : Option String}
    (hq : ∀ w, q = some w → Text.trimmed? w = some w) (v : String) :
    toggleQuery v (toggleQuery v q) = q ↔ UndoesQuery v q := by
  by_cases hblank : Text.isBlank v = true
  · -- a blank text is never kept, and each toggle clears the query
    have hnone : Text.trimmed? v = none := by rw [Text.trimmed?, if_pos hblank]
    have hne : q ≠ some v := fun h => by simpa [hnone] using hq v h
    rw [undoesQuery_iff_of_blank hblank, toggleQuery_of_ne hne, hnone, toggleQuery_of_ne (by simp),
      hnone]
    exact eq_comm
  · have hsome : Text.trimmed? v = some (Text.trim v) := by rw [Text.trimmed?, if_neg hblank]
    by_cases hpadded : Text.trim v = v
    · rw [hpadded] at hsome
      rw [undoesQuery_iff_of_trimmed hsome]
      by_cases hheld : q = some v
      · subst hheld
        simp [toggleQuery_self, toggleQuery_of_ne, hsome]
      · rw [toggleQuery_of_ne hheld, hsome, toggleQuery_self, or_iff_left hheld]
        exact eq_comm
    · -- the text is kept without its blanks, so that no toggle finds it
      have hne : ∀ x : Option String, (∀ w, x = some w → Text.trimmed? w = some w) →
          x ≠ some v := by
        rintro x hx rfl
        exact hpadded (Text.trimmed?_eq_some_iff.mp (hx v rfl)).2
      rw [undoesQuery_iff_of_padded hblank hpadded, toggleQuery_of_ne (hne q hq), hsome,
        toggleQuery_of_ne, hsome]
      · exact eq_comm
      · simpa using hpadded

/-- What holds of two toggles of a field holds of a patch that toggles the field or leaves it. -/
theorem elim_elim_iff (act : Change α → β → β) (law : α → β → Prop) {c : Option (Change α)}
    (hc : c.isSome → toggles c = true) (x : β)
    (hlaw : ∀ v, act (.toggle v) (act (.toggle v) x) = x ↔ law v x) :
    c.elim (c.elim x (act · x)) (act · (c.elim x (act · x))) = x ↔
      ∀ v, c = some (.toggle v) → law v x := by
  cases c with
  | none => simp
  | some change =>
      cases change with
      | toggle v => simpa using hlaw v
      | set v => simp [toggles] at hc
      | clear => simp [toggles] at hc

end Change

/-! ## Whole patches -/

theorem Filters.eq_iff {f g : Filters} :
    f = g ↔ f.query = g.query ∧ f.category = g.category ∧ f.license = g.license ∧
      f.sort = g.sort := by
  cases f
  cases g
  simp only [Filters.mk.injEq]

namespace Patch

/-- Every field that a patch names is toggled. -/
def TogglesOnly (p : Patch) : Prop :=
  (p.query.isSome → Change.toggles p.query = true) ∧
    (p.category.isSome → Change.toggles p.category = true) ∧
    (p.license.isSome → Change.toggles p.license = true) ∧
    (p.sort.isSome → Change.toggles p.sort = true)

instance (p : Patch) : Decidable p.TogglesOnly :=
  inferInstanceAs (Decidable (_ ∧ _ ∧ _ ∧ _))

/-- Filters to which a patch of toggles can be applied twice without a trace. -/
structure Undoes (p : Patch) (f : Filters) : Prop where
  query : ∀ v, p.query = some (.toggle v) → Change.UndoesQuery v f.query
  category : ∀ v, p.category = some (.toggle v) → f.category = none ∨ f.category = some v
  license : ∀ v, p.license = some (.toggle v) → f.license = none ∨ f.license = some v
  sort : ∀ v, p.sort = some (.toggle v) → f.sort = .relevance ∨ f.sort = v

/-- Toggling twice undoes itself just where each toggled field was unset or held the toggled value;
only for the query it matters also how that value is written. -/
theorem toggling_twice_restores_iff {f : Filters} (hf : f.Canonical) {p : Patch}
    (hp : p.TogglesOnly) : (f.merge p).merge p = f ↔ p.Undoes f := by
  obtain ⟨hquery, hcategory, hlicense, hsort⟩ := hp
  rw [Filters.eq_iff]
  simp only [Filters.merge_eq]
  rw [Change.elim_elim_iff (fun c q => (c.apply q).bind Text.trimmed?) Change.UndoesQuery hquery
      f.query (Change.toggleQuery_toggleQuery_iff hf),
    Change.elim_elim_iff Change.apply (fun v x => x = none ∨ x = some v) hcategory f.category
      (Change.toggle_toggle_eq_iff · _),
    Change.elim_elim_iff Change.apply (fun v x => x = none ∨ x = some v) hlicense f.license
      (Change.toggle_toggle_eq_iff · _),
    Change.elim_elim_iff (fun c s => (c.apply (some s)).getD .relevance)
      (fun v s => s = .relevance ∨ s = v) hsort f.sort (Change.toggle_toggle_sort_iff · _)]
  constructor
  · rintro ⟨hq, hc, hl, hs⟩
    exact ⟨hq, hc, hl, hs⟩
  · rintro ⟨hq, hc, hl, hs⟩
    exact ⟨hq, hc, hl, hs⟩

/-- A toggle of all four fields that undoes itself, though its query has blanks around it, and one
that does not: what it toggled first was another license. -/
theorem padded_query_is_restored :
    let f : Filters := { query := some "json", category := some .web, sort := .stars }
    let p : Patch := {
      query := some (.toggle " json "), category := some (.toggle .web),
      license := some (.toggle .mit), sort := some (.toggle .stars) }
    f.Canonical ∧ p.TogglesOnly ∧ (f.merge p).merge p = f ∧
      ¬ p.Undoes { f with license := some .isc } := by
  intro f p
  have hcanonical : ∀ license, Filters.Canonical { f with license := license } := by
    intro license q hq
    cases hq
    decide
  have hp : p.TogglesOnly := by decide
  refine ⟨hcanonical none, hp, (toggling_twice_restores_iff (hcanonical none) hp).mpr ?_, ?_⟩
  · constructor
    · rintro _ ⟨⟩
      exact ⟨fun h => absurd h (by decide), fun h => absurd h (by decide), fun _ _ => by decide⟩
    · rintro _ ⟨⟩
      exact .inr rfl
    · rintro _ ⟨⟩
      exact .inl rfl
    · rintro _ ⟨⟩
      exact .inr rfl
  · rw [← toggling_twice_restores_iff (hcanonical (some .isc)) hp]
    decide

end Patch

end PackageRegistry
