import PackageRegistry.Proofs.Search.Effects

/-! # Patches as one

Two patches can be laid over one another and merged as one, unless the later toggles a field that
the earlier names: a toggle is the only change that looks at what is there.
-/

namespace PackageRegistry

variable {α β : Type}

/-! ## One field -/

namespace Change

/-- Whether a field is toggled. -/
def toggles : Option (Change α) → Bool
  | some (.toggle _) => true
  | _ => false

/-- A change other than a toggle does not look at what is there. -/
theorem apply_of_not_toggles [DecidableEq α] {c : Change α} (h : toggles (some c) = false)
    (x y : Option α) : c.apply x = c.apply y := by
  cases c with
  | set v => rfl
  | toggle v => cases h
  | clear => rfl

/-- What two changes of one field do, the later one over the earlier. -/
theorem elim_or (act : Change α → β → β) {earlier later : Option (Change α)}
    (hblind : ∀ c, toggles (some c) = false → ∀ x y, act c x = act c y)
    (hfresh : ¬ (earlier.isSome ∧ toggles later = true)) (x : β) :
    (later.or earlier).elim x (act · x) =
      later.elim (earlier.elim x (act · x)) (act · (earlier.elim x (act · x))) := by
  cases later with
  | none => rfl
  | some c =>
      cases earlier with
      | none => rfl
      | some b =>
          have hset : toggles (some c) = false := by simpa using hfresh
          exact hblind c hset _ _

end Change

/-! ## Whole patches -/

namespace Patch

/-- The later patch toggles a field that the earlier one names. -/
def Retoggles (earlier later : Patch) : Prop :=
  (earlier.query.isSome ∧ Change.toggles later.query = true) ∨
    (earlier.category.isSome ∧ Change.toggles later.category = true) ∨
    (earlier.license.isSome ∧ Change.toggles later.license = true) ∨
    (earlier.sort.isSome ∧ Change.toggles later.sort = true)

instance (earlier later : Patch) : Decidable (earlier.Retoggles later) :=
  inferInstanceAs (Decidable (_ ∨ _ ∨ _ ∨ _))

/-- A patch that sets and clears only. -/
def ToggleFree (p : Patch) : Prop :=
  Change.toggles p.query = false ∧ Change.toggles p.category = false ∧
    Change.toggles p.license = false ∧ Change.toggles p.sort = false

instance (p : Patch) : Decidable p.ToggleFree :=
  inferInstanceAs (Decidable (_ ∧ _ ∧ _ ∧ _))

theorem ToggleFree.not_retoggles {later : Patch} (h : later.ToggleFree) (earlier : Patch) :
    ¬ earlier.Retoggles later := by
  obtain ⟨hquery, hcategory, hlicense, hsort⟩ := h
  simp [Retoggles, hquery, hcategory, hlicense, hsort]

theorem overlay_assoc (a b c : Patch) : (a.overlay b).overlay c = a.overlay (b.overlay c) := by
  simp only [overlay, Option.or_assoc]

theorem overlay_empty (p : Patch) : p.overlay empty = p := rfl

theorem empty_overlay (p : Patch) : empty.overlay p = p := by
  simp [overlay, empty]

theorem retoggles_overlay_iff (a b later : Patch) :
    (a.overlay b).Retoggles later ↔ a.Retoggles later ∨ b.Retoggles later := by
  simp only [Retoggles, overlay, Option.isSome_or, Bool.or_eq_true]
  grind

theorem overlayAll_concat (ps : List Patch) (p : Patch) :
    overlayAll (ps ++ [p]) = (overlayAll ps).overlay p :=
  List.foldl_append

/-- The patches composed name the fields that one of them names. -/
theorem retoggles_overlayAll_iff (ps : List Patch) (later : Patch) :
    (overlayAll ps).Retoggles later ↔ ∃ p ∈ ps, p.Retoggles later := by
  induction ps using List.reverseRecOn with
  | nil => simp [overlayAll, empty, Retoggles]
  | append_singleton ps p ih =>
      rw [overlayAll_concat, retoggles_overlay_iff, ih]
      simp [or_and_right, exists_or]

end Patch

/-! ## Merging -/

namespace Filters

/-- Merging field by field. -/
theorem merge_eq (f : Filters) (p : Patch) :
    f.merge p = {
      query := p.query.elim f.query fun c => (c.apply f.query).bind Text.trimmed?
      category := p.category.elim f.category fun c => c.apply f.category
      license := p.license.elim f.license fun c => c.apply f.license
      sort := p.sort.elim f.sort fun c => (c.apply (some f.sort)).getD .relevance } := by
  obtain ⟨query, category, license, sort⟩ := p
  cases query <;> cases category <;> cases license <;> cases sort <;> rfl

/-- Two patches merge as one. -/
theorem merge_overlay (f : Filters) {a b : Patch} (h : ¬ a.Retoggles b) :
    f.merge (a.overlay b) = (f.merge a).merge b := by
  simp only [Patch.Retoggles, not_or] at h
  obtain ⟨hquery, hcategory, hlicense, hsort⟩ := h
  simp only [merge_eq, Patch.overlay]
  congr 1
  · exact Change.elim_or (fun c q => (c.apply q).bind Text.trimmed?)
      (fun c hc x y => by rw [Change.apply_of_not_toggles hc x y]) hquery f.query
  · exact Change.elim_or Change.apply (fun c => Change.apply_of_not_toggles) hcategory f.category
  · exact Change.elim_or Change.apply (fun c => Change.apply_of_not_toggles) hlicense f.license
  · exact Change.elim_or (fun c s => (c.apply (some s)).getD .relevance)
      (fun c hc x y => by rw [Change.apply_of_not_toggles hc (some x) (some y)]) hsort f.sort

@[simp] theorem merge_empty (f : Filters) : f.merge .empty = f := rfl

/-- So do any number of them. -/
theorem merge_overlayAll (f : Filters) {ps : List Patch}
    (h : ps.Pairwise fun earlier later => ¬ earlier.Retoggles later) :
    f.merge (Patch.overlayAll ps) = f.mergeAll ps := by
  induction ps using List.reverseRecOn with
  | nil => exact f.merge_empty
  | append_singleton ps p ih =>
      obtain ⟨hps, _, hlast⟩ := List.pairwise_append.mp h
      have hfresh : ¬ (Patch.overlayAll ps).Retoggles p := by
        rw [Patch.retoggles_overlayAll_iff]
        rintro ⟨a, ha, hretoggles⟩
        exact hlast a ha p (List.mem_singleton_self p) hretoggles
      rw [Patch.overlayAll_concat, merge_overlay f hfresh, ih hps, mergeAll_append]
      rfl

end Filters

namespace Patch

/-- Patches composed from left to right merge as they do one after the other, as long as none
toggles a field that one before it names; and composing them is associative, with the empty patch
on either side for nothing. -/
theorem overlay_composes (f : Filters) (ps : List Patch) :
    ((ps.Pairwise fun earlier later => ¬ earlier.Retoggles later) →
      f.merge (overlayAll ps) = f.mergeAll ps) ∧
    ((∀ p ∈ ps, p.ToggleFree) → f.merge (overlayAll ps) = f.mergeAll ps) ∧
    (∀ a b c : Patch, (a.overlay b).overlay c = a.overlay (b.overlay c)) ∧
    (∀ p : Patch, empty.overlay p = p ∧ p.overlay empty = p) := by
  refine ⟨f.merge_overlayAll, ?_, overlay_assoc, fun p => ⟨empty_overlay p, overlay_empty p⟩⟩
  intro hfree
  apply f.merge_overlayAll
  rw [List.pairwise_iff_forall_sublist]
  intro earlier later hsub
  exact (hfree later (hsub.subset (by simp))).not_retoggles earlier

/-- A toggle may come first and be set over; the query here was not trimmed to begin with. -/
theorem toggled_then_set_composes :
    let f : Filters := { query := some " x", license := some .mit }
    let ps := [toggleCategory .web, toggleLicense .mit, setQuery " json ",
      { category := some (.set .cli), sort := some (.toggle .stars) }]
    (ps.Pairwise fun earlier later => ¬ earlier.Retoggles later) ∧
      (∀ p ∈ [setQuery "json", clearAll, setSort .stars], p.ToggleFree) ∧
      f.merge (overlayAll ps) = f.mergeAll ps ∧
      f.merge (overlayAll [setQuery "json", clearAll, setSort .stars]) =
        f.mergeAll [setQuery "json", clearAll, setSort .stars] :=
  ⟨by decide, by decide, (overlay_composes _ _).1 (by decide),
    (overlay_composes _ _).2.1 (by decide)⟩

/-- Toggling one field twice is not one toggle. -/
example : ¬ Filters.merge {} (overlayAll [toggleCategory .web, toggleCategory .web]) =
    Filters.mergeAll {} [toggleCategory .web, toggleCategory .web] := by
  decide

end Patch

end PackageRegistry
