import PackageRegistry.Proofs.Filter.Patches
import PackageRegistry.Proofs.Keyed
import PackageRegistry.Proofs.Text.Blank

/-! # What a payload tells

The filters can be read back from their payload, but for blanks around the query. Filters that are
merged keep their query without them, so two such filters with one payload are the same.
-/

namespace PackageRegistry

open Json (Value)

namespace Filters

/-! ## Canonical filters -/

/-- The filters with the query trimmed, or dropped where it is blank. -/
def normal (f : Filters) : Filters := { f with query := f.query.bind Text.trimmed? }

/-- A query is unset, or not empty and trimmed. -/
theorem canonical_iff (f : Filters) :
    f.Canonical ↔ f.query = none ∨ ∃ q, f.query = some q ∧ q ≠ "" ∧ Text.trim q = q := by
  cases hquery : f.query with
  | none => simp [Canonical, hquery]
  | some q => simp [Canonical, hquery, Text.trimmed?_eq_some_iff]

theorem canonical_iff_normal_eq (f : Filters) : f.Canonical ↔ f.normal = f := by
  cases f with
  | mk query category license sort => cases query <;> simp [Canonical, normal]

/-- A query that a patch names is trimmed, whatever was there. -/
theorem canonical_merge_of_named (f : Filters) {p : Patch} (h : p.query.isSome) :
    (f.merge p).Canonical := by
  obtain ⟨change, hchange⟩ := Option.isSome_iff_exists.mp h
  intro q hq
  simp only [merge, hchange] at hq
  obtain ⟨t, _, ht⟩ := Option.bind_eq_some_iff.mp hq
  obtain ⟨hne, rfl⟩ := Text.trimmed?_eq_some_iff.mp ht
  exact Text.trimmed?_eq_some_iff.mpr ⟨hne, Text.trim_trim t⟩

theorem Canonical.merge {f : Filters} (h : f.Canonical) (p : Patch) : (f.merge p).Canonical := by
  by_cases hnamed : p.query.isSome
  · exact f.canonical_merge_of_named hnamed
  · intro q hq
    rw [f.query_merge_of_none (by simpa using hnamed)] at hq
    exact h q hq

theorem Canonical.mergeAll {f : Filters} (h : f.Canonical) (ps : List Patch) :
    (f.mergeAll ps).Canonical := by
  induction ps generalizing f with
  | nil => exact h
  | cons p ps ih => exact ih (h.merge p)

/-! ## Reading a payload -/

/-- The texts of a payload under their keys. -/
def payloadTexts (f : Filters) : List (String × String) :=
  ((f.category.map Vocabulary.wire).map (Prod.mk "category")).toList ++
    ((f.license.map Vocabulary.wire).map (Prod.mk "license")).toList ++
    ((f.query.bind Text.trimmed?).map (Prod.mk "query")).toList ++
    (((if f.sort = .relevance then none else some f.sort).map Vocabulary.wire).map
      (Prod.mk "sort")).toList

/-- The text under a key of a payload. -/
def textUnder (key : String) (payload : Value) : Option String :=
  (payload.get? key).bind Value.string?

/-- The filters that a payload tells. -/
def ofPayload (payload : Value) : Filters where
  query := textUnder "query" payload
  category := (textUnder "category" payload).bind Vocabulary.parse?
  license := (textUnder "license" payload).bind Vocabulary.parse?
  sort := ((textUnder "sort" payload).bind Vocabulary.parse?).getD .relevance

theorem payloadFields_eq (f : Filters) :
    f.payloadFields = f.payloadTexts.map fun e => (e.1, Value.string e.2) := by
  by_cases hsort : f.sort = .relevance
  · simp only [payloadFields, payloadTexts, List.map_append, ← Option.toList_map, Option.map_map,
      hsort, if_true]
    rfl
  · simp only [payloadFields, payloadTexts, List.map_append, ← Option.toList_map, Option.map_map,
      hsort, if_false]
    rfl

theorem textUnder_payload (key : String) (f : Filters) :
    textUnder key f.payload = Keyed.find? key f.payloadTexts := by
  rw [textUnder, payload, Value.get?, payloadFields_eq, Keyed.find?_map]
  cases Keyed.find? key f.payloadTexts <;> rfl

end Filters

theorem Keyed.find?_toList {α : Type} (k key : String) (o : Option α) :
    find? k (o.map (Prod.mk key)).toList = if key = k then o else none := by
  cases o <;> simp [find?]

namespace Filters

/-- Reading gives the filters back, with the query as it is searched. -/
theorem ofPayload_payload (f : Filters) : ofPayload f.payload = f.normal := by
  have hcategory : (f.category.map Vocabulary.wire).bind Vocabulary.parse? = f.category := by
    cases f.category <;> simp [Category.parse?_wire]
  have hlicense : (f.license.map Vocabulary.wire).bind Vocabulary.parse? = f.license := by
    cases f.license <;> simp [License.parse?_wire]
  have hsort : (((if f.sort = .relevance then none else some f.sort).map Vocabulary.wire).bind
      Vocabulary.parse?).getD .relevance = f.sort := by
    by_cases h : f.sort = .relevance <;> simp [h, SortKey.parse?_wire]
  simp only [ofPayload, textUnder_payload, payloadTexts, Keyed.find?_append, Keyed.find?_toList,
    String.reduceEq, if_true, if_false, Option.none_or, Option.or_none, hcategory, hlicense, hsort]
  rfl

/-- Blanks around the query do not show in a payload. -/
theorem payload_normal (f : Filters) : f.normal.payload = f.payload := by
  have hquery : f.normal.query.bind Text.trimmed? = f.query.bind Text.trimmed? := by
    simp [normal, Option.bind_assoc]
  simp only [payload, payloadFields, hquery]
  rfl

theorem eq_of_payload_eq {f g : Filters} (hf : f.Canonical) (hg : g.Canonical)
    (h : f.payload = g.payload) : f = g := by
  rw [← f.canonical_iff_normal_eq.mp hf, ← g.canonical_iff_normal_eq.mp hg, ← ofPayload_payload,
    ← ofPayload_payload, h]

/-- Patches keep filters canonical; of canonical filters the payload tells everything, so that
nothing is searched anew exactly when the registry would be asked the same; and filters that are
not canonical ask what they ask with their query trimmed, or left out where it is blank. -/
theorem payload_is_faithful (f g : Filters) :
    (f.Canonical ↔ f.query = none ∨ ∃ q, f.query = some q ∧ q ≠ "" ∧ Text.trim q = q) ∧
    (f.Canonical → ∀ ps, (f.mergeAll ps).Canonical) ∧
    (f.Canonical → g.Canonical → (f.payload = g.payload ↔ f = g)) ∧
    (f.Canonical → g.Canonical →
      (Trigger.classify f g = .unchanged ↔ f.payload = g.payload)) ∧
    f.payload = { f with query := f.query.bind Text.trimmed? }.payload := by
  have hinjective : f.Canonical → g.Canonical → (f.payload = g.payload ↔ f = g) := by
    intro hf hg
    exact ⟨eq_of_payload_eq hf hg, congrArg payload⟩
  refine ⟨f.canonical_iff, Canonical.mergeAll, hinjective, ?_, f.payload_normal.symm⟩
  intro hf hg
  rw [Trigger.classify_eq_unchanged_iff, hinjective hf hg, eq_comm]

/-- A query and a category are taken back, and the registry is asked something else. -/
theorem cleared_filters_ask_otherwise :
    let f : Filters := { query := some "json", category := some .web }
    let g := f.mergeAll [.setQuery "\t", .toggleCategory .web]
    f.Canonical ∧ g.Canonical ∧ f.payload ≠ g.payload ∧ Trigger.classify f g ≠ .unchanged := by
  intro f g
  have hf : f.Canonical := f.canonical_iff.mpr (.inr ⟨"json", rfl, by decide, by decide⟩)
  obtain ⟨_, hmerged, hinjective, hclassify, _⟩ := payload_is_faithful f g
  have hg : g.Canonical := hmerged hf _
  have hne : f.payload ≠ g.payload := mt (hinjective hf hg).mp (by decide)
  exact ⟨hf, hg, hne, mt (hclassify hf hg).mp hne⟩

end Filters

end PackageRegistry
