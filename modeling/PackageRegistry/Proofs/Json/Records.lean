import PackageRegistry.Proofs.Json.Meaning

/-! # Records from documents

Typed data that is written as a value is read from any document that can be opened like the value,
be it the text of the value or the value with its members in another order. What is said here about
reading fields holds for all such documents at once.
-/

namespace PackageRegistry.Json

variable {ν : Type}

namespace Decode

/-! ## Known fields -/

theorem known_of_nodup {names : List String} {fs : List (String × ν)}
    (hkeys : (fs.map Prod.fst).Nodup) (hnames : ∀ k ∈ fs.map Prod.fst, k ∈ names) :
    known names fs = .ok fs := by
  induction fs with
  | nil => rfl
  | cons f fs ih =>
      obtain ⟨k, x⟩ := f
      simp only [List.map_cons, List.nodup_cons] at hkeys
      have hk : k ∈ names := hnames k (by simp)
      have hrest := ih hkeys.2 fun k' hk' => hnames k' (by simp [hk'])
      have hfirst : fs.any (fun f => f.1 == k) = false := by
        simp only [List.any_eq_false, beq_iff_eq]
        rintro f hf rfl
        exact hkeys.1 (List.mem_map_of_mem (f := Prod.fst) hf)
      simp [known, hrest, hk, hfirst]

theorem sublist_of_known {names : List String} {fs fields : List (String × ν)}
    (h : known names fs = .ok fields) : fields.Sublist fs := by
  induction fs generalizing fields with
  | nil =>
      cases h
      exact .slnil
  | cons f fs ih =>
      obtain ⟨rest, hrest, h⟩ := Results.bind_eq_ok_iff.mp h
      split_ifs at h
      · cases h
        exact (ih hrest).cons_cons f
      · cases h
        exact (ih hrest).cons f

theorem each_map {α : Type} {read : ν → Except Defect α} {write : α → ν} {items : List α}
    (h : ∀ a ∈ items, read (write a) = .ok a) : each read (items.map write) = .ok items := by
  induction items with
  | nil => rfl
  | cons a items ih =>
      have hfirst := h a (by simp)
      have hrest := ih fun b hb => h b (by simp [hb])
      simp only [List.map_cons, each, hfirst, hrest, Results.ok_bind, Results.pure_eq_ok]

end Decode

/-! ## Documents that can be opened like values -/

variable [Document ν]

/-- A way to turn values into documents that can be opened layer by layer like the values. -/
structure Faithful (g : Value → ν) : Prop where
  null : Document.shape (g .null) = .ok .null
  string (s : String) : Document.shape (g (.string s)) = .ok (.string s)
  natural {n : Nat} (h : n ≤ largest) : Document.shape (g (.nat n)) = .ok (.natural n)
  array (vs : List Value) : Document.shape (g (.array vs)) = .ok (.array (vs.map g))
  /-- The members of an object may come in another order, but under each key there is what was
  there. -/
  object {fs : List (String × Value)} (h : (fs.map Prod.fst).Nodup) :
    ∃ ys, Document.shape (g (.object fs)) = .ok (.object ys) ∧ (ys.map Prod.fst).Nodup ∧
      ∀ k, Keyed.find? k ys = (Keyed.find? k fs).map g

theorem ofItems_eq_map (vs : List Value) : Raw.ofItems vs = vs.map Raw.ofValue := by
  induction vs with
  | nil => rfl
  | cons v vs ih => rw [Raw.ofItems, ih, List.map_cons]

theorem faithful_ofValue : Faithful Raw.ofValue where
  null := rfl
  string s := shape_ofValue_string s
  natural h := by simp [Document.shape, Raw.ofValue, Value.nat, read_ofNat h, numberShape]
  array vs := by simp [Document.shape, Raw.ofValue, ofItems_eq_map]
  object {fs} h := by
    refine ⟨_, shape_ofValue_object fs, by simpa [Function.comp_def] using h, ?_⟩
    exact fun k => Keyed.find?_map k Raw.ofValue fs

theorem faithful_sorted : Faithful Value.sorted where
  null := rfl
  string _ := rfl
  natural _ := rfl
  array vs := by simp [Document.shape, Value.sorted, Value.sortedItems_eq_map]
  object {fs} h := by
    refine ⟨(Keyed.sort fs).map fun f => (f.1, f.2.sorted), ?_, ?_, ?_⟩
    · rw [Value.sorted_object]
      rfl
    · simpa [Function.comp_def] using (Keyed.ordered_sort fs).nodup
    · intro k
      rw [Keyed.find?_map, Keyed.find?_sort_of_nodup h]

namespace Faithful

variable {g : Value → ν}

/-- A record is found in a document whose keys are among its fields. -/
theorem record (hg : Faithful g) (names : List String) (x : Value) (hnames : names.Nodup)
    (hx : ∃ fs, x = .object fs ∧ (fs.map Prod.fst).Sublist names) :
    ∃ fields, Decode.record names (g x) = .ok fields ∧
      ∀ k, Keyed.find? k fields = (x.get? k).map g := by
  obtain ⟨fs, rfl, hkeys⟩ := hx
  obtain ⟨ys, hshape, hnodup, hfind⟩ := hg.object (hnames.sublist hkeys)
  refine ⟨ys, ?_, hfind⟩
  have hsubset : ∀ k ∈ ys.map Prod.fst, k ∈ names := by
    intro k hk
    have hsome : Keyed.find? k ys ≠ none := fun hnone => Keyed.find?_eq_none_iff.mp hnone hk
    apply hkeys.subset
    by_contra hnot
    simp [hfind, Keyed.find?_eq_none_iff.mpr hnot] at hsome
  simp [Decode.record, hshape, Decode.known_of_nodup hnodup hsubset]

/-! ## Values of fields -/

theorem text (hg : Faithful g) (s : String) : Decode.text (g (.string s)) = .ok s := by
  simp [Decode.text, hg.string]

theorem nat (hg : Faithful g) {n : Nat} (h : n ≤ largest) :
    Decode.natural (g (.nat n)) = .ok n := by
  simp [Decode.natural, hg.natural h]

theorem optional (hg : Faithful g) (o : Option String) :
    Decode.nullable Decode.text (g (.optional o)) = .ok o := by
  cases o with
  | none => simp [Decode.nullable, Value.optional, hg.null]
  | some s => simp [Decode.nullable, Value.optional, hg.string, hg.text]

theorem list {α : Type} (hg : Faithful g) {read : ν → Except Defect α} {write : α → Value}
    {items : List α} (h : ∀ a ∈ items, read (g (write a)) = .ok a) :
    Decode.list read (g (.array (items.map write))) = .ok items := by
  simp only [Decode.list, hg.array, Results.ok_bind, List.map_map]
  exact Decode.each_map h

theorem strings (hg : Faithful g) (ss : List String) :
    Decode.list Decode.text (g (.strings ss)) = .ok ss :=
  hg.list fun s _ => hg.text s

end Faithful

/-! ## Natural numbers in fields -/

namespace Decode

theorem bounded_record {names : List String} {x : Value} {fields : List (String × Value)}
    (hx : x.Bounded) (h : record names x = .ok fields) : ∀ f ∈ fields, f.2.Bounded := by
  intro f hf
  cases x with
  | object fs => exact Value.boundedFields_iff.mp hx f ((sublist_of_known h).subset hf)
  | array xs =>
      change (if xs.length ≤ names.length then Except.ok (names.zip xs) else _) = _ at h
      split_ifs at h
      cases h
      exact Value.boundedItems_iff.mp hx f.2 (List.of_mem_zip hf).2
  | number n => cases n <;> cases h
  | null | bool b | string s => cases h

theorem bounded_of_find? {fields : List (String × Value)} (hfields : ∀ f ∈ fields, f.2.Bounded)
    {k : String} {v : Value} (h : Keyed.find? k fields = some v) : v.Bounded :=
  hfields (k, v) (Keyed.mem_of_find? h)

theorem natural_le {x : Value} {n : Nat} (hx : x.Bounded) (h : natural x = .ok n) :
    n ≤ largest := by
  cases x with
  | number m =>
      cases m with
      | natural k =>
          cases h
          exact hx
      | negative k | double y => cases h
  | null | bool b | string s | array vs | object fs => cases h

/-- A counter that is left out or read has at most 64 bits. -/
theorem withDefault_natural_le {fields : List (String × Value)}
    (hfields : ∀ f ∈ fields, f.2.Bounded) {k : String} {n : Nat}
    (h : withDefault fields k 0 natural = .ok n) : n ≤ largest := by
  unfold withDefault at h
  split at h
  · rename_i v hfind
    exact natural_le (bounded_of_find? hfields hfind) h
  · cases h
    exact Nat.zero_le _

end Decode

end PackageRegistry.Json
