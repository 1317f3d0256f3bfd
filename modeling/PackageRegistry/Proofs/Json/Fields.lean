import PackageRegistry.Proofs.Json.Records

/-! # Fields as they are written

When typed data is read from a value, what is read depends on the document as it was written: on the
parts of a record under the names of its fields, and on nothing else in it. A record can be written
in more than one manner, and readers differ in those they take.
-/

namespace PackageRegistry.Json

open Decode

variable {α : Type}

/-! ## Manners of writing -/

/-- How records may be written. -/
structure Manner where
  /-- A record may be an array of its fields in the order of their declaration. -/
  positional : Bool
  /-- A field with a default may be null, also where null is none of its values. -/
  lenient : Bool

namespace Raw

def IsText (x : Raw) (s : String) : Prop := ∃ marks, x = .string marks ∧ markText marks = .ok s

def IsNatural (x : Raw) (n : Nat) : Prop := ∃ m : Numeral, x = .number m ∧ m.Writes n

def IsList (R : Raw → α → Prop) (x : Raw) (as : List α) : Prop :=
  ∃ items, x = .array items ∧ List.Forall₂ R items as

/-- Something that is a record with these fields. -/
def IsRecord (m : Manner) (names : List String) : Raw → Prop
  | .object _ => True
  | .array items => m.positional = true ∧ items.length ≤ names.length
  | .null | .bool _ | .number _ | .string _ => False

/-- The part of a record under the name of a field. -/
def part? (names : List String) (name : String) : Raw → Option Raw
  | .object members => member? name members
  | .array items => Keyed.find? name (names.zip items)
  | .null | .bool _ | .number _ | .string _ => none

/-- A record in some manner, with parts that are as a relation says. -/
def IsRecordOf (m : Manner) (names : List String) (Q : (String → Option Raw) → α → Prop) (x : Raw)
    (a : α) : Prop :=
  x.IsRecord m names ∧ Q (fun name => x.part? names name) a

/-- A field is of its type, or it is left out and has its default. Null may count as left out. -/
def Fills (null : Bool) (R : Raw → α → Prop) (default : α) (part : Option Raw) (a : α) : Prop :=
  (∃ x, part = some x ∧ R x a) ∨ (part = none ∨ null = true ∧ part = some .null) ∧ a = default

/-- A field may be a text. -/
def MayBeText (part : Option Raw) (o : Option String) : Prop :=
  Fills true (fun x o => ∃ s, o = some s ∧ x.IsText s) none part o

/-- A record is an object, and none of these fields in it is null: the manners agree on it. -/
structure Tidy (names defaulted : List String) (x : Raw) : Prop where
  notArray : ∀ items, x ≠ .array items
  notNull : ∀ name ∈ defaulted, x.part? names name ≠ some .null

theorem isRecord_iff_of_tidy {names defaulted : List String} {x : Raw} (h : Tidy names defaulted x)
    (m m' : Manner) : x.IsRecord m names ↔ x.IsRecord m' names := by
  cases x with
  | array items => exact absurd rfl (h.notArray items)
  | null | bool | number | string | object => exact Iff.rfl

/-- Where nothing is null, it does not matter what null counts as. -/
theorem fills_iff {null null' : Bool} {R R' : Raw → α → Prop} {default a : α} {part : Option Raw}
    (hpart : part ≠ some .null) (hR : ∀ x, part = some x → (R x a ↔ R' x a)) :
    Fills null R default part a ↔ Fills null' R' default part a := by
  simp only [Fills, hpart, and_false, or_false]
  refine or_congr_left (exists_congr fun x => and_congr_right ?_)
  exact hR x

theorem isList_congr {R R' : Raw → α → Prop} {x : Raw} {as : List α}
    (h : ∀ items, x = .array items → ∀ y ∈ items, ∀ a, R y a ↔ R' y a) :
    IsList R x as ↔ IsList R' x as := by
  refine exists_congr fun items => and_congr_right ?_
  intro hitems
  have hall := h items hitems
  clear hitems h
  induction items generalizing as with
  | nil => cases as <;> simp
  | cons y items ih =>
      cases as with
      | nil => simp
      | cons a as =>
          rw [List.forall₂_cons, List.forall₂_cons]
          exact and_congr (hall y (by simp) a) (ih fun z hz => hall z (List.mem_cons_of_mem _ hz))

/-- Where each key comes once, every member counts. -/
theorem member?_eq_some_iff {ms : List (List Mark × Raw)}
    (hkeys : (ms.map fun m => (markText m.1).toOption).Nodup) {key : String} {x : Raw} :
    member? key ms = some x ↔ ∃ k, (k, x) ∈ ms ∧ markText k = .ok key := by
  have htext : ∀ k : List Mark, (markText k).toOption = some key ↔ markText k = .ok key := by
    intro k
    cases markText k <;> simp [Except.toOption]
  constructor
  · intro h
    obtain ⟨m, hm, rfl⟩ := Option.map_eq_some_iff.mp h
    have hkey := List.find?_some hm
    exact ⟨m.1, List.mem_reverse.mp (List.mem_of_find?_eq_some hm), by simpa [htext] using hkey⟩
  · rintro ⟨k, hmem, hkey⟩
    have hsome : (ms.reverse.find? fun m => (markText m.1).toOption = some key).isSome := by
      rw [List.find?_isSome]
      exact ⟨(k, x), List.mem_reverse.mpr hmem, by simpa [htext] using hkey⟩
    obtain ⟨m, hm⟩ := Option.isSome_iff_exists.mp hsome
    have hm' := List.mem_reverse.mp (List.mem_of_find?_eq_some hm)
    have hsame : (markText m.1).toOption = (markText k).toOption := by
      have hfound := List.find?_some hm
      simp_all
    rw [member?, hm, List.inj_on_of_nodup_map hkeys hm' hmem hsame]
    rfl

/-- The order of members does not matter where each key comes once. -/
theorem member?_perm {ms ms' : List (List Mark × Raw)} (h : ms.Perm ms')
    (hkeys : (ms.map fun m => (markText m.1).toOption).Nodup) (key : String) :
    member? key ms' = member? key ms := by
  have hkeys' : (ms'.map fun m => (markText m.1).toOption).Nodup := (h.map _).nodup_iff.mp hkeys
  apply Option.ext
  intro x
  simp only [member?_eq_some_iff hkeys, member?_eq_some_iff hkeys', h.mem_iff]

end Raw

/-! ## Readers -/

/-- What a reader makes of a value is decided by a relation on documents as they are written. -/
def Decides (read : Value → Except Defect α) (R : Raw → α → Prop) : Prop :=
  ∀ ⦃d x v⦄, Raw.toValue d x = .ok v → ∀ a, read v = .ok a ↔ R x a

theorem decides_text : Decides text Raw.IsText := by
  intro d x v hv s
  cases Raw.means_of_toValue hv with
  | string _ htext => simp [text, Document.shape, Raw.IsText, htext]
  | null | bool | array | object => simp [text, Document.shape, Raw.IsText]
  | @number _ m n _ => cases n <;> simp [text, Document.shape, numberShape, Raw.IsText]

theorem decides_natural : Decides natural Raw.IsNatural := by
  intro d x v hv n
  cases Raw.means_of_toValue hv with
  | null | bool | string | array | object => simp [natural, Document.shape, Raw.IsNatural]
  | @number _ m k hread =>
      have hwrites : k = .natural n ↔ m.Writes n := by
        rw [← read_eq_natural_iff, hread, Except.ok.injEq]
      cases k <;> simp_all [natural, Document.shape, numberShape, Raw.IsNatural]

theorem nullable_of_ne_null {v : Value} (h : v ≠ .null) (read : Value → Except Defect α) :
    nullable read v = (read v).map some := by
  cases v with
  | null => exact absurd rfl h
  | bool | string | array | object => rfl
  | number n => cases n <;> rfl

section Lists

variable {read : Value → Except Defect α} {R : Raw → α → Prop}

theorem each_eq_ok_iff (h : Decides read R) {d : Nat} {items : List Raw} {values : List Value}
    (hitems : Raw.itemValues d items = .ok values) (as : List α) :
    each read values = .ok as ↔ List.Forall₂ R items as := by
  induction items generalizing values as with
  | nil =>
      cases hitems
      simp [each, eq_comm]
  | cons x items ih =>
      obtain ⟨v, rest, hv, hrest, rfl⟩ := Raw.itemValues_cons_eq_ok_iff.mp hitems
      simp only [each, Results.bind_eq_ok_iff, Results.pure_eq_ok, Except.ok.injEq, h hv, ih hrest,
        List.forall₂_cons_left_iff]
      grind

theorem decides_list (h : Decides read R) : Decides (list read) (Raw.IsList R) := by
  intro d x v hv as
  cases Raw.means_of_toValue hv with
  | array hitems =>
      simp [list, Document.shape, Raw.IsList, each_eq_ok_iff h hitems]
  | null | bool | string | object => simp [list, Document.shape, Raw.IsList]
  | @number _ m n _ => cases n <;> simp [list, Document.shape, numberShape, Raw.IsList]

end Lists

/-! ## Records -/

/-- The fields with known names are all there. -/
theorem known_eq_filter {ν : Type} [Document ν] (names : List String) {fs : List (String × ν)}
    (hkeys : (fs.map Prod.fst).Nodup) :
    known names fs = .ok (fs.filter fun f => names.contains f.1) := by
  induction fs with
  | nil => rfl
  | cons f fs ih =>
      obtain ⟨hfresh, hrest⟩ := List.nodup_cons.mp hkeys
      have hnone : ¬ (fs.filter fun f => names.contains f.1).any (fun g => g.1 == f.1) = true := by
        rw [List.any_eq_true]
        rintro ⟨g, hg, heq⟩
        apply hfresh
        rw [List.mem_map]
        exact ⟨g, (List.mem_filter.mp hg).1, by simpa using heq⟩
      by_cases hname : names.contains f.1 = true
      · simp only [known, ih hrest, Results.ok_bind, hname, hnone, if_true, List.filter_cons]
        rfl
      · simp only [known, ih hrest, Results.ok_bind, hname, List.filter_cons]
        rfl

theorem find?_filter_of_mem {names : List String} {name : String} (h : name ∈ names)
    (fs : List (String × α)) :
    Keyed.find? name (fs.filter fun f => names.contains f.1) = Keyed.find? name fs := by
  induction fs with
  | nil => rfl
  | cons f fs ih =>
      by_cases hf : f.1 = name
      · simp [Keyed.find?, hf, h]
      · by_cases hmem : f.1 ∈ names
        · simp [Keyed.find?, hf, hmem, ← ih]
        · simp [Keyed.find?, hf, hmem, ← ih]

theorem rel_find?_zip {d : Nat} {items : List Raw} {values : List Value}
    (h : Raw.itemValues d items = .ok values) (names : List String) (name : String) :
    Option.Rel (fun x v => Raw.toValue d x = .ok v) (Keyed.find? name (names.zip items))
      (Keyed.find? name (names.zip values)) := by
  induction items generalizing names values with
  | nil =>
      cases h
      rw [List.zip_nil_right, List.zip_nil_right]
      exact .none
  | cons x items ih =>
      obtain ⟨v, rest, hv, hrest, rfl⟩ := Raw.itemValues_cons_eq_ok_iff.mp h
      cases names with
      | nil => exact .none
      | cons n names =>
          by_cases hn : n = name
          · simpa [Keyed.find?, hn] using Option.Rel.some hv
          · simpa [Keyed.find?, hn] using ih hrest names

theorem length_itemValues {d : Nat} {items : List Raw} {values : List Value}
    (h : Raw.itemValues d items = .ok values) : values.length = items.length := by
  induction items generalizing values with
  | nil =>
      cases h
      rfl
  | cons x items ih =>
      obtain ⟨v, rest, -, hrest, rfl⟩ := Raw.itemValues_cons_eq_ok_iff.mp h
      rw [List.length_cons, List.length_cons, ih hrest]

/-- The fields of a value are those that were written as the parts of a record. -/
def Reads (names : List String) (part : String → Option Raw) (fields : List (String × Value)) :
    Prop :=
  ∃ d, ∀ name ∈ names, Option.Rel (fun x v => Raw.toValue d x = .ok v) (part name)
    (Keyed.find? name fields)

/-- The manner that the readers take: an array will do, and null is a value like any other. -/
def Manner.observed : Manner := ⟨true, false⟩

section Records

variable {d : Nat} {x : Raw} {v : Value} {names : List String}

theorem record_of_isRecord (hv : x.toValue d = .ok v) (h : x.IsRecord .observed names) :
    ∃ fields, record names v = .ok fields ∧
      Reads names (fun name => x.part? names name) fields := by
  cases Raw.means_of_toValue hv with
  | null | bool | number | string => cases h
  | @array d items values hitems =>
      have hlength := length_itemValues hitems
      refine ⟨names.zip values, ?_, d, fun name _ => rel_find?_zip hitems names name⟩
      simp [record, Document.shape, hlength, h.2]
  | @object d members fields hfields =>
      have hkeys := (Keyed.ordered_sort fields).nodup
      refine ⟨_, known_eq_filter names hkeys, d, ?_⟩
      intro name hname
      rw [find?_filter_of_mem hname]
      exact Raw.rel_member? hfields name

theorem isRecord_of_record (hv : x.toValue d = .ok v) {fields : List (String × Value)}
    (h : record names v = .ok fields) : x.IsRecord .observed names := by
  cases Raw.means_of_toValue hv with
  | object => trivial
  | @array d items values hitems =>
      have hlength := length_itemValues hitems
      by_cases hfit : items.length ≤ names.length
      · exact ⟨rfl, hfit⟩
      · simp [record, Document.shape, hlength, hfit] at h
  | null | bool | string => simp [record, Document.shape] at h
  | @number _ m n _ => cases n <;> simp [record, Document.shape, numberShape] at h

/-- A record is read when its parts are. -/
theorem decides_record {go : List (String × Value) → Except Defect α}
    {Q : (String → Option Raw) → α → Prop}
    (h : ∀ part fields, Reads names part fields → ∀ a, go fields = .ok a ↔ Q part a) :
    Decides (fun v => record names v >>= go) (Raw.IsRecordOf .observed names Q) := by
  intro d x v hv a
  constructor
  · intro hread
    obtain ⟨fields, hfields, hgo⟩ := Results.bind_eq_ok_iff.mp hread
    have hrecord := isRecord_of_record hv hfields
    obtain ⟨fields', hfields', hreads⟩ := record_of_isRecord hv hrecord
    cases hfields.symm.trans hfields'
    exact ⟨hrecord, (h _ _ hreads a).mp hgo⟩
  · rintro ⟨hrecord, hparts⟩
    obtain ⟨fields, hfields, hreads⟩ := record_of_isRecord hv hrecord
    exact Results.bind_eq_ok_iff.mpr ⟨fields, hfields, (h _ _ hreads a).mpr hparts⟩

end Records

namespace Reads

variable {names : List String} {part : String → Option Raw} {fields : List (String × Value)}
variable {name : String} {read : Value → Except Defect α} {R : Raw → α → Prop}

theorem required_eq_ok_iff (h : Reads names part fields) (hread : Decides read R)
    (hname : name ∈ names) (a : α) :
    required fields name read = .ok a ↔ ∃ y, part name = some y ∧ R y a := by
  obtain ⟨d, hparts⟩ := h
  have hpart := hparts name hname
  unfold required
  generalize part name = written at hpart ⊢
  generalize Keyed.find? name fields = found at hpart ⊢
  cases hpart with
  | none => simp
  | some hv => simp [hread hv]

theorem withDefault_eq_ok_iff (h : Reads names part fields) (hread : Decides read R)
    (hname : name ∈ names) (default a : α) :
    withDefault fields name default read = .ok a ↔ Raw.Fills false R default (part name) a := by
  obtain ⟨d, hparts⟩ := h
  have hpart := hparts name hname
  unfold withDefault Raw.Fills
  generalize part name = written at hpart ⊢
  generalize Keyed.find? name fields = found at hpart ⊢
  cases hpart with
  | none => simp [eq_comm]
  | some hv => simp [hread hv]

theorem optional_eq_ok_iff (h : Reads names part fields) (hname : name ∈ names)
    (o : Option String) :
    Decode.optional fields name text = .ok o ↔ Raw.MayBeText (part name) o := by
  obtain ⟨d, hparts⟩ := h
  have hpart := hparts name hname
  unfold Decode.optional withDefault Raw.MayBeText Raw.Fills
  generalize part name = written at hpart ⊢
  generalize Keyed.find? name fields = found at hpart ⊢
  cases hpart with
  | none => simp [eq_comm]
  | @some y v hv =>
      by_cases hnull : y = .null
      · subst hnull
        cases hv
        simp [nullable, Document.shape, Raw.IsText, eq_comm]
      · have hvalue : v ≠ .null := fun h => hnull (Raw.toValue_eq_null_iff.mp (h ▸ hv))
        have hnullable : nullable text v = .ok o ↔ ∃ s, o = some s ∧ y.IsText s := by
          rw [nullable_of_ne_null hvalue, Results.map_eq_ok_iff]
          exact exists_congr fun s => and_comm.trans (and_congr eq_comm (decides_text hv s))
        simp [hnullable, hnull]

end Reads

end PackageRegistry.Json
