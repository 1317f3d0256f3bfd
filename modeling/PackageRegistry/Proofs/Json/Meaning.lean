import PackageRegistry.Proofs.Json.RoundTrip
import PackageRegistry.Proofs.Keyed

/-! # What documents mean

A number is natural if it is written as digits alone and fits 64 bits. A written value means the
value again, with the members of its objects in key order; and whatever a document means, under each
key of an object it is the last member that counts.
-/

namespace PackageRegistry.Json

open Text (Glyph)

/-! ## Natural numbers -/

theorem le_largest_iff {n : Nat} : n ≤ largest ↔ n < 2 ^ 64 := by
  have hlargest : largest = 2 ^ 64 - 1 := rfl
  omega

/-- A number written as digits alone, which stand for a natural number of at most 64 bits. -/
structure Numeral.Writes (m : Numeral) (n : Nat) : Prop where
  unsigned : m.negative = false
  noFraction : m.fraction = none
  noExponent : m.exponent = none
  digits : Nat.ofDigitChars 10 m.whole 0 = n
  bound : n < 2 ^ 64

theorem le_ofDigitChars (ds : List Char) (n : Nat) : n ≤ Nat.ofDigitChars 10 ds n := by
  induction ds generalizing n with
  | nil => exact le_rfl
  | cons c ds ih =>
      have hstep : n ≤ 10 * n + (c.toNat - '0'.toNat) := by omega
      exact hstep.trans (ih _)

/-- All digits are taken in just when what they stand for is not too large. -/
theorem leadingDigits_eq_iff {ds : List Char} {acc k : Nat} (hacc : acc ≤ largest) :
    leadingDigits acc ds = (k, 0) ↔ Nat.ofDigitChars 10 ds acc = k ∧ k ≤ largest := by
  induction ds generalizing acc with
  | nil =>
      simp only [leadingDigits, Nat.ofDigitChars, List.foldl_nil, Prod.mk.injEq, and_true]
      constructor
      · rintro rfl
        exact ⟨rfl, hacc⟩
      · exact And.left
  | cons c ds ih =>
      have hnext : Nat.ofDigitChars 10 (c :: ds) acc =
          Nat.ofDigitChars 10 ds (acc * 10 + (c.toNat - 48)) := by
        rw [Nat.mul_comm]
        rfl
      rw [hnext, leadingDigits]
      split_ifs with hlarge
      · have hle := le_ofDigitChars ds (acc * 10 + (c.toNat - 48))
        simp only [Prod.mk.injEq, Nat.succ_ne_zero, and_false, false_iff, not_and, not_le]
        omega
      · exact ih (not_lt.mp hlarge)

theorem double_ne_natural (m : Numeral) (n : Nat) : m.double ≠ .ok (.natural n) := by
  intro h
  obtain ⟨size, -, heq⟩ := Results.bind_eq_ok_iff.mp h
  cases heq

/-- A literal is read as a natural number just when it is written as one. -/
theorem read_eq_natural_iff {m : Numeral} {n : Nat} : m.read = .ok (.natural n) ↔ m.Writes n := by
  constructor
  · intro h
    by_cases hparts : (m.fraction.isSome || m.exponent.isSome) = true
    · rw [Numeral.read, if_pos hparts] at h
      exact absurd h (double_ne_natural m n)
    · obtain ⟨hfraction, hexponent⟩ : m.fraction = none ∧ m.exponent = none := by
        simpa using hparts
      rw [Numeral.read, if_neg hparts] at h
      split at h
      · rename_i k hlead
        obtain ⟨hdigits, hbound⟩ := (leadingDigits_eq_iff (Nat.zero_le _)).mp hlead
        split_ifs at h with hsign hsmall
        · cases h
          exact ⟨by simpa using hsign, hfraction, hexponent, hdigits, le_largest_iff.mp hbound⟩
        · cases h
        · exact absurd h (double_ne_natural m n)
      · exact absurd h (double_ne_natural m n)
  · intro h
    have hlead : leadingDigits 0 m.whole = (n, 0) :=
      (leadingDigits_eq_iff (Nat.zero_le _)).mpr ⟨h.digits, le_largest_iff.mpr h.bound⟩
    simp [Numeral.read, h.noFraction, h.noExponent, hlead, h.unsigned]

theorem read_ofNat {n : Nat} (h : n ≤ largest) : (Numeral.ofNat n).read = .ok (.natural n) :=
  read_eq_natural_iff.mpr
    ⟨rfl, rfl, rfl, Nat.ofDigitChars_toDigits (by omega) le_rfl, le_largest_iff.mp h⟩

/-! ## Values in key order -/

namespace Value

theorem sortedItems_eq_map (vs : List Value) : sortedItems vs = vs.map sorted := by
  induction vs with
  | nil => rfl
  | cons v vs ih => rw [sortedItems, ih, List.map_cons]

theorem sortedMembers_eq_map (fs : List (String × Value)) :
    sortedMembers fs = fs.map fun f => (f.1, f.2.sorted) := by
  induction fs with
  | nil => rfl
  | cons f fs ih => rw [sortedMembers, ih, List.map_cons]

theorem sorted_object (fs : List (String × Value)) :
    sorted (.object fs) = .object ((Keyed.sort fs).map fun f => (f.1, f.2.sorted)) := by
  rw [sorted, record, sortedMembers_eq_map, Keyed.sort_map sorted]

mutual

theorem sorted_sorted : ∀ v : Value, v.sorted.sorted = v.sorted
  | .null | .bool _ | .number _ | .string _ => rfl
  | .array vs => by rw [sorted, sorted, sortedItems_sortedItems vs]
  | .object fs => by
      rw [sorted, record, sorted, record, sortedMembers_eq_map (Keyed.sort _),
        ← Keyed.sort_map sorted, ← sortedMembers_eq_map, sortedMembers_sortedMembers fs,
        Keyed.sort_sort]

theorem sortedItems_sortedItems : ∀ vs : List Value,
    sortedItems (sortedItems vs) = sortedItems vs
  | [] => rfl
  | v :: vs => by rw [sortedItems, sortedItems, sorted_sorted v, sortedItems_sortedItems vs]

theorem sortedMembers_sortedMembers : ∀ fs : List (String × Value),
    sortedMembers (sortedMembers fs) = sortedMembers fs
  | [] => rfl
  | (k, v) :: fs => by
      rw [sortedMembers, sortedMembers, sorted_sorted v, sortedMembers_sortedMembers fs]

end

/-! ## Levels -/

mutual

/-- How many levels of arrays and objects a value has. -/
def depth : Value → Nat
  | .array vs => depthItems vs + 1
  | .object fs => depthFields fs + 1
  | .null | .bool _ | .number _ | .string _ => 0

def depthItems : List Value → Nat
  | [] => 0
  | v :: vs => max (depth v) (depthItems vs)

def depthFields : List (String × Value) → Nat
  | [] => 0
  | (_, v) :: fs => max (depth v) (depthFields fs)

end

theorem depthItems_le_iff {vs : List Value} {d : Nat} :
    depthItems vs ≤ d ↔ ∀ v ∈ vs, depth v ≤ d := by
  induction vs with
  | nil => simp [depthItems]
  | cons v vs ih => simp [depthItems, ih]

theorem depthFields_le_iff {fs : List (String × Value)} {d : Nat} :
    depthFields fs ≤ d ↔ ∀ f ∈ fs, depth f.2 ≤ d := by
  induction fs with
  | nil => simp [depthFields]
  | cons f fs ih => simp [depthFields, ih]

theorem plainItems_iff {vs : List Value} : PlainItems vs ↔ ∀ v ∈ vs, Plain v := by
  induction vs with
  | nil => simp [PlainItems]
  | cons v vs ih => simp [PlainItems, ih]

theorem plainFields_iff {fs : List (String × Value)} : PlainFields fs ↔ ∀ f ∈ fs, Plain f.2 := by
  induction fs with
  | nil => simp [PlainFields]
  | cons f fs ih => simp [PlainFields, ih]

@[simp] theorem depth_optional (o : Option String) : (optional o).depth = 0 := by
  cases o <;> rfl

@[simp] theorem depth_strings (ss : List String) : (strings ss).depth = 1 := by
  have hitems : depthItems (ss.map .string) = 0 := by
    refine Nat.le_zero.mp (depthItems_le_iff.mpr ?_)
    simp [depth]
  rw [strings, depth, hitems]

@[simp] theorem plain_optional (o : Option String) : (optional o).Plain := by
  cases o <;> trivial

@[simp] theorem plain_strings (ss : List String) : (strings ss).Plain := by
  refine plainItems_iff.mpr ?_
  simp [Plain]

mutual

theorem plain_sorted : ∀ v : Value, Plain v → Plain v.sorted
  | .null, h | .bool _, h | .number _, h | .string _, h => h
  | .array vs, h => plainItems_sortedItems vs h
  | .object fs, h => by
      refine plainFields_iff.mpr ?_
      intro f hf
      exact plainFields_iff.mp (plainFields_sortedMembers fs h) f (Keyed.mem_of_mem_sort hf)

theorem plainItems_sortedItems : ∀ vs : List Value, PlainItems vs → PlainItems (sortedItems vs)
  | [], h => h
  | v :: vs, h => ⟨plain_sorted v h.1, plainItems_sortedItems vs h.2⟩

theorem plainFields_sortedMembers : ∀ fs : List (String × Value),
    PlainFields fs → PlainFields (sortedMembers fs)
  | [], h => h
  | (_, v) :: fs, h => ⟨plain_sorted v h.1, plainFields_sortedMembers fs h.2⟩

end

mutual

theorem depth_sorted_le : ∀ v : Value, v.sorted.depth ≤ v.depth
  | .null | .bool _ | .number _ | .string _ => le_rfl
  | .array vs => Nat.succ_le_succ (depthItems_sortedItems_le vs)
  | .object fs => by
      refine Nat.succ_le_succ (depthFields_le_iff.mpr ?_)
      intro f hf
      exact (depthFields_le_iff.mp le_rfl f (Keyed.mem_of_mem_sort hf)).trans
        (depthFields_sortedMembers_le fs)

theorem depthItems_sortedItems_le : ∀ vs : List Value,
    depthItems (sortedItems vs) ≤ depthItems vs
  | [] => le_rfl
  | v :: vs => max_le_max (depth_sorted_le v) (depthItems_sortedItems_le vs)

theorem depthFields_sortedMembers_le : ∀ fs : List (String × Value),
    depthFields (sortedMembers fs) ≤ depthFields fs
  | [] => le_rfl
  | (_, v) :: fs => max_le_max (depth_sorted_le v) (depthFields_sortedMembers_le fs)

end

end Value

/-! ## Written values -/

open Value (Plain PlainItems PlainFields)

mutual

theorem toValue_ofValue : ∀ (v : Value) (d : Nat), Plain v → v.depth ≤ d →
    (Raw.ofValue v).toValue d = .ok v.sorted
  | .null, _, _, _ => rfl
  | .bool _, _, _, _ => rfl
  | .number (.natural n), _, hv, _ => by
      rw [Raw.ofValue, Raw.toValue, read_ofNat hv]
      rfl
  | .string s, _, _, _ => by
      rw [Raw.ofValue, Raw.toValue, markText_marks]
      rfl
  | .array _, 0, _, hd => absurd hd (Nat.not_succ_le_zero _)
  | .array vs, d + 1, hv, hd => by
      rw [Raw.ofValue, Raw.toValue, itemValues_ofItems vs d hv (Nat.le_of_succ_le_succ hd)]
      rfl
  | .object _, 0, _, hd => absurd hd (Nat.not_succ_le_zero _)
  | .object fs, d + 1, hv, hd => by
      rw [Raw.ofValue, Raw.toValue, fieldValues_ofFields fs d hv (Nat.le_of_succ_le_succ hd)]
      rfl

theorem itemValues_ofItems : ∀ (vs : List Value) (d : Nat), PlainItems vs →
    Value.depthItems vs ≤ d → Raw.itemValues d (Raw.ofItems vs) = .ok (Value.sortedItems vs)
  | [], _, _, _ => rfl
  | v :: vs, d, hv, hd => by
      obtain ⟨hfirst, hrest⟩ := max_le_iff.mp hd
      simp [Raw.ofItems, Raw.itemValues, toValue_ofValue v d hv.1 hfirst,
        itemValues_ofItems vs d hv.2 hrest, Value.sortedItems]

theorem fieldValues_ofFields : ∀ (fs : List (String × Value)) (d : Nat), PlainFields fs →
    Value.depthFields fs ≤ d →
    Raw.fieldValues d (Raw.ofFields fs) = .ok (Value.sortedMembers fs)
  | [], _, _, _ => rfl
  | (k, v) :: fs, d, hv, hd => by
      obtain ⟨hfirst, hrest⟩ := max_le_iff.mp hd
      simp [Raw.ofFields, Raw.fieldValues, markText_marks, toValue_ofValue v d hv.1 hfirst,
        fieldValues_ofFields fs d hv.2 hrest, Value.sortedMembers]

end

/-- The form of a written document is that of its value, also with a line end behind it. -/
theorem document_pretty_line {v : Value} (hv : Plain v) :
    Reader.document (Glyph.ofString (v.pretty ++ "\n")) = .ok (.ofValue v) := by
  have htext : Glyph.ofString (v.pretty ++ "\n") = glyphs (prettyChars 0 v) ++ [.char '\n'] := by
    simp [Glyph.ofString, Value.pretty, glyphs]
  have hvalue := Reader.value_prettyChars v 0
    (2 * (glyphs (prettyChars 0 v) ++ [Glyph.char '\n']).length + 2) [.char '\n'] hv
    (Reader.ends_char (by decide) _) (by simp only [List.length_append, length_glyphs]; omega)
  rw [htext, Reader.document, hvalue]
  rfl

theorem parse_of_document {input : List Glyph} {v : Value} (hv : Plain v)
    (hdepth : v.depth ≤ Raw.maxDepth) (h : Reader.document input = .ok (.ofValue v)) :
    parse input = .ok v.sorted := by
  simp [parse, h, toValue_ofValue v Raw.maxDepth hv hdepth]

/-! ## Documents as they are read -/

namespace Raw

variable {d e : Nat} {x : Raw} {v : Value}

/-- What a document of at most so many levels means, layer by layer. -/
inductive Means : Nat → Raw → Value → Prop where
  | null (d : Nat) : Means d .null .null
  | bool (d : Nat) (b : Bool) : Means d (.bool b) (.bool b)
  | number (d : Nat) {m : Numeral} {n : Number} (h : m.read = .ok n) :
      Means d (.number m) (.number n)
  | string (d : Nat) {ms : List Mark} {s : String} (h : markText ms = .ok s) :
      Means d (.string ms) (.string s)
  | array {d : Nat} {xs : List Raw} {vs : List Value} (h : itemValues d xs = .ok vs) :
      Means (d + 1) (.array xs) (.array vs)
  | object {d : Nat} {ms : List (List Mark × Raw)} {fs : List (String × Value)}
      (h : fieldValues d ms = .ok fs) : Means (d + 1) (.object ms) (.object (Keyed.sort fs))

theorem Means.toValue_eq (h : Means d x v) : x.toValue d = .ok v := by
  cases h with
  | null | bool => rfl
  | number _ h => simp [toValue, h]
  | string _ h => simp [toValue, h]
  | array h => simp [toValue, h]
  | object h => simp [toValue, h, Value.record]

theorem means_of_toValue (h : x.toValue d = .ok v) : Means d x v := by
  cases x with
  | null =>
      cases h
      exact .null d
  | bool b =>
      cases h
      exact .bool d b
  | number m =>
      cases hread : m.read with
      | error defect => simp [toValue, hread] at h
      | ok n =>
          simp only [toValue, hread, Results.map_ok, Except.ok.injEq] at h
          exact h ▸ .number d hread
  | string ms =>
      cases htext : markText ms with
      | error defect => simp [toValue, htext] at h
      | ok s =>
          simp only [toValue, htext, Results.map_ok, Except.ok.injEq] at h
          exact h ▸ .string d htext
  | array xs =>
      cases d with
      | zero => simp [toValue] at h
      | succ d =>
          cases hitems : itemValues d xs with
          | error defect => simp [toValue, hitems] at h
          | ok vs =>
              simp only [toValue, hitems, Results.map_ok, Except.ok.injEq] at h
              exact h ▸ .array hitems
  | object ms =>
      cases d with
      | zero => simp [toValue] at h
      | succ d =>
          cases hfields : fieldValues d ms with
          | error defect => simp [toValue, hfields] at h
          | ok fs =>
              simp only [toValue, hfields, Results.map_ok, Except.ok.injEq] at h
              exact h ▸ .object hfields

theorem toValue_eq_null_iff : x.toValue d = .ok .null ↔ x = .null := by
  constructor
  · intro h
    cases means_of_toValue h
    rfl
  · rintro rfl
    rfl

theorem toValue_eq_nat_iff {n : Nat} :
    x.toValue d = .ok (.nat n) ↔ ∃ m : Numeral, x = .number m ∧ m.Writes n := by
  constructor
  · intro h
    cases means_of_toValue h with
    | @number _ m _ hread => exact ⟨m, rfl, read_eq_natural_iff.mp hread⟩
  · rintro ⟨m, rfl, hm⟩
    exact (Means.number d (read_eq_natural_iff.mpr hm)).toValue_eq

/-! ### Items and fields -/

theorem itemValues_cons_eq_ok_iff {xs : List Raw} {vs : List Value} :
    itemValues d (x :: xs) = .ok vs ↔
      ∃ v rest, x.toValue d = .ok v ∧ itemValues d xs = .ok rest ∧ vs = v :: rest := by
  simp only [itemValues, Results.bind_eq_ok_iff, Results.pure_eq_ok, Except.ok.injEq]
  constructor
  · rintro ⟨v, hv, rest, hrest, rfl⟩
    exact ⟨v, rest, hv, hrest, rfl⟩
  · rintro ⟨v, rest, hv, hrest, rfl⟩
    exact ⟨v, hv, rest, hrest, rfl⟩

theorem fieldValues_cons_eq_ok_iff {k : List Mark} {ms : List (List Mark × Raw)}
    {fs : List (String × Value)} :
    fieldValues d ((k, x) :: ms) = .ok fs ↔
      ∃ key v rest, markText k = .ok key ∧ x.toValue d = .ok v ∧ fieldValues d ms = .ok rest ∧
        fs = (key, v) :: rest := by
  simp only [fieldValues, Results.bind_eq_ok_iff, Results.pure_eq_ok, Except.ok.injEq]
  constructor
  · rintro ⟨key, hkey, v, hv, rest, hrest, rfl⟩
    exact ⟨key, v, rest, hkey, hv, hrest, rfl⟩
  · rintro ⟨key, v, rest, hkey, hv, hrest, rfl⟩
    exact ⟨key, hkey, v, hv, rest, hrest, rfl⟩

theorem forall₂_of_fieldValues {ms : List (List Mark × Raw)} {fs : List (String × Value)}
    (h : fieldValues d ms = .ok fs) :
    List.Forall₂ (fun m f => markText m.1 = .ok f.1 ∧ m.2.toValue d = .ok f.2) ms fs := by
  induction ms generalizing fs with
  | nil =>
      cases h
      exact .nil
  | cons m ms ih =>
      obtain ⟨key, v, rest, hkey, hv, hrest, rfl⟩ := fieldValues_cons_eq_ok_iff.mp h
      exact .cons ⟨hkey, hv⟩ (ih hrest)

/-- The member of a written object that counts under a key: the last one. -/
def member? (key : String) (ms : List (List Mark × Raw)) : Option Raw :=
  (ms.reverse.find? fun m => (markText m.1).toOption = some key).map Prod.snd

/-- A member of a value is the value of the member as written. -/
theorem rel_member? {ms : List (List Mark × Raw)} {fs : List (String × Value)}
    (h : fieldValues d ms = .ok fs) (key : String) :
    Option.Rel (fun x v => x.toValue d = .ok v) (member? key ms)
      (Keyed.find? key (Keyed.sort fs)) := by
  have hreverse := List.rel_reverse (forall₂_of_fieldValues h)
  rw [Keyed.find?_sort, member?]
  generalize ms.reverse = written at hreverse ⊢
  generalize fs.reverse = meant at hreverse ⊢
  induction hreverse with
  | nil => exact .none
  | @cons m f written meant hm _ ih =>
      obtain ⟨hkey, hvalue⟩ := hm
      by_cases hk : f.1 = key
      · simpa [hkey, hk, Keyed.find?, Except.toOption] using Option.Rel.some hvalue
      · simpa [hkey, hk, Keyed.find?, Except.toOption] using ih

/-! ### Levels -/

mutual

/-- Room for more levels changes nothing. -/
theorem toValue_mono : ∀ (x : Raw) {d e : Nat} {v : Value}, x.toValue d = .ok v → d ≤ e →
    x.toValue e = .ok v
  | .null, _, _, _, h, _ | .bool _, _, _, _, h, _ => h
  | .number _, _, _, _, h, _ => by simpa [toValue] using h
  | .string _, _, _, _, h, _ => by simpa [toValue] using h
  | .array xs, _, e, _, h, hle => by
      cases means_of_toValue h with
      | array hitems =>
          obtain ⟨e, rfl⟩ := Nat.exists_eq_succ_of_ne_zero (Nat.ne_zero_of_lt hle)
          exact (Means.array (itemValues_mono xs hitems (Nat.le_of_succ_le_succ hle))).toValue_eq
  | .object ms, _, e, _, h, hle => by
      cases means_of_toValue h with
      | object hfields =>
          obtain ⟨e, rfl⟩ := Nat.exists_eq_succ_of_ne_zero (Nat.ne_zero_of_lt hle)
          exact (Means.object (fieldValues_mono ms hfields (Nat.le_of_succ_le_succ hle))).toValue_eq

theorem itemValues_mono : ∀ (xs : List Raw) {d e : Nat} {vs : List Value},
    itemValues d xs = .ok vs → d ≤ e → itemValues e xs = .ok vs
  | [], _, _, _, h, _ => h
  | x :: xs, _, _, _, h, hle => by
      obtain ⟨v, rest, hv, hrest, rfl⟩ := itemValues_cons_eq_ok_iff.mp h
      exact itemValues_cons_eq_ok_iff.mpr
        ⟨v, rest, toValue_mono x hv hle, itemValues_mono xs hrest hle, rfl⟩

theorem fieldValues_mono : ∀ (ms : List (List Mark × Raw)) {d e : Nat}
    {fs : List (String × Value)}, fieldValues d ms = .ok fs → d ≤ e → fieldValues e ms = .ok fs
  | [], _, _, _, h, _ => h
  | (_, x) :: ms, _, _, _, h, hle => by
      obtain ⟨key, v, rest, hkey, hv, hrest, rfl⟩ := fieldValues_cons_eq_ok_iff.mp h
      exact fieldValues_cons_eq_ok_iff.mpr
        ⟨key, v, rest, hkey, toValue_mono x hv hle, fieldValues_mono ms hrest hle, rfl⟩

end

end Raw

/-! ## The size of numbers -/

namespace Value

mutual

/-- Every natural number in a value has at most 64 bits. -/
def Bounded : Value → Prop
  | .number (.natural n) => n ≤ largest
  | .array vs => BoundedItems vs
  | .object fs => BoundedFields fs
  | .number _ | .null | .bool _ | .string _ => True

def BoundedItems : List Value → Prop
  | [] => True
  | v :: vs => Bounded v ∧ BoundedItems vs

def BoundedFields : List (String × Value) → Prop
  | [] => True
  | (_, v) :: fs => Bounded v ∧ BoundedFields fs

end

theorem boundedItems_iff {vs : List Value} : BoundedItems vs ↔ ∀ v ∈ vs, Bounded v := by
  induction vs with
  | nil => simp [BoundedItems]
  | cons v vs ih => simp [BoundedItems, ih]

theorem boundedFields_iff {fs : List (String × Value)} :
    BoundedFields fs ↔ ∀ f ∈ fs, Bounded f.2 := by
  induction fs with
  | nil => simp [BoundedFields]
  | cons f fs ih => simp [BoundedFields, ih]

end Value

namespace Raw

open Value (Bounded BoundedItems BoundedFields boundedFields_iff)

mutual

/-- No number that is read as natural is larger. -/
theorem bounded_toValue : ∀ (x : Raw) {d : Nat} {v : Value}, x.toValue d = .ok v → Bounded v
  | .null, _, _, h | .bool _, _, _, h => by
      cases h
      trivial
  | .number _, _, _, h => by
      cases means_of_toValue h with
      | @number _ _ n hread =>
          cases n with
          | natural n => exact le_largest_iff.mpr (read_eq_natural_iff.mp hread).bound
          | negative n => trivial
          | double x => trivial
  | .string _, _, _, h => by
      cases means_of_toValue h
      trivial
  | .array xs, _, _, h => by
      cases means_of_toValue h with
      | array hitems => exact boundedItems_itemValues xs hitems
  | .object ms, _, _, h => by
      cases means_of_toValue h with
      | object hfields =>
          refine boundedFields_iff.mpr ?_
          intro f hf
          exact boundedFields_iff.mp (boundedFields_fieldValues ms hfields) f
            (Keyed.mem_of_mem_sort hf)

theorem boundedItems_itemValues : ∀ (xs : List Raw) {d : Nat} {vs : List Value},
    itemValues d xs = .ok vs → BoundedItems vs
  | [], _, _, h => by
      cases h
      trivial
  | x :: xs, _, _, h => by
      obtain ⟨v, rest, hv, hrest, rfl⟩ := itemValues_cons_eq_ok_iff.mp h
      exact ⟨bounded_toValue x hv, boundedItems_itemValues xs hrest⟩

theorem boundedFields_fieldValues : ∀ (ms : List (List Mark × Raw)) {d : Nat}
    {fs : List (String × Value)}, fieldValues d ms = .ok fs → BoundedFields fs
  | [], _, _, h => by
      cases h
      trivial
  | (_, x) :: ms, _, _, h => by
      obtain ⟨key, v, rest, -, hv, hrest, rfl⟩ := fieldValues_cons_eq_ok_iff.mp h
      exact ⟨bounded_toValue x hv, boundedFields_fieldValues ms hrest⟩

end

end Raw

/-- What is read from a text means the value that is read from it. -/
theorem parse_eq_ok_iff {input : List Glyph} {v : Value} :
    parse input = .ok v ↔
      ∃ raw, Reader.document input = .ok raw ∧ raw.toValue Raw.maxDepth = .ok v := by
  simp only [parse, Results.bind_eq_ok_iff, Results.mapError_eq_ok_iff]

end PackageRegistry.Json
