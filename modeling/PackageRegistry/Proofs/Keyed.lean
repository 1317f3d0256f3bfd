import Mathlib.Data.List.Nodup
import Mathlib.Data.String.Basic
import PackageRegistry.Keyed

/-! # Entries in key order

Sorting keeps the last value under each key and nothing else. What is in order stays as it is, so
sorting twice is sorting once.
-/

namespace PackageRegistry.Keyed

variable {α β : Type} {entries : List (String × α)} {key : String} {value : α}

/-! ## Looking up -/

theorem find?_append (k : String) (xs ys : List (String × α)) :
    find? k (xs ++ ys) = (find? k xs).or (find? k ys) := by
  induction xs with
  | nil => rfl
  | cons x xs ih =>
      by_cases h : x.1 = k
      · simp [find?, h]
      · simp [find?, h, ih]

theorem find?_map (k : String) (f : α → β) (entries : List (String × α)) :
    find? k (entries.map fun e => (e.1, f e.2)) = (find? k entries).map f := by
  induction entries with
  | nil => rfl
  | cons e entries ih =>
      by_cases h : e.1 = k
      · simp [find?, h]
      · simp [find?, h, ih]

theorem mem_of_find? (h : find? key entries = some value) : (key, value) ∈ entries := by
  induction entries with
  | nil => cases h
  | cons e entries ih =>
      obtain ⟨k, v⟩ := e
      by_cases hk : k = key
      · subst hk
        simp only [find?, if_true, Option.some.injEq] at h
        simp [h]
      · simp only [find?, hk, if_false] at h
        exact List.mem_cons_of_mem _ (ih h)

theorem find?_eq_none_iff : find? key entries = none ↔ key ∉ entries.map Prod.fst := by
  induction entries with
  | nil => simp [find?]
  | cons e entries ih =>
      by_cases hk : e.1 = key
      · simp [find?, hk]
      · simp [find?, hk, ih, Ne.symm hk]

/-- Where each key comes once, every entry is found. -/
theorem find?_eq_some_iff (hkeys : (entries.map Prod.fst).Nodup) :
    find? key entries = some value ↔ (key, value) ∈ entries := by
  refine ⟨mem_of_find?, ?_⟩
  induction entries with
  | nil => simp
  | cons e entries ih =>
      obtain ⟨k, v⟩ := e
      simp only [List.map_cons, List.nodup_cons] at hkeys
      intro hmem
      rcases List.mem_cons.mp hmem with heq | hmem
      · cases heq
        simp [find?]
      · have hne : k ≠ key := by
          rintro rfl
          exact hkeys.1 (List.mem_map_of_mem (f := Prod.fst) hmem)
        simpa [find?, hne] using ih hkeys.2 hmem

/-- Where each key comes once, the order of the entries does not matter. -/
theorem find?_perm {others : List (String × α)} (hperm : others.Perm entries)
    (hkeys : (entries.map Prod.fst).Nodup) (k : String) : find? k others = find? k entries := by
  have hothers : (others.map Prod.fst).Nodup := (hperm.map Prod.fst).nodup_iff.mpr hkeys
  apply Option.ext
  intro v
  rw [find?_eq_some_iff hothers, find?_eq_some_iff hkeys, hperm.mem_iff]

/-- The first entry that fulfils a condition which holds of one key only. -/
theorem findSome?_eq_find? {p : String → Prop} [DecidablePred p]
    (h : ∀ e ∈ entries, p e.1 ↔ e.1 = key) :
    (entries.findSome? fun e => if p e.1 then some e.2 else none) = find? key entries := by
  induction entries with
  | nil => rfl
  | cons e entries ih =>
      obtain ⟨k, v⟩ := e
      have ih := ih fun e he => h e (List.mem_cons_of_mem _ he)
      have hp : p k ↔ k = key := h (k, v) (by simp)
      by_cases hkey : k = key
      · have hk := hp.mpr hkey
        subst hkey
        simp [find?, hk]
      · simpa [find?, hp, hkey] using ih

/-! ## Sorting -/

/-- Entries in key order, each key once. -/
def Ordered (entries : List (String × α)) : Prop := entries.Pairwise fun e e' => e.1 < e'.1

theorem Ordered.nodup (h : Ordered entries) : (entries.map Prod.fst).Nodup := by
  apply List.pairwise_map.mpr
  exact List.Pairwise.imp (fun hlt => ne_of_lt hlt) h

theorem mem_insert {e : String × α} (h : e ∈ insert key value entries) :
    e = (key, value) ∨ e ∈ entries := by
  induction entries with
  | nil => simpa [insert] using h
  | cons x entries ih =>
      unfold insert at h
      split_ifs at h
      · simpa using h
      · rcases List.mem_cons.mp h with rfl | hmem
        · exact .inl rfl
        · exact .inr (List.mem_cons_of_mem _ hmem)
      · rcases List.mem_cons.mp h with rfl | hmem
        · exact .inr (by simp)
        · exact (ih hmem).imp_right (List.mem_cons_of_mem _)

theorem Ordered.insert (h : Ordered entries) (key : String) (value : α) :
    Ordered (Keyed.insert key value entries) := by
  induction entries with
  | nil => exact List.pairwise_singleton _ _
  | cons x entries ih =>
      obtain ⟨hfirst, hrest⟩ := List.pairwise_cons.mp h
      unfold Keyed.insert
      split_ifs with hlt heq
      · refine List.pairwise_cons.mpr ⟨?_, h⟩
        intro e he
        rcases List.mem_cons.mp he with rfl | he
        · exact hlt
        · exact hlt.trans (hfirst e he)
      · subst heq
        exact List.pairwise_cons.mpr ⟨hfirst, hrest⟩
      · refine List.pairwise_cons.mpr ⟨?_, ih hrest⟩
        intro e he
        rcases mem_insert he with rfl | he
        · exact lt_of_le_of_ne (not_lt.mp hlt) (Ne.symm heq)
        · exact hfirst e he

/-- A key behind all others comes last. -/
theorem insert_last (h : ∀ e ∈ entries, e.1 < key) :
    insert key value entries = entries ++ [(key, value)] := by
  induction entries with
  | nil => rfl
  | cons x entries ih =>
      have hlt : x.1 < key := h x (by simp)
      have hrest := ih fun e he => h e (List.mem_cons_of_mem _ he)
      simp [insert, not_lt_of_gt hlt, ne_of_gt hlt, hrest]

/-- An entry takes the place of the one before it under its key. -/
theorem insert_insert (key : String) (a b : α) (entries : List (String × α)) :
    insert key a (insert key b entries) = insert key a entries := by
  induction entries with
  | nil => simp [insert]
  | cons e entries ih =>
      simp only [insert]
      split_ifs with hlt heq
      · simp [insert]
      · simp [insert]
      · simp [insert, hlt, heq, ih]

theorem insert_map (f : α → β) (key : String) (value : α) (entries : List (String × α)) :
    insert key (f value) (entries.map fun e => (e.1, f e.2)) =
      (insert key value entries).map fun e => (e.1, f e.2) := by
  induction entries with
  | nil => rfl
  | cons x entries ih =>
      simp only [List.map_cons, insert]
      split_ifs
      · rfl
      · rfl
      · rw [List.map_cons, ih]

/-- Sorting in steps: the entries that come later go into those before. -/
def insertAll (acc entries : List (String × α)) : List (String × α) :=
  entries.foldl (fun acc e => insert e.1 e.2 acc) acc

theorem sort_eq_insertAll (entries : List (String × α)) : sort entries = insertAll [] entries := rfl

theorem ordered_insertAll {acc : List (String × α)} (h : Ordered acc)
    (entries : List (String × α)) : Ordered (insertAll acc entries) := by
  induction entries generalizing acc with
  | nil => exact h
  | cons e entries ih => exact ih (h.insert e.1 e.2)

theorem ordered_sort (entries : List (String × α)) : Ordered (sort entries) :=
  ordered_insertAll List.Pairwise.nil entries

theorem mem_insertAll {e : String × α} {acc : List (String × α)}
    (h : e ∈ insertAll acc entries) : e ∈ acc ∨ e ∈ entries := by
  induction entries generalizing acc with
  | nil => exact .inl h
  | cons x entries ih =>
      rcases ih h with hacc | hmem
      · rcases mem_insert hacc with rfl | hacc
        · exact .inr (by simp)
        · exact .inl hacc
      · exact .inr (List.mem_cons_of_mem _ hmem)

theorem mem_of_mem_sort {e : String × α} (h : e ∈ sort entries) : e ∈ entries :=
  (mem_insertAll h).resolve_left (by simp)

theorem find?_insertAll (k : String) (acc entries : List (String × α)) :
    find? k (insertAll acc entries) = (find? k entries.reverse).or (find? k acc) := by
  induction entries generalizing acc with
  | nil => rfl
  | cons e entries ih =>
      have hstep : insertAll acc (e :: entries) = insertAll (insert e.1 e.2 acc) entries := rfl
      rw [hstep, ih, find?_insert, List.reverse_cons, find?_append, Option.or_assoc]
      by_cases hk : e.1 = k
      · simp [find?, hk]
      · simp [find?, hk, Ne.symm hk]

/-- The last entry under a key counts. -/
theorem find?_sort (k : String) (entries : List (String × α)) :
    find? k (sort entries) = find? k entries.reverse := by
  simp [sort_eq_insertAll, find?_insertAll, find?]

theorem find?_sort_of_nodup (hkeys : (entries.map Prod.fst).Nodup) (k : String) :
    find? k (sort entries) = find? k entries := by
  rw [find?_sort, find?_perm entries.reverse_perm hkeys]

theorem insertAll_of_ordered {acc : List (String × α)} (h : Ordered (acc ++ entries)) :
    insertAll acc entries = acc ++ entries := by
  induction entries generalizing acc with
  | nil => simp [insertAll]
  | cons e entries ih =>
      have hbefore : ∀ x ∈ acc, x.1 < e.1 :=
        fun x hx => (List.pairwise_append.mp h).2.2 x hx e (by simp)
      have hstep : insertAll acc (e :: entries) = insertAll (insert e.1 e.2 acc) entries := rfl
      rw [hstep, insert_last hbefore, ih (by simpa using h)]
      simp

theorem sort_of_ordered (h : Ordered entries) : sort entries = entries :=
  insertAll_of_ordered h

theorem sort_sort (entries : List (String × α)) : sort (sort entries) = sort entries :=
  sort_of_ordered (ordered_sort entries)

theorem sort_map (f : α → β) (entries : List (String × α)) :
    sort (entries.map fun e => (e.1, f e.2)) = (sort entries).map fun e => (e.1, f e.2) := by
  have hall : ∀ acc : List (String × α),
      insertAll (acc.map fun e => (e.1, f e.2)) (entries.map fun e => (e.1, f e.2)) =
        (insertAll acc entries).map fun e => (e.1, f e.2) := by
    induction entries with
    | nil => exact fun _ => rfl
    | cons e entries ih =>
        intro acc
        have hnext := ih (insert e.1 e.2 acc)
        rwa [← insert_map] at hnext
  exact hall []

end PackageRegistry.Keyed
