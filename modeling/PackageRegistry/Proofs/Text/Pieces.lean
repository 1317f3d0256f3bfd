import Mathlib.Data.List.DropRight
import PackageRegistry.Text.Blank

/-! # Cutting text

The pieces between separators, the two sides of a mark, and a text without its ends.
-/

namespace PackageRegistry.Text

/-! ## Pieces -/

theorem pieces_eq_splitOn (sep : Char) (cs : List Char) : pieces sep cs = cs.splitOn sep := by
  induction cs with
  | nil => exact (List.splitOn_nil sep).symm
  | cons c cs ih =>
      rw [pieces, List.splitOn_cons_eq_if_modifyHead, ih]
      by_cases hc : c = sep
      · simp [hc]
      · obtain ⟨p, ps, hps⟩ := List.exists_cons_of_ne_nil (List.splitOn_ne_nil sep cs)
        simp [hc, hps]

theorem pieces_ne_nil (sep : Char) (cs : List Char) : pieces sep cs ≠ [] := by
  rw [pieces_eq_splitOn]
  exact List.splitOn_ne_nil sep cs

theorem pieces_append_cons (sep : Char) (xs ys : List Char) :
    pieces sep (xs ++ sep :: ys) = pieces sep xs ++ pieces sep ys := by
  simp only [pieces_eq_splitOn]
  exact List.splitOn_append_cons_self xs ys

theorem pieces_of_notMem {sep : Char} {cs : List Char} (h : sep ∉ cs) : pieces sep cs = [cs] := by
  rw [pieces_eq_splitOn]
  exact List.splitOn_eq_singleton h

/-- No separator is left in a piece. -/
theorem notMem_of_mem_pieces {sep : Char} {cs p : List Char} (h : p ∈ pieces sep cs) :
    sep ∉ p := by
  induction cs generalizing p with
  | nil => simp_all [pieces]
  | cons c cs ih =>
      rw [pieces] at h
      by_cases hc : c = sep
      · rw [if_pos hc, List.mem_cons] at h
        rcases h with rfl | hp
        · simp
        · exact ih hp
      · rw [if_neg hc] at h
        obtain ⟨q, qs, hqs⟩ := List.exists_cons_of_ne_nil (pieces_ne_nil sep cs)
        have hq : sep ∉ q := ih (by simp [hqs])
        simp only [hqs, List.mem_cons] at h
        rcases h with rfl | hp
        · simp [hq, Ne.symm hc]
        · exact ih (by simp [hqs, hp])

/-- What is no separator is in a piece. -/
theorem exists_mem_pieces {sep x : Char} {cs : List Char} (h : x ∈ cs) (hx : x ≠ sep) :
    ∃ p ∈ pieces sep cs, x ∈ p := by
  induction cs with
  | nil => cases h
  | cons c cs ih =>
      rw [pieces]
      obtain ⟨q, qs, hqs⟩ := List.exists_cons_of_ne_nil (pieces_ne_nil sep cs)
      split_ifs with hc
      · rcases List.mem_cons.mp h with rfl | h
        · exact absurd hc hx
        · obtain ⟨p, hp, hxp⟩ := ih h
          exact ⟨p, List.mem_cons_of_mem _ hp, hxp⟩
      · rw [hqs]
        rcases List.mem_cons.mp h with rfl | h
        · exact ⟨x :: q, by simp, by simp⟩
        · obtain ⟨p, hp, hxp⟩ := ih h
          rw [hqs] at hp
          rcases List.mem_cons.mp hp with rfl | hp
          · exact ⟨c :: p, by simp, List.mem_cons_of_mem _ hxp⟩
          · exact ⟨p, List.mem_cons_of_mem _ hp, hxp⟩

theorem split_ne_nil (sep : Char) (s : String) : split sep s ≠ [] := by
  simp [split, pieces_ne_nil]

theorem notMem_of_mem_split {sep : Char} {s piece : String} (h : piece ∈ split sep s) :
    sep ∉ piece.toList := by
  obtain ⟨cs, hcs, rfl⟩ := List.mem_map.mp h
  rw [String.toList_ofList]
  exact notMem_of_mem_pieces hcs

/-- The pieces make up the text again. -/
theorem intercalate_split (sep : Char) (s : String) :
    (String.singleton sep).intercalate (split sep s) = s := by
  rw [← String.toList_inj, String.toList_intercalate, split, List.map_map, pieces_eq_splitOn]
  simp [Function.comp_def]

theorem split_intercalate {sep : Char} {ss : List String} (hne : ss ≠ [])
    (h : ∀ s ∈ ss, sep ∉ s.toList) : split sep ((String.singleton sep).intercalate ss) = ss := by
  rw [split, String.toList_intercalate, String.toList_singleton, pieces_eq_splitOn,
    List.splitOn_intercalate sep (by simpa using h) (by simpa using hne), List.map_map]
  simp [Function.comp_def]

/-! ## The two sides of a mark -/

theorem cutAt_append {p : Char → Bool} {xs : List Char} {c : Char} (hxs : ∀ x ∈ xs, p x = false)
    (hc : p c = true) (ys : List Char) : cutAt p (xs ++ c :: ys) = some (xs, ys) := by
  have hpass : ∀ x ∈ xs, (!p x) = true := by simpa using hxs
  rw [cutAt, List.dropWhile_append_of_pos hpass, List.takeWhile_append_of_pos hpass]
  simp [hc]

theorem cutAt_of_forall {p : Char → Bool} {xs : List Char} (h : ∀ x ∈ xs, p x = false) :
    cutAt p xs = none := by
  have hdrop : xs.dropWhile (fun c => !p c) = [] := by simpa using h
  rw [cutAt, hdrop]

/-! ## The ends of a text -/

/-- Nothing is dropped behind a character outside the class. -/
theorem dropWhile_append_cons {p : Char → Bool} {c : Char} (h : p c = false) (xs ys : List Char) :
    (xs ++ c :: ys).dropWhile p = xs.dropWhile p ++ c :: ys := by
  rw [List.dropWhile_append]
  split_ifs with hempty
  · rw [List.isEmpty_iff.mp hempty, List.dropWhile_cons_of_neg (by simp [h]), List.nil_append]
  · rfl

theorem exists_dropTail_append (p : Char → Bool) (cs : List Char) :
    ∃ tail, cs = dropTail p cs ++ tail ∧ ∀ c ∈ tail, p c = true := by
  refine ⟨(cs.reverse.takeWhile p).reverse, ?_, ?_⟩
  · rw [dropTail, ← List.reverse_append, List.takeWhile_append_dropWhile, List.reverse_reverse]
  · intro c hc
    exact List.mem_takeWhile_imp (List.mem_reverse.mp hc)

/-- Nothing is dropped before a character outside the class. -/
theorem dropTail_append_cons {p : Char → Bool} {c : Char} (h : p c = false) (xs ys : List Char) :
    dropTail p (xs ++ c :: ys) = xs ++ c :: dropTail p ys := by
  rw [dropTail, List.reverse_append, List.reverse_cons, List.append_assoc, List.dropWhile_append]
  split_ifs with hempty
  · have hys : dropTail p ys = [] := by simpa [dropTail] using hempty
    simp [hys, h]
  · simp [dropTail]

theorem dropTail_of_forall {p : Char → Bool} {cs : List Char} (h : ∀ c ∈ cs, p c = false) :
    dropTail p cs = cs := by
  apply List.rdropWhile_eq_self_iff.mpr
  intro hne
  simp [h _ (List.getLast_mem hne)]

end PackageRegistry.Text
