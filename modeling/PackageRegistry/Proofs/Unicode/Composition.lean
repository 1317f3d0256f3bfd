import Mathlib.Tactic.SplitIfs
import Mathlib.Tactic.Tauto
import PackageRegistry.Unicode.Composition

/-! # Blanks and controls in composed text

The blanks and controls of ASCII are parts of no other character, and no other characters are parts
of them. So they stay in a text when it is brought into its composed form.
-/

namespace PackageRegistry.Unicode

/-- The lines of a table, each with words that pass a check. -/
inductive Checked (p : List Char → Bool) : List String → Prop where
  | nil : Checked p []
  | cons (cs : List Char) (lines : List String) (h : (Text.pieces ' ' cs).all p = true)
      (rest : Checked p lines) : Checked p (String.ofList cs :: lines)

theorem Checked.of_mem_words {p : List Char → Bool} {lines : List String} (h : Checked p lines) :
    ∀ w ∈ words lines, p w = true := by
  induction h with
  | nil => simp [words]
  | cons cs lines h rest ih =>
      intro w hw
      rw [words, List.flatMap_cons, List.mem_append, String.toList_ofList] at hw
      rcases hw with hw | hw
      · exact List.all_eq_true.mp h w hw
      · exact ih w hw

/-- A character past the blank of ASCII and the controls in front of it. -/
def isVisible (c : Char) : Bool := 0x20 < c.toNat

/-- What can be checked of each blank and control. -/
theorem of_not_visible {P : Char → Prop} (h : ∀ n < 0x21, P (Char.ofNat n)) {x : Char}
    (hx : isVisible x = false) : P x := by
  rw [isVisible, decide_eq_false_iff_not] at hx
  have hP := h x.toNat (by omega)
  rwa [Char.ofNat_toNat] at hP

theorem composites_visible : ∀ r ∈ composites, r.target.all isVisible = true := by
  have hlines : ∀ lines, Checked (fun w => (Rule.ofWord w).target.all isVisible) lines →
      ∀ r ∈ Rule.ofLines lines, r.target.all isVisible = true := by
    intro lines hlines r hr
    obtain ⟨w, hw, rfl⟩ := List.mem_map.mp hr
    exact hlines.of_mem_words w hw
  apply hlines
  -- line by line: as characters each of them is checked at once
  repeat (refine .cons _ _ (by decide +kernel) ?_)
  exact .nil

variable {x : Char}

theorem syllable?_visible {parts : List Char} {c : Char} (h : syllable? parts = some c) :
    ∀ x ∈ parts, isVisible x = true := by
  have hpart : ∀ {first count : Nat} {c : Char} {n : Nat}, 0x20 < first →
      partNumber? first count c = some n → isVisible c = true := by
    intro first count c n hfirst hn
    rw [partNumber?] at hn
    split_ifs at hn with hrange
    rw [isVisible, decide_eq_true_eq]
    omega
  unfold syllable? at h
  split at h
  · obtain ⟨i, hl, h⟩ := Option.bind_eq_some_iff.mp h
    obtain ⟨j, hv, -⟩ := Option.bind_eq_some_iff.mp h
    simp [hpart (by omega) hl, hpart (by omega) hv]
  · obtain ⟨i, hl, h⟩ := Option.bind_eq_some_iff.mp h
    obtain ⟨j, hv, h⟩ := Option.bind_eq_some_iff.mp h
    obtain ⟨k, ht, -⟩ := Option.bind_eq_some_iff.mp h
    simp [hpart (by omega) hl, hpart (by omega) hv, hpart (by omega) ht]
  · cases h

/-- A blank or control is no part of another character. -/
theorem eq_singleton_of_composite? (hx : isVisible x = false) {parts : List Char} (hmem : x ∈ parts)
    (h : (composite? parts).isSome = true) : parts = [x] := by
  obtain ⟨c, hc⟩ := Option.isSome_iff_exists.mp h
  unfold composite? at hc
  split at hc
  · rw [List.mem_singleton.mp hmem]
  · exfalso
    rcases Option.or_eq_some_iff.mp hc with hsyllable | ⟨-, hrule⟩
    · simp [syllable?_visible hsyllable x hmem] at hx
    · obtain ⟨r, hr, -⟩ := Option.map_eq_some_iff.mp hrule
      have htarget : r.target = parts := by simpa using List.find?_some hr
      have hvisible := composites_visible r (List.mem_of_find?_eq_some hr)
      rw [htarget, List.all_eq_true] at hvisible
      simp [hvisible x hmem] at hx

theorem mem_insertMark {m : Char} {marks : List Char} :
    x ∈ insertMark m marks ↔ x = m ∨ x ∈ marks := by
  induction marks with
  | nil => simp [insertMark]
  | cons n marks ih =>
      rw [insertMark]
      split_ifs
      · rw [List.mem_cons, ih, List.mem_cons]
        tauto
      · rw [List.mem_cons]

theorem mem_orderMarks {marks cs : List Char} :
    x ∈ orderMarks marks cs ↔ x ∈ marks ∨ x ∈ cs := by
  induction cs generalizing marks with
  | nil => simp [orderMarks]
  | cons c cs ih =>
      rw [orderMarks]
      split_ifs
      · rw [List.mem_append, List.mem_cons, ih, List.mem_cons]
        simp
      · rw [ih, mem_insertMark, List.mem_cons]
        tauto

theorem mem_decomposed (hx : isVisible x = false) {cs : List Char} (h : x ∈ cs) :
    x ∈ decomposed cs := by
  have hlow : x.toNat < 0xC0 := by
    rw [isVisible, decide_eq_false_iff_not] at hx
    omega
  rw [decomposed, mem_orderMarks, List.mem_flatMap]
  exact .inr ⟨x, h, by simp [decomposition, hlow]⟩

/-- What stands in a cluster by itself, or behind it, stays in the text. -/
theorem mem_composeFrom (hx : isVisible x = false) {k : Cluster} {cs : List Char}
    (h : k.parts = [x] ∨ x ∈ k.loose ∨ x ∈ cs) : x ∈ composeFrom k cs := by
  have htext : ∀ k : Cluster, k.parts = [x] ∨ x ∈ k.loose → x ∈ k.text := by
    intro k hk
    rcases hk with hparts | hloose
    · simp [Cluster.text, hparts, composite?]
    · simp [Cluster.text, hloose]
  induction cs generalizing k with
  | nil => exact htext k (by simpa using h)
  | cons c cs ih =>
      rw [composeFrom]
      cases hjoin : k.join? c with
      | some k' =>
          unfold Cluster.join? at hjoin
          split_ifs at hjoin
          obtain ⟨d, hcomposite, rfl⟩ := Option.map_eq_some_iff.mp hjoin
          have hsome : (composite? (k.parts ++ [c])).isSome = true := by simp [hcomposite]
          apply ih
          rcases h with hparts | hloose | hmem
          · exact .inl (eq_singleton_of_composite? hx (by simp [hparts]) hsome)
          · exact .inr (.inl hloose)
          · rcases List.mem_cons.mp hmem with rfl | hmem
            · exact .inl (eq_singleton_of_composite? hx (by simp) hsome)
            · exact .inr (.inr hmem)
      | none =>
          dsimp only
          split_ifs
          · rw [List.mem_append]
            rcases h with hparts | hloose | hmem
            · exact .inl (htext k (.inl hparts))
            · exact .inl (htext k (.inr hloose))
            · apply Or.inr
              apply ih
              rcases List.mem_cons.mp hmem with rfl | hmem
              · exact .inl rfl
              · exact .inr (.inr hmem)
          · apply ih
            rcases h with hparts | hloose | hmem
            · exact .inl hparts
            · exact .inr (.inl (by simp [hloose]))
            · rcases List.mem_cons.mp hmem with rfl | hmem
              · exact .inr (.inl (by simp))
              · exact .inr (.inr hmem)

theorem mem_composed (hx : isVisible x = false) {cs : List Char} (h : x ∈ cs) :
    x ∈ composed cs := by
  have hcompose : ∀ ds : List Char, x ∈ ds → x ∈ compose ds := by
    intro ds hmem
    induction ds with
    | nil => cases hmem
    | cons c ds ih =>
        rw [compose]
        split_ifs
        · apply mem_composeFrom hx
          rcases List.mem_cons.mp hmem with rfl | hmem
          · exact .inl rfl
          · exact .inr (.inr hmem)
        · rcases List.mem_cons.mp hmem with rfl | hmem
          · simp
          · exact List.mem_cons_of_mem _ (ih hmem)
  exact hcompose _ (mem_decomposed hx h)

end PackageRegistry.Unicode
