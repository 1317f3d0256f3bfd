import Mathlib.Data.List.DropRight
import PackageRegistry.Proofs.Text.Pieces

/-! # Trimming

What is left of a text when it is trimmed is trimmed already.
-/

namespace PackageRegistry.Text

/-- No blank stands among the visible characters of ASCII. -/
theorem isBlankChar_of_visible {c : Char} (hlow : 0x21 ≤ c.toNat) (hhigh : c.toNat ≤ 0x7E) :
    isBlankChar c = false := by
  simp only [isBlankChar, Bool.or_eq_false_iff, Bool.and_eq_false_iff, decide_eq_false_iff_not,
    beq_eq_false_iff_ne]
  omega

theorem dropWhile_rdropWhile_dropWhile (p : Char → Bool) (cs : List Char) :
    (List.rdropWhile p (cs.dropWhile p)).dropWhile p = List.rdropWhile p (cs.dropWhile p) := by
  rw [List.dropWhile_eq_self_iff]
  intro hpos
  -- what is left begins as before its end was cut
  have hfront := List.rdropWhile_prefix p (l := cs.dropWhile p)
  rw [hfront.getElem hpos]
  exact List.dropWhile_get_zero_not p cs (Nat.lt_of_lt_of_le hpos hfront.length_le)

theorem trimChars_trimChars (cs : List Char) : trimChars (trimChars cs) = trimChars cs := by
  change List.rdropWhile isBlankChar ((trimChars cs).dropWhile isBlankChar) = trimChars cs
  rw [show (trimChars cs).dropWhile isBlankChar = trimChars cs from
    dropWhile_rdropWhile_dropWhile isBlankChar cs]
  exact List.rdropWhile_idempotent isBlankChar _

/-- Around a character that is not blank, each side loses its own blanks only. -/
theorem trimChars_append_cons {c : Char} (h : isBlankChar c = false) (xs ys : List Char) :
    trimChars (xs ++ c :: ys) = xs.dropWhile isBlankChar ++ c :: dropTail isBlankChar ys := by
  rw [trimChars, dropWhile_append_cons h, dropTail_append_cons h]

@[simp] theorem trim_trim (s : String) : trim (trim s) = trim s := by
  simp only [trim, String.toList_ofList, trimChars_trimChars]

theorem trimChars_eq_nil_iff (cs : List Char) :
    trimChars cs = [] ↔ ∀ c ∈ cs, isBlankChar c = true := by
  change List.rdropWhile isBlankChar (cs.dropWhile isBlankChar) = [] ↔ _
  rw [List.rdropWhile_eq_nil_iff]
  constructor
  · intro h c hc
    rw [← List.takeWhile_append_dropWhile (p := isBlankChar) (l := cs)] at hc
    rcases List.mem_append.mp hc with hfront | hrest
    · exact List.mem_takeWhile_imp hfront
    · exact h c hrest
  · intro h c hc
    exact h c ((List.dropWhile_suffix isBlankChar).subset hc)

/-- Nothing is left of a blank text, and something of every other. -/
theorem isBlank_iff (s : String) : isBlank s = true ↔ trim s = "" := by
  rw [isBlank, List.all_eq_true, ← trimChars_eq_nil_iff, trim, ← String.toList_inj,
    String.toList_ofList]
  rfl

theorem isBlank_trim (s : String) : isBlank (trim s) = isBlank s := by
  rw [Bool.eq_iff_iff, isBlank_iff, isBlank_iff, trim_trim]

theorem mem_of_mem_trim {c : Char} {s : String} (h : c ∈ (trim s).toList) : c ∈ s.toList := by
  rw [trim, String.toList_ofList] at h
  have hfront := (List.rdropWhile_prefix isBlankChar _).subset h
  exact (List.dropWhile_suffix isBlankChar).subset hfront

/-! ## Blanks around a text -/

/-- A text that is not all blank has a character that is none. -/
theorem exists_visible {cs : List Char} (h : ¬ ∀ c ∈ cs, isBlankChar c = true) :
    ∃ front c back, cs = front ++ c :: back ∧ isBlankChar c = false := by
  simp only [not_forall, Bool.not_eq_true] at h
  obtain ⟨c, hmem, hc⟩ := h
  obtain ⟨front, back, hcs⟩ := List.append_of_mem hmem
  exact ⟨front, c, back, hcs, hc⟩

theorem trimChars_append_of_blank {xs : List Char} (hxs : ∀ c ∈ xs, isBlankChar c = true)
    (cs : List Char) : trimChars (xs ++ cs) = trimChars cs := by
  rw [trimChars, List.dropWhile_append_of_pos hxs, trimChars]

theorem dropTail_append_of_blank {xs : List Char} (hxs : ∀ c ∈ xs, isBlankChar c = true)
    (cs : List Char) : dropTail isBlankChar (cs ++ xs) = dropTail isBlankChar cs := by
  have hpass : ∀ c ∈ xs.reverse, isBlankChar c = true := fun c hc => hxs c (List.mem_reverse.mp hc)
  rw [dropTail, List.reverse_append, List.dropWhile_append_of_pos hpass, dropTail]

theorem trimChars_dropTail (cs : List Char) :
    trimChars (dropTail isBlankChar cs) = trimChars cs := by
  by_cases hblank : ∀ c ∈ cs, isBlankChar c = true
  · have hrest : ∀ c ∈ dropTail isBlankChar cs, isBlankChar c = true := fun c hc =>
      hblank c ((List.rdropWhile_prefix isBlankChar cs).subset hc)
    rw [(trimChars_eq_nil_iff _).mpr hrest, (trimChars_eq_nil_iff _).mpr hblank]
  · -- what is dropped stands behind a character that is no blank
    obtain ⟨front, c, back, rfl, hc⟩ := exists_visible hblank
    have hagain : dropTail isBlankChar (dropTail isBlankChar back) = dropTail isBlankChar back :=
      List.rdropWhile_idempotent isBlankChar back
    rw [dropTail_append_cons hc, trimChars_append_cons hc, trimChars_append_cons hc, hagain]

/-- Blanks around a text are trimmed like those at its ends. -/
theorem trim_of_blanks {u x : String} (hu : isBlank u = true) (hx : isBlank x = true)
    (s : String) : trim (u ++ s ++ x) = trim s := by
  rw [trim, trim, String.toList_append, String.toList_append, List.append_assoc,
    trimChars_append_of_blank (List.all_eq_true.mp hu), ← trimChars_dropTail,
    dropTail_append_of_blank (List.all_eq_true.mp hx), trimChars_dropTail]

/-! ## Texts that are not blank -/

theorem trimmed?_eq (s : String) : trimmed? s = if trim s = "" then none else some (trim s) := by
  simp only [trimmed?, isBlank_iff]

theorem trimmed?_eq_some_iff {s t : String} : trimmed? s = some t ↔ t ≠ "" ∧ trim s = t := by
  rw [trimmed?_eq]
  by_cases h : trim s = ""
  · simp [h, eq_comm]
  · constructor
    · intro ht
      simp only [h, if_false, Option.some.injEq] at ht
      exact ⟨ht ▸ h, ht⟩
    · rintro ⟨_, rfl⟩
      rw [if_neg h]

@[simp] theorem trimmed?_bind_trimmed? (s : String) : (trimmed? s).bind trimmed? = trimmed? s := by
  cases h : trimmed? s with
  | none => rfl
  | some t =>
      obtain ⟨hne, rfl⟩ := trimmed?_eq_some_iff.mp h
      rw [Option.bind_some, trimmed?_eq_some_iff]
      exact ⟨hne, trim_trim s⟩

/-- Trimming texts leaves out those that are blank. -/
theorem filterMap_trimmed? (ss : List String) :
    ss.filterMap trimmed? = (ss.filter fun s => !isBlank s).map trim := by
  induction ss with
  | nil => rfl
  | cons s ss ih =>
      by_cases hblank : isBlank s = true
      · simp [trimmed?, hblank, ih]
      · simp [trimmed?, hblank, ih]

end PackageRegistry.Text
