import PackageRegistry.Proofs.Display.Counters

/-! # Units of compact counters

The letter of a counter goes by the number itself and its digits by the rounded one. The two part on
the last fifty numbers below a million, which are a million when rounded and still have the letter
for thousands.
-/

namespace PackageRegistry.Display

open Numeric (Magnitude)

/-- The number in front of a k is below a thousand, with at most three digits before its point. -/
def UnderThousand (text : String) : Prop :=
  ∀ number, text = number ++ "k" → ∃ whole tenth : Nat,
    number = toString whole ++ "." ++ toString tenth ∧ tenth < 10 ∧
      whole < 1000 ∧ (toString whole).length ≤ 3

/-! ## Letters -/

theorem ne_of_letter {c d : Char} (h : c ≠ d) (s t : String) :
    s ++ String.singleton c ≠ t ++ String.singleton d := by
  intro heq
  have hlast := congrArg (fun text => text.toList.getLast?) heq
  simp only [String.toList_append, String.toList_singleton, List.getLast?_concat,
    Option.some.injEq] at hlast
  exact h hlast

theorem toString_ne_append_k (n : Nat) (number : String) : toString n ≠ number ++ "k" := by
  intro heq
  have hmem : 'k' ∈ Nat.toDigits 10 n := by
    rw [← Nat.toList_repr, ← Nat.toString_eq_repr, heq]
    simp
  exact absurd (Nat.isDigit_of_mem_toDigits (by omega) le_rfl hmem) (by decide)

/-- Only numbers from a thousand up to a million are counted in thousands. -/
theorem count_ne_append_k {n : Nat} (h : n < 1000 ∨ 1000000 ≤ n) (number : String) :
    count n ≠ number ++ "k" := by
  unfold count
  obtain hsmall | hlarge := h
  · rw [if_pos hsmall]
    exact toString_ne_append_k n number
  · rw [if_neg (by omega), if_neg (by omega)]
    exact ne_of_letter (c := 'M') (d := 'k') (by decide) _ number

theorem Scale.written_injective (s : Scale) : Function.Injective s.written := by
  intro t u h
  have hreading := congrArg reading? h
  rw [reading?_written, reading?_written, Option.some.injEq] at hreading
  refine Nat.eq_of_mul_eq_mul_right ?_ hreading
  cases s <;> decide

/-! ## Thousands -/

theorem underThousand_written_iff (t : Nat) :
    UnderThousand (Scale.thousand.written t) ↔ t < 10000 := by
  constructor
  · intro h
    obtain ⟨whole, tenth, hnumber, htenth, hwhole, -⟩ := h _ rfl
    have hwritten : Scale.thousand.written t = Scale.thousand.written (10 * whole + tenth) := by
      have hdiv : (10 * whole + tenth) / 10 = whole := by omega
      have hmod : (10 * whole + tenth) % 10 = tenth := by omega
      rw [Scale.written, Scale.written, hdiv, hmod, hnumber]
    have ht := Scale.thousand.written_injective hwritten
    omega
  · intro hlt number hnumber
    have hlength : (toString (t / 10)).length ≤ 3 := by
      rw [Nat.toString_eq_repr, ← String.length_toList, Nat.toList_repr,
        Nat.length_toDigits_le_iff (by omega) (by omega)]
      omega
    exact ⟨t / 10, t % 10, (String.append_left_inj "k").mp hnumber.symm,
      Nat.mod_lt _ (by omega), by omega, hlength⟩

/-- The first of the numbers that become a thousand thousands is a tie, and its double lies above. -/
theorem count_rounded_up {n : Nat} (hle : 999950 ≤ n) (hlt : n < 1000000) :
    count n = Scale.thousand.written 10000 := by
  obtain rfl | habove := hle.eq_or_lt
  · decide +kernel
  · obtain ⟨t, htext, hnear⟩ := count_thousand (by omega) hlt
    obtain rfl : t = 10000 := by
      rw [abs_le] at hnear
      omega
    exact htext

theorem underThousand_count_iff (n : Nat) :
    UnderThousand (count n) ↔ ¬ (999950 ≤ n ∧ n < 1000000) := by
  by_cases hscale : 1000 ≤ n ∧ n < 1000000
  · obtain hbelow | hle := lt_or_ge n 999950
    · obtain ⟨t, htext, hnear⟩ := count_thousand hscale.1 hscale.2
      rw [abs_le] at hnear
      rw [htext, underThousand_written_iff]
      omega
    · rw [count_rounded_up hle hscale.2, underThousand_written_iff]
      omega
  · have hother : n < 1000 ∨ 1000000 ≤ n := by omega
    refine iff_of_true (fun number htext => ?_) (by omega)
    exact absurd htext (count_ne_append_k hother number)

theorem exists_append_k_iff (n : Nat) :
    (∃ number, count n = number ++ "k") ↔ 1000 ≤ n ∧ n < 1000000 := by
  constructor
  · rintro ⟨number, htext⟩
    by_contra hscale
    exact count_ne_append_k (by omega) number htext
  · rintro ⟨hle, hlt⟩
    obtain ⟨t, htext, -⟩ := count_thousand hle hlt
    exact ⟨_, htext⟩

/-! ## Millions -/

theorem exists_millions {n : Nat} (hle : 1000000 ≤ n) (hlt : n < 2 ^ 64) :
    ∃ t : Nat, count n = Scale.million.written t ∧ 10 ≤ t := by
  obtain hexact | hlarge := lt_or_ge n (2 ^ 53)
  · obtain ⟨t, htext, hnear⟩ := count_million hle hexact
    rw [abs_le] at hnear
    exact ⟨t, htext, by omega⟩
  · -- Here the number itself is rounded to a double, which leaves far more than a million.
    have hn : (2 : ℚ) ^ 53 ≤ n := by exact_mod_cast hlarge
    have hn' : (n : ℚ) < 2 ^ 64 := by exact_mod_cast hlt
    obtain ⟨m, e, hm, hdouble⟩ := Magnitude.ofNat_near (by omega) hlt
    rw [abs_le] at hdouble
    have hmany : ((1000000 : Nat) : ℚ) ≤ Magnitude.value m e := by
      push_cast
      linarith
    have hbits : Magnitude.value m e < 2 ^ 64 * (1000000 : Nat) := by
      push_cast
      linarith
    obtain ⟨t, htext, hnear⟩ := exists_tenths_of_double hm (by omega) (by omega) hmany hbits
    refine ⟨t, ?_, ?_⟩
    · rw [count, if_neg (by omega), if_neg (by omega), htext]
      rfl
    · rw [abs_le] at hnear
      push_cast at hnear
      have ht : (10 : ℚ) ≤ t := by linarith
      exact_mod_cast ht

/-! ## The unit of a counter -/

/-- The letter k belongs to the numbers from a thousand up to a million, and the letter M to all from
a million on. The number in front of a k is below a thousand, but for the last fifty numbers below a
million: they round to it and are shown as a thousand thousands. -/
theorem thousands_fit_unless_rounded_to_a_million (n : Nat) (h : n < 2 ^ 64) :
    ((∃ number, count n = number ++ "k") ↔ 1000 ≤ n ∧ n < 1000000) ∧
      (UnderThousand (count n) ↔ ¬ (999950 ≤ n ∧ n < 1000000)) ∧
      (999950 ≤ n → n < 1000000 → count n = "1000.0k") ∧
      (1000000 ≤ n → ∃ t : Nat, count n = Scale.million.written t ∧ 10 ≤ t) := by
  refine ⟨exists_append_k_iff n, underThousand_count_iff n, ?_, fun hle => exists_millions hle h⟩
  intro hle hlt
  rw [count_rounded_up hle hlt]
  decide +kernel

example : [count 999949, count 999950, count 1000000] = ["999.9k", "1000.0k", "1.0M"] := by
  decide +kernel

/-- The number in front of the fifty, the last of them, and the largest number of 64 bits. -/
theorem thousands_fit_in_front_of_the_last_fifty :
    999949 < 2 ^ 64 ∧ UnderThousand (count 999949) ∧ count 999999 = "1000.0k" ∧
      ∃ t : Nat, count (2 ^ 64 - 1) = Scale.million.written t ∧ 10 ≤ t :=
  ⟨by decide, (thousands_fit_unless_rounded_to_a_million 999949 (by decide)).2.1.mpr (by decide),
    (thousands_fit_unless_rounded_to_a_million 999999 (by decide)).2.2.1 (by decide) (by decide),
    (thousands_fit_unless_rounded_to_a_million (2 ^ 64 - 1) (by decide)).2.2.2 (by decide)⟩

/-- The first of the fifty is a thousand thousands and no million. -/
theorem rounded_million_is_left_in_thousands :
    999950 < 2 ^ 64 ∧ count 999950 = "1000.0k" ∧ ¬ UnderThousand (count 999950) := by
  refine ⟨by decide, by decide +kernel, ?_⟩
  rw [underThousand_count_iff]
  decide

end PackageRegistry.Display
