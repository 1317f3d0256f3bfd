import PackageRegistry.Display
import PackageRegistry.Proofs.Numeric.Rounding

/-! # Compact counters

A counter goes through two roundings, first to a double and then to one decimal. Below `2 ^ 53` the
first one moves the number by less than one, so that the second alone decides: the counter is off by
at most half of what its last digit counts, and order is kept from one scale to the next.
-/

namespace PackageRegistry.Display

open Numeric (Magnitude roundHalfEven)

/-! ## Reading counters -/

/-- The letters behind compact counters. -/
inductive Scale where
  | thousand
  | million
deriving DecidableEq, Repr

namespace Scale

def letter : Scale → Char
  | .thousand => 'k'
  | .million => 'M'

/-- What the first digit behind the point counts. -/
def tenth : Scale → Nat
  | .thousand => 100
  | .million => 100000

/-- Tenths of a scale with their point and letter. -/
def written (s : Scale) (t : Nat) : String :=
  toString (t / 10) ++ "." ++ toString (t % 10) ++ String.singleton s.letter

end Scale

/-- What a compact counter says: a whole number, or so many tenths of the scale of its letter. -/
def reading? (text : String) : Option Nat :=
  match text.toList.reverse with
  | 'k' :: d :: '.' :: ds => some (Nat.ofDigitChars 10 (ds.reverse ++ [d]) 0 * Scale.thousand.tenth)
  | 'M' :: d :: '.' :: ds => some (Nat.ofDigitChars 10 (ds.reverse ++ [d]) 0 * Scale.million.tenth)
  | ds => if ds.all Char.isDigit then some (Nat.ofDigitChars 10 ds.reverse 0) else none

theorem reading?_toString (n : Nat) : reading? (toString n) = some n := by
  have hdigits : ∀ c ∈ (Nat.toDigits 10 n).reverse, c.isDigit = true := fun c hc =>
    Nat.isDigit_of_mem_toDigits (by omega) le_rfl (List.mem_reverse.mp hc)
  have hall : (Nat.toDigits 10 n).reverse.all Char.isDigit = true := List.all_eq_true.mpr hdigits
  rw [reading?, Nat.toString_eq_repr, Nat.toList_repr]
  split
  · rename_i d ds heq
    rw [heq] at hdigits
    exact absurd (hdigits '.' (by simp)) (by decide)
  · rename_i d ds heq
    rw [heq] at hdigits
    exact absurd (hdigits '.' (by simp)) (by decide)
  · rw [if_pos hall, List.reverse_reverse, Nat.ofDigitChars_toDigits (by omega) le_rfl]

theorem reading?_written (s : Scale) (t : Nat) : reading? (s.written t) = some (t * s.tenth) := by
  have hlast : Nat.toDigits 10 (t % 10) = [(t % 10).digitChar] :=
    Nat.toDigits_of_lt_base (Nat.mod_lt _ (by omega))
  have hdigits : Nat.ofDigitChars 10 (Nat.toDigits 10 (t / 10) ++ [(t % 10).digitChar]) 0 = t := by
    rw [← hlast, Nat.ofDigitChars_append, Nat.ofDigitChars_toDigits (by omega) le_rfl,
      Nat.ofDigitChars_eq_ofDigitChars_zero, Nat.ofDigitChars_toDigits (by omega) le_rfl, hlast,
      List.length_singleton]
    omega
  have htext : (s.written t).toList.reverse =
      s.letter :: (t % 10).digitChar :: '.' :: (Nat.toDigits 10 (t / 10)).reverse := by
    simp [Scale.written, hlast]
  rw [reading?, htext]
  cases s <;> simp [Scale.letter, hdigits]

/-! ## Accuracy -/

theorem tenths_of_div {n unit m : Nat} {e : Int}
    (h : (Magnitude.ofNat n).div (Magnitude.ofNat unit) = .finite m e) :
    tenths n unit = Numeric.oneDecimal (Magnitude.toRatio m e).1 (Magnitude.toRatio m e).2 := by
  unfold tenths
  rcases hratio : Magnitude.toRatio m e with ⟨num, den⟩
  simp only [h, hratio]

/-- The decimal of a quotient is off by a half at most, and by what its double is off, from the
quotient of the double that the number became. -/
theorem exists_tenths_of_double {n unit m : Nat} {e : Int} (hn : Magnitude.ofNat n = .finite m e)
    (hunit : 0 < unit) (hexact : unit < 2 ^ 53) (hle : (unit : ℚ) ≤ Magnitude.value m e)
    (hlt : Magnitude.value m e < 2 ^ 64 * unit) :
    ∃ t : Nat, tenths n unit = toString (t / 10) ++ "." ++ toString (t % 10) ∧
      |(t : ℚ) - 10 * Magnitude.value m e / unit| ≤
        1 / 2 + 10 * Magnitude.value m e / unit / 2 ^ 53 := by
  obtain ⟨m', e', hm', hvalue'⟩ := Magnitude.ofNat_eq hunit hexact
  have hunit' : (0 : ℚ) < unit := by exact_mod_cast hunit
  have hdiv := @Magnitude.div_near m m' e e'
  rw [← hn, ← hm', hvalue'] at hdiv
  obtain ⟨r, g, hdiv, hnear⟩ := hdiv hunit' hle ((div_lt_iff₀ hunit').mpr hlt)
  refine ⟨roundHalfEven ((Magnitude.toRatio r g).1 * 10) (Magnitude.toRatio r g).2, ?_, ?_⟩
  · rw [tenths_of_div hdiv]
    rfl
  · have hround := Numeric.roundHalfEven_near ((Magnitude.toRatio r g).1 * 10)
      (Magnitude.toRatio_pos r g)
    rw [Nat.cast_mul, mul_div_right_comm, Magnitude.value_toRatio] at hround
    rw [mul_div_assoc]
    rw [abs_le] at hround hnear ⊢
    push_cast at hround
    constructor <;> linarith

/-- A number of at most 53 bits becomes itself, so that only the two roundings behind it count. -/
theorem exists_tenths {n unit : Nat} (hunit : 0 < unit) (hle : unit ≤ n) (hlt : n < 2 ^ 53) :
    ∃ t : Nat, tenths n unit = toString (t / 10) ++ "." ++ toString (t % 10) ∧
      |(t : ℚ) - 10 * n / unit| ≤ 1 / 2 + 10 * n / unit / 2 ^ 53 := by
  obtain ⟨m, e, hm, hvalue⟩ := Magnitude.ofNat_eq (hunit.trans_le hle) hlt
  have hsmall : (n : ℚ) < 2 ^ 64 * unit := by
    have hone : (1 : ℚ) ≤ unit := by exact_mod_cast hunit
    have hn : (n : ℚ) < 2 ^ 53 := by exact_mod_cast hlt
    linarith
  rw [← hvalue] at hsmall ⊢
  refine exists_tenths_of_double hm hunit (hle.trans_lt hlt) ?_ hsmall
  rw [hvalue]
  exact_mod_cast hle

/-- A counter is off from its number by at most half a tenth of its scale. -/
theorem exists_written {s : Scale} {n : Nat} (hle : 10 * s.tenth ≤ n) (hlt : n < 2 ^ 53) :
    ∃ t : Nat, tenths n (10 * s.tenth) ++ String.singleton s.letter = s.written t ∧
      2 * |(n : Int) - s.tenth * t| ≤ s.tenth := by
  have hpos : 0 < s.tenth := by cases s <;> decide
  obtain ⟨t, ht, hnear⟩ := exists_tenths (by omega) hle hlt
  refine ⟨t, by rw [ht]; rfl, ?_⟩
  have hpos' : (0 : ℚ) < s.tenth := by exact_mod_cast hpos
  have hn : (n : ℚ) / 2 ^ 53 < 1 := by
    rw [div_lt_one (by positivity)]
    exact_mod_cast hlt
  have htenths : 10 * (n : ℚ) / (10 * s.tenth : Nat) = n / s.tenth := by
    push_cast
    exact mul_div_mul_left _ _ (by norm_num)
  rw [htenths] at hnear
  have hlarge : 2 * |(n : ℚ) - s.tenth * t| < s.tenth + 2 := by
    calc
      2 * |(n : ℚ) - s.tenth * t| = 2 * (s.tenth * |(t : ℚ) - n / s.tenth|) := by
        rw [← abs_of_pos hpos', ← abs_mul, abs_of_pos hpos', mul_sub,
          mul_div_cancel₀ _ hpos'.ne', abs_sub_comm]
      _ ≤ 2 * (s.tenth * (1 / 2 + n / s.tenth / 2 ^ 53)) := by gcongr
      _ = s.tenth + 2 * (n / 2 ^ 53) := by
        rw [mul_add, div_right_comm, mul_div_cancel₀ _ hpos'.ne']
        ring
      _ < s.tenth + 2 := by linarith
  have hlarge' : 2 * |(n : Int) - s.tenth * t| < s.tenth + 2 := by exact_mod_cast hlarge
  cases s <;> simp only [Scale.tenth] at hlarge' ⊢ <;> omega

theorem count_thousand {n : Nat} (hle : 1000 ≤ n) (hlt : n < 1000000) :
    ∃ t : Nat, count n = Scale.thousand.written t ∧ |(n : Int) - 100 * t| ≤ 50 := by
  obtain ⟨t, htext, hnear⟩ := exists_written (s := .thousand) hle (by omega)
  have hcount : count n = tenths n 1000 ++ "k" := by
    rw [count, if_neg (by omega), if_pos hlt]
  refine ⟨t, hcount.trans htext, ?_⟩
  push_cast [Scale.tenth] at hnear
  omega

theorem count_million {n : Nat} (hle : 1000000 ≤ n) (hlt : n < 2 ^ 53) :
    ∃ t : Nat, count n = Scale.million.written t ∧ |(n : Int) - 100000 * t| ≤ 50000 := by
  obtain ⟨t, htext, hnear⟩ := exists_written (s := .million) hle hlt
  have hcount : count n = tenths n 1000000 ++ "M" := by
    rw [count, if_neg (by omega), if_neg (by omega)]
  refine ⟨t, hcount.trans htext, ?_⟩
  push_cast [Scale.tenth] at hnear
  omega

/-! ## Order -/

/-- What a compact counter can say of a number: the number itself, or one that is at most half a
tenth of the scale away. -/
inductive Stands (n : Nat) : Nat → Prop where
  | whole (h : n < 1000) : Stands n n
  | thousands (t : Nat) (hle : 1000 ≤ n) (hlt : n < 1000000) (habove : n ≤ t * 100 + 50)
      (hbelow : t * 100 ≤ n + 50) : Stands n (t * 100)
  | millions (t : Nat) (hle : 1000000 ≤ n) (habove : n ≤ t * 100000 + 50000)
      (hbelow : t * 100000 ≤ n + 50000) : Stands n (t * 100000)

theorem exists_reading {n : Nat} (h : n < 2 ^ 53) :
    ∃ v, reading? (count n) = some v ∧ Stands n v := by
  by_cases hsmall : n < 1000
  · refine ⟨n, ?_, .whole hsmall⟩
    rw [count, if_pos hsmall, reading?_toString]
  · by_cases hlarge : n < 1000000
    · obtain ⟨t, htext, hnear⟩ := count_thousand (not_lt.mp hsmall) hlarge
      rw [abs_le] at hnear
      refine ⟨t * 100, ?_, .thousands t (not_lt.mp hsmall) hlarge (by omega) (by omega)⟩
      rw [htext, reading?_written]
      rfl
    · obtain ⟨t, htext, hnear⟩ := count_million (not_lt.mp hlarge) h
      rw [abs_le] at hnear
      refine ⟨t * 100000, ?_, .millions t (not_lt.mp hlarge) (by omega) (by omega)⟩
      rw [htext, reading?_written]
      rfl

/-- Order survives: two numbers of one scale lie half a tenth around what is said of them, and no
number is taken out of its scale. -/
theorem Stands.le_of_lt {n m v w : Nat} (hn : Stands n v) (hm : Stands m w) (h : n < m) :
    v ≤ w := by
  cases hn with
  | whole hlt => cases hm <;> omega
  | thousands t hle hlt habove hbelow => cases hm <;> omega
  | millions t hle habove hbelow =>
      cases hm with
      | whole hlt => omega
      | thousands t' hle' hlt' habove' hbelow' => omega
      | millions t' hle' habove' hbelow' =>
          clear hle hle' habove hbelow'
          omega

/-- Compact counters are off by at most half of what their last digit counts, and what they say does
not fall when the number grows. -/
theorem counters_are_close_and_in_order :
    (∀ n < 1000, count n = toString n) ∧
      (∀ n, 1000 ≤ n → n < 1000000 → ∃ t : Nat, count n = Scale.thousand.written t ∧
        reading? (count n) = some (t * 100) ∧ |(n : Int) - 100 * t| ≤ 50) ∧
      (∀ n, 1000000 ≤ n → n < 2 ^ 53 → ∃ t : Nat, count n = Scale.million.written t ∧
        reading? (count n) = some (t * 100000) ∧ |(n : Int) - 100000 * t| ≤ 50000) ∧
      ∀ n m, n ≤ m → m < 2 ^ 53 →
        ∃ v w, reading? (count n) = some v ∧ reading? (count m) = some w ∧ v ≤ w := by
  refine ⟨?_, ?_, ?_, ?_⟩
  · intro n hlt
    rw [count, if_pos hlt]
  · intro n hle hlt
    obtain ⟨t, htext, hnear⟩ := count_thousand hle hlt
    exact ⟨t, htext, htext ▸ reading?_written .thousand t, hnear⟩
  · intro n hle hlt
    obtain ⟨t, htext, hnear⟩ := count_million hle hlt
    exact ⟨t, htext, htext ▸ reading?_written .million t, hnear⟩
  · intro n m hle hlt
    obtain ⟨v, hv, hstands⟩ := exists_reading (hle.trans_lt hlt)
    obtain ⟨w, hw, hstands'⟩ := exists_reading hlt
    refine ⟨v, w, hv, hw, ?_⟩
    rcases hle.eq_or_lt with rfl | hlt'
    · exact (Option.some.inj (hv.symm.trans hw)).le
    · exact hstands.le_of_lt hstands' hlt'

example : [count 1250, count 12345, count 3400000] = ["1.2k", "12.3k", "3.4M"] := by
  decide +kernel

/-- The last numbers of each scale. -/
theorem last_counters_are_close :
    count 999 = toString 999 ∧
      (∃ t : Nat, count 999949 = Scale.thousand.written t ∧
        reading? (count 999949) = some (t * 100) ∧ |((999949 : Nat) : Int) - 100 * t| ≤ 50) ∧
      (∃ t : Nat, count (2 ^ 53 - 1) = Scale.million.written t ∧
        reading? (count (2 ^ 53 - 1)) = some (t * 100000) ∧
        |((2 ^ 53 - 1 : Nat) : Int) - 100000 * t| ≤ 50000) ∧
      ∃ v w, reading? (count 999949) = some v ∧ reading? (count (2 ^ 53 - 1)) = some w ∧ v ≤ w :=
  ⟨counters_are_close_and_in_order.1 _ (by decide),
    counters_are_close_and_in_order.2.1 _ (by decide) (by decide),
    counters_are_close_and_in_order.2.2.1 _ (by decide) (by decide),
    counters_are_close_and_in_order.2.2.2 _ _ (by decide) (by decide)⟩

end PackageRegistry.Display
