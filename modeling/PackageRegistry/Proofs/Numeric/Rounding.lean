import Mathlib.Algebra.Order.Field.Power
import Mathlib.Data.Rat.Cast.Order
import Mathlib.Tactic.Linarith
import Mathlib.Tactic.Positivity
import Mathlib.Tactic.Ring
import PackageRegistry.Numeric.Binary64

/-! # How far rounding goes

A quotient of whole numbers goes to the nearest whole number, so it moves by at most a half. Scaled
to 53 bits, that is at most one part in `2 ^ 53`: so much a double can be off from the quotient it
stands for, and a number of at most 53 bits is a double itself.
-/

namespace PackageRegistry.Numeric

/-! ## To the nearest number -/

theorem roundHalfEven_cases (num den : Nat) :
    (roundHalfEven num den = num / den ∧ 2 * (num % den) ≤ den) ∨
      (roundHalfEven num den = num / den + 1 ∧ den ≤ 2 * (num % den)) := by
  simp only [roundHalfEven]
  split_ifs <;> omega

/-- The nearest number is at most a half away. -/
theorem roundHalfEven_near (num : Nat) {den : Nat} (h : 0 < den) :
    |(roundHalfEven num den : ℚ) - num / den| ≤ 1 / 2 := by
  have hden : (0 : ℚ) < den := by exact_mod_cast h
  have hsplit : (num : ℚ) / den = (num / den : Nat) + (num % den : Nat) / den := by
    rw [div_eq_iff hden.ne', add_mul, div_mul_cancel₀ _ hden.ne']
    exact_mod_cast (Nat.div_add_mod' num den).symm
  have hrest : ((num % den : Nat) : ℚ) / den < 1 := by
    rw [div_lt_one hden]
    exact_mod_cast Nat.mod_lt num h
  have hpos : 0 ≤ ((num % den : Nat) : ℚ) / den := by positivity
  rw [hsplit, abs_le]
  obtain ⟨heq, hhalf⟩ | ⟨heq, hhalf⟩ := roundHalfEven_cases num den
  · have hhalf' : ((num % den : Nat) : ℚ) / den ≤ 1 / 2 := by
      rw [div_le_iff₀ hden]
      have hcast : (2 : ℚ) * (num % den : Nat) ≤ den := by exact_mod_cast hhalf
      linarith
    rw [heq]
    constructor <;> linarith
  · have hhalf' : 1 / 2 ≤ ((num % den : Nat) : ℚ) / den := by
      rw [le_div_iff₀ hden]
      have hcast : (den : ℚ) ≤ 2 * (num % den : Nat) := by exact_mod_cast hhalf
      linarith
    rw [heq]
    push_cast
    constructor <;> linarith

theorem roundHalfEven_one (n : Nat) : roundHalfEven n 1 = n := by
  simp [roundHalfEven, Nat.mod_one]

namespace Magnitude

/-! ## Mantissa and exponent as quotients -/

/-- The number that a mantissa and an exponent stand for. -/
def value (m : Nat) (e : Int) : ℚ := m * 2 ^ e

theorem two_zpow (e : Int) :
    (2 : ℚ) ^ e =
      if 0 ≤ e then ((2 ^ e.toNat : Nat) : ℚ) else ((2 ^ (-e).toNat : Nat) : ℚ)⁻¹ := by
  split_ifs with h
  · obtain ⟨n, rfl⟩ := Int.eq_ofNat_of_zero_le h
    simp
  · obtain ⟨n, hn⟩ := Int.eq_ofNat_of_zero_le (by omega : 0 ≤ -e)
    obtain rfl : e = -(n : Int) := by omega
    simp

theorem toRatio_pos (m : Nat) (e : Int) : 0 < (toRatio m e).2 := by
  unfold toRatio
  split_ifs
  · exact Nat.one_pos
  · exact Nat.two_pow_pos _

theorem value_toRatio (m : Nat) (e : Int) :
    ((toRatio m e).1 : ℚ) / (toRatio m e).2 = value m e := by
  unfold toRatio value
  rw [two_zpow]
  split_ifs <;> simp [div_eq_mul_inv]

theorem scaled_pos (num : Nat) {den : Nat} (h : 0 < den) (e : Int) : 0 < (scaled num den e).2 := by
  unfold scaled
  split_ifs
  · exact Nat.mul_pos h (Nat.two_pow_pos _)
  · exact h

theorem scaled_neg (num den k : Nat) : scaled num den (-k) = (num * 2 ^ k, den) := by
  unfold scaled
  split_ifs with h
  · have hk : k = 0 := by omega
    simp [hk]
  · simp

theorem value_scaled (num den : Nat) (e : Int) :
    ((scaled num den e).1 : ℚ) / (scaled num den e).2 = num / den / 2 ^ e := by
  unfold scaled
  rw [two_zpow]
  split_ifs
  · simp [div_mul_eq_div_div]
  · simp [mul_div_right_comm]

/-! ## The exponent -/

/-- The power of two in a number is between the number and its half. -/
theorem log2_bounds {n : Nat} (h : 0 < n) :
    (2 : ℚ) ^ (n.log2 : Int) ≤ n ∧ (n : ℚ) < 2 ^ (n.log2 + 1 : Int) := by
  constructor
  · exact_mod_cast Nat.log2_self_le h.ne'
  · exact_mod_cast Nat.lt_log2_self (n := n)

/-- A quotient of numbers with some powers of two in them. -/
theorem log2_quotient {num den : Nat} (hnum : 0 < num) (hden : 0 < den) :
    (2 : ℚ) ^ ((num.log2 : Int) - den.log2 - 1) < num / den ∧
      (num / den : ℚ) < 2 ^ ((num.log2 : Int) - den.log2 + 1) := by
  obtain ⟨hnumLow, hnumHigh⟩ := log2_bounds hnum
  obtain ⟨hdenLow, hdenHigh⟩ := log2_bounds hden
  have hden' : (0 : ℚ) < den := by exact_mod_cast hden
  constructor
  · rw [lt_div_iff₀ hden']
    calc
      (2 : ℚ) ^ ((num.log2 : Int) - den.log2 - 1) * den
        < 2 ^ ((num.log2 : Int) - den.log2 - 1) * 2 ^ (den.log2 + 1 : Int) := by gcongr
      _ = 2 ^ (num.log2 : Int) := by
        rw [← zpow_add₀ two_ne_zero]
        congr 1
        omega
      _ ≤ num := hnumLow
  · rw [div_lt_iff₀ hden']
    calc
      (num : ℚ) < 2 ^ (num.log2 + 1 : Int) := hnumHigh
      _ = 2 ^ ((num.log2 : Int) - den.log2 + 1) * 2 ^ (den.log2 : Int) := by
        rw [← zpow_add₀ two_ne_zero]
        congr 1
        omega
      _ ≤ 2 ^ ((num.log2 : Int) - den.log2 + 1) * den := by gcongr

/-- At its exponent, a quotient that is not below one has a mantissa of 53 bits. -/
theorem exponentOf_bounds {num den : Nat} (hden : 0 < den) (hle : den ≤ num) :
    (2 : ℚ) ^ 52 ≤ num / den / 2 ^ exponentOf num den ∧
      num / den / 2 ^ exponentOf num den < (2 : ℚ) ^ 53 := by
  have hlog : den.log2 ≤ num.log2 :=
    (Nat.le_log2 (hden.trans_le hle).ne').mpr ((Nat.log2_self_le hden.ne').trans hle)
  obtain ⟨hlow, hhigh⟩ := log2_quotient (hden.trans_le hle) hden
  set k : Int := (num.log2 : Int) - den.log2 - 52 with hk
  have hfew : (scaled num den k).1 < (scaled num den k).2 * Nat.pow 2 52 ↔
      (num / den / 2 ^ k : ℚ) < 2 ^ 52 := by
    have hpos : (0 : ℚ) < (scaled num den k).2 := by exact_mod_cast scaled_pos num hden k
    rw [← value_scaled, div_lt_iff₀ hpos, mul_comm]
    exact_mod_cast Iff.rfl
  have hexponent : exponentOf num den =
      if (num / den / 2 ^ k : ℚ) < 2 ^ 52 then k - 1 else k := by
    simp only [exponentOf, ← hk, hfew, leastExponent]
    split_ifs <;> omega
  have hpow : (0 : ℚ) < 2 ^ k := by positivity
  have hbelow : (2 : ℚ) ^ 51 * 2 ^ k = 2 ^ ((num.log2 : Int) - den.log2 - 1) := by
    rw [← zpow_natCast, ← zpow_add₀ two_ne_zero]
    congr 1
    omega
  have habove : (2 : ℚ) ^ 53 * 2 ^ k = 2 ^ ((num.log2 : Int) - den.log2 + 1) := by
    rw [← zpow_natCast, ← zpow_add₀ two_ne_zero]
    congr 1
    omega
  rw [← hbelow, ← lt_div_iff₀ hpow] at hlow
  rw [← habove, ← div_lt_iff₀ hpow] at hhigh
  rw [hexponent]
  split_ifs with h
  · have hdouble : (num / den / 2 ^ (k - 1) : ℚ) = 2 * (num / den / 2 ^ k) := by
      rw [zpow_sub_one₀ two_ne_zero, div_mul_eq_div_div, div_inv_eq_mul, mul_comm]
    rw [hdouble]
    constructor <;> linarith
  · exact ⟨not_lt.mp h, hhigh⟩

/-- A number with a mantissa of 53 bits tells how large its exponent can be. -/
theorem exponent_lt {q : ℚ} {e j : Int} (hlow : (2 : ℚ) ^ 52 ≤ q / 2 ^ e)
    (hlt : q < 2 ^ 52 * 2 ^ j) : e < j := by
  rw [le_div_iff₀ (by positivity)] at hlow
  have hpower : (2 : ℚ) ^ e < 2 ^ j := lt_of_mul_lt_mul_left (hlow.trans_lt hlt) (by positivity)
  exact (zpow_lt_zpow_iff_right₀ one_lt_two).mp hpower

/-- A mantissa of up to 53 bits stays what it is, and one of 54 bits is a power of two. -/
theorem normalize_eq {m : Nat} {e : Int} (hm : m ≤ 2 ^ 53) (he : e < greatestExponent) :
    ∃ m' e', normalize m e = .finite m' e' ∧ value m' e' = value m e := by
  have hbits : Nat.pow 2 mantissaBits = 2 ^ 53 := rfl
  by_cases hlarge : 2 ^ 53 ≤ m
  · obtain rfl : m = 2 ^ 53 := le_antisymm hm hlarge
    refine ⟨2 ^ 53 / 2, e + 1, ?_, ?_⟩
    · have hnot : ¬ greatestExponent < e + 1 := by omega
      simp only [normalize, hbits, le_refl, if_true, hnot, if_false]
    · have hhalf : ((2 ^ 53 / 2 : Nat) : ℚ) * 2 = (2 ^ 53 : Nat) := by norm_num
      rw [value, value, zpow_add_one₀ two_ne_zero, ← hhalf]
      ring
  · have hnot : ¬ greatestExponent < e := by omega
    refine ⟨m, e, ?_, rfl⟩
    simp only [normalize, hbits, hlarge, if_false, hnot]

/-! ## One rounding -/

theorem ofRatio_eq {num : Nat} (h : num ≠ 0) (den : Nat) :
    ofRatio num den = normalize (roundHalfEven (scaled num den (exponentOf num den)).1
      (scaled num den (exponentOf num den)).2) (exponentOf num den) := by
  unfold ofRatio
  rewrite [if_neg h]
  -- The pair is opened by a case: `rfl` would compute with the powers of two in it.
  extract_lets e
  split
  next n d hscaled => rw [hscaled]

/-- The double of a quotient that is neither below one nor too large is off by at most one part in
`2 ^ 53`. -/
theorem ofRatio_near {num den : Nat} (hden : 0 < den) (hle : den ≤ num)
    (hlt : (num / den : ℚ) < 2 ^ 64) :
    ∃ m e, ofRatio num den = .finite m e ∧ |value m e - num / den| ≤ num / den / 2 ^ 53 := by
  obtain ⟨hlow, hhigh⟩ := exponentOf_bounds hden hle
  have hnear := roundHalfEven_near (scaled num den (exponentOf num den)).1
    (scaled_pos num hden (exponentOf num den))
  rw [value_scaled] at hnear
  rw [ofRatio_eq (hden.trans_le hle).ne']
  generalize exponentOf num den = e at *
  generalize roundHalfEven (scaled num den e).1 (scaled num den e).2 = m at *
  have hpow : (0 : ℚ) < 2 ^ e := by positivity
  obtain ⟨habove, hbelow⟩ := abs_le.mp hnear
  have hm : m ≤ 2 ^ 53 := by
    have hcast : (m : ℚ) < 2 ^ 53 + 1 := by linarith
    have hlt : m < 2 ^ 53 + 1 := by exact_mod_cast hcast
    omega
  have he : e < greatestExponent := by
    have hpower : (2 : ℚ) ^ 64 = 2 ^ 52 * 2 ^ (12 : Int) := by norm_num
    exact (exponent_lt hlow (hpower ▸ hlt)).trans (by decide)
  obtain ⟨m', e', heq, hvalue⟩ := normalize_eq hm he
  refine ⟨m', e', heq, ?_⟩
  rw [hvalue, value]
  calc
    |(m : ℚ) * 2 ^ e - num / den| = |(m : ℚ) - num / den / 2 ^ e| * 2 ^ e := by
      rw [← abs_of_pos hpow, ← abs_mul, abs_of_pos hpow, sub_mul, div_mul_cancel₀ _ hpow.ne']
    _ ≤ 1 / 2 * 2 ^ e := by gcongr
    _ ≤ num / den / 2 ^ 53 := by
      rw [le_div_iff₀ hpow] at hlow
      rw [le_div_iff₀ (by positivity)]
      linarith

/-- The double of a number of 64 bits is off by at most one part in `2 ^ 53`. -/
theorem ofNat_near {n : Nat} (hpos : 0 < n) (hlt : n < 2 ^ 64) :
    ∃ m e, ofNat n = .finite m e ∧ |value m e - n| ≤ n / 2 ^ 53 := by
  have hbits : (n : ℚ) / (1 : Nat) < 2 ^ 64 := by
    rw [Nat.cast_one, div_one]
    exact_mod_cast hlt
  obtain ⟨m, e, hm, hnear⟩ := ofRatio_near Nat.one_pos hpos hbits
  rw [Nat.cast_one, div_one] at hnear
  exact ⟨m, e, hm, hnear⟩

/-- A number of at most 53 bits is a double itself. -/
theorem ofNat_eq {n : Nat} (hpos : 0 < n) (hlt : n < 2 ^ 53) :
    ∃ m e, ofNat n = .finite m e ∧ value m e = n := by
  obtain ⟨hlow, hhigh⟩ := exponentOf_bounds Nat.one_pos hpos
  have hvalue := value_scaled n 1 (exponentOf n 1)
  rw [ofNat, ofRatio_eq hpos.ne']
  generalize exponentOf n 1 = e at *
  have hpow : (0 : ℚ) < 2 ^ e := by positivity
  rw [Nat.cast_one, div_one] at hlow hhigh hvalue
  -- Below `2 ^ 53` the exponent is not positive, so that nothing is cut off.
  have he : e < 1 := by
    refine exponent_lt hlow ?_
    norm_num
    exact_mod_cast hlt
  obtain ⟨k, rfl⟩ : ∃ k : Nat, e = -k := ⟨(-e).toNat, by omega⟩
  rw [scaled_neg] at hvalue ⊢
  rw [Nat.cast_one, div_one] at hvalue
  dsimp only at hvalue
  rw [roundHalfEven_one]
  have hm : n * 2 ^ k ≤ 2 ^ 53 := by
    rw [← hvalue] at hhigh
    exact_mod_cast hhigh.le
  have hexponent : -(k : Int) < greatestExponent := by
    have hgreatest : greatestExponent = 971 := rfl
    omega
  obtain ⟨m', e', heq, hvalue'⟩ := normalize_eq hm hexponent
  refine ⟨m', e', heq, ?_⟩
  rw [hvalue', value, hvalue, div_mul_cancel₀ _ hpow.ne']

theorem div_eq (m n : Nat) (e f : Int) :
    div (.finite m e) (.finite n f) =
      ofRatio ((toRatio m e).1 * (toRatio n f).2) ((toRatio m e).2 * (toRatio n f).1) := by
  unfold div
  rcases hm : toRatio m e with ⟨a, b⟩
  rcases hn : toRatio n f with ⟨c, d⟩
  simp only [hm, hn]

/-- The quotient of two doubles is off by at most one part in `2 ^ 53`. -/
theorem div_near {m n : Nat} {e f : Int} (hpos : 0 < value n f) (hle : value n f ≤ value m e)
    (hlt : value m e / value n f < 2 ^ 64) :
    ∃ r g, div (.finite m e) (.finite n f) = .finite r g ∧
      |value r g - value m e / value n f| ≤ value m e / value n f / 2 ^ 53 := by
  have hquotient : (((toRatio m e).1 * (toRatio n f).2 : Nat) : ℚ) /
      ((toRatio m e).2 * (toRatio n f).1 : Nat) = value m e / value n f := by
    rw [← value_toRatio m e, ← value_toRatio n f, div_div_div_eq]
    push_cast
    rfl
  have hone : 1 ≤ value m e / value n f := (one_le_div hpos).mpr hle
  have hden : 0 < (toRatio m e).2 * (toRatio n f).1 := by
    refine Nat.mul_pos (toRatio_pos m e) (Nat.pos_of_ne_zero fun hzero => ?_)
    rw [← value_toRatio n f, hzero, Nat.cast_zero, zero_div] at hpos
    exact lt_irrefl _ hpos
  have hnum : (toRatio m e).2 * (toRatio n f).1 ≤ (toRatio m e).1 * (toRatio n f).2 := by
    rw [← hquotient, one_le_div (by exact_mod_cast hden)] at hone
    exact_mod_cast hone
  rw [div_eq, ← hquotient]
  exact ofRatio_near hden hnum (hquotient ▸ hlt)

end Magnitude

end PackageRegistry.Numeric
