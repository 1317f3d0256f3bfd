import Mathlib.Order.Monotone.Basic
import Mathlib.Tactic.SplitIfs
import PackageRegistry.Time.Date

/-! # The days of the calendar in a row

The days of the proleptic Gregorian calendar are numbered, beginning with the first of January of
year one. The day after a date has the next number, the day before it the previous one, and no two
dates share a number; so a date is found from its number, over years and leap days.
-/

namespace PackageRegistry.Time

def yearLength (year : Int) : Nat := if isLeapYear year then 366 else 365

/-- The number of days before a year: every fourth year has one more, but of the hundredth years
only every fourth. -/
def yearStart (year : Int) : Int :=
  365 * (year - 1) + (year - 1) / 4 - (year - 1) / 100 + (year - 1) / 400

/-- The number of days in the months before a month. -/
def monthStart (year : Int) : Nat → Nat
  | 0 => 0
  | month + 1 => monthStart year month + monthLength year month

/-- The number of a day; the first of January of year one has the number one. -/
def Date.ordinal (d : Date) : Int := yearStart d.year + monthStart d.year d.month + d.day

example : Date.ordinal ⟨1970, 1, 1⟩ = 719163 := by decide

/-! ## Years and months -/

theorem isLeapYear_iff {year : Int} :
    isLeapYear year = true ↔ year % 4 = 0 ∧ (year % 100 ≠ 0 ∨ year % 400 = 0) := by
  simp [isLeapYear]

theorem yearStart_succ (year : Int) : yearStart (year + 1) = yearStart year + yearLength year := by
  unfold yearStart yearLength
  split_ifs with hleap
  · obtain ⟨h4, h100⟩ := isLeapYear_iff.mp hleap
    omega
  · rw [isLeapYear_iff] at hleap
    omega

theorem yearStart_mono {a b : Int} (h : a ≤ b) : yearStart a ≤ yearStart b := by
  unfold yearStart
  omega

theorem monthStart_succ (year : Int) (month : Nat) :
    monthStart year (month + 1) = monthStart year month + monthLength year month := rfl

theorem monthStart_mono (year : Int) : Monotone (monthStart year) :=
  monotone_nat_of_le_succ fun _ => Nat.le_add_right _ _

/-- Twelve months make a year. -/
theorem monthStart_thirteen (year : Int) : monthStart year 13 = yearLength year := by
  cases hleap : isLeapYear year <;> simp [monthStart, monthLength, yearLength, hleap]

/-- The months that exist are those with a day. -/
theorem monthLength_pos_iff {year : Int} {month : Nat} :
    1 ≤ monthLength year month ↔ 1 ≤ month ∧ month ≤ 12 := by
  unfold monthLength
  split <;> grind

theorem monthLength_le (year : Int) (month : Nat) : monthLength year month ≤ 31 := by
  unfold monthLength
  split <;> grind

namespace Date

variable {d e : Date}

theorem Valid.month (h : d.Valid) : 1 ≤ d.month ∧ d.month ≤ 12 :=
  monthLength_pos_iff.mp (h.1.trans h.2)

/-- A date lies within its month. -/
theorem Valid.le_monthStart (h : d.Valid) :
    monthStart d.year d.month + d.day ≤ monthStart d.year (d.month + 1) := by
  rw [monthStart_succ]
  exact Nat.add_le_add_left h.2 _

/-- A date lies within its year. -/
theorem Valid.ordinal_le (h : d.Valid) : d.ordinal ≤ yearStart (d.year + 1) := by
  have hmonth : monthStart d.year (d.month + 1) ≤ monthStart d.year 13 :=
    monthStart_mono d.year (by have := h.month; omega)
  have hday := h.le_monthStart
  rw [monthStart_thirteen] at hmonth
  rw [yearStart_succ, ordinal]
  omega

theorem Valid.lt_ordinal (h : d.Valid) : yearStart d.year < d.ordinal := by
  have hday := h.1
  unfold ordinal
  omega

/-! ## One day on, one day back -/

theorem valid_mk {year : Int} {month day : Nat} :
    Valid ⟨year, month, day⟩ ↔ 1 ≤ day ∧ day ≤ monthLength year month := Iff.rfl

theorem valid_next (h : d.Valid) : d.next.Valid := by
  have hfirst := h.month.1
  unfold next
  split_ifs with hday hmonth
  · exact valid_mk.mpr ⟨Nat.le_add_left 1 _, hday⟩
  · exact valid_mk.mpr ⟨le_rfl, monthLength_pos_iff.mpr ⟨Nat.le_add_left 1 _, hmonth⟩⟩
  · exact valid_mk.mpr ⟨le_rfl, monthLength_pos_iff.mpr (by omega)⟩

theorem ordinal_next (h : d.Valid) : d.next.ordinal = d.ordinal + 1 := by
  obtain ⟨hfirst, hlast⟩ := h.month
  have hday := h.2
  have hsucc := monthStart_succ d.year d.month
  unfold next
  split_ifs with hmore hmonth
  · simp only [ordinal]
    omega
  · -- the last day of a month
    simp only [ordinal]
    omega
  · -- the last day of a year
    have hdecember : d.month = 12 := by omega
    have hstart : monthStart (d.year + 1) 1 = 0 := rfl
    rw [hdecember] at hsucc hday hmore
    rw [monthStart_thirteen] at hsucc
    simp only [ordinal, yearStart_succ, hstart, hdecember]
    omega

theorem valid_previous (h : d.Valid) : d.previous.Valid := by
  have hlast := h.month.2
  have hday := h.2
  unfold previous
  split_ifs with hmore hmonth
  · exact valid_mk.mpr ⟨by omega, by omega⟩
  · exact valid_mk.mpr ⟨monthLength_pos_iff.mpr (by omega), le_rfl⟩
  · exact valid_mk.mpr ⟨by omega, le_rfl⟩

theorem next_previous (h : d.Valid) : d.previous.next = d := by
  obtain ⟨year, month, day⟩ := d
  obtain ⟨hfirst, hlast⟩ := h.month
  obtain ⟨hpos, hle⟩ := valid_mk.mp h
  simp only at hfirst hlast
  unfold previous
  split_ifs with hmore hmonth
  · have hbefore : day - 1 < monthLength year month := by omega
    simp only [next, if_pos hbefore, mk.injEq, true_and]
    omega
  · have hbefore : month - 1 < 12 := by omega
    simp only [next, lt_irrefl, if_false, if_pos hbefore, mk.injEq, true_and]
    simp only at hmore hmonth
    omega
  · simp only at hmore hmonth
    have hdecember : monthLength (year - 1) 12 = 31 := rfl
    simp only [next, hdecember, lt_irrefl, if_false, mk.injEq]
    omega

theorem ordinal_previous (h : d.Valid) : d.previous.ordinal = d.ordinal - 1 := by
  have hnext := ordinal_next (valid_previous h)
  rw [next_previous h] at hnext
  omega

theorem year_next (d : Date) : d.year ≤ d.next.year ∧ d.next.year ≤ d.year + 1 := by
  unfold next
  split_ifs <;> simp only <;> omega

theorem year_previous (d : Date) : d.year - 1 ≤ d.previous.year ∧ d.previous.year ≤ d.year := by
  unfold previous
  split_ifs <;> simp only <;> omega

/-! ## A date from its number -/

theorem year_le_of_ordinal (hd : d.Valid) (he : e.Valid) (h : d.ordinal ≤ e.ordinal) :
    d.year ≤ e.year := by
  by_contra hlt
  have hstart : yearStart (e.year + 1) ≤ yearStart d.year := yearStart_mono (by omega)
  have hd := hd.lt_ordinal
  have he := he.ordinal_le
  omega

theorem month_le_of_ordinal (hd : d.Valid) (he : e.Valid) (hyear : d.year = e.year)
    (h : d.ordinal ≤ e.ordinal) : d.month ≤ e.month := by
  by_contra hlt
  have hstart : monthStart e.year (e.month + 1) ≤ monthStart d.year d.month := by
    rw [hyear]
    exact monthStart_mono e.year (by omega)
  have hd := hd.1
  have he := he.le_monthStart
  simp only [ordinal, hyear] at h hstart
  omega

theorem eq_of_ordinal_eq (hd : d.Valid) (he : e.Valid) (h : d.ordinal = e.ordinal) : d = e := by
  have hyear : d.year = e.year :=
    le_antisymm (year_le_of_ordinal hd he h.le) (year_le_of_ordinal he hd h.ge)
  have hmonth : d.month = e.month :=
    le_antisymm (month_le_of_ordinal hd he hyear h.le)
      (month_le_of_ordinal he hd hyear.symm h.ge)
  obtain ⟨year, month, day⟩ := d
  obtain ⟨year', month', day'⟩ := e
  subst hyear hmonth
  simp only [ordinal] at h
  simp only [mk.injEq, true_and]
  omega

end Date

end PackageRegistry.Time
