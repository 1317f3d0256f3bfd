import Mathlib.Data.Rat.Floor
import Mathlib.Tactic.Linarith
import Mathlib.Tactic.FieldSimp
import PackageRegistry.Proofs.Time.Calendar
import PackageRegistry.Time.Rfc3339

/-! # Texts after RFC 3339 and the moments they denote

A text is read if and only if it is a local date and time written with its distance from UTC. The
moment read has the date of the day that the instant falls on in UTC.
-/

namespace PackageRegistry.Time

/-- Four digits of the year, two of the month and two of the day. -/
def Date.written (d : Date) : String :=
  padded 4 d.year.toNat ++ "-" ++ padded 2 d.month ++ "-" ++ padded 2 d.day

namespace Rfc3339

/-! ## Texts -/

/-- The characters that may be written in more than one way: the one between date and time, the one
for UTC, and the minus sign. -/
structure Marks where
  between : Char
  utc : Char
  minus : Char

def Marks.usual : Marks := ⟨'T', 'Z', '-'⟩

/-- The marks that are read: small letters too, a space, and the typographic minus sign. -/
structure Marks.Known (k : Marks) : Prop where
  between : k.between ∈ ['T', 't', ' ']
  utc : k.utc ∈ ['Z', 'z']
  minus : k.minus ∈ ['-', '−']

/-- How far local time is from UTC, in hours and minutes. -/
inductive Zone where
  | utc
  | east (hours minutes : Nat)
  | west (hours minutes : Nat)

/-- Minutes by which local time is ahead. -/
def Zone.ahead : Zone → Int
  | utc => 0
  | east hours minutes => (hours * 60 + minutes : Nat)
  | west hours minutes => -(hours * 60 + minutes : Nat)

/-- An offset of less than a day. -/
def Zone.Proper : Zone → Prop
  | utc => True
  | east hours minutes | west hours minutes => hours ≤ 23 ∧ minutes ≤ 59

def Zone.text (k : Marks) : Zone → String
  | utc => k.utc.toString
  | east hours minutes => "+" ++ padded 2 hours ++ ":" ++ padded 2 minutes
  | west hours minutes => k.minus.toString ++ padded 2 hours ++ ":" ++ padded 2 minutes

/-- The time on a clock, with the digits behind the point of the seconds. -/
structure Clock where
  hour : Nat
  minute : Nat
  second : Nat
  decimals : List Char

structure Clock.Proper (c : Clock) : Prop where
  hour : c.hour ≤ 23
  minute : c.minute ≤ 59
  second : c.second ≤ 60
  decimals : ∀ d ∈ c.decimals, isDigit d = true

/-- The digits behind a point, which is left out with them. -/
def pointed (decimals : List Char) : String :=
  if decimals = [] then "" else "." ++ String.ofList decimals

def Clock.text (c : Clock) : String :=
  padded 2 c.hour ++ ":" ++ padded 2 c.minute ++ ":" ++ padded 2 c.second ++ pointed c.decimals

/-- A local date and time with its distance from UTC. -/
structure Stamp where
  date : Date
  clock : Clock
  zone : Zone

structure Stamp.Proper (t : Stamp) : Prop where
  date : t.date.Valid
  year : 0 ≤ t.date.year ∧ t.date.year ≤ 9999
  clock : t.clock.Proper
  zone : t.zone.Proper

def Stamp.text (k : Marks) (t : Stamp) : String :=
  t.date.written ++ k.between.toString ++ t.clock.text ++ t.zone.text k

/-! ## Digits -/

theorem number_eq (ds : List Char) : number ds = Nat.ofDigitChars 10 ds 0 := by
  rw [number, Nat.ofDigitChars_eq_foldl]
  simp only [Nat.mul_comm, Char.reduceToNat]

theorem number_cons (c : Char) (ds : List Char) :
    number (c :: ds) = 10 ^ ds.length * (c.toNat - 48) + number ds := by
  rw [number_eq, number_eq, Nat.ofDigitChars_cons, Nat.ofDigitChars_eq_ofDigitChars_zero]
  simp

theorem toNat_of_isDigit {c : Char} (h : isDigit c = true) : 48 ≤ c.toNat ∧ c.toNat ≤ 57 := by
  simpa [isDigit, Char.le_def, UInt32.le_iff_toNat_le] using h

theorem number_lt {ds : List Char} (h : ∀ c ∈ ds, isDigit c = true) :
    number ds < 10 ^ ds.length := by
  induction ds with
  | nil => decide
  | cons c ds ih =>
      have hlt := ih fun d hd => h d (List.mem_cons_of_mem c hd)
      have hc := toNat_of_isDigit (h c List.mem_cons_self)
      have hmul : 10 ^ ds.length * (c.toNat - 48) ≤ 10 ^ ds.length * 9 :=
        Nat.mul_le_mul_left _ (by omega)
      rw [number_cons, List.length_cons, pow_succ]
      omega

/-- As many digits with the same value are the same. -/
theorem number_inj {ds es : List Char} (hds : ∀ c ∈ ds, isDigit c = true)
    (hes : ∀ c ∈ es, isDigit c = true) (hlength : ds.length = es.length)
    (h : number ds = number es) : ds = es := by
  induction ds generalizing es with
  | nil => exact (List.length_eq_zero_iff.mp hlength.symm).symm
  | cons c ds ih =>
      obtain ⟨d, es, rfl⟩ := List.exists_cons_of_length_eq_add_one hlength.symm
      have hc := toNat_of_isDigit (hds c List.mem_cons_self)
      have hd := toNat_of_isDigit (hes d List.mem_cons_self)
      have hds' : ∀ x ∈ ds, isDigit x = true := fun x hx => hds x (List.mem_cons_of_mem c hx)
      have hes' : ∀ x ∈ es, isDigit x = true := fun x hx => hes x (List.mem_cons_of_mem d hx)
      have hlt := number_lt hds'
      have hlt' := number_lt hes'
      have hlength : ds.length = es.length := Nat.succ.inj hlength
      rw [number_cons, number_cons, ← hlength] at h
      rw [← hlength] at hlt'
      have hrest := congrArg (· % 10 ^ ds.length) h
      have hfirst := congrArg (· / 10 ^ ds.length) h
      simp only [Nat.mul_add_mod_self_left, Nat.mod_eq_of_lt hlt, Nat.mod_eq_of_lt hlt'] at hrest
      simp only [Nat.mul_add_div (Nat.pow_pos (by omega : 0 < 10)), Nat.div_eq_of_lt hlt,
        Nat.div_eq_of_lt hlt'] at hfirst
      have hcd : c = d := Char.toNat_inj.mp (by omega)
      rw [hcd, ih hds' hes' hlength hrest]

theorem toList_padded (width n : Nat) : (padded width n).toList =
    List.replicate (width - (Nat.toDigits 10 n).length) '0' ++ Nat.toDigits 10 n := by
  rw [padded, String.toList_ofList]

theorem length_padded {width n : Nat} (hwidth : 0 < width) (h : n < 10 ^ width) :
    (padded width n).toList.length = width := by
  have hle := (Nat.length_toDigits_le_iff (by omega : 1 < 10) hwidth).mpr h
  rw [toList_padded, List.length_append, List.length_replicate]
  omega

theorem number_padded (width n : Nat) : number (padded width n).toList = n := by
  rw [toList_padded, number_eq, Nat.ofDigitChars_append, Nat.ofDigitChars_replicate_zero,
    Nat.mul_zero, Nat.ofDigitChars_ten_toDigits]

theorem isDigit_of_mem_padded {width n : Nat} {c : Char} (h : c ∈ (padded width n).toList) :
    isDigit c = true := by
  rw [toList_padded, List.mem_append] at h
  rcases h with h | h
  · rw [List.eq_of_mem_replicate h]
    decide
  · have hdigit := Nat.isDigit_of_mem_toDigits (by omega) le_rfl h
    simpa [isDigit, Char.isDigit, Char.le_def, UInt32.le_iff_toNat_le] using hdigit

/-! ## What is read -/

-- the digits of a number stand for themselves from here on
attribute [local irreducible] padded

theorem fixed_eq_some_iff {width n : Nat} {cs rest : List Char} (hwidth : 0 < width) :
    fixed width cs = some (n, rest) ↔
      n < 10 ^ width ∧ cs = (padded width n).toList ++ rest := by
  constructor
  · intro h
    unfold fixed at h
    simp only [Option.ite_none_right_eq_some, List.all_eq_true, Option.some.injEq,
      Prod.mk.injEq] at h
    obtain ⟨⟨hlength, hdigits⟩, hn, hrest⟩ := h
    have hlt : n < 10 ^ width := by
      have hlt := number_lt hdigits
      rwa [hn, hlength] at hlt
    have htake : cs.take width = (padded width n).toList :=
      number_inj hdigits (fun _ => isDigit_of_mem_padded)
        (hlength.trans (length_padded hwidth hlt).symm) (hn.trans (number_padded width n).symm)
    refine ⟨hlt, ?_⟩
    rw [← htake, ← hrest, List.take_append_drop]
  · rintro ⟨hlt, rfl⟩
    have hlength := length_padded hwidth hlt
    have hdigits : (padded width n).toList.all isDigit = true :=
      List.all_eq_true.mpr fun _ => isDigit_of_mem_padded
    simp only [fixed, List.take_left' hlength, List.drop_left' hlength, hlength, hdigits,
      number_padded, true_and, if_true]

theorem oneOf_eq_some_iff {allowed cs rest : List Char} :
    oneOf allowed cs = some rest ↔ ∃ c ∈ allowed, cs = c :: rest := by
  cases cs with
  | nil => simp [oneOf]
  | cons c cs =>
      simp only [oneOf, Option.ite_none_right_eq_some, List.contains_iff_mem, Option.some.injEq,
        List.cons.injEq]
      constructor
      · rintro ⟨hmem, hrest⟩
        exact ⟨c, hmem, rfl, hrest⟩
      · rintro ⟨_, hmem, rfl, hrest⟩
        exact ⟨hmem, hrest⟩

theorem oneOf_singleton {c : Char} {cs rest : List Char} :
    oneOf [c] cs = some rest ↔ cs = c :: rest := by
  simp [oneOf_eq_some_iff]

theorem toList_written (d : Date) (rest : List Char) : d.written.toList ++ rest =
    (padded 4 d.year.toNat).toList ++ '-' ::
      ((padded 2 d.month).toList ++ '-' :: ((padded 2 d.day).toList ++ rest)) := by
  simp [Date.written]

theorem date_eq_some_iff {d : Date} {cs rest : List Char} :
    date cs = some (d, rest) ↔
      d.Valid ∧ (0 ≤ d.year ∧ d.year ≤ 9999) ∧ cs = d.written.toList ++ rest := by
  simp only [date, Option.bind_eq_bind, Option.bind_eq_some_iff, Prod.exists,
    fixed_eq_some_iff (by omega : 0 < 4), fixed_eq_some_iff (by omega : 0 < 2), oneOf_singleton,
    Option.ite_none_right_eq_some, Option.some.injEq, Prod.mk.injEq, toList_written]
  constructor
  · rintro ⟨year, _, ⟨hyear, rfl⟩, _, rfl, month, _, ⟨-, rfl⟩, _, rfl, day, _, ⟨-, rfl⟩,
      hvalid, rfl, rfl⟩
    exact ⟨hvalid, by simp only; omega, by simp⟩
  · rintro ⟨hvalid, hyear, rfl⟩
    have hmonth := hvalid.month.2
    have hday := hvalid.2.trans (monthLength_le _ _)
    have hcast : (d.year.toNat : Int) = d.year := Int.toNat_of_nonneg hyear.1
    exact ⟨d.year.toNat, _, ⟨by omega, rfl⟩, _, rfl, d.month, _, ⟨by omega, rfl⟩, _, rfl,
      d.day, _, ⟨by omega, rfl⟩, by rwa [hcast], by rw [hcast], rfl⟩

/-! ### The time of day -/

/-- The nanoseconds that the digits behind the point give; digits past the ninth do not count. -/
def nanos (decimals : List Char) : Nat :=
  number (decimals.take 9) * 10 ^ (9 - (decimals.take 9).length)

/-- What may stand behind the seconds and their fraction. -/
def Closed (rest : List Char) : Prop := ∀ c ∈ rest.head?, isDigit c = false ∧ c ≠ '.'

theorem eq_of_fraction {cs rest : List Char} {n : Nat} (h : fraction cs = some (n, rest)) :
    ∃ ds, (∀ c ∈ ds, isDigit c = true) ∧ cs = (pointed ds).toList ++ rest ∧ n = nanos ds := by
  unfold fraction at h
  split at h
  · next cs =>
    simp only [Option.ite_none_left_eq_some, Option.some.injEq, Prod.mk.injEq] at h
    obtain ⟨hne, rfl, rfl⟩ := h
    refine ⟨cs.takeWhile isDigit, fun c hc => ?_, ?_, rfl⟩
    · exact (List.all_eq_true.mp List.all_takeWhile) c hc
    · rw [pointed, if_neg (by simpa using hne), String.toList_append, String.toList_ofList]
      simp
  · cases h
    exact ⟨[], by simp, by simp [pointed], rfl⟩

theorem fraction_pointed {ds rest : List Char} (hds : ∀ c ∈ ds, isDigit c = true)
    (hrest : Closed rest) : fraction ((pointed ds).toList ++ rest) = some (nanos ds, rest) := by
  by_cases hempty : ds = []
  · rw [pointed, if_pos hempty, hempty, String.toList_empty, List.nil_append]
    unfold fraction
    split
    · exact absurd rfl (hrest '.' rfl).2
    · rfl
  · have htake : rest.takeWhile isDigit = [] := by
      cases rest with
      | nil => rfl
      | cons c rest => simp [(hrest c rfl).1]
    have hdrop : rest.dropWhile isDigit = rest := by
      cases rest with
      | nil => rfl
      | cons c rest => simp [(hrest c rfl).1]
    have htext : (pointed ds).toList ++ rest = '.' :: (ds ++ rest) := by
      simp [pointed, hempty]
    rw [htext]
    simp only [fraction, List.takeWhile_append_of_pos hds, List.dropWhile_append_of_pos hds, htake,
      hdrop, List.append_nil, List.isEmpty_iff, hempty, if_false, nanos]
    rfl

theorem toList_clock (c : Clock) (rest : List Char) : c.text.toList ++ rest =
    (padded 2 c.hour).toList ++ ':' :: ((padded 2 c.minute).toList ++ ':' ::
      ((padded 2 c.second).toList ++ ((pointed c.decimals).toList ++ rest))) := by
  simp [Clock.text]

theorem eq_of_time {cs rest : List Char} {hour minute second n : Nat}
    (h : time cs = some ((hour, minute, second, n), rest)) :
    ∃ c : Clock, c.Proper ∧ cs = c.text.toList ++ rest ∧
      c.hour = hour ∧ c.minute = minute ∧ c.second = second ∧ n = nanos c.decimals := by
  simp only [time, Option.bind_eq_bind, Option.bind_eq_some_iff, Prod.exists,
    fixed_eq_some_iff (by omega : 0 < 2), oneOf_singleton, Option.ite_none_right_eq_some,
    Option.some.injEq, Prod.mk.injEq] at h
  obtain ⟨h', _, ⟨-, rfl⟩, _, rfl, m', _, ⟨-, rfl⟩, _, rfl, s', _, ⟨-, rfl⟩, n', _, hfraction,
    ⟨hhour, hminute, hsecond⟩, ⟨rfl, rfl, rfl, rfl⟩, rfl⟩ := h
  obtain ⟨ds, hds, rfl, rfl⟩ := eq_of_fraction hfraction
  refine ⟨⟨h', m', s', ds⟩, ⟨hhour, hminute, hsecond, hds⟩, ?_, rfl, rfl, rfl, rfl⟩
  rw [toList_clock]

theorem time_text {c : Clock} (hc : c.Proper) {rest : List Char} (hrest : Closed rest) :
    time (c.text.toList ++ rest) =
      some ((c.hour, c.minute, c.second, nanos c.decimals), rest) := by
  obtain ⟨hhour, hminute, hsecond, hdecimals⟩ := hc
  simp only [time, Option.bind_eq_bind, Option.bind_eq_some_iff, Prod.exists, toList_clock,
    fixed_eq_some_iff (by omega : 0 < 2), oneOf_singleton, Option.ite_none_right_eq_some,
    Option.some.injEq, Prod.mk.injEq]
  exact ⟨c.hour, _, ⟨by omega, rfl⟩, _, rfl, c.minute, _, ⟨by omega, rfl⟩, _, rfl, c.second, _,
    ⟨by omega, rfl⟩, nanos c.decimals, rest, fraction_pointed hdecimals hrest,
    ⟨hhour, hminute, hsecond⟩, ⟨rfl, rfl, rfl, rfl⟩, rfl⟩

/-! ### The offset -/

theorem offsetMinutes_eq_some_iff {cs rest : List Char} {ahead : Int} :
    offsetMinutes cs = some (ahead, rest) ↔ ∃ hours minutes, hours ≤ 23 ∧ minutes ≤ 59 ∧
      ahead = (hours * 60 + minutes : Nat) ∧
      cs = (padded 2 hours).toList ++ ':' :: ((padded 2 minutes).toList ++ rest) := by
  simp only [offsetMinutes, Option.bind_eq_bind, Option.bind_eq_some_iff, Prod.exists,
    fixed_eq_some_iff (by omega : 0 < 2), oneOf_singleton, Option.ite_none_right_eq_some,
    Option.some.injEq, Prod.mk.injEq]
  constructor
  · rintro ⟨hours, _, ⟨-, rfl⟩, _, rfl, minutes, _, ⟨-, rfl⟩, ⟨hhours, hminutes⟩, rfl, rfl⟩
    exact ⟨hours, minutes, hhours, hminutes, rfl, rfl⟩
  · rintro ⟨hours, minutes, hhours, hminutes, rfl, rfl⟩
    exact ⟨hours, _, ⟨by omega, rfl⟩, _, rfl, minutes, _, ⟨by omega, rfl⟩, ⟨hhours, hminutes⟩,
      rfl, rfl⟩

theorem offsetMinutes_text {hours minutes : Nat} (hhours : hours ≤ 23) (hminutes : minutes ≤ 59)
    (rest : List Char) :
    offsetMinutes ((padded 2 hours).toList ++ ':' :: ((padded 2 minutes).toList ++ rest)) =
      some (((hours * 60 + minutes : Nat) : Int), rest) :=
  offsetMinutes_eq_some_iff.mpr ⟨hours, minutes, hhours, hminutes, rfl, rfl⟩

theorem exists_west {between minus : Char} (hbetween : between ∈ ['T', 't', ' '])
    (hminus : minus ∈ ['-', '−']) {cs rest : List Char} {ahead : Int}
    (h : ((offsetMinutes cs).map fun (m, cs) => (-m, cs)) = some (ahead, rest)) :
    ∃ (k : Marks) (z : Zone), k.Known ∧ k.between = between ∧ z.Proper ∧ z.ahead = ahead ∧
      minus :: cs = (z.text k).toList ++ rest := by
  obtain ⟨⟨_, _⟩, hread, heq⟩ := Option.map_eq_some_iff.mp h
  cases heq
  obtain ⟨hours, minutes, hhours, hminutes, rfl, rfl⟩ := offsetMinutes_eq_some_iff.mp hread
  exact ⟨⟨between, 'Z', minus⟩, .west hours minutes, ⟨hbetween, by simp, hminus⟩, rfl,
    ⟨hhours, hminutes⟩, rfl, by simp [Zone.text]⟩

theorem eq_of_offset {between : Char} (hbetween : between ∈ ['T', 't', ' ']) {cs rest : List Char}
    {ahead : Int} (h : offset cs = some (ahead, rest)) :
    ∃ (k : Marks) (z : Zone), k.Known ∧ k.between = between ∧ z.Proper ∧ z.ahead = ahead ∧
      cs = (z.text k).toList ++ rest := by
  unfold offset at h
  split at h
  · cases h
    exact ⟨⟨between, 'Z', '-'⟩, .utc, ⟨hbetween, by simp, by simp⟩, rfl, trivial, rfl,
      by simp [Zone.text]⟩
  · cases h
    exact ⟨⟨between, 'z', '-'⟩, .utc, ⟨hbetween, by simp, by simp⟩, rfl, trivial, rfl,
      by simp [Zone.text]⟩
  · obtain ⟨hours, minutes, hhours, hminutes, rfl, rfl⟩ := offsetMinutes_eq_some_iff.mp h
    exact ⟨⟨between, 'Z', '-'⟩, .east hours minutes, ⟨hbetween, by simp, by simp⟩, rfl,
      ⟨hhours, hminutes⟩, rfl, by simp [Zone.text]⟩
  · exact exists_west hbetween (by simp) h
  · exact exists_west hbetween (by simp) h
  · cases h

variable {k : Marks}

theorem offset_text (hk : k.Known) {z : Zone} (hz : z.Proper) (rest : List Char) :
    offset ((z.text k).toList ++ rest) = some (z.ahead, rest) := by
  obtain ⟨-, hutc, hminus⟩ := hk
  cases z with
  | utc =>
      simp only [List.mem_cons, List.not_mem_nil, or_false] at hutc
      rcases hutc with hutc | hutc <;> simp [Zone.text, hutc, offset, Zone.ahead]
  | east hours minutes =>
      have hread := offsetMinutes_text hz.1 hz.2 rest
      simpa [Zone.text, offset, Zone.ahead] using hread
  | west hours minutes =>
      have hread := offsetMinutes_text hz.1 hz.2 rest
      have htext : ((Zone.west hours minutes).text k).toList ++ rest = k.minus ::
          ((padded 2 hours).toList ++ ':' :: ((padded 2 minutes).toList ++ rest)) := by
        simp [Zone.text]
      simp only [List.mem_cons, List.not_mem_nil, or_false] at hminus
      rw [htext]
      rcases hminus with hminus | hminus <;> rw [hminus, offset, hread] <;> rfl

theorem closed_text (hk : k.Known) (z : Zone) (rest : List Char) :
    Closed ((z.text k).toList ++ rest) := by
  obtain ⟨-, hutc, hminus⟩ := hk
  simp only [List.mem_cons, List.not_mem_nil, or_false] at hutc hminus
  cases z with
  | utc => rcases hutc with hutc | hutc <;> simp [Closed, Zone.text, hutc] <;> decide
  | east => simp [Closed, Zone.text]; decide
  | west => rcases hminus with hminus | hminus <;> simp [Closed, Zone.text, hminus] <;> decide

/-! ## The whole text -/

/-- The moment of a stamp, as it is kept. -/
def Stamp.moment (t : Stamp) : Moment :=
  Moment.shiftBack
    ⟨t.date, t.clock.hour, t.clock.minute, t.clock.second, nanos t.clock.decimals⟩ t.zone.ahead

theorem toList_text (k : Marks) (t : Stamp) : (t.text k).toList =
    t.date.written.toList ++ k.between :: (t.clock.text.toList ++ (t.zone.text k).toList) := by
  simp [Stamp.text]

theorem exists_of_parse? {s : String} {m : Moment} (h : parse? s = some m) :
    ∃ (k : Marks) (t : Stamp), k.Known ∧ t.Proper ∧ s = t.text k ∧ t.moment = m := by
  simp only [parse?, Option.bind_eq_bind, Option.bind_eq_some_iff, Prod.exists, date_eq_some_iff,
    oneOf_eq_some_iff, Option.ite_none_right_eq_some, List.isEmpty_iff, Option.some.injEq] at h
  obtain ⟨d, _, ⟨hdate, hyear, htext⟩, _, ⟨between, hbetween, rfl⟩, hour, minute, second, n, _,
    htime, ahead, _, hoffset, rfl, hm⟩ := h
  obtain ⟨c, hclock, hclockText, hhour, hminute, hsecond, hn⟩ := eq_of_time htime
  obtain ⟨k, z, hk, hmark, hzone, hahead, hzoneText⟩ := eq_of_offset hbetween hoffset
  refine ⟨k, ⟨d, c, z⟩, hk, ⟨hdate, hyear, hclock, hzone⟩, ?_, ?_⟩
  · rw [← String.toList_inj, toList_text, hmark, htext, hclockText, hzoneText, List.append_nil]
  · rw [Stamp.moment, hhour, hminute, hsecond, hahead, ← hn, hm]

theorem parse?_text (hk : k.Known) {t : Stamp} (ht : t.Proper) :
    parse? (t.text k) = some t.moment := by
  obtain ⟨hdate, hyear, hclock, hzone⟩ := ht
  have hdate := date_eq_some_iff.mpr ⟨hdate, hyear, toList_text k t⟩
  have hbetween (rest : List Char) : oneOf ['T', 't', ' '] (k.between :: rest) = some rest :=
    oneOf_eq_some_iff.mpr ⟨k.between, hk.between, rfl⟩
  have hclosed := closed_text hk t.zone []
  have hoffset := offset_text hk hzone []
  rw [List.append_nil] at hclosed hoffset
  simp only [parse?, Option.bind_eq_bind, hdate, Option.bind_some, hbetween,
    time_text hclock hclosed, hoffset]
  rfl

/-! ## The day in UTC -/

/-- Seconds in UTC, counted like the days. -/
def Stamp.instant (t : Stamp) : ℚ :=
  t.date.ordinal * 86400 + t.clock.hour * 3600 + t.clock.minute * 60 + t.clock.second +
    number t.clock.decimals / 10 ^ t.clock.decimals.length - t.zone.ahead * 60

/-- Minutes in UTC, counted like the days. -/
def Stamp.minutes (t : Stamp) : Int :=
  t.date.ordinal * 1440 + t.clock.hour * 60 + t.clock.minute - t.zone.ahead

theorem Zone.Proper.ahead_lt {z : Zone} (h : z.Proper) : -1440 < z.ahead ∧ z.ahead < 1440 := by
  cases z with
  | utc => simp only [Zone.ahead]; omega
  | east hours minutes => have := h.1; have := h.2; simp only [Zone.ahead]; omega
  | west hours minutes => have := h.1; have := h.2; simp only [Zone.ahead]; omega

/-- The day of a moment is the one that its minute falls on. -/
structure Stamp.FallsOn (t : Stamp) (d : Date) : Prop where
  valid : d.Valid
  begun : d.ordinal * 1440 ≤ t.minutes
  going : t.minutes < (d.ordinal + 1) * 1440
  near : t.date.year - 1 ≤ d.year ∧ d.year ≤ t.date.year + 1

theorem date_shiftBack (m : Moment) (offset : Int) : (m.shiftBack offset).date =
    if m.hour * 60 + m.minute - offset < 0 then m.date.previous
    else if 1440 ≤ m.hour * 60 + m.minute - offset then m.date.next
    else m.date := by
  unfold Moment.shiftBack
  dsimp only
  split_ifs <;> rfl

theorem fallsOn_moment {t : Stamp} (ht : t.Proper) : t.FallsOn t.moment.date := by
  have hhour := ht.clock.hour
  have hminute := ht.clock.minute
  have hahead := ht.zone.ahead_lt
  rw [Stamp.moment, date_shiftBack]
  dsimp only
  split_ifs with hbefore hafter
  · have hordinal := Date.ordinal_previous ht.date
    exact ⟨Date.valid_previous ht.date, by rw [Stamp.minutes]; omega, by rw [Stamp.minutes]; omega,
      (Date.year_previous t.date).imp_right (by omega)⟩
  · have hordinal := Date.ordinal_next ht.date
    exact ⟨Date.valid_next ht.date, by rw [Stamp.minutes]; omega, by rw [Stamp.minutes]; omega,
      (Date.year_next t.date).imp_left (by omega)⟩
  · exact ⟨ht.date, by rw [Stamp.minutes]; omega, by rw [Stamp.minutes]; omega, by omega⟩

theorem instant_eq (t : Stamp) : t.instant =
    t.minutes * 60 + t.clock.second + number t.clock.decimals / 10 ^ t.clock.decimals.length := by
  simp only [Stamp.instant, Stamp.minutes]
  push_cast
  ring

/-- The digits behind the point stand for less than a second. -/
theorem decimals_lt_one {ds : List Char} (h : ∀ c ∈ ds, isDigit c = true) :
    (number ds / 10 ^ ds.length : ℚ) < 1 := by
  have hpos : (0 : ℚ) < 10 ^ ds.length := by positivity
  rw [div_lt_one hpos]
  exact_mod_cast number_lt h

theorem Stamp.FallsOn.floor_eq {t : Stamp} (ht : t.Proper) (hsecond : t.clock.second < 60)
    {d : Date} (hd : t.FallsOn d) : ⌊t.instant / 86400⌋ = d.ordinal := by
  have hbegun : (d.ordinal : ℚ) * 1440 ≤ t.minutes := by exact_mod_cast hd.begun
  have hgoing : (t.minutes : ℚ) + 1 ≤ (d.ordinal + 1) * 1440 := by
    exact_mod_cast Int.add_one_le_of_lt hd.going
  have hseconds : (t.clock.second : ℚ) + 1 ≤ 60 := by exact_mod_cast hsecond
  have hfirst : (0 : ℚ) ≤ t.clock.second := Nat.cast_nonneg _
  have hnonneg : (0 : ℚ) ≤ number t.clock.decimals / 10 ^ t.clock.decimals.length := by positivity
  have hlt := decimals_lt_one ht.clock.decimals
  rw [Int.floor_eq_iff, instant_eq, le_div_iff₀ (by norm_num), div_lt_iff₀ (by norm_num)]
  constructor <;> linarith

end Rfc3339
end PackageRegistry.Time
