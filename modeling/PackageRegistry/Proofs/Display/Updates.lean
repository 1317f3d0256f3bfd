import PackageRegistry.Display
import PackageRegistry.Proofs.Time.Rfc3339

/-! # The date of the last update

What is shown of a text after RFC 3339 is the day in UTC on which its instant falls, in the calendar
whose days `Date.ordinal` numbers. Any other text is shown as it is.
-/

namespace PackageRegistry.Display

open Time Time.Rfc3339

/-- A stamp whose day has a year of four digits in UTC too, outside a leap second. -/
structure Civil (t : Stamp) : Prop where
  proper : t.Proper
  year : 1 ≤ t.date.year ∧ t.date.year ≤ 9998
  second : t.clock.second < 60

/-- A text is shown as the date of the day that begins last before an instant. -/
structure ShowsDay (shown : String) (instant : ℚ) (d : Date) : Prop where
  valid : d.Valid
  year : 0 ≤ d.year ∧ d.year ≤ 9999
  ordinal : d.ordinal = ⌊instant / 86400⌋
  written : shown = d.written

theorem text_eq_written {d : Date} (h : 0 ≤ d.year ∧ d.year ≤ 9999) : d.text = d.written := by
  rw [Date.text, Date.written, yearText, if_pos h]

variable {s s' : Package.Statistics} {k k' : Marks} {t t' : Stamp}

theorem updated_text (hk : k.Known) (ht : t.Proper) (hs : s.lastUpdated = some (t.text k)) :
    updated s = t.moment.date.text := by
  have hmoment : s.updatedAt = some t.moment := by
    rw [Package.Statistics.updatedAt, hs, Option.bind_some, parse?_text hk ht]
  rw [updated, hmoment]

theorem showsDay_updated (hk : k.Known) (ht : Civil t) (hs : s.lastUpdated = some (t.text k)) :
    ShowsDay (updated s) t.instant t.moment.date := by
  have hday := fallsOn_moment ht.proper
  have hyear : 0 ≤ t.moment.date.year ∧ t.moment.date.year ≤ 9999 := by
    have hnear := hday.near
    have hyears := ht.year
    omega
  refine ⟨hday.valid, hyear, (hday.floor_eq ht.proper ht.second).symm, ?_⟩
  rw [updated_text hk ht.proper hs, text_eq_written hyear]

/-- The day is found from the instant alone. -/
theorem ShowsDay.unique {shown shown' : String} {instant : ℚ} {d d' : Date}
    (h : ShowsDay shown instant d) (h' : ShowsDay shown' instant d') : shown = shown' := by
  have hd : d = d' := Date.eq_of_ordinal_eq h.valid h'.valid (h.ordinal.trans h'.ordinal.symm)
  rw [h.written, h'.written, hd]

theorem updated_of_unread {raw : String} (hs : s.lastUpdated = some raw)
    (h : ∀ (k : Marks) (t : Stamp), k.Known → t.Proper → raw ≠ t.text k) : updated s = raw := by
  have hnone : s.updatedAt = none := by
    rw [Package.Statistics.updatedAt, hs, Option.bind_some, Option.eq_none_iff_forall_ne_some]
    intro m hm
    obtain ⟨k, t, hk, ht, htext, -⟩ := exists_of_parse? hm
    exact h k t hk ht htext
  rw [updated, hnone, hs]

/-- A stamp is shown as the date of its day in UTC, so stamps of one instant are shown alike, and a
text that is no stamp is shown as it is. -/
theorem updates_are_dated_in_utc :
    (∀ (s : Package.Statistics) (k : Marks) (t : Stamp), k.Known → Civil t →
      s.lastUpdated = some (t.text k) → ∃ d, ShowsDay (updated s) t.instant d) ∧
    (∀ (s s' : Package.Statistics) (k k' : Marks) (t t' : Stamp), k.Known → k'.Known →
      Civil t → Civil t' → s.lastUpdated = some (t.text k) → s'.lastUpdated = some (t'.text k') →
      t.instant = t'.instant → updated s = updated s') ∧
    ∀ (s : Package.Statistics) (raw : String), s.lastUpdated = some raw →
      (∀ (k : Marks) (t : Stamp), k.Known → t.Proper → raw ≠ t.text k) → updated s = raw := by
  refine ⟨?_, ?_, ?_⟩
  · intro s k t hk ht hs
    exact ⟨t.moment.date, showsDay_updated hk ht hs⟩
  · intro s s' k k' t t' hk hk' ht ht' hs hs' hinstant
    have hday := showsDay_updated hk ht hs
    rw [hinstant] at hday
    exact hday.unique (showsDay_updated hk' ht' hs')
  · intro s raw hs h
    exact updated_of_unread hs h

/-! ### Half an hour into the year -/

/-- Half past midnight on the first of January of 2024, an hour ahead of UTC. -/
def newYear : Stamp := ⟨⟨2024, 1, 1⟩, ⟨0, 30, 0, []⟩, .east 1 0⟩

/-- The same time in UTC. -/
def oldYear : Stamp := ⟨⟨2023, 12, 31⟩, ⟨23, 30, 0, ['0']⟩, .utc⟩

theorem known_usual : Marks.usual.Known := ⟨by decide, by decide, by decide⟩

theorem civil_newYear : Civil newYear :=
  ⟨⟨by decide, by decide, ⟨by decide, by decide, by decide, List.all_eq_true.mp rfl⟩,
    by decide, by decide⟩, by decide, by decide⟩

theorem civil_oldYear : Civil oldYear :=
  ⟨⟨by decide, by decide, ⟨by decide, by decide, by decide, List.all_eq_true.mp rfl⟩, trivial⟩,
    by decide, by decide⟩

example : newYear.text .usual = "2024-01-01T00:30:00+01:00" := by decide +kernel

example : updated { lastUpdated := some "2024-01-01T00:30:00+01:00" } = "2023-12-31" := by
  decide +kernel

theorem ne_text_of_parse?_eq_none {raw : String} (h : parse? raw = none) (hk : k.Known)
    (ht : t.Proper) : raw ≠ t.text k := by
  intro heq
  rw [heq, parse?_text hk ht] at h
  cases h

theorem new_year_is_still_the_old_one_in_utc :
    (∃ d, ShowsDay (updated { lastUpdated := some (newYear.text .usual) }) newYear.instant d) ∧
      updated { lastUpdated := some (newYear.text .usual) } =
        updated { lastUpdated := some (oldYear.text .usual) } ∧
      updated { lastUpdated := some "last tuesday" } = "last tuesday" := by
  obtain ⟨hday, halike, hraw⟩ := updates_are_dated_in_utc
  have hinstant : newYear.instant = oldYear.instant := by decide +kernel
  have hnone : parse? "last tuesday" = none := by decide +kernel
  refine ⟨hday _ _ _ known_usual civil_newYear rfl, ?_, ?_⟩
  · exact halike _ _ _ _ _ _ known_usual known_usual civil_newYear civil_oldYear rfl rfl hinstant
  · exact hraw _ _ rfl fun k t hk ht => ne_text_of_parse?_eq_none hnone hk ht

/-! ### The typographic minus sign -/

theorem notMem_padded {c : Char} (h : isDigit c = false) (width n : Nat) :
    c ∉ (padded width n).toList := by
  intro hmem
  rw [isDigit_of_mem_padded hmem] at h
  cases h

/-- No text with the plain sign contains the other one. -/
theorem notMem_text (hk : k.Known) (hminus : k.minus = '-') (ht : t.Proper) :
    '−' ∉ (t.text k).toList := by
  have hdigit : isDigit '−' = false := by decide
  have hbetween : '−' ≠ k.between := ne_of_mem_of_not_mem hk.between (by decide) |>.symm
  have hutc : '−' ≠ k.utc := ne_of_mem_of_not_mem hk.utc (by decide) |>.symm
  have hdecimals : '−' ∉ t.clock.decimals := by
    intro hmem
    rw [ht.clock.decimals _ hmem] at hdigit
    cases hdigit
  have hdate : '−' ∉ t.date.written.toList := by
    simp [Date.written, notMem_padded hdigit]
  have hclock : '−' ∉ t.clock.text.toList := by
    unfold Clock.text pointed
    split_ifs <;> simp [notMem_padded hdigit, hdecimals]
  have hzone : '−' ∉ (t.zone.text k).toList := by
    cases t.zone <;> simp [Zone.text, notMem_padded hdigit, hutc, hminus]
  simp [toList_text, hdate, hbetween, hclock, hzone]

theorem typographic_minus_is_read :
    ¬ ∀ (s : Package.Statistics) (raw : String), s.lastUpdated = some raw →
      (∀ (k : Marks) (t : Stamp), k.Known → k.minus = '-' → t.Proper → raw ≠ t.text k) →
      updated s = raw := by
  intro hall
  have hshown := hall { lastUpdated := some "2024-03-09T08:00:00−02:00" } _ rfl
    fun k t hk hminus ht heq => notMem_text hk hminus ht (by rw [← heq]; decide)
  revert hshown
  decide +kernel

end PackageRegistry.Display
