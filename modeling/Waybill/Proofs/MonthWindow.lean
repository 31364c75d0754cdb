import Waybill.Proofs.Calendar
/-!
The month window of every supported moment.  A moment within the supported years falls on a date
of those years, so its month always begins within them; the month after it does too, except after
December of the last supported year.  Main statements: the window of a valid moment starts at
midnight on the first day of its month and holds the moment; it ends at midnight on the first day
of the next month and holds exactly the moments of the same UTC month, except in December of the
last supported year, where it ends at the moment itself (`month_window_of_valid`), so the moment
falls outside its own window (`last_month_window_ends_at_now`).
-/
namespace Waybill

namespace Date

theorem daysInMonth_pos (year : Int) (month : Nat) : 1 ≤ daysInMonth year month := by
  unfold daysInMonth
  split <;> (try split) <;> omega

theorem daysInMonth_le (year : Int) (month : Nat) : daysInMonth year month ≤ 31 := by
  unfold daysInMonth
  split <;> (try split) <;> omega

/-- Every day of a year comes before the first day of any later year. -/
theorem dayNumber_lt_of_year_lt {d : Date} (hd : d.Proper) {year : Int} (hy : d.year < year) :
    d.dayNumber < (⟨year, 1, 1⟩ : Date).dayNumber := by
  obtain ⟨hm1, hm12, hd1, hdim⟩ := hd
  have := daysInMonth_le d.year d.month
  simp only [dayNumber]
  split <;> split <;> omega

/-- Every day of a year comes after the last day of any earlier year. -/
theorem dayNumber_gt_of_year_gt {d : Date} (hd : d.Proper) {year : Int} (hy : year < d.year) :
    (⟨year, 12, 31⟩ : Date).dayNumber < d.dayNumber := by
  obtain ⟨hm1, hm12, hd1, hdim⟩ := hd
  have := daysInMonth_le d.year d.month
  simp only [dayNumber]
  split <;> split <;> omega

/-- The first day of a month of a supported year is a supported date. -/
theorem isValid_first {year : Int} {month : Nat} (hy : minYear ≤ year ∧ year ≤ maxYear)
    (hm : 1 ≤ month ∧ month ≤ 12) : (⟨year, month, 1⟩ : Date).isValid = true := by
  have := daysInMonth_pos year month
  simp only [isValid, Bool.and_eq_true, decide_eq_true_eq]
  omega

end Date

namespace Instant

/-- A valid moment falls on a date of the supported years. -/
theorem year_mem_of_isValid {t : Instant} (ht : t.isValid = true) :
    Date.minYear ≤ t.date.year ∧ t.date.year ≤ Date.maxYear := by
  simp only [isValid, Bool.and_eq_true, decide_eq_true_eq] at ht
  obtain ⟨⟨⟨hlow, hhigh⟩, -⟩, -⟩ := ht
  obtain ⟨hproper, hcount⟩ := Date.ofDayNumber_spec (t.secs / 86400)
  -- the day count of the date is the moment's day, which lies between the two ends of the range
  have hfirst : (⟨Date.minYear, 1, 1⟩ : Date).dayNumber ≤ t.secs / 86400 := by
    simp only [earliest, atMidnight] at hlow
    omega
  have hlast : t.secs / 86400 ≤ (⟨Date.maxYear, 12, 31⟩ : Date).dayNumber := by
    simp only [latestSecond, atMidnight] at hhigh
    omega
  refine ⟨Int.not_lt.mp fun hbelow => ?_, Int.not_lt.mp fun habove => ?_⟩
  · have := Date.dayNumber_lt_of_year_lt hproper hbelow
    omega
  · have := Date.dayNumber_gt_of_year_gt hproper habove
    omega

/-- A moment comes no earlier than midnight on the first day of its month. -/
theorem monthStart_le (t : Instant) : atMidnight t.date.monthStart ≤ t := by
  obtain ⟨⟨hm1, hm12, -, -⟩, -⟩ := Date.ofDayNumber_spec (t.secs / 86400)
  rw [atMidnight_le_iff]
  exact ((Date.ofDayNumber_month_iff ⟨hm1, hm12⟩ (t.secs / 86400)).mp ⟨rfl, rfl⟩).1

/-- A moment comes before midnight on the first day of the next month. -/
theorem lt_nextMonthStart (t : Instant) : t < atMidnight t.date.nextMonthStart := by
  obtain ⟨⟨hm1, hm12, -, -⟩, -⟩ := Date.ofDayNumber_spec (t.secs / 86400)
  rw [lt_atMidnight_iff]
  exact ((Date.ofDayNumber_month_iff ⟨hm1, hm12⟩ (t.secs / 86400)).mp ⟨rfl, rfl⟩).2

/-- A valid moment's month begins within the supported years. -/
theorem monthStart_isValid {t : Instant} (ht : t.isValid = true) :
    t.date.monthStart.isValid = true := by
  obtain ⟨⟨hm1, hm12, -, -⟩, -⟩ := Date.ofDayNumber_spec (t.secs / 86400)
  exact Date.isValid_first (year_mem_of_isValid ht) ⟨hm1, hm12⟩

/-- The month after a valid moment's begins within the supported years, unless the moment falls
in December of the last of them. -/
theorem nextMonthStart_isValid {t : Instant} (ht : t.isValid = true)
    (hlast : ¬ (t.date.year = Date.maxYear ∧ t.date.month = 12)) :
    t.date.nextMonthStart.isValid = true := by
  obtain ⟨⟨hm1, hm12, -, -⟩, -⟩ := Date.ofDayNumber_spec (t.secs / 86400)
  have hy := year_mem_of_isValid ht
  unfold Date.nextMonthStart
  split
  · -- December: the next month is January of a later year, which must still be supported
    refine Date.isValid_first ⟨by omega, ?_⟩ ⟨by omega, by omega⟩
    simp only [date] at *
    omega
  · exact Date.isValid_first hy ⟨by omega, by simp only [date] at *; omega⟩

/-- After December of the last supported year no month begins, and the window ends at the moment
itself. -/
theorem monthBounds_snd_of_last {t : Instant}
    (hlast : t.date.year = Date.maxYear ∧ t.date.month = 12) : (monthBounds t).2 = t := by
  unfold monthBounds monthStart?
  simp only [hlast.1, hlast.2, ↓reduceIte]
  rfl

end Instant

open Instant

/-- The month window of every valid moment.  It starts at midnight on the first day of the
moment's month and holds the moment.  Unless the moment falls in December of the last supported
year, it ends at midnight on the first day of the next month (January of the next year after
December), holds the moment, and holds exactly the moments of the same UTC year and month.  In
that last December the window ends at the moment itself. -/
theorem month_window_of_valid (now : Instant) (hvalid : now.isValid = true) :
    (monthBounds now).1 = atMidnight now.date.monthStart ∧ (monthBounds now).1 ≤ now ∧
    (¬ (now.date.year = Date.maxYear ∧ now.date.month = 12) →
      (monthBounds now).2 = atMidnight now.date.nextMonthStart ∧ now < (monthBounds now).2 ∧
      ∀ t, ((monthBounds now).1 ≤ t ∧ t < (monthBounds now).2) ↔
        t.date.year = now.date.year ∧ t.date.month = now.date.month) ∧
    (now.date.year = Date.maxYear ∧ now.date.month = 12 → (monthBounds now).2 = now) := by
  have hstart := monthStart_isValid hvalid
  -- the start never falls back on the moment: its month always begins within the range
  have hfirst : (monthBounds now).1 = atMidnight now.date.monthStart := by
    unfold monthBounds monthStart?
    unfold Date.monthStart at hstart ⊢
    simp [hstart]
  refine ⟨hfirst, hfirst ▸ monthStart_le now, fun hlast => ?_, monthBounds_snd_of_last⟩
  have hnext := nextMonthStart_isValid hvalid hlast
  have hend : (monthBounds now).2 = atMidnight now.date.nextMonthStart := by
    rw [monthBounds_eq hstart hnext]
  exact ⟨hend, hend ▸ lt_nextMonthStart now, mem_monthBounds_iff hstart hnext⟩

/-- The window of 2026-12-15T10:30:00 is December 2026. -/
theorem december_window :
    (⟨1797330600, 0⟩ : Instant).isValid = true ∧
      monthBounds ⟨1797330600, 0⟩ = (⟨1796083200, 0⟩, ⟨1798761600, 0⟩) := by
  obtain ⟨hstart, -, hnext, -⟩ := month_window_of_valid ⟨1797330600, 0⟩ (by decide)
  obtain ⟨hend, -, -⟩ := hnext (by decide)
  exact ⟨by decide, Prod.ext (hstart.trans (by decide)) (hend.trans (by decide))⟩

/-- In December of the last supported year the window ends at the moment: midnight on
262142-12-15 is a valid moment, but not before the end of its window. -/
theorem last_month_window_ends_at_now :
    ¬ ∀ now : Instant, now.isValid = true → now < (monthBounds now).2 := fun h =>
  absurd (h ⟨8210265408000, 0⟩ (by decide)) (by decide)

end Waybill
