import Automation.Time.Calendar

/-!
# Days and dates

Every number of days names a date of the calendar (`Date.isValid_ofDays`), and counting the days of
that date gives the number back (`Date.toDays_ofDays`). Both rest on where a day lies in its era of
four hundred years: in which of the years, and at which day of it (`Date.yearOfEra_bounds`,
`Date.leap_of_last`).
-/

set_option autoImplicit false

namespace Automation.Date

/-- A date that is in the calendar. -/
structure IsValid (d : Date) : Prop where
  month : 1 ≤ d.month ∧ d.month ≤ 12
  day : 1 ≤ d.day ∧ d.day ≤ daysInMonth d.year d.month

theorem daysInMonth_le (year : Int) (month : Nat) : daysInMonth year month ≤ 31 := by
  unfold daysInMonth
  split
  case h_12 => split <;> decide
  all_goals decide

/-! ## Years of an era -/

/-- The year of an era in which a day of the era lies; years begin in March. -/
def yearOfEra (dayOfEra : Int) : Int :=
  (dayOfEra - dayOfEra / 1460 + dayOfEra / 36524 - dayOfEra / 146096) / 365

/-- The days of an era before one of its years. -/
def daysBefore (yearOfEra : Int) : Int := 365 * yearOfEra + yearOfEra / 4 - yearOfEra / 100

variable {e : Int}

theorem yearOfEra_bounds (hfirst : 0 ≤ e) (hlast : e < 146097) :
    0 ≤ yearOfEra e ∧ yearOfEra e < 400 ∧
      0 ≤ e - daysBefore (yearOfEra e) ∧ e - daysBefore (yearOfEra e) ≤ 365 := by
  simp only [yearOfEra, daysBefore]
  generalize hyear : (e - e / 1460 + e / 36524 - e / 146096) / 365 = year
  -- a century of the formula for the year, and the century of the year itself
  have hcentury : e / 36524 = 0 ∨ e / 36524 = 1 ∨ e / 36524 = 2 ∨ e / 36524 = 3 ∨
      e / 36524 = 4 := by omega
  have hcentury' : year / 100 = 0 ∨ year / 100 = 1 ∨ year / 100 = 2 ∨ year / 100 = 3 := by omega
  refine ⟨by omega, by omega, ?_, ?_⟩
  · rcases hcentury with h | h | h | h | h <;> rcases hcentury' with h' | h' | h' | h' <;> omega
  · rcases hcentury with h | h | h | h | h <;> rcases hcentury' with h' | h' | h' | h' <;> omega

/-- A year has a day more if the next February belongs to a leap year. -/
theorem leap_of_last (hfirst : 0 ≤ e) (hlast : e < 146097)
    (h : e - daysBefore (yearOfEra e) = 365) (era : Int) :
    isLeapYear (yearOfEra e + era * 400 + 1) = true := by
  have hleap : (yearOfEra e + 1) % 4 = 0 ∧
      ((yearOfEra e + 1) % 100 ≠ 0 ∨ (yearOfEra e + 1) % 400 = 0) := by
    simp only [yearOfEra, daysBefore] at h ⊢
    generalize hyear : (e - e / 1460 + e / 36524 - e / 146096) / 365 = year at h ⊢
    have hcentury : e / 36524 = 0 ∨ e / 36524 = 1 ∨ e / 36524 = 2 ∨ e / 36524 = 3 ∨
        e / 36524 = 4 := by omega
    have hcentury' : year / 100 = 0 ∨ year / 100 = 1 ∨ year / 100 = 2 ∨ year / 100 = 3 := by omega
    have hlastDay : e / 146096 = 0 ∨ e / 146096 = 1 := by omega
    have hrest : year % 4 ≤ 2 ∨ year % 4 = 3 := by omega
    rcases hcentury with hc | hc | hc | hc | hc <;>
      rcases hcentury' with hc' | hc' | hc' | hc' <;>
      rcases hlastDay with he | he <;> rcases hrest with hr | hr <;> omega
  simp only [isLeapYear, Bool.and_eq_true, Bool.or_eq_true, beq_iff_eq, bne_iff_ne]
  omega

/-! ## Dates of days -/

/-- The day of an era as a date, month and day counted from March. -/
theorem ofDays_eq (days : Int) :
    let e := (days + 719468) % 146097
    let dayOfYear := e - daysBefore (yearOfEra e)
    let fromMarch := (5 * dayOfYear + 2) / 153
    let month := if fromMarch < 10 then fromMarch + 3 else fromMarch - 9
    let year := yearOfEra e + (days + 719468) / 146097 * 400
    ofDays days = ⟨if month ≤ 2 then year + 1 else year, month.toNat,
      (dayOfYear - (153 * fromMarch + 2) / 5 + 1).toNat⟩ := rfl

/-- The days of the date that lies some days after 1970 are these days. -/
theorem toDays_ofDays (days : Int) : (ofDays days).toDays = days := by
  have hbounds := yearOfEra_bounds (e := (days + 719468) % 146097) (by omega) (by omega)
  rw [ofDays_eq]
  -- era, year, day and month get names, so that what is left is linear in them
  generalize he : (days + 719468) % 146097 = e at hbounds ⊢
  generalize hyear : yearOfEra e = year at hbounds ⊢
  obtain ⟨hyear0, hyear1, hday0, hday1⟩ := hbounds
  generalize hdayOfYear : e - daysBefore year = dayOfYear at hday0 hday1 ⊢
  generalize hmonth : (5 * dayOfYear + 2) / 153 = fromMarch
  have hera : (year + (days + 719468) / 146097 * 400) / 400 = (days + 719468) / 146097 := by omega
  have hrest : (year + (days + 719468) / 146097 * 400) % 400 = year := by omega
  have hdayNat : ((dayOfYear - (153 * fromMarch + 2) / 5 + 1).toNat : Int) =
      dayOfYear - (153 * fromMarch + 2) / 5 + 1 := by omega
  simp only [daysBefore] at hdayOfYear
  -- the month is from March to December, or it is one of the next year
  by_cases hsame : fromMarch < 10
  · have hnat : ¬ (fromMarch + 3).toNat ≤ 2 := by omega
    have hint : ¬ fromMarch + 3 ≤ 2 := by omega
    have hback : ((fromMarch + 3).toNat : Int) - 3 = fromMarch := by omega
    simp only [toDays, if_pos hsame, if_neg hnat, if_neg hint, hback, hera, hrest, hdayNat]
    omega
  · have hnat : (fromMarch - 9).toNat ≤ 2 := by omega
    have hint : fromMarch - 9 ≤ 2 := by omega
    have hback : ((fromMarch - 9).toNat : Int) + 9 = fromMarch := by omega
    simp only [toDays, if_neg hsame, if_pos hnat, if_pos hint, hback, Int.add_sub_cancel, hera,
      hrest, hdayNat]
    omega

/-- The date that lies some days after 1970 is in the calendar. -/
theorem isValid_ofDays (days : Int) : (ofDays days).IsValid := by
  have hfirst : 0 ≤ (days + 719468) % 146097 := by omega
  have hlast : (days + 719468) % 146097 < 146097 := by omega
  have hbounds := yearOfEra_bounds hfirst hlast
  have hleap := fun h => leap_of_last hfirst hlast h ((days + 719468) / 146097)
  rw [ofDays_eq]
  generalize (days + 719468) % 146097 = e at hbounds hleap ⊢
  generalize yearOfEra e + (days + 719468) / 146097 * 400 = year at hleap ⊢
  generalize e - daysBefore (yearOfEra e) = dayOfYear at hbounds hleap ⊢
  obtain ⟨-, -, hday0, hday1⟩ := hbounds
  generalize hmonth : (5 * dayOfYear + 2) / 153 = fromMarch
  by_cases hsame : fromMarch < 10
  · have hint : ¬ fromMarch + 3 ≤ 2 := by omega
    simp only [if_pos hsame, if_neg hint]
    refine ⟨⟨by dsimp only; omega, by dsimp only; omega⟩, by dsimp only; omega, ?_⟩
    -- from March to December the lengths are those that the formula for the month spreads
    obtain rfl | rfl | rfl | rfl | rfl | rfl | rfl | rfl | rfl | rfl : fromMarch = 0 ∨
        fromMarch = 1 ∨ fromMarch = 2 ∨ fromMarch = 3 ∨ fromMarch = 4 ∨ fromMarch = 5 ∨
        fromMarch = 6 ∨ fromMarch = 7 ∨ fromMarch = 8 ∨ fromMarch = 9 := by omega
    all_goals simp [daysInMonth]; omega
  · have hint : fromMarch - 9 ≤ 2 := by omega
    simp only [if_neg hsame, if_pos hint]
    refine ⟨⟨by dsimp only; omega, by dsimp only; omega⟩, by dsimp only; omega, ?_⟩
    obtain rfl | rfl : fromMarch = 10 ∨ fromMarch = 11 := by omega
    · simp [daysInMonth]
      omega
    -- the last day of a long February is in a leap year
    · cases hnextLeap : isLeapYear (year + 1) with
      | true =>
        simp [daysInMonth, hnextLeap]
        omega
      | false =>
        have hshort : dayOfYear ≠ 365 := by
          intro hlong
          rw [hleap hlong] at hnextLeap
          cases hnextLeap
        simp [daysInMonth, hnextLeap]
        omega

/-- The days of the years 1 to 9999 are those of dates in these years. -/
theorem year_ofDays {days : Int} (hfirst : toDays ⟨1, 1, 1⟩ ≤ days)
    (hlast : days < toDays ⟨10000, 1, 1⟩) : 1 ≤ (ofDays days).year ∧ (ofDays days).year ≤ 9999 := by
  have hearliest : toDays ⟨1, 1, 1⟩ = -719162 := by decide
  have hhorizon : toDays ⟨10000, 1, 1⟩ = 2932897 := by decide
  rw [hearliest] at hfirst
  rw [hhorizon] at hlast
  have hbounds := yearOfEra_bounds (e := (days + 719468) % 146097) (by omega) (by omega)
  rw [ofDays_eq]
  generalize he : (days + 719468) % 146097 = e at hbounds ⊢
  generalize hyear : yearOfEra e = year at hbounds ⊢
  obtain ⟨hyear0, hyear1, hday0, hday1⟩ := hbounds
  generalize hdayOfYear : e - daysBefore year = dayOfYear at hday0 hday1 ⊢
  generalize hmonth : (5 * dayOfYear + 2) / 153 = fromMarch
  simp only [daysBefore] at hdayOfYear
  by_cases hsame : fromMarch < 10
  · have hint : ¬ fromMarch + 3 ≤ 2 := by omega
    simp only [if_pos hsame, if_neg hint]
    omega
  · have hint : fromMarch - 9 ≤ 2 := by omega
    simp only [if_neg hsame, if_pos hint]
    omega

end Automation.Date
