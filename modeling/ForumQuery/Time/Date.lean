/-!
# Dates

The proleptic Gregorian calendar over the days since 1970-01-01.  Inside, a year runs from March to
February, so that a leap day is its last day, and 400 such years are an era of 146097 days; day 0
is then 719468 days after the start of an era.

`toDays_ofDays` says that the date of a day leads back to it, so two days never share a date.
-/

namespace ForumQuery

/-- A day of the calendar. -/
structure Date where
  year : Int
  month : Int
  day : Int
  deriving DecidableEq, Repr

namespace Date

/-! ### Years from March to February -/

/-- The year of an era in which a day of the era lies. -/
def yearOfEra (dayOfEra : Int) : Int :=
  (dayOfEra - dayOfEra / 1460 + dayOfEra / 36524 - dayOfEra / 146096) / 365

/-- The days of an era before one of its years. -/
def daysBeforeYear (year : Int) : Int := 365 * year + year / 4 - year / 100

/-- The month of a year in which a day of the year lies, March being month 0. -/
def monthOfYear (dayOfYear : Int) : Int := (5 * dayOfYear + 2) / 153

/-- The days of a year before one of its months. -/
def daysBeforeMonth (month : Int) : Int := (153 * month + 2) / 5

/-- The date of a month counted from March. -/
def ofMarch (year month day : Int) : Date :=
  if month < 10 then ⟨year, month + 3, day⟩ else ⟨year + 1, month - 9, day⟩

/-! ### Days and dates -/

/-- The date of the day that is `n` days after 1970-01-01. -/
def ofDays (n : Int) : Date :=
  let dayOfEra := (n + 719468) % 146097
  let year := yearOfEra dayOfEra
  let dayOfYear := dayOfEra - daysBeforeYear year
  let month := monthOfYear dayOfYear
  ofMarch ((n + 719468) / 146097 * 400 + year) month (dayOfYear - daysBeforeMonth month + 1)

/-- The number of days from 1970-01-01 to the day of a month counted from March. -/
def daysOfMarch (year month day : Int) : Int :=
  year / 400 * 146097 + daysBeforeYear (year % 400) + daysBeforeMonth month + day - 719469

/-- The number of days from 1970-01-01 to a date. -/
def toDays (date : Date) : Int :=
  if date.month ≤ 2 then daysOfMarch (date.year - 1) (date.month + 9) date.day
  else daysOfMarch date.year (date.month - 3) date.day

theorem yearOfEra_bounds {d : Int} (h₀ : 0 ≤ d) (h₁ : d < 146097) :
    0 ≤ yearOfEra d ∧ yearOfEra d < 400 := by
  unfold yearOfEra
  omega

theorem dayOfYear_bounds {d : Int} (h₀ : 0 ≤ d) (h₁ : d < 146097) :
    0 ≤ d - daysBeforeYear (yearOfEra d) ∧ d - daysBeforeYear (yearOfEra d) < 366 := by
  unfold daysBeforeYear yearOfEra
  generalize hleap : d / 1460 = leap
  generalize hcentury : d / 36524 = century
  generalize hera : d / 146096 = era
  generalize hyear : (d - leap + century - era) / 365 = year
  have : century = 0 ∨ century = 1 ∨ century = 2 ∨ century = 3 ∨ century = 4 := by omega
  have : era = 0 ∨ era = 1 := by omega
  have : year / 100 = 0 ∨ year / 100 = 1 ∨ year / 100 = 2 ∨ year / 100 = 3 := by omega
  rcases ‹century = _ ∨ _› with rfl | rfl | rfl | rfl | rfl <;>
    rcases ‹era = _ ∨ _› with rfl | rfl <;>
    rcases ‹year / 100 = _ ∨ _› with h | h | h | h <;> omega

theorem monthOfYear_bounds {d : Int} (h₀ : 0 ≤ d) (h₁ : d < 366) :
    0 ≤ monthOfYear d ∧ monthOfYear d < 12 := by
  unfold monthOfYear
  omega

theorem toDays_ofMarch {month : Int} (h₀ : 0 ≤ month) (h₁ : month < 12) (year day : Int) :
    (ofMarch year month day).toDays = daysOfMarch year month day := by
  unfold ofMarch toDays
  split
  · rw [if_neg (by simp only; omega), Int.add_sub_cancel]
  · rw [if_pos (by simp only; omega), Int.add_sub_cancel, Int.sub_add_cancel]

theorem daysOfMarch_era {year : Int} (h₀ : 0 ≤ year) (h₁ : year < 400) (era month day : Int) :
    daysOfMarch (era * 400 + year) month day =
      era * 146097 + daysBeforeYear year + daysBeforeMonth month + day - 719469 := by
  have hera : (era * 400 + year) / 400 = era := by omega
  have hyear : (era * 400 + year) % 400 = year := by omega
  rw [daysOfMarch, hera, hyear]

theorem toDays_ofDays (n : Int) : (ofDays n).toDays = n := by
  have h₀ : 0 ≤ (n + 719468) % 146097 := by omega
  have h₁ : (n + 719468) % 146097 < 146097 := by omega
  obtain ⟨hy₀, hy₁⟩ := yearOfEra_bounds h₀ h₁
  obtain ⟨hd₀, hd₁⟩ := dayOfYear_bounds h₀ h₁
  obtain ⟨hm₀, hm₁⟩ := monthOfYear_bounds hd₀ hd₁
  rw [ofDays, toDays_ofMarch hm₀ hm₁, daysOfMarch_era hy₀ hy₁]
  omega

end Date

end ForumQuery
