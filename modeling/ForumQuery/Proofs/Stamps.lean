import ForumQuery.Time.Stamp
import Mathlib.Algebra.Group.Nat.Defs
import Mathlib.Data.List.Basic

/-!
# Stamps — no two instants have the same time stamp

A number with zeros in front is read back from its digits (`Stamp.ofDigitChars_padded`), and so are
a year with its sign (`Stamp.yearOf_yearText`) and the fraction of a second with the zeros that
were left out at its end (`Stamp.nanosOf_fractionText`).  Months, days, hours, minutes and seconds
have two digits each (`Stamp.length_padded`), so a stamp falls into its parts in one way only.  The
parts fix the instant: the date fixes the day (`Date.toDays_ofDays`), and second 60 is a leap
second.  Hence `Instant.stamp_injective`.
-/

namespace ForumQuery

/-! ### The parts of a stamp -/

namespace Stamp

theorem toList_padded (width n : Nat) : (padded width n).toList =
    List.replicate (width - (Nat.toDigits 10 n).length) '0' ++ Nat.toDigits 10 n := by
  rw [padded, String.toList_ofList, List.leftpad]

/-- A number is read back from its digits, with any zeros in front. -/
theorem ofDigitChars_padded (width n : Nat) :
    Nat.ofDigitChars 10 (padded width n).toList 0 = n := by
  rw [toList_padded, Nat.ofDigitChars_append, Nat.ofDigitChars_replicate_zero, Nat.mul_zero,
    Nat.ofDigitChars_ten_toDigits]

theorem padded_injective {width m n : Nat} (h : (padded width m).toList = (padded width n).toList) :
    m = n := by
  rw [← ofDigitChars_padded width m, h, ofDigitChars_padded]

theorem isDigit_padded {width n : Nat} {c : Char} (hc : c ∈ (padded width n).toList) :
    c.isDigit = true := by
  rw [toList_padded, List.mem_append] at hc
  rcases hc with hzero | hdigit
  · rw [List.eq_of_mem_replicate hzero]
    rfl
  · exact Nat.isDigit_of_mem_toDigits (by decide) (by decide) hdigit

theorem length_padded {width n : Nat} (hwidth : 0 < width) (h : n < 10 ^ width) :
    (padded width n).toList.length = width := by
  have hle := (Nat.length_toDigits_le_iff (by decide : 1 < 10) hwidth).2 h
  rw [toList_padded, List.length_append, List.length_replicate]
  omega

/-- A number of a given width is told from whatever stands behind it. -/
theorem padded_append_injective {width m n : Nat} {cs ds : List Char} (hwidth : 0 < width)
    (hm : m < 10 ^ width) (hn : n < 10 ^ width)
    (h : (padded width m).toList ++ cs = (padded width n).toList ++ ds) : m = n ∧ cs = ds := by
  have hlength : (padded width m).toList.length = (padded width n).toList.length := by
    rw [length_padded hwidth hm, length_padded hwidth hn]
  obtain ⟨hnumber, hrest⟩ := List.append_inj h hlength
  exact ⟨padded_injective hnumber, hrest⟩

/-- The year that some characters write. -/
def yearOf : List Char → Int
  | '-' :: digits => -(Nat.ofDigitChars 10 digits 0 : Int)
  | '+' :: digits => Nat.ofDigitChars 10 digits 0
  | digits => Nat.ofDigitChars 10 digits 0

theorem yearOf_yearText (year : Int) : yearOf (yearText year).toList = year := by
  rw [yearText]
  split
  · next h =>
    have hread := ofDigitChars_padded 4 year.toNat
    have hdigit : ∀ c ∈ (padded 4 year.toNat).toList, c.isDigit = true := fun _ => isDigit_padded
    rw [yearOf, hread]
    · omega
    · rintro digits heq
      rw [heq] at hdigit
      exact absurd (hdigit '-' List.mem_cons_self) (by decide)
    · rintro digits heq
      rw [heq] at hdigit
      exact absurd (hdigit '+' List.mem_cons_self) (by decide)
  · split
    · rw [String.toList_append]
      change -(Nat.ofDigitChars 10 (padded 4 year.natAbs).toList 0 : Int) = year
      rw [ofDigitChars_padded]
      omega
    · rw [String.toList_append]
      change (Nat.ofDigitChars 10 (padded 4 year.natAbs).toList 0 : Int) = year
      rw [ofDigitChars_padded]
      omega

/-- The nanoseconds that the fraction of a second writes. -/
def nanosOf (fraction : List Char) : Nat :=
  Nat.ofDigitChars 10 fraction.tail 0 * 10 ^ (9 - fraction.tail.length)

theorem nanosOf_point (width n : Nat) (hwidth : 0 < width) (h : n < 10 ^ width) :
    nanosOf ("." ++ padded width n).toList = n * 10 ^ (9 - width) := by
  have htail : ("." ++ padded width n).toList.tail = (padded width n).toList := by
    rw [String.toList_append]
    rfl
  rw [nanosOf, htail, ofDigitChars_padded, length_padded hwidth h]

theorem nanosOf_fractionText {nanos : Nat} (h : nanos < 1000000000) :
    nanosOf (fractionText nanos).toList = nanos := by
  rw [fractionText]
  split_ifs with hzero hmilli hmicro
  · rw [hzero]
    rfl
  · rw [nanosOf_point 3 _ (by decide) (by omega)]
    omega
  · rw [nanosOf_point 6 _ (by decide) (by omega)]
    omega
  · rw [nanosOf_point 9 _ (by decide) h]
    omega

/-! ### No part has the letter between date and time -/

theorem T_notMem_padded (width n : Nat) : 'T' ∉ (padded width n).toList := fun h =>
  absurd (isDigit_padded h) (by decide)

theorem T_notMem_yearText (year : Int) : 'T' ∉ (yearText year).toList := by
  rw [yearText]
  split_ifs <;> simp [T_notMem_padded]

theorem T_notMem_fractionText (nanos : Nat) : 'T' ∉ (fractionText nanos).toList := by
  rw [fractionText]
  split_ifs <;> simp [T_notMem_padded]

end Stamp

/-! ### Dates -/

namespace Date

/-- A date has a month from 1 to 12 and a day from 1 to 31. -/
theorem bounds_ofDays (n : Int) :
    (1 ≤ (ofDays n).month ∧ (ofDays n).month ≤ 12) ∧ 1 ≤ (ofDays n).day ∧ (ofDays n).day ≤ 31 := by
  have h₀ : 0 ≤ (n + 719468) % 146097 := by omega
  have h₁ : (n + 719468) % 146097 < 146097 := by omega
  obtain ⟨hd₀, hd₁⟩ := dayOfYear_bounds h₀ h₁
  obtain ⟨hm₀, hm₁⟩ := monthOfYear_bounds hd₀ hd₁
  rw [ofDays]
  generalize (n + 719468) % 146097 - daysBeforeYear (yearOfEra ((n + 719468) % 146097)) = day at *
  have hday : 0 ≤ day - daysBeforeMonth (monthOfYear day) ∧
      day - daysBeforeMonth (monthOfYear day) ≤ 30 := by
    unfold daysBeforeMonth monthOfYear
    omega
  unfold ofMarch
  split <;> exact ⟨by simp only; omega, by simp only; omega⟩

theorem ofDays_injective {m n : Int} (h : ofDays m = ofDays n) : m = n := by
  rw [← toDays_ofDays m, h, toDays_ofDays]

end Date

/-! ### Whole stamps -/

namespace Instant

open Stamp

/-- The characters of the date in a stamp. -/
def dateChars (date : Date) : List Char :=
  (yearText date.year).toList ++
    '-' :: ((padded 2 date.month.toNat).toList ++ '-' :: (padded 2 date.day.toNat).toList)

/-- The characters of the time of day in a stamp. -/
def clockChars (hour minute second nanos : Nat) : List Char :=
  (padded 2 hour).toList ++ ':' :: ((padded 2 minute).toList ++
    ':' :: ((padded 2 second).toList ++ ((fractionText nanos).toList ++ ['Z'])))

theorem toList_stamp (instant : Instant) : instant.stamp.toList =
    dateChars (.ofDays (instant.seconds / 86400)) ++ 'T' ::
      clockChars ((instant.seconds % 86400).toNat / 3600)
        ((instant.seconds % 86400).toNat / 60 % 60)
        ((instant.seconds % 86400).toNat % 60 + instant.nanos / 1000000000)
        (instant.nanos % 1000000000) := by
  simp [stamp, dateChars, clockChars]

theorem T_notMem_dateChars (date : Date) : 'T' ∉ dateChars date := by
  simp [dateChars, T_notMem_padded, T_notMem_yearText]

theorem T_notMem_clockChars (hour minute second nanos : Nat) :
    'T' ∉ clockChars hour minute second nanos := by
  simp [clockChars, T_notMem_padded, T_notMem_fractionText]

/-- Two days do not have the same date. -/
theorem dateChars_injective {m n : Int} (h : dateChars (.ofDays m) = dateChars (.ofDays n)) :
    m = n := by
  obtain ⟨hmonth, hday⟩ := Date.bounds_ofDays m
  obtain ⟨hmonth', hday'⟩ := Date.bounds_ofDays n
  refine Date.ofDays_injective ?_
  generalize Date.ofDays m = a at *
  generalize Date.ofDays n = b at *
  have hm : a.month.toNat < 10 ^ 2 := by omega
  have hm' : b.month.toNat < 10 ^ 2 := by omega
  have hd : a.day.toNat < 10 ^ 2 := by omega
  have hd' : b.day.toNat < 10 ^ 2 := by omega
  -- The year may be of any length, so the other parts are taken off from the end.
  obtain ⟨hyears, hrest⟩ := List.append_inj' h (by
    simp only [List.length_cons, List.length_append, length_padded, Nat.zero_lt_two, hm, hm', hd,
      hd'])
  obtain ⟨hmonths, hrest⟩ := padded_append_injective (by decide) hm hm' (List.cons.inj hrest).2
  have hdays := padded_injective (List.cons.inj hrest).2
  have hyear : a.year = b.year := by
    rw [← yearOf_yearText a.year, hyears, yearOf_yearText]
  have hmonth : a.month = b.month := by omega
  have hday : a.day = b.day := by omega
  cases a
  cases b
  simp only at hyear hmonth hday
  subst hyear hmonth hday
  rfl

/-- The parts of a time of day are read back from its characters. -/
theorem clockChars_injective {hour minute second nanos hour' minute' second' nanos' : Nat}
    (hhour : hour < 24 ∧ hour' < 24) (hminute : minute < 60 ∧ minute' < 60)
    (hsecond : second ≤ 60 ∧ second' ≤ 60) (hnanos : nanos < 1000000000 ∧ nanos' < 1000000000)
    (h : clockChars hour minute second nanos = clockChars hour' minute' second' nanos') :
    hour = hour' ∧ minute = minute' ∧ second = second' ∧ nanos = nanos' := by
  obtain ⟨hhours, h⟩ := padded_append_injective (by decide) (by omega) (by omega) h
  obtain ⟨hminutes, h⟩ := padded_append_injective (by decide) (by omega) (by omega)
    (List.cons.inj h).2
  obtain ⟨hseconds, h⟩ := padded_append_injective (by decide) (by omega) (by omega)
    (List.cons.inj h).2
  have hfractions := List.append_cancel_right h
  refine ⟨hhours, hminutes, hseconds, ?_⟩
  rw [← nanosOf_fractionText hnanos.1, hfractions, nanosOf_fractionText hnanos.2]

/-- **No two instants have the same time stamp.** -/
theorem stamp_injective {a b : Instant} (h : a.stamp = b.stamp) : a = b := by
  have hchars := congrArg String.toList h
  rw [toList_stamp, toList_stamp] at hchars
  obtain ⟨hdate, -, hclock⟩ := (List.append_cons_inj_of_notMem
    (T_notMem_dateChars _) (T_notMem_clockChars _ _ _ _)).1 hchars
  have hday := dateChars_injective hdate
  obtain ⟨seconds, nanos, hnanos, hleap⟩ := a
  obtain ⟨seconds', nanos', hnanos', hleap'⟩ := b
  simp only at hday hclock
  obtain ⟨hhour, hminute, hsecond, hfraction⟩ := clockChars_injective
    ⟨by omega, by omega⟩ ⟨by omega, by omega⟩ ⟨by omega, by omega⟩ ⟨by omega, by omega⟩ hclock
  obtain rfl : seconds = seconds' := by omega
  obtain rfl : nanos = nanos' := by omega
  rfl

end Instant

end ForumQuery
