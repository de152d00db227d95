/-
The Gregorian calendar, extended to all years, and its days counted from
1970-01-01.

A year is taken to begin in March, so that the day a leap year adds is its last
one.  Then 400 years have 146097 days, and all but the last day of each span of
100 years, of 4 years and of one year fall into spans of equal length: the days
of a date are found by division, with the last day of each span held back.
-/
import Mathlib

namespace Calendar

structure Date where
  year : Int
  month : Int
  day : Int
  deriving DecidableEq

/-- The parts of a day within 400 years: the century, the span of four years in it, the year in
that and the day of the year. -/
structure Parts where
  century : Int
  quad : Int
  year : Int
  day : Int

def parts (doe : Int) : Parts :=
  let century := min (doe / 36524) 3
  let doc := doe - 36524 * century
  let doq := doc % 1461
  let year := min (doq / 365) 3
  { century := century, quad := doc / 1461, year := year, day := doq - 365 * year }

/-- The date of a day. -/
def Date.ofDays (z : Int) : Date :=
  let p := parts ((z + 719468) % 146097)
  let year := 400 * ((z + 719468) / 146097) + 100 * p.century + 4 * p.quad + p.year
  -- months are counted from March, five of them to 153 days
  let mp := (5 * p.day + 2) / 153
  { year := if mp < 10 then year else year + 1
    month := if mp < 10 then mp + 3 else mp - 9
    day := p.day - (153 * mp + 2) / 5 + 1 }

/-- The day of a date. -/
def Date.toDays (d : Date) : Int :=
  let year := if d.month ≤ 2 then d.year - 1 else d.year
  let mp := if d.month ≤ 2 then d.month + 9 else d.month - 3
  let yoe := year % 400
  146097 * (year / 400) + (365 * yoe + yoe / 4 - yoe / 100) + ((153 * mp + 2) / 5 + d.day - 1) -
    719468

/-- A date that is in the calendar. -/
def Date.Valid (d : Date) : Prop := ofDays d.toDays = d

instance (d : Date) : Decidable d.Valid := inferInstanceAs (Decidable (_ = _))

section

variable {doe : Int}

theorem parts_bounds (h₀ : 0 ≤ doe) (h₁ : doe < 146097) :
    (0 ≤ (parts doe).century ∧ (parts doe).century ≤ 3) ∧
      (0 ≤ (parts doe).quad ∧ (parts doe).quad ≤ 24) ∧
      (0 ≤ (parts doe).year ∧ (parts doe).year ≤ 3) ∧
      0 ≤ (parts doe).day ∧ (parts doe).day ≤ 365 := by
  simp only [parts]
  have hc : 0 ≤ min (doe / 36524) 3 ∧ min (doe / 36524) 3 ≤ 3 := by omega
  have hd : 0 ≤ doe - 36524 * min (doe / 36524) 3 ∧ doe - 36524 * min (doe / 36524) 3 ≤ 36524 := by
    omega
  generalize min (doe / 36524) 3 = c at *
  generalize doe - 36524 * c = doc at *
  refine ⟨hc, ?_, ?_, ?_⟩ <;> omega

/-- The parts make up the day again. -/
theorem parts_sum (doe : Int) :
    36524 * (parts doe).century + 1461 * (parts doe).quad + 365 * (parts doe).year +
      (parts doe).day = doe := by
  simp only [parts]
  generalize min (doe / 36524) 3 = c
  omega

end

theorem toDays_ofDays (z : Int) : (Date.ofDays z).toDays = z := by
  have h₀ : 0 ≤ (z + 719468) % 146097 := by omega
  have h₁ : (z + 719468) % 146097 < 146097 := by omega
  have hera : 146097 * ((z + 719468) / 146097) + (z + 719468) % 146097 = z + 719468 := by omega
  obtain ⟨hc, hq, hy, hd⟩ := parts_bounds h₀ h₁
  have hsum := parts_sum ((z + 719468) % 146097)
  unfold Date.ofDays Date.toDays
  simp only
  generalize (z + 719468) % 146097 = doe at *
  generalize (z + 719468) / 146097 = era at *
  generalize parts doe = p at *
  obtain ⟨c, q, y, d⟩ := p
  simp only at *
  -- the month and the year counted from March are found again
  have hmp : 0 ≤ (5 * d + 2) / 153 ∧ (5 * d + 2) / 153 ≤ 11 := by omega
  generalize (5 * d + 2) / 153 = mp at *
  have hmonth : (if (if mp < 10 then mp + 3 else mp - 9) ≤ 2 then
      (if mp < 10 then mp + 3 else mp - 9) + 9 else (if mp < 10 then mp + 3 else mp - 9) - 3) =
      mp := by
    split <;> split <;> omega
  have hyear : (if (if mp < 10 then mp + 3 else mp - 9) ≤ 2 then
      (if mp < 10 then 400 * era + 100 * c + 4 * q + y else 400 * era + 100 * c + 4 * q + y + 1) - 1
      else if mp < 10 then 400 * era + 100 * c + 4 * q + y
        else 400 * era + 100 * c + 4 * q + y + 1) = 400 * era + 100 * c + 4 * q + y := by
    split <;> split <;> omega
  rw [hmonth, hyear]
  have hyoe : (400 * era + 100 * c + 4 * q + y) % 400 = 100 * c + 4 * q + y := by omega
  have hera' : (400 * era + 100 * c + 4 * q + y) / 400 = era := by omega
  have hquad : (100 * c + 4 * q + y) / 4 = 25 * c + q := by omega
  have hcentury : (100 * c + 4 * q + y) / 100 = c := by omega
  rw [hyoe, hera', hquad, hcentury]
  omega

theorem ofDays_valid (z : Int) : (Date.ofDays z).Valid := by
  unfold Date.Valid
  rw [toDays_ofDays]

theorem ofDays_bounds (z : Int) :
    (1 ≤ (Date.ofDays z).month ∧ (Date.ofDays z).month ≤ 12) ∧
      1 ≤ (Date.ofDays z).day ∧ (Date.ofDays z).day ≤ 31 := by
  have h₀ : 0 ≤ (z + 719468) % 146097 := by omega
  have h₁ : (z + 719468) % 146097 < 146097 := by omega
  obtain ⟨-, -, -, hd⟩ := parts_bounds h₀ h₁
  unfold Date.ofDays
  simp only
  generalize parts ((z + 719468) % 146097) = p at *
  obtain ⟨c, q, y, d⟩ := p
  simp only at *
  refine ⟨?_, ?_⟩
  · split <;> omega
  · omega

example : Date.ofDays 0 = ⟨1970, 1, 1⟩ ∧ Date.ofDays 19782 = ⟨2024, 2, 29⟩ ∧
    ¬(⟨2023, 2, 29⟩ : Date).Valid := by decide

end Calendar
