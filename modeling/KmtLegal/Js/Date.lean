import KmtLegal.Scheduling.Civil

/-!
# JavaScript dates

A date is a number of milliseconds since the epoch.
-/

namespace KmtLegal.Js

open Scheduling

/-- `date.getUTCFullYear()`: the year of a day count in the proleptic Gregorian calendar, counted
in eras of 400 years that begin on a first of March. -/
def utcFullYear (t : ℤ) : ℤ :=
  let days := t / 86400000 + 719468
  let era := days / 146097
  let dayOfEra := days % 146097
  let yearOfEra := (dayOfEra - dayOfEra / 1460 + dayOfEra / 36524 - dayOfEra / 146096) / 365
  let dayOfYear := dayOfEra - (365 * yearOfEra + yearOfEra / 4 - yearOfEra / 100)
  let marchBased := yearOfEra + era * 400
  -- January and February belong to the year that began with the March before them
  if (5 * dayOfYear + 2) / 153 < 10 then marchBased else marchBased + 1

example : [951868799999, 1767225599999, 1767225600000].map utcFullYear = [2000, 2025, 2026] := by
  decide

/-- The parts of a date and time of day. -/
structure DateParts where
  date : CivilDate
  hour : ℤ
  minute : ℤ
  deriving DecidableEq

/-- `date.getUTCFullYear()` to `date.getUTCMinutes()`. -/
def utcParts (t : ℤ) : DateParts :=
  ⟨civilDate (t / 86400000), t % 86400000 / 3600000, t % 3600000 / 60000⟩

/-- `Date.UTC(year, month - 1, day, hour, minute)`.  Years of one or two digits are those of the
twentieth century, and a month or a day that does not exist is counted on from one that does. -/
def dateUTC (p : DateParts) : ℤ :=
  let year := if 0 ≤ p.date.year ∧ p.date.year ≤ 99 then 1900 + p.date.year else p.date.year
  let month := p.date.month - 1
  ((CivilDate.mk (year + month / 12) (month % 12 + 1) 1).dayNumber + (p.date.day - 1)) * 86400000 +
    p.hour * 3600000 + p.minute * 60000

/-- From the year 100 on the parts of a date are read as they stand. -/
theorem dateUTC_of_valid {p : DateParts} (h : p.date.Valid) (hyear : 100 ≤ p.date.year) :
    dateUTC p = p.date.dayNumber * 86400000 + p.hour * 3600000 + p.minute * 60000 := by
  obtain ⟨hm, hm', -⟩ := h
  have hdiv : (p.date.month - 1) / 12 = 0 := by omega
  have hmod : (p.date.month - 1) % 12 + 1 = p.date.month := by omega
  simp only [dateUTC, hdiv, hmod, add_zero, CivilDate.dayNumber]
  rw [if_neg (by omega)]
  omega

/-- No date is read as one before the year 100. -/
theorem le_dateUTC {p : DateParts} (hm : 1 ≤ p.date.month) (hm' : p.date.month ≤ 12)
    (hd : 1 ≤ p.date.day) (hyear : 0 ≤ p.date.year) (hhour : 0 ≤ p.hour) (hminute : 0 ≤ p.minute) :
    daysBeforeYear 100 * 86400000 ≤ dateUTC p := by
  have hdiv : (p.date.month - 1) / 12 = 0 := by omega
  have hmod : (p.date.month - 1) % 12 + 1 = p.date.month := by omega
  have hmonth : 0 ≤ daysBeforeMonth (if 0 ≤ p.date.year ∧ p.date.year ≤ 99 then
      1900 + p.date.year else p.date.year) p.date.month := by
    simp only [daysBeforeMonth]
    split_ifs <;> omega
  have hyears : daysBeforeYear 100 ≤ daysBeforeYear (if 0 ≤ p.date.year ∧ p.date.year ≤ 99 then
      1900 + p.date.year else p.date.year) := by
    apply daysBeforeYear_strictMono.monotone
    split_ifs <;> omega
  simp only [dateUTC, hdiv, hmod, add_zero, CivilDate.dayNumber]
  omega

example : (utcParts 1793306100000).date = ⟨2026, 10, 29⟩ ∧
    dateUTC ⟨⟨50, 2, 30⟩, 0, 0⟩ = dateUTC ⟨⟨1950, 3, 2⟩, 0, 0⟩ := by
  decide

end KmtLegal.Js
