import Mathlib

/-!
# The civil calendar

Dates of the proleptic Gregorian calendar against days counted from the epoch, 1 January 1970.
`dayNumber` and `civilDate` are inverse to each other on the dates that exist.
-/

namespace Scheduling

structure CivilDate where
  year : ℤ
  month : ℤ
  day : ℤ
  deriving DecidableEq

/-! ## Years and months -/

def isLeapYear (y : ℤ) : Bool := y % 4 = 0 ∧ (y % 100 ≠ 0 ∨ y % 400 = 0)

def monthLength (y m : ℤ) : ℤ :=
  if m = 2 then if isLeapYear y then 29 else 28
  else if m = 4 ∨ m = 6 ∨ m = 9 ∨ m = 11 then 30 else 31

/-- The day number of the first day of a year. -/
def daysBeforeYear (y : ℤ) : ℤ := 365 * (y - 1970) + (y - 1) / 4 - (y - 1) / 100 + (y - 1) / 400 - 477

/-- The days of a year before one of its months. -/
def daysBeforeMonth (y m : ℤ) : ℤ :=
  (367 * m - 362) / 12 + if m ≤ 2 then 0 else if isLeapYear y then -1 else -2

theorem daysBeforeYear_succ (y : ℤ) :
    daysBeforeYear (y + 1) = daysBeforeYear y + if isLeapYear y then 366 else 365 := by
  simp only [daysBeforeYear, isLeapYear, decide_eq_true_eq]
  split_ifs <;> omega

namespace CivilDate

/-! ## Counting days -/

/-- The date exists. -/
def Valid (c : CivilDate) : Prop :=
  1 ≤ c.month ∧ c.month ≤ 12 ∧ 1 ≤ c.day ∧ c.day ≤ monthLength c.year c.month

instance (c : CivilDate) : Decidable c.Valid :=
  inferInstanceAs (Decidable (_ ∧ _ ∧ _ ∧ _))

def dayNumber (c : CivilDate) : ℤ :=
  daysBeforeYear c.year + daysBeforeMonth c.year c.month + c.day - 1

variable {c : CivilDate}

/-- A date lies in its year. -/
theorem Valid.in_year (h : c.Valid) :
    daysBeforeYear c.year ≤ c.dayNumber ∧ c.dayNumber < daysBeforeYear (c.year + 1) := by
  obtain ⟨hm, hm', hd, hd'⟩ := h
  rw [daysBeforeYear_succ]
  simp only [dayNumber, daysBeforeMonth, monthLength] at *
  split_ifs at * <;> omega

theorem Valid.day_le (h : c.Valid) : c.day ≤ 31 := by
  obtain ⟨-, -, -, hd⟩ := h
  simp only [monthLength] at hd
  split_ifs at hd <;> omega

end CivilDate

/-! ## Reading a day number -/

/-- The year of a day: it is found from the mean length of a year, which is off by one at most. -/
def yearOf (n : ℤ) : ℤ :=
  let estimate := 400 * n / 146097 + 1970
  if n < daysBeforeYear estimate then estimate - 1
  else if daysBeforeYear (estimate + 1) ≤ n then estimate + 1 else estimate

/-- The date of a day. -/
def civilDate (n : ℤ) : CivilDate :=
  let year := yearOf n
  let dayOfYear := n - daysBeforeYear year
  let correction :=
    if dayOfYear < daysBeforeMonth year 3 then 0 else if isLeapYear year then 1 else 2
  let month := (12 * (dayOfYear + correction) + 373) / 367
  ⟨year, month, dayOfYear - daysBeforeMonth year month + 1⟩

theorem yearOf_spec (n : ℤ) : daysBeforeYear (yearOf n) ≤ n ∧ n < daysBeforeYear (yearOf n + 1) := by
  simp only [yearOf]
  have hlow : daysBeforeYear (400 * n / 146097 + 1970 - 1) ≤ n := by
    simp only [daysBeforeYear]
    omega
  have hhigh : n < daysBeforeYear (400 * n / 146097 + 1970 + 1 + 1) := by
    simp only [daysBeforeYear]
    omega
  split_ifs with h h'
  · exact ⟨hlow, by rwa [Int.sub_add_cancel]⟩
  · exact ⟨h', hhigh⟩
  · exact ⟨not_lt.mp h, not_le.mp h'⟩

theorem daysBeforeYear_strictMono : StrictMono daysBeforeYear := by
  apply strictMono_int_of_lt_succ
  intro y
  rw [daysBeforeYear_succ]
  split_ifs <;> omega

theorem yearOf_eq {n y : ℤ} (h : daysBeforeYear y ≤ n) (h' : n < daysBeforeYear (y + 1)) :
    yearOf n = y := by
  obtain ⟨hspec, hspec'⟩ := yearOf_spec n
  have hle := daysBeforeYear_strictMono.lt_iff_lt.mp (hspec.trans_lt h')
  have hge := daysBeforeYear_strictMono.lt_iff_lt.mp (h.trans_lt hspec')
  omega

@[simp] theorem dayNumber_civilDate (n : ℤ) : (civilDate n).dayNumber = n := by
  simp only [CivilDate.dayNumber, civilDate]
  omega

/-- The month of the `k`-th day of a year. -/
theorem monthOf_spec {y k : ℤ} (h : 0 ≤ k) (h' : k < if isLeapYear y then 366 else 365) :
    let month := (12 * (k + if k < daysBeforeMonth y 3 then 0 else if isLeapYear y then 1 else 2)
      + 373) / 367
    1 ≤ month ∧ month ≤ 12 ∧ daysBeforeMonth y month ≤ k ∧
      k < daysBeforeMonth y month + monthLength y month := by
  intro month
  have hthree : daysBeforeMonth y 3 = if isLeapYear y then 60 else 59 := by
    cases hleap : isLeapYear y <;> simp [daysBeforeMonth, hleap]
  have hmonth : 1 ≤ month ∧ month ≤ 12 ∧ 367 * month ≤ 12 * (k +
      if k < daysBeforeMonth y 3 then 0 else if isLeapYear y then 1 else 2) + 373 ∧
      12 * (k + if k < daysBeforeMonth y 3 then 0 else if isLeapYear y then 1 else 2) + 373 <
        367 * month + 367 := by
    simp only [month]
    rw [hthree] at *
    split_ifs at * <;> omega
  generalize month = m at *
  obtain ⟨hlow, hhigh, hbelow, habove⟩ := hmonth
  refine ⟨hlow, hhigh, ?_⟩
  rw [hthree] at hbelow habove
  cases hleap : isLeapYear y <;>
    simp only [hleap, if_true, if_false, Bool.false_eq_true] at h' hbelow habove <;>
    interval_cases m <;> simp [daysBeforeMonth, monthLength, hleap] <;>
    split_ifs at hbelow habove <;> omega

theorem valid_civilDate (n : ℤ) : (civilDate n).Valid := by
  obtain ⟨hlow, hhigh⟩ := yearOf_spec n
  rw [daysBeforeYear_succ] at hhigh
  obtain ⟨hm, hm', hd, hd'⟩ := monthOf_spec (y := yearOf n) (k := n - daysBeforeYear (yearOf n))
    (by omega) (by omega)
  simp only [CivilDate.Valid, civilDate]
  exact ⟨hm, hm', by omega, by omega⟩

theorem daysBeforeMonth_lt {y m m' : ℤ} (hm : 1 ≤ m) (hm' : m' ≤ 12) (h : m < m') :
    daysBeforeMonth y m + monthLength y m ≤ daysBeforeMonth y m' := by
  have hlt : m < 12 := by omega
  cases hleap : isLeapYear y <;> interval_cases m <;> interval_cases m' <;>
    simp [daysBeforeMonth, monthLength, hleap]

/-- A day number has one date. -/
theorem CivilDate.Valid.eq_of_dayNumber {c c' : CivilDate} (h : c.Valid) (h' : c'.Valid)
    (heq : c.dayNumber = c'.dayNumber) : c = c' := by
  obtain ⟨hlow, hhigh⟩ := h.in_year
  obtain ⟨hlow', hhigh'⟩ := h'.in_year
  have hyear : c.year = c'.year := by
    rw [← yearOf_eq hlow hhigh, heq, yearOf_eq hlow' hhigh']
  obtain ⟨hm₁, hm₂, hd₁, hd₂⟩ := h
  obtain ⟨hm₁', hm₂', hd₁', hd₂'⟩ := h'
  simp only [dayNumber, hyear] at heq
  rw [hyear] at hd₂
  have hmonth : c.month = c'.month := by
    rcases lt_trichotomy c.month c'.month with hlt | heq' | hlt
    · have := daysBeforeMonth_lt (y := c'.year) hm₁ hm₂' hlt
      omega
    · exact heq'
    · have := daysBeforeMonth_lt (y := c'.year) hm₁' hm₂ hlt
      omega
  have hday : c.day = c'.day := by
    rw [hmonth] at heq
    omega
  cases c
  cases c'
  simp only [mk.injEq]
  exact ⟨hyear, hmonth, hday⟩

@[simp] theorem civilDate_dayNumber {c : CivilDate} (h : c.Valid) : civilDate c.dayNumber = c :=
  (valid_civilDate _).eq_of_dayNumber h (dayNumber_civilDate _)

end Scheduling
