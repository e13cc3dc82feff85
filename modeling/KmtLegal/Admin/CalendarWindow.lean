import KmtLegal.Admin.Calendar
import KmtLegal.Consultations.WallTimes

/-!
# The window of the calendar

`calendarWindow` of `case-operations-service.ts` turns two dates into the instants at which they
begin in Cairo.  It asks for midnight; on the day in spring on which clocks go from midnight to one
there is none.
-/

namespace KmtLegal

open Relational Scheduling Js

/-! ## The rule of Cairo -/

/-- Clocks that change at midnight: `summer d` says whether day `d` is kept on summer time, once
midnight has passed.  When summer time begins they skip from midnight to one, and when it ends they
go back from midnight to eleven of the day that was about to end. -/
def cairoRule (summer : ℤ → Bool) : Zone where
  offset t :=
    let day := (t + 7200000) / dayLength
    if t < (day + 1) * dayLength - 10800000 then if summer day then 10800000 else 7200000
    else if summer day ∧ summer (day + 1) then 10800000 else 7200000

/-- The day on which clocks skip midnight. -/
def IsSpringDay (summer : ℤ → Bool) (day : ℤ) : Prop := summer day ∧ ¬summer (day - 1)

instance (summer : ℤ → Bool) (day : ℤ) : Decidable (IsSpringDay summer day) :=
  inferInstanceAs (Decidable (_ ∧ _))

/-- The first instant of a day. -/
def dayStart (summer : ℤ → Bool) (day : ℤ) : ℤ :=
  day * dayLength - if summer (day - 1) ∧ summer day then 10800000 else 7200000

section

variable {summer : ℤ → Bool}

theorem cairoRule_twoOrThree : TwoOrThree (cairoRule summer) := by
  intro t
  simp only [cairoRule]
  split_ifs <;> first | exact .inl rfl | exact .inr rfl

theorem dayStart_strictMono : StrictMono (dayStart summer) := by
  apply strictMono_int_of_lt_succ
  intro day
  simp only [dayStart, dayLength]
  split_ifs <;> omega

/-- A day lasts from its first instant to that of the next. -/
theorem dayStart_date (summer : ℤ → Bool) (t : ℤ) :
    dayStart summer ((cairoRule summer).date t) ≤ t ∧
      t < dayStart summer ((cairoRule summer).date t + 1) := by
  have hlow : (t + 7200000) / dayLength * dayLength ≤ t + 7200000 := by
    simp only [dayLength]
    omega
  have hhigh : t + 7200000 < ((t + 7200000) / dayLength + 1) * dayLength := by
    simp only [dayLength]
    omega
  simp only [Zone.date, Zone.clock, cairoRule]
  generalize (t + 7200000) / dayLength = day at *
  split_ifs with hmain hsummer hboth
  · have hdate : (t + 10800000) / dayLength = day := by
      simp only [dayLength] at *
      omega
    rw [hdate]
    simp only [dayStart, dayLength, add_sub_cancel_right] at *
    split_ifs <;> omega
  · have hdate : (t + 7200000) / dayLength = day := by
      simp only [dayLength] at *
      omega
    rw [hdate]
    simp only [dayStart, dayLength, add_sub_cancel_right] at *
    split_ifs <;> omega
  · have hdate : (t + 10800000) / dayLength = day + 1 := by
      simp only [dayLength] at *
      omega
    rw [hdate]
    simp only [dayStart, dayLength, add_sub_cancel_right, if_pos hboth] at *
    split_ifs <;> omega
  · have hdate : (t + 7200000) / dayLength = day := by
      simp only [dayLength] at *
      omega
    rw [hdate]
    simp only [dayStart, dayLength, add_sub_cancel_right, if_neg hboth] at *
    split_ifs <;> omega

theorem date_eq_iff {t day : ℤ} :
    (cairoRule summer).date t = day ↔ dayStart summer day ≤ t ∧ t < dayStart summer (day + 1) := by
  constructor
  · rintro rfl
    exact dayStart_date summer t
  · rintro ⟨hlow, hhigh⟩
    obtain ⟨hlow', hhigh'⟩ := dayStart_date summer t
    have hle := dayStart_strictMono.lt_iff_lt.mp (hlow.trans_lt hhigh')
    have hge := dayStart_strictMono.lt_iff_lt.mp (hlow'.trans_lt hhigh)
    omega

theorem isLeast_dayStart (summer : ℤ → Bool) (day : ℤ) :
    IsLeast {t | (cairoRule summer).date t = day} (dayStart summer day) :=
  ⟨date_eq_iff.mpr ⟨le_rfl, dayStart_strictMono (lt_add_one day)⟩, fun _ ht ↦ (date_eq_iff.mp ht).1⟩

/-- `t` lies between the first instants of a day and of the next. -/
def InDay (Z : Zone) (day t : ℤ) : Prop :=
  ∃ start stop, IsLeast {t | Z.date t = day} start ∧ IsLeast {t | Z.date t = day + 1} stop ∧
    start ≤ t ∧ t < stop

/-- The windows of the days partition time. -/
theorem existsUnique_inDay (t : ℤ) : ∃! day, InDay (cairoRule summer) day t := by
  obtain ⟨hlow, hhigh⟩ := dayStart_date summer t
  refine ⟨(cairoRule summer).date t, ⟨_, _, isLeast_dayStart summer _, isLeast_dayStart summer _,
    hlow, hhigh⟩, ?_⟩
  rintro day ⟨start, stop, hstart, hstop, hle, hlt⟩
  rw [hstart.unique (isLeast_dayStart summer _)] at hle
  rw [hstop.unique (isLeast_dayStart summer _)] at hlt
  exact (date_eq_iff.mpr ⟨hle, hlt⟩).symm

/-- The clocks of a day from two hours before its midnight, universal time. -/
theorem offset_day {day t : ℤ} (h : day * dayLength - 7200000 ≤ t)
    (h' : t < (day + 1) * dayLength - 10800000) :
    (cairoRule summer).offset t = if summer day then 10800000 else 7200000 := by
  have hday : (t + 7200000) / dayLength = day := by
    simp only [dayLength] at *
    omega
  simp only [cairoRule, hday, if_pos h']

/-- The hour in which summer time ends or goes on. -/
theorem offset_lastHour {day t : ℤ} (h : (day + 1) * dayLength - 10800000 ≤ t)
    (h' : t < (day + 1) * dayLength - 7200000) :
    (cairoRule summer).offset t =
      if summer day ∧ summer (day + 1) then 10800000 else 7200000 := by
  have hday : (t + 7200000) / dayLength = day := by
    simp only [dayLength] at *
    omega
  simp only [cairoRule, hday, if_neg (not_lt.mpr h)]

/-- What the clocks show when a day begins. -/
theorem clock_dayStart (summer : ℤ → Bool) (day : ℤ) :
    (cairoRule summer).clock (dayStart summer day) =
      day * dayLength + if IsSpringDay summer day then 3600000 else 0 := by
  simp only [Zone.clock]
  by_cases hboth : summer (day - 1) ∧ summer day
  · have hstart : dayStart summer day = day * dayLength - 10800000 := by
      simp only [dayStart, if_pos hboth]
    have hoffset := @offset_lastHour summer (day - 1) (day * dayLength - 10800000)
      (by simp only [dayLength]; omega) (by simp only [dayLength]; omega)
    rw [hstart, hoffset, sub_add_cancel, if_pos hboth, if_neg fun h ↦ h.2 hboth.1]
    omega
  · have hstart : dayStart summer day = day * dayLength - 7200000 := by
      simp only [dayStart, if_neg hboth]
    rw [hstart, offset_day le_rfl (by simp only [dayLength]; omega)]
    by_cases hnow : summer day
    · rw [if_pos hnow, if_pos ⟨hnow, fun h ↦ hboth ⟨h, hnow⟩⟩]
      omega
    · rw [if_neg hnow, if_neg fun h ↦ hnow h.1]
      omega

end

/-! ## The window -/

/-- What a text for a date says: its digits if it has the form of a date, `none` for any other. -/
abbrev DateText := Option CivilDate

/-- `formatCairoDateInput(value)`; the year is not padded to four digits. -/
def formatCairoDateInput (Z : Zone) (value : ℤ) : DateText :=
  let date := civilDate (Z.date value)
  if 1000 ≤ date.year ∧ date.year ≤ 9999 then some date else none

/-- `addCairoDateInputDays(value, days)`; a year of five digits is written but no date text. -/
def addCairoDateInputDays (value : DateText) (days : ℤ) : DateText :=
  value.bind fun date ↦
    let ordinal := dateUTC ⟨date, 0, 0⟩
    let sum := civilDate (ordinal / 86400000 + days)
    if (utcParts ordinal).date = date ∧ sum.year ≤ 9999 then some sum else none

/-- `cairoCalendarBoundary(value, fieldName)`. -/
def cairoCalendarBoundary (Z : Zone) (value : DateText) (fieldName : String) : Except Failure ℤ :=
  orThrow (value.bind fun date ↦ WallTime.cairoLocalDateTimeToIso Z ⟨date, 0, 0⟩)
    (.of 400 .validationError (fieldName ++ " is invalid."))

/-- `calendarWindow(filters, now)`; `none` stands for a filter that is absent or empty. -/
def calendarWindow (Z : Zone) (fromFilter toFilter : Option DateText) (now : ℤ) :
    Except Failure (ℤ × ℤ) := do
  let fromInput := fromFilter.getD (formatCairoDateInput Z now)
  let toInput := toFilter.getD (addCairoDateInputDays fromInput 30)
  let start ← cairoCalendarBoundary Z fromInput "from"
  let stop ← cairoCalendarBoundary Z toInput "to"
  throwIf (stop ≤ start)
    (.of 400 .validationError "Calendar end date must be after start date.")
  return (start, stop)

section

variable {summer : ℤ → Bool} {date : CivilDate}

theorem year_le_of_lt {date date' : CivilDate} (h : date.Valid) (h' : date'.Valid)
    (hlt : date.dayNumber ≤ date'.dayNumber) : date.year ≤ date'.year := by
  by_contra hyear
  have hmono := daysBeforeYear_strictMono.monotone (show date'.year + 1 ≤ date.year by omega)
  have hin := h.in_year.1
  have hin' := h'.in_year.2
  omega

/-- A date of the years from 100 on is read off the clocks where they show it. -/
theorem read_on_date {t : ℤ} (hvalid : date.Valid) (hyear : 100 ≤ date.year)
    (ht : (cairoRule summer).date t = date.dayNumber)
    (hmod : (cairoRule summer).clock t % minuteLength = 0) :
    WallTime.cairoLocalOrdinal (cairoRule summer) t = (cairoRule summer).clock t := by
  rw [WallTime.cairoLocalOrdinal, WallTime.dateUTC_formatToParts,
    Int.ediv_mul_cancel (Int.dvd_of_emod_eq_zero hmod)]
  rw [ht]
  exact (daysBeforeYear_strictMono.monotone hyear).trans hvalid.in_year.1

theorem dateUTC_midnight (hvalid : date.Valid) (hyear : 100 ≤ date.year) :
    dateUTC ⟨date, 0, 0⟩ = date.dayNumber * dayLength := by
  rw [dateUTC_of_valid hvalid hyear]
  simp only [dayLength]
  omega

theorem utcParts_midnight (hvalid : date.Valid) :
    utcParts (date.dayNumber * dayLength) = ⟨date, 0, 0⟩ := by
  have hday : date.dayNumber * dayLength / 86400000 = date.dayNumber := by
    simp only [dayLength]
    omega
  simp only [utcParts, hday, civilDate_dayNumber hvalid, DateParts.mk.injEq, true_and]
  simp only [dayLength]
  omega

/-- The first correction of midnight is the first instant of a day that has a midnight. -/
theorem midnight_of_not_spring (hvalid : date.Valid) (hyear : 100 ≤ date.year)
    (hyear' : date.year ≤ 9999) (hspring : ¬IsSpringDay summer date.dayNumber) :
    WallTime.cairoLocalDateTimeToIso (cairoRule summer) ⟨date, 0, 0⟩ =
      some (dayStart summer date.dayNumber) := by
  have hclock := clock_dayStart summer date.dayNumber
  rw [if_neg hspring, add_zero] at hclock
  have hoffset := @offset_day summer date.dayNumber (date.dayNumber * dayLength) (by omega)
    (by simp only [dayLength]; omega)
  have hnoon : (cairoRule summer).date (date.dayNumber * dayLength) = date.dayNumber := by
    simp only [Zone.date, Zone.clock, hoffset]
    simp only [dayLength]
    split_ifs <;> omega
  have hstart : date.dayNumber * dayLength - (cairoRule summer).offset (date.dayNumber * dayLength) =
      dayStart summer date.dayNumber := by
    rw [hoffset, dayStart]
    by_cases hnow : summer date.dayNumber
    · have hbefore : summer (date.dayNumber - 1) := by
        by_contra hbefore
        exact hspring ⟨hnow, hbefore⟩
      simp only [hnow, hbefore, and_self, if_true]
    · simp only [hnow, and_false, if_false, Bool.false_eq_true]
  have hread : WallTime.cairoLocalOrdinal (cairoRule summer) (date.dayNumber * dayLength) =
      date.dayNumber * dayLength + (cairoRule summer).offset (date.dayNumber * dayLength) := by
    refine read_on_date hvalid hyear hnoon ?_
    simp only [Zone.clock, hoffset]
    simp only [dayLength, minuteLength]
    split_ifs <;> omega
  have hread' : WallTime.cairoLocalOrdinal (cairoRule summer) (dayStart summer date.dayNumber) =
      date.dayNumber * dayLength := by
    rw [read_on_date hvalid hyear (isLeast_dayStart summer _).1, hclock]
    rw [hclock]
    simp only [dayLength, minuteLength]
    omega
  have hnonzero : (cairoRule summer).offset (date.dayNumber * dayLength) ≠ 0 := by
    rw [hoffset]
    split_ifs <;> decide
  have hcorrect : WallTime.correct (cairoRule summer) (date.dayNumber * dayLength) 4
      (date.dayNumber * dayLength) = dayStart summer date.dayNumber := by
    have hguess : date.dayNumber * dayLength + (date.dayNumber * dayLength -
        WallTime.cairoLocalOrdinal (cairoRule summer) (date.dayNumber * dayLength)) =
        dayStart summer date.dayNumber := by
      rw [hread, ← hstart]
      omega
    rw [WallTime.correct]
    simp only [hguess]
    rw [if_neg (by rw [hread]; omega), WallTime.correct]
    simp only [hread', sub_self, if_true, add_zero]
  simp only [WallTime.cairoLocalDateTimeToIso, dateUTC_midnight hvalid hyear,
    utcParts_midnight hvalid, hcorrect, hread', and_true]
  exact if_pos ⟨by omega, hyear'⟩

/-- The clocks never show midnight on the day they skip it, so its first instant is not found. -/
theorem midnight_of_spring (hvalid : date.Valid) (hyear : 100 ≤ date.year)
    (hspring : IsSpringDay summer date.dayNumber) :
    WallTime.cairoLocalDateTimeToIso (cairoRule summer) ⟨date, 0, 0⟩ ≠
      some (dayStart summer date.dayNumber) := by
  intro h
  have hclock := clock_dayStart summer date.dayNumber
  rw [if_pos hspring] at hclock
  simp only [WallTime.cairoLocalDateTimeToIso] at h
  split_ifs at h with hfound
  obtain ⟨-, -, hshown⟩ := hfound
  rw [Option.some.inj h, dateUTC_midnight hvalid hyear,
    read_on_date hvalid hyear (isLeast_dayStart summer _).1, hclock] at hshown
  · omega
  · rw [hclock]
    simp only [dayLength, minuteLength]
    omega

/-- Midnight is found as the first instant of a date exactly if the clocks show it, from the year
100 to the year 9999. -/
theorem midnight_iff (hvalid : date.Valid) (hyear : 0 ≤ date.year) :
    WallTime.cairoLocalDateTimeToIso (cairoRule summer) ⟨date, 0, 0⟩ =
        some (dayStart summer date.dayNumber) ↔
      100 ≤ date.year ∧ date.year ≤ 9999 ∧ ¬IsSpringDay summer date.dayNumber := by
  constructor
  · intro h
    have hcentury : 100 ≤ date.year := by
      by_contra hlt
      have hearly := @WallTime.cairoLocalDateTimeToIso_early (cairoRule summer) date 0 hvalid hyear
        (not_le.mp hlt)
      cases hearly.symm.trans h
    refine ⟨hcentury, ?_, fun hspring ↦ midnight_of_spring hvalid hcentury hspring h⟩
    simp only [WallTime.cairoLocalDateTimeToIso] at h
    split_ifs at h with hfound
    exact hfound.1.2
  · rintro ⟨hcentury, hyear', hspring⟩
    exact midnight_of_not_spring hvalid hcentury hyear' hspring

theorem addCairoDateInputDays_eq (hvalid : date.Valid) (hyear : 100 ≤ date.year) (days : ℤ) :
    addCairoDateInputDays (some date) days =
      if (civilDate (date.dayNumber + days)).year ≤ 9999 then
        some (civilDate (date.dayNumber + days))
      else none := by
  have hday : date.dayNumber * dayLength / 86400000 = date.dayNumber := by
    simp only [dayLength]
    omega
  simp only [addCairoDateInputDays, Option.bind_some, dateUTC_midnight hvalid hyear,
    utcParts_midnight hvalid, hday, true_and]

end

/-! ## Every day -/

/-- The date from which the calendar is asked for. -/
def askedFrom (Z : Zone) (fromFilter : Option CivilDate) (now : ℤ) : CivilDate :=
  fromFilter.getD (civilDate (Z.date now))

/-- The date until which it is asked for. -/
def askedTo (Z : Zone) (fromFilter toFilter : Option CivilDate) (now : ℤ) : CivilDate :=
  toFilter.getD (civilDate ((askedFrom Z fromFilter now).dayNumber + 30))

/-- The calendar opens on the dates asked for: from the first instant of one to that of the other. -/
def Opens (Z : Zone) (fromFilter toFilter : Option CivilDate) (now : ℤ) : Prop :=
  ∃ start stop, calendarWindow Z (fromFilter.map some) (toFilter.map some) now = .ok (start, stop) ∧
    start < stop ∧ IsLeast {t | Z.date t = (askedFrom Z fromFilter now).dayNumber} start ∧
    IsLeast {t | Z.date t = (askedTo Z fromFilter toFilter now).dayNumber} stop

section

variable {summer : ℤ → Bool} {fromFilter toFilter : Option CivilDate} {now : ℤ}

theorem calendarWindow_eq_ok {Z : Zone} {fromFilter toFilter : Option DateText} {start stop : ℤ} :
    calendarWindow Z fromFilter toFilter now = .ok (start, stop) ↔
      ((fromFilter.getD (formatCairoDateInput Z now)).bind fun date ↦
        WallTime.cairoLocalDateTimeToIso Z ⟨date, 0, 0⟩) = some start ∧
      ((toFilter.getD (addCairoDateInputDays (fromFilter.getD (formatCairoDateInput Z now)) 30)).bind
        fun date ↦ WallTime.cairoLocalDateTimeToIso Z ⟨date, 0, 0⟩) = some stop ∧ start < stop := by
  simp only [calendarWindow, cairoCalendarBoundary, bind_eq_ok, orThrow_eq_ok, throwIf_eq_ok,
    pure_eq_ok, not_le]
  constructor
  · rintro ⟨_, hstart, _, hstop, _, hlt, h⟩
    cases h
    exact ⟨hstart, hstop, hlt⟩
  · rintro ⟨hstart, hstop, hlt⟩
    exact ⟨start, hstart, stop, hstop, (), hlt, rfl⟩

/-- The date the calendar begins with is the one asked for, if its year has four digits. -/
theorem fromInput_eq {date : CivilDate} :
    (fromFilter.map some).getD (formatCairoDateInput (cairoRule summer) now) = some date ↔
      askedFrom (cairoRule summer) fromFilter now = date ∧
        (fromFilter = none → 1000 ≤ date.year ∧ date.year ≤ 9999) := by
  cases fromFilter with
  | some given =>
    simp only [Option.map_some, Option.getD_some, askedFrom, Option.some.injEq, reduceCtorEq,
      false_imp_iff, and_true]
  | none =>
    simp only [Option.map_none, Option.getD_none, askedFrom, formatCairoDateInput, forall_const]
    split_ifs with hyear
    · constructor
      · intro h
        cases h
        exact ⟨rfl, hyear⟩
      · rintro ⟨rfl, -⟩
        rfl
    · constructor
      · intro h
        cases h
      · rintro ⟨rfl, h⟩
        exact absurd h hyear

/-- The calendar opens exactly if neither date is one on which clocks skip midnight, the first is
not before the year 100 and the second not after the year 9999, and today's year, if the calendar
is opened on it, has four digits.  The windows from one day to the next partition time. -/
theorem calendar_opens_iff (hfrom : ∀ date ∈ fromFilter, date.Valid ∧ 0 ≤ date.year)
    (hto : ∀ date ∈ toFilter, date.Valid ∧ date.year ≤ 9999)
    (hlater : (askedFrom (cairoRule summer) fromFilter now).dayNumber <
      (askedTo (cairoRule summer) fromFilter toFilter now).dayNumber) :
    (Opens (cairoRule summer) fromFilter toFilter now ↔
      ¬IsSpringDay summer (askedFrom (cairoRule summer) fromFilter now).dayNumber ∧
      ¬IsSpringDay summer (askedTo (cairoRule summer) fromFilter toFilter now).dayNumber ∧
      100 ≤ (askedFrom (cairoRule summer) fromFilter now).year ∧
      (askedTo (cairoRule summer) fromFilter toFilter now).year ≤ 9999 ∧
      (fromFilter = none → 1000 ≤ (askedFrom (cairoRule summer) fromFilter now).year)) ∧
    ∀ t, ∃! day, InDay (cairoRule summer) day t := by
  refine ⟨?_, existsUnique_inDay⟩
  have hvalid : (askedFrom (cairoRule summer) fromFilter now).Valid := by
    cases fromFilter with
    | some given => exact (hfrom given rfl).1
    | none => exact valid_civilDate _
  have hvalid' : (askedTo (cairoRule summer) fromFilter toFilter now).Valid := by
    cases toFilter with
    | some given => exact (hto given rfl).1
    | none => exact valid_civilDate _
  have hyears := year_le_of_lt hvalid hvalid' hlater.le
  have hgiven : fromFilter ≠ none → 0 ≤ (askedFrom (cairoRule summer) fromFilter now).year := by
    intro hsome
    cases fromFilter with
    | some given => exact (hfrom given rfl).2
    | none => exact absurd rfl hsome
  constructor
  · rintro ⟨start, stop, hwindow, -, hleast, hleast'⟩
    obtain ⟨hstart, hstop, -⟩ := calendarWindow_eq_ok.mp hwindow
    obtain ⟨fromDate, hinput, hstart⟩ := Option.bind_eq_some_iff.mp hstart
    obtain ⟨rfl, hdigits⟩ := fromInput_eq.mp hinput
    rw [hinput] at hstop
    have hyear : 0 ≤ (askedFrom (cairoRule summer) fromFilter now).year := by
      by_cases hnone : fromFilter = none
      · have := (hdigits hnone).1
        omega
      · exact hgiven hnone
    rw [hleast.unique (isLeast_dayStart summer _)] at hstart
    obtain ⟨hcentury, -, hspring⟩ := (midnight_iff hvalid hyear).mp hstart
    obtain ⟨toDate, hinput', hstop⟩ := Option.bind_eq_some_iff.mp hstop
    have htoDate : toDate = askedTo (cairoRule summer) fromFilter toFilter now := by
      cases toFilter with
      | some given => exact (Option.some.inj hinput').symm
      | none =>
        simp only [Option.map_none, Option.getD_none, addCairoDateInputDays_eq hvalid hcentury] at hinput'
        split_ifs at hinput'
        exact (Option.some.inj hinput').symm
    rw [htoDate, hleast'.unique (isLeast_dayStart summer _)] at hstop
    obtain ⟨-, hlast, hspring'⟩ := (midnight_iff hvalid' (by omega)).mp hstop
    exact ⟨hspring, hspring', hcentury, hlast, fun hnone ↦ (hdigits hnone).1⟩
  · rintro ⟨hspring, hspring', hcentury, hlast, hdigits⟩
    refine ⟨_, _, calendarWindow_eq_ok.mpr ⟨?_, ?_, dayStart_strictMono hlater⟩,
      dayStart_strictMono hlater, isLeast_dayStart summer _, isLeast_dayStart summer _⟩
    · rw [fromInput_eq.mpr ⟨rfl, fun hnone ↦ ⟨hdigits hnone, by omega⟩⟩]
      exact midnight_of_not_spring hvalid hcentury (by omega) hspring
    · rw [fromInput_eq.mpr ⟨rfl, fun hnone ↦ ⟨hdigits hnone, by omega⟩⟩]
      have hinput : (toFilter.map some).getD (addCairoDateInputDays
          (some (askedFrom (cairoRule summer) fromFilter now)) 30) =
          some (askedTo (cairoRule summer) fromFilter toFilter now) := by
        cases toFilter with
        | some given => rfl
        | none =>
          simp only [Option.map_none, Option.getD_none, addCairoDateInputDays_eq hvalid hcentury]
          exact if_pos hlast
      rw [hinput]
      exact midnight_of_not_spring hvalid' (by omega) hlast hspring'

end

/-- The summer time that begins on 24 April 2026. -/
def summerOf2026 (day : ℤ) : Bool := 20567 ≤ day ∧ day ≤ 20755

/-- On that day the calendar cannot be opened, nor on 25 March, 30 days before it. -/
theorem calendar_closed_in_spring :
    ¬Opens (cairoRule summerOf2026) (some ⟨2026, 4, 24⟩) (some ⟨2026, 4, 25⟩) 0 ∧
      ¬Opens (cairoRule summerOf2026) (some ⟨2026, 3, 25⟩) none 0 := by
  have hrefused : calendarWindow (cairoRule summerOf2026) (some (some ⟨2026, 4, 24⟩))
      (some (some ⟨2026, 4, 25⟩)) 0 = .error (.of 400 .validationError "from is invalid.") := by
    decide +kernel
  have hrefused' : calendarWindow (cairoRule summerOf2026) (some (some ⟨2026, 3, 25⟩)) none 0 =
      .error (.of 400 .validationError "to is invalid.") := by
    decide +kernel
  constructor
  · rintro ⟨start, stop, hwindow, -⟩
    cases hrefused.symm.trans hwindow
  · rintro ⟨start, stop, hwindow, -⟩
    cases hrefused'.symm.trans hwindow

theorem calendar_opens_iff_april :
    Opens (cairoRule summerOf2026) (some ⟨2026, 4, 25⟩) none 0 :=
  (calendar_opens_iff (fun _ h ↦ by cases h; decide) (fun _ h ↦ by cases h) (by decide)).1.mpr
    ⟨by decide, by decide, by decide, by decide, fun h ↦ by cases h⟩

end KmtLegal
