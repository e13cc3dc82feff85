import KmtLegal.Platform
import KmtLegal.Scheduling.Zone

/-!
# Opening hours

`consultation-availability-service.ts`: the slots of the opening hours that are left for clients,
from the lead time on until the booking window ends.  Dates and clock times are those of Cairo.
-/

namespace KmtLegal

open Relational Scheduling

/-! ## The clocks of Cairo -/

/-- `Africa/Cairo`: two to three hours ahead.  Clocks are set back within a day, at midnight to
eleven, so that no date comes twice. -/
structure CairoClock extends Zone where
  between : toZone.Between 7200000 10800000
  date_mono : Monotone toZone.date

namespace CairoClock

variable (C : CairoClock)

/-- `cairoDateString(date)`. -/
def cairoDateString (date : Time) : CairoDate := C.date date

/-- `addCairoDays(date, offset)`, counted from noon at `+03:00`. -/
def addCairoDays (date : CairoDate) (offset : ℤ) : CairoDate :=
  C.cairoDateString (date * dayLength + 32400000 + offset * dayLength)

/-- `cairoWeekday(date)`; the epoch was a Thursday. -/
def cairoWeekday (date : CairoDate) : ℕ :=
  ((C.cairoDateString (date * dayLength + 32400000) + 4) % 7).toNat

/-- `wallTimeAt(instant)`: the clocks, read to the minute as universal time. -/
def wallTimeAt (instant : Time) : Time := C.clock instant / minuteLength * minuteLength

/-- `cairoDateTime(date, minutes)`: the first instant at which the clocks show it, tried with the
offsets of the day before, the day and the day after. -/
def cairoDateTime (date : CairoDate) (minutes : ℕ) : Option Time :=
  let target := date * dayLength + minutes * minuteLength
  let offsets := [-1, 0, 1].map fun day ↦
    let probe := target + day * dayLength
    C.wallTimeAt probe - probe
  ((offsets.map (target - ·)).filter fun instant ↦ C.wallTimeAt instant = target).min?

variable {C}

@[simp] theorem addCairoDays_eq (date : CairoDate) (offset : ℤ) :
    C.addCairoDays date offset = date + offset := by
  have h := C.between.date_eq (s := 32400000) (by decide) (by decide) (date + offset)
  rwa [add_mul, add_right_comm] at h

theorem shows_of_cairoDateTime {date : CairoDate} {minutes : ℕ} {startsAt : Time}
    (h : C.cairoDateTime date minutes = some startsAt) : C.Shows startsAt date minutes := by
  have hmem := (List.mem_filter.mp (List.min?_mem h)).2
  rwa [decide_eq_true_eq] at hmem

/-- A time of a date lies within a day of midnight, universal time. -/
theorem mem_day_of_shows {date : CairoDate} {minute : ℕ} {startsAt : Time}
    (h : C.Shows startsAt date minute) (hminute : minute < 1440) :
    date * dayLength - dayLength ≤ startsAt ∧ startsAt < date * dayLength + dayLength :=
  (C.between.mono (by decide) le_rfl).of_shows (by decide) h (Int.natCast_nonneg minute)
    (by exact_mod_cast hminute)

end CairoClock

/-! ## The setting -/

/-- A day of the default hours, ten to five. -/
def defaultDay (weekday : Fin 7) (enabled : Bool) (modes : List ConsultationMode)
    (h : modes ≠ []) : ConsultationAvailabilityDay where
  weekday
  enabled
  start := 600
  stop := 1020
  modes
  weekday_le := Nat.le_of_lt_succ weekday.isLt
  modes_ne_nil := h

/-- `defaultConsultationAvailability`: Sunday to Thursday. -/
def defaultConsultationAvailability : ConsultationAvailability where
  days :=
    [defaultDay 0 true [.online, .phone, .office] (by decide),
      defaultDay 1 true [.online, .phone, .office] (by decide),
      defaultDay 2 true [.online, .phone, .office] (by decide),
      defaultDay 3 true [.online, .phone, .office] (by decide),
      defaultDay 4 true [.online, .phone, .office] (by decide),
      defaultDay 5 false [.online] (by decide),
      defaultDay 6 false [.online] (by decide)]

/-- `getConsultationAvailability()`. -/
def getConsultationAvailability (db : Database) : ConsultationAvailability :=
  db.consultationAvailability.getD defaultConsultationAvailability

/-- `consultationSlotWindow(availability, now)`. -/
def consultationSlotWindow (availability : ConsultationAvailability) (now : Time) : Time × Time :=
  let startsAt := now + availability.minLeadHours * 60 * 60000
  (startsAt, startsAt + availability.bookingWindowDays * 24 * 60 * 60000)

/-! ## Slots -/

/-- `PublicConsultationSlot`; the times stand for their ISO texts. -/
structure PublicConsultationSlot where
  id : String
  startsAt : Time
  endsAt : Time
  mode : ConsultationMode
  deriving DecidableEq

structure ExistingAppointment where
  startsAt : Time
  endsAt : Time
  deriving DecidableEq

/-- `appointmentsOverlap(leftStart, leftEnd, rightStart, rightEnd)`. -/
def appointmentsOverlap (leftStart leftEnd rightStart rightEnd : Time) : Bool :=
  leftStart < rightEnd ∧ rightStart < leftEnd

/-- The input of `generateConsultationSlots`.  No limit stands for `Infinity`. -/
structure SlotQuery where
  availability : ConsultationAvailability
  appointments : List ExistingAppointment
  mode : ConsultationMode := .online
  now : Time
  limit : Option ℕ := some 12
  date : Option CairoDate := none
  fromTime : Option ℕ := none
  toTime : Option ℕ := none

/-- A loop that goes on while there is room in the list it fills. -/
def fillWhile {α β : Type} (limit : Option ℕ) (body : List β → α → List β) (filled : List β) :
    List α → List β
  | [] => filled
  | x :: xs =>
    if ∀ l ∈ limit, filled.length < l then fillWhile limit body (body filled x) xs else filled

/-- `for (minute = start; minute + duration <= end; minute += duration)`. -/
def slotMinutes (start stop duration : ℕ) : List ℕ :=
  List.range' start ((stop - start) / duration) duration

namespace SlotQuery

variable (P : Platform) (C : CairoClock) (q : SlotQuery)

def availableFrom : Time := (consultationSlotWindow q.availability q.now).1

def availableUntil : Time := (consultationSlotWindow q.availability q.now).2

/-- The end of a slot. -/
def endOf (startsAt : Time) : Time := startsAt + q.availability.slotDurationMinutes * 60000

/-- The slot at a minute, unless the loop continues without it. -/
def slotAt (date : CairoDate) (minute : ℕ) : Option PublicConsultationSlot := do
  guard (∀ fromMinutes ∈ q.fromTime, fromMinutes ≤ minute)
  guard (∀ toMinutes ∈ q.toTime, minute + q.availability.slotDurationMinutes ≤ toMinutes)
  let startsAt ← C.cairoDateTime date minute
  guard (q.availableFrom ≤ startsAt)
  guard (startsAt < q.availableUntil)
  guard (∀ a ∈ q.appointments, ¬appointmentsOverlap startsAt (q.endOf startsAt) a.startsAt a.endsAt)
  return ⟨"slot-" ++ P.isoString startsAt, startsAt, q.endOf startsAt, q.mode⟩

/-- The hours of a date, if the office is open for the mode. -/
def hours (date : CairoDate) : Option ConsultationAvailabilityDay :=
  (q.availability.days.find? (·.weekday = C.cairoWeekday date)).filter fun day ↦
    day.enabled ∧ q.mode ∈ day.modes

/-- The inner loop. -/
def scanDay (slots : List PublicConsultationSlot) (date : CairoDate) :
    List PublicConsultationSlot :=
  match q.hours C date with
  | none => slots
  | some day =>
    fillWhile q.limit (fun slots minute ↦ slots ++ (q.slotAt P C date minute).toList) slots
      (slotMinutes day.start day.stop q.availability.slotDurationMinutes)

end SlotQuery

/-- `generateConsultationSlots(input)`. -/
def generateConsultationSlots (P : Platform) (C : CairoClock) (q : SlotQuery) :
    List PublicConsultationSlot :=
  let firstDate := q.date.getD (C.cairoDateString q.now)
  let daysToScan := if q.date.isSome then 1 else q.availability.bookingWindowDays
  fillWhile q.limit
    (fun slots (offset : ℕ) ↦ q.scanDay P C slots (C.addCairoDays firstDate offset)) []
    (List.range daysToScan)

/-! ## The loops -/

section

variable {α β : Type} {body : List β → α → List β} {f : α → List β} {filled : List β} {xs : List α}

/-- A loop without a limit. -/
theorem fillWhile_none (h : ∀ filled x, body filled x = filled ++ f x) :
    fillWhile none body filled xs = filled ++ xs.flatMap f := by
  induction xs generalizing filled with
  | nil => simp [fillWhile]
  | cons x xs ih =>
    rw [fillWhile, if_pos (by simp), ih, h, List.flatMap_cons, List.append_assoc]

/-- A loop with a limit finds the first of what it would find without one. -/
theorem fillWhile_some {k : ℕ}
    (h : ∀ filled x, filled.length < k → body filled x = (filled ++ f x).take k)
    (hfilled : filled.length ≤ k) :
    fillWhile (some k) body filled xs = (filled ++ xs.flatMap f).take k := by
  induction xs generalizing filled with
  | nil => simp [fillWhile, List.take_of_length_le hfilled]
  | cons x xs ih =>
    rw [fillWhile]
    by_cases hroom : filled.length < k
    · rw [if_pos (by simpa using hroom), h filled x hroom, ih (List.length_take_le _ _),
        List.flatMap_cons, ← List.append_assoc]
      generalize filled ++ f x = found
      rw [List.take_append, List.take_append, List.take_take, min_self, List.length_take]
      congr 2
      omega
    · obtain rfl : filled.length = k := by omega
      rw [if_neg (by simp), List.take_left]

end

theorem mem_slotMinutes {start stop duration minute : ℕ}
    (h : minute ∈ slotMinutes start stop duration) : start ≤ minute ∧ minute + duration ≤ stop := by
  obtain ⟨i, hi, rfl⟩ := List.mem_range'.mp h
  have hfits : duration * (i + 1) ≤ stop - start :=
    (Nat.mul_le_mul_left duration hi).trans (Nat.mul_div_le (stop - start) duration)
  rw [Nat.mul_succ] at hfits
  have hopen : stop - start ≠ 0 := by
    intro h
    rw [h, Nat.zero_div] at hi
    exact Nat.not_lt_zero i hi
  omega

theorem exists_mem_range_iff {n : ℕ} {first : ℤ} {found : ℤ → Prop} :
    (∃ offset ∈ List.range n, found (first + offset)) ↔
      ∃ date ∈ Set.Ico first (first + n), found date := by
  simp only [List.mem_range, Set.mem_Ico]
  constructor
  · rintro ⟨offset, hoffset, hfound⟩
    exact ⟨first + offset, by omega, hfound⟩
  · rintro ⟨date, ⟨hfirst, hlast⟩, hfound⟩
    refine ⟨(date - first).toNat, by omega, ?_⟩
    rwa [Int.toNat_of_nonneg (by omega), add_sub_cancel]

namespace SlotQuery

variable (P : Platform) (C : CairoClock) (q : SlotQuery)

/-- The opening hours of the date have a slot at a time, and it passes the filters. -/
def Opens (date : CairoDate) (startsAt : Time) : Prop :=
  ∃ day minute, q.hours C date = some day ∧
    minute ∈ slotMinutes day.start day.stop q.availability.slotDurationMinutes ∧
    (∀ fromMinutes ∈ q.fromTime, fromMinutes ≤ minute) ∧
    (∀ toMinutes ∈ q.toTime, minute + q.availability.slotDurationMinutes ≤ toMinutes) ∧
    C.cairoDateTime date minute = some startsAt

/-- The opened times of a date that are inside the window and that no appointment takes. -/
def openTimes (date : CairoDate) : Set Time :=
  {startsAt | q.Opens C date startsAt ∧ q.availableFrom ≤ startsAt ∧ startsAt < q.availableUntil ∧
    ∀ a ∈ q.appointments,
      ¬appointmentsOverlap startsAt (q.endOf startsAt) a.startsAt a.endsAt}

/-- The slot that is offered for a time. -/
def slotOf (startsAt : Time) : PublicConsultationSlot :=
  ⟨"slot-" ++ P.isoString startsAt, startsAt, q.endOf startsAt, q.mode⟩

/-- The slots of a date. -/
def daySlots (date : CairoDate) : List PublicConsultationSlot :=
  match q.hours C date with
  | none => []
  | some day => (slotMinutes day.start day.stop q.availability.slotDurationMinutes).flatMap
    fun minute ↦ (q.slotAt P C date minute).toList

/-- The days that are scanned, counted from the first. -/
def offsets : List ℕ :=
  List.range (if q.date.isSome then 1 else q.availability.bookingWindowDays)

/-- All slots, day by day. -/
def allSlots : List PublicConsultationSlot :=
  q.offsets.flatMap fun offset ↦
    q.daySlots P C (q.date.getD (C.cairoDateString q.now) + (offset : ℕ))

/-- The dates the scan visits. -/
def scannedDates : Set CairoDate :=
  match q.date with
  | some date => {date}
  | none =>
    Set.Ico (C.cairoDateString q.now) (C.cairoDateString q.now + q.availability.bookingWindowDays)

variable {P C q}

theorem slotAt_eq_some {date : CairoDate} {minute : ℕ} {slot : PublicConsultationSlot} :
    q.slotAt P C date minute = some slot ↔ ∃ startsAt, slot = q.slotOf P startsAt ∧
      (∀ fromMinutes ∈ q.fromTime, fromMinutes ≤ minute) ∧
      (∀ toMinutes ∈ q.toTime, minute + q.availability.slotDurationMinutes ≤ toMinutes) ∧
      C.cairoDateTime date minute = some startsAt ∧
      q.availableFrom ≤ startsAt ∧ startsAt < q.availableUntil ∧
      ∀ a ∈ q.appointments,
        ¬appointmentsOverlap startsAt (q.endOf startsAt) a.startsAt a.endsAt := by
  simp only [slotAt, Option.bind_eq_bind, Option.bind_eq_some_iff, Option.guard_eq_some', slotOf,
    Option.pure_def, Option.some.injEq, exists_const]
  constructor
  · rintro ⟨hfrom, hto, startsAt, hstartsAt, hlead, hwindow, hfree, rfl⟩
    exact ⟨startsAt, rfl, hfrom, hto, hstartsAt, hlead, hwindow, hfree⟩
  · rintro ⟨startsAt, rfl, hfrom, hto, hstartsAt, hlead, hwindow, hfree⟩
    exact ⟨hfrom, hto, startsAt, hstartsAt, hlead, hwindow, hfree, rfl⟩

/-- A slot found on a date. -/
def Finds (P : Platform) (C : CairoClock) (q : SlotQuery) (date : CairoDate)
    (slot : PublicConsultationSlot) : Prop :=
  ∃ startsAt ∈ q.openTimes C date, slot = q.slotOf P startsAt

theorem finds_iff {date : CairoDate} {slot : PublicConsultationSlot} :
    q.Finds P C date slot ↔ ∃ day, q.hours C date = some day ∧
      ∃ minute ∈ slotMinutes day.start day.stop q.availability.slotDurationMinutes,
        slot ∈ (q.slotAt P C date minute).toList := by
  simp only [Option.mem_toList, Option.mem_def, slotAt_eq_some]
  constructor
  · rintro ⟨startsAt, ⟨⟨day, minute, hday, hminute, hfrom, hto, hstartsAt⟩, h⟩, rfl⟩
    exact ⟨day, hday, minute, hminute, startsAt, rfl, hfrom, hto, hstartsAt, h⟩
  · rintro ⟨day, hday, minute, hminute, startsAt, rfl, hfrom, hto, hstartsAt, h⟩
    exact ⟨startsAt, ⟨⟨day, minute, hday, hminute, hfrom, hto, hstartsAt⟩, h⟩, rfl⟩

theorem scanDay_none (hlimit : q.limit = none) (slots : List PublicConsultationSlot)
    (date : CairoDate) : q.scanDay P C slots date = slots ++ q.daySlots P C date := by
  unfold scanDay daySlots
  cases q.hours C date with
  | none => simp
  | some day =>
    rw [hlimit]
    exact fillWhile_none fun _ _ ↦ rfl

theorem scanDay_some {k : ℕ} (hlimit : q.limit = some k) {slots : List PublicConsultationSlot}
    (hslots : slots.length < k) (date : CairoDate) :
    q.scanDay P C slots date = (slots ++ q.daySlots P C date).take k := by
  unfold scanDay daySlots
  cases q.hours C date with
  | none => simp [List.take_of_length_le hslots.le]
  | some day =>
    rw [hlimit]
    refine fillWhile_some (fun filled minute hroom ↦ (List.take_of_length_le ?_).symm) hslots.le
    rw [List.length_append]
    have hone : (q.slotAt P C date minute).toList.length ≤ 1 := by
      cases q.slotAt P C date minute <;> simp
    omega

theorem generateConsultationSlots_none (hlimit : q.limit = none) :
    generateConsultationSlots P C q = q.allSlots P C := by
  simp only [generateConsultationSlots, hlimit, CairoClock.addCairoDays_eq]
  exact fillWhile_none fun slots offset ↦ scanDay_none hlimit slots _

theorem generateConsultationSlots_some {k : ℕ} (hlimit : q.limit = some k) :
    generateConsultationSlots P C q = (q.allSlots P C).take k := by
  simp only [generateConsultationSlots, hlimit, CairoClock.addCairoDays_eq]
  exact fillWhile_some (fun slots offset hroom ↦ scanDay_some hlimit hroom _) (Nat.zero_le k)

/-- What is found is in the list without a limit. -/
theorem sublist_allSlots : (generateConsultationSlots P C q).Sublist (q.allSlots P C) := by
  cases hlimit : q.limit with
  | none => rw [generateConsultationSlots_none hlimit]
  | some k =>
    rw [generateConsultationSlots_some hlimit]
    exact List.take_sublist _ _

theorem mem_daySlots {date : CairoDate} {slot : PublicConsultationSlot} :
    slot ∈ q.daySlots P C date ↔ q.Finds P C date slot := by
  rw [finds_iff, daySlots]
  cases q.hours C date with
  | none => simp
  | some day => simp

/-- The offsets of the scan come to its dates. -/
theorem exists_offset_iff {found : CairoDate → Prop} :
    (∃ offset ∈ q.offsets, found (q.date.getD (C.cairoDateString q.now) + (offset : ℕ))) ↔
      ∃ date ∈ q.scannedDates C, found date := by
  simp only [offsets, scannedDates]
  cases q.date with
  | some date => simp
  | none => exact exists_mem_range_iff

theorem mem_allSlots {slot : PublicConsultationSlot} :
    slot ∈ q.allSlots P C ↔ ∃ date ∈ q.scannedDates C, q.Finds P C date slot := by
  simp only [allSlots, List.mem_flatMap, mem_daySlots]
  exact @exists_offset_iff C q fun date ↦ q.Finds P C date slot

/-- A date has at most 96 slots. -/
theorem length_daySlots_le (date : CairoDate) : (q.daySlots P C date).length ≤ 96 := by
  unfold daySlots
  cases q.hours C date with
  | none => exact Nat.zero_le 96
  | some day =>
    have hduration := q.availability.slotDuration_mem
    dsimp only
    rw [← List.filterMap_eq_flatMap_toList]
    calc ((slotMinutes day.start day.stop q.availability.slotDurationMinutes).filterMap
          (q.slotAt P C date)).length
        ≤ (slotMinutes day.start day.stop q.availability.slotDurationMinutes).length :=
          List.length_filterMap_le _ _
      _ = (day.stop - day.start) / q.availability.slotDurationMinutes := List.length_range'
      _ ≤ 1440 / 15 := Nat.div_le_div ((Nat.sub_le _ _).trans day.stop_le) hduration.1 (by decide)

theorem allSlots_of_date {date : CairoDate} (hdate : q.date = some date) :
    q.allSlots P C = q.daySlots P C date := by
  simp [allSlots, offsets, hdate]

end SlotQuery

open SlotQuery

variable {P : Platform} {C : CairoClock} {q : SlotQuery}

/-- Every slot that is returned is open on a scanned date. -/
theorem finds_of_mem_generateConsultationSlots {slot : PublicConsultationSlot}
    (h : slot ∈ generateConsultationSlots P C q) :
    ∃ date ∈ q.scannedDates C, q.Finds P C date slot :=
  mem_allSlots.mp (sublist_allSlots.subset h)

/-- Without a limit all of them are returned. -/
theorem mem_generateConsultationSlots (hlimit : q.limit = none) {slot : PublicConsultationSlot} :
    slot ∈ generateConsultationSlots P C q ↔
      ∃ date ∈ q.scannedDates C, q.Finds P C date slot := by
  rw [generateConsultationSlots_none hlimit, mem_allSlots]

/-- A limit from 96 on leaves none of a date out. -/
theorem mem_generateConsultationSlots_of_date {date : CairoDate} {l : ℕ} (hdate : q.date = some date)
    (hlimit : q.limit = some l) (hl : 96 ≤ l) {slot : PublicConsultationSlot} :
    slot ∈ generateConsultationSlots P C q ↔ q.Finds P C date slot := by
  rw [generateConsultationSlots_some hlimit, allSlots_of_date hdate,
    List.take_of_length_le ((length_daySlots_le date).trans hl), mem_daySlots]

/-! ## A period and its dates -/

theorem SlotQuery.minute_lt {day : ConsultationAvailabilityDay} {minute : ℕ}
    (h : minute ∈ slotMinutes day.start day.stop q.availability.slotDurationMinutes) :
    minute < 1440 := by
  have hfits := mem_slotMinutes h
  have hduration := q.availability.slotDuration_mem
  have hstop := day.stop_le
  omega

/-- The clocks show the time on the date it was looked up under, within the opening hours. -/
theorem SlotQuery.Opens.shows {date : CairoDate} {startsAt : Time} (h : q.Opens C date startsAt) :
    ∃ minute : ℕ, minute < 1440 ∧ C.Shows startsAt date minute := by
  obtain ⟨day, minute, -, hminute, -, -, hstartsAt⟩ := h
  exact ⟨minute, minute_lt hminute, CairoClock.shows_of_cairoDateTime hstartsAt⟩

theorem SlotQuery.Opens.date_eq {date : CairoDate} {startsAt : Time} (h : q.Opens C date startsAt) :
    C.cairoDateString startsAt = date := by
  obtain ⟨minute, hminute, hshows⟩ := h.shows
  exact hshows.date_eq (Int.natCast_nonneg minute) (by exact_mod_cast hminute)

theorem SlotQuery.mem_openTimes {date : CairoDate} {startsAt : Time}
    (h : startsAt ∈ q.openTimes C date) :
    q.now ≤ startsAt ∧ startsAt ≤ q.availableUntil - 1 ∧ C.cairoDateString startsAt = date := by
  obtain ⟨hopens, hlead, hwindow, -⟩ := h
  have hlead' : q.now ≤ q.availableFrom := le_add_of_nonneg_right (by positivity)
  exact ⟨hlead'.trans hlead, Int.le_sub_one_of_lt hwindow, hopens.date_eq⟩

/-- The slots of the whole period are those of its dates exactly if the dates behind the scan, up
to the one on which the window ends, have no open time. -/
theorem slots_of_period_iff (P : Platform) (C : CairoClock) (q : SlotQuery) :
    (∀ slot, slot ∈ generateConsultationSlots P C { q with date := none, limit := none } ↔
      ∃ date, slot ∈ generateConsultationSlots P C { q with date := some date, limit := none }) ↔
    ∀ date, C.cairoDateString q.now + q.availability.bookingWindowDays ≤ date →
      date ≤ C.cairoDateString (q.availableUntil - 1) → q.openTimes C date = ∅ := by
  simp only [mem_generateConsultationSlots]
  constructor
  · intro hunion date hdate _
    refine Set.eq_empty_of_forall_notMem fun startsAt hopen ↦ ?_
    obtain ⟨date', ⟨-, hscanned⟩, startsAt', hopen', hslot⟩ :=
      (hunion (q.slotOf P startsAt)).mpr ⟨date, date, rfl, startsAt, hopen, rfl⟩
    have hsame : startsAt = startsAt' := congrArg PublicConsultationSlot.startsAt hslot
    have hdates : date' = date := by
      rw [← (mem_openTimes hopen').2.2, ← (mem_openTimes hopen).2.2, hsame]
    exact absurd hscanned (not_lt.mpr (hdates ▸ hdate))
  · intro hbehind slot
    constructor
    · rintro ⟨date, -, hfinds⟩
      exact ⟨date, date, rfl, hfinds⟩
    · rintro ⟨_, date, rfl, startsAt, hopen, rfl⟩
      obtain ⟨hnow, hlast, hdate⟩ := mem_openTimes hopen
      refine ⟨_, ⟨?_, lt_of_not_ge fun hlate ↦ ?_⟩, startsAt, hopen, rfl⟩
      · exact hdate ▸ C.date_mono hnow
      · have hempty := hbehind date hlate (hdate ▸ C.date_mono hlast)
        exact Set.notMem_empty startsAt (hempty ▸ hopen)

/-- Cairo in winter. -/
def winterCairo : CairoClock where
  offset _ := 7200000
  between _ := ⟨le_rfl, by show (7200000 : ℤ) ≤ 10800000; decide⟩
  date_mono _ _ h := Int.ediv_le_ediv (by decide) (Int.add_le_add_right h 7200000)

/-- A Sunday at noon. -/
def sampleNoon : Time := 20457 * 86400000 + 36000000

/-- Two weeks later the window is open until four, but the scan has ended the evening before. -/
theorem last_sunday_not_listed :
    ¬∀ slot, slot ∈ generateConsultationSlots plainPlatform winterCairo
        { availability := defaultConsultationAvailability, appointments := [], now := sampleNoon
          date := none, limit := none } ↔
      ∃ date, slot ∈ generateConsultationSlots plainPlatform winterCairo
        { availability := defaultConsultationAvailability, appointments := [], now := sampleNoon
          date := some date, limit := none } := by
  intro h
  have hopen : 20471 * 86400000 + 28800000 ∈
      (generateConsultationSlots plainPlatform winterCairo
        { availability := defaultConsultationAvailability, appointments := [], now := sampleNoon
          date := some 20471, limit := none }).map PublicConsultationSlot.startsAt := by
    decide +kernel
  obtain ⟨slot, hslot, hstartsAt⟩ := List.mem_map.mp hopen
  have hlisted : 20471 * 86400000 + 28800000 ∈
      (generateConsultationSlots plainPlatform winterCairo
        { availability := defaultConsultationAvailability, appointments := [], now := sampleNoon
          date := none, limit := none }).map PublicConsultationSlot.startsAt :=
    List.mem_map.mpr ⟨slot, (h slot).mpr ⟨20471, hslot⟩, hstartsAt⟩
  revert hlisted
  decide +kernel

end KmtLegal
