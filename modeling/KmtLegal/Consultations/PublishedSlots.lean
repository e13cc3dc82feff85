import Mathlib.Data.List.Dedup
import Mathlib.Data.Prod.Lex
import Mathlib.Data.String.Basic
import Mathlib.Tactic.Ring
import KmtLegal.Appointments.Conflict
import KmtLegal.Clients
import KmtLegal.Consultations.OpeningHours
import KmtLegal.Payments.Expiry

/-!
# Published slots

What the office offers over the stored appointments: the public list of
`consultation-availability-service.ts`, and the days of `direct-booking-availability.ts`, on which
every slot comes with a lawyer of the roster.

An offer is a reading of the database.  Before a booking is written the conflicts are looked for
once more, with other queries, and the last section compares the two.
-/

namespace KmtLegal

open Relational Scheduling

/-! ## The public list -/

/-- The input of `listPublicConsultationSlots`. -/
structure ListPublicConsultationSlots where
  mode : ConsultationMode := .online
  now : Time
  limit : Option ℕ := some 12
  date : Option CairoDate := none
  fromTime : Option ℕ := none
  toTime : Option ℕ := none

/-- The consultations that take time between two instants. -/
def consultationsBetween (db : Database) (startsAt endsAt : Time) : List ExistingAppointment :=
  (db.appointments.select fun _ p ↦
    p.type = .consultation ∧ p.status.isActive ∧ p.startsAt < endsAt ∧ startsAt < p.endsAt).map
      fun e ↦ ⟨e.2.startsAt, e.2.endsAt⟩

/-- The query of the public list. -/
def publicQuery (db : Database) (input : ListPublicConsultationSlots) : SlotQuery :=
  let availability := getConsultationAvailability db
  let window := consultationSlotWindow availability input.now
  { availability
    appointments := consultationsBetween db window.1 window.2
    mode := input.mode
    now := input.now
    limit := input.limit
    date := input.date
    fromTime := input.fromTime
    toTime := input.toTime }

/-- `listPublicConsultationSlots(input)`, with the database it leaves. -/
def listPublicConsultationSlots (P : Platform) (C : CairoClock) (db : Database)
    (input : ListPublicConsultationSlots) : Database × List PublicConsultationSlot :=
  let db := (expireOpenConsultationPaymentAttempts db input.now none (some 500)).1
  (db, generateConsultationSlots P C (publicQuery db input))

/-- `assertRequestedSlotAtApproval` finds the slot. -/
def offersRequestedSlot (P : Platform) (C : CairoClock) (db : Database) (startsAt endsAt : Time)
    (mode : ConsultationMode) (now : Time) : Bool :=
  (generateConsultationSlots P C
    { availability := getConsultationAvailability db
      appointments := consultationsBetween db startsAt endsAt
      mode
      now
      limit := some 100
      date := some (C.cairoDateString startsAt) }).any
    fun slot ↦ slot.startsAt = startsAt ∧ slot.endsAt = endsAt

/-! ## Days of direct booking -/

inductive BookingAvailabilityStatus where
  | available | closedWeekly | closedException | modeUnavailable | full | leadTime | outsideWindow
  | unpublished | noStaff | noSlots | outsideHours
  deriving DecidableEq

structure BookingHours where
  start : ℕ
  stop : ℕ
  deriving DecidableEq

structure BookingDay where
  date : CairoDate
  status : BookingAvailabilityStatus
  hours : Option BookingHours
  closedPeriods : List BookingHours
  deriving DecidableEq

structure SnapshotAppointment where
  type : AppointmentType
  lawyerId : Option Uuid
  startsAt : Time
  endsAt : Time
  deriving DecidableEq

structure BookingAvailabilitySnapshot where
  availability : ConsultationAvailability
  now : Time
  lawyers : List Uuid
  appointments : List SnapshotAppointment

structure BookingCandidate extends PublicConsultationSlot where
  lawyerId : Uuid
  deriving DecidableEq

/-- `PublicConsultationSlotFilter` without its date. -/
structure BookingFilter where
  fromTime : Option ℕ := none
  toTime : Option ℕ := none
  deriving DecidableEq

/-- `overlaps(slot, appointment)`. -/
def PublicConsultationSlot.overlaps (slot : PublicConsultationSlot) (a : SnapshotAppointment) :
    Bool :=
  appointmentsOverlap slot.startsAt slot.endsAt a.startsAt a.endsAt

/-- The ids a roster names, on all its days. -/
def rosterIds (availability : ConsultationAvailability) : List Uuid :=
  (availability.directBooking.roster.flatMap RosterDay.lawyerIds).dedup

/-- `availabilitySnapshot(db, excludeAppointmentId, now)`. -/
def availabilitySnapshot (db : Database) (excludeAppointmentId : Option Uuid) (now : Time) :
    BookingAvailabilitySnapshot :=
  let availability := getConsultationAvailability db
  let ids := rosterIds availability
  { availability
    now
    lawyers := (db.users.select fun id u ↦ id ∈ ids ∧ u.isAssignableLawyer).map Prod.fst
    appointments :=
      (db.appointments.select fun id p ↦
        (∀ excluded ∈ excludeAppointmentId, excluded ≠ "" → id ≠ excluded) ∧
          p.status.isActive ∧ now - dayLength < p.endsAt ∧
          p.startsAt < (consultationSlotWindow availability now).2 ∧
          (p.type = .consultation ∨ ∃ l ∈ p.lawyerId, l ∈ ids)).map
        fun e ↦ ⟨e.2.type, e.2.lawyerId, e.2.startsAt, e.2.endsAt⟩ }

namespace BookingAvailabilitySnapshot

variable (P : Platform) (C : CairoClock) (s : BookingAvailabilitySnapshot)

/-- `closedFor(snapshot, date, start, lawyerId)`. -/
def closedFor (date : CairoDate) (start : ℤ) (lawyerId : Uuid) : Bool :=
  s.availability.directBooking.closures.any fun c ↦
    c.date = date ∧ (∀ l ∈ c.lawyerId, l = lawyerId) ∧ start < c.stop ∧
      c.start < start + s.availability.slotDurationMinutes

/-- The appointments of a lawyer on a date. -/
def dailyCount (date : CairoDate) (id : Uuid) : ℕ :=
  (s.appointments.filter fun a ↦
    a.lawyerId = some id ∧ C.cairoDateString a.startsAt = date).length

/-- `open`: the lawyers for whom the office is not closed. -/
def openLawyers (date : CairoDate) (slot : PublicConsultationSlot) (roster : List Uuid) :
    List Uuid :=
  roster.filter fun l ↦ ¬s.closedFor date (C.minute slot.startsAt) l

/-- `eligible`: those who are free. -/
def eligibleLawyers (date : CairoDate) (slot : PublicConsultationSlot) (roster : List Uuid) :
    List Uuid :=
  (s.openLawyers C date slot roster).filter fun l ↦
    ¬s.appointments.any fun a ↦ a.lawyerId = some l ∧ slot.overlaps a

/-- `reasons`: why a slot cannot be booked. -/
def refusals (date : CairoDate) (slot : PublicConsultationSlot) (roster : List Uuid) :
    List BookingAvailabilityStatus :=
  let window := consultationSlotWindow s.availability s.now
  let openTo := s.openLawyers C date slot roster
  let reasons : List (Bool × BookingAvailabilityStatus) :=
    [(slot.startsAt < window.1, .leadTime), (window.2 ≤ slot.startsAt, .outsideWindow),
      (s.appointments.any fun a ↦ a.type = .consultation ∧ slot.overlaps a, .full),
      (openTo = [], .closedException),
      (openTo ≠ [] ∧ s.eligibleLawyers C date slot roster = [],
        if openTo.length = roster.length then .full else .noSlots)]
  ((reasons.filter Prod.fst).map Prod.snd).dedup

/-- `winner`: the eligible lawyer with the fewest appointments, by id. -/
def winner (date : CairoDate) (slot : PublicConsultationSlot) (roster : List Uuid) : Option Uuid :=
  ((s.eligibleLawyers C date slot roster).mergeSort fun a b ↦
    toLex (s.dailyCount C date a, a) ≤ toLex (s.dailyCount C date b, b)).head?

/-- `candidateFor(snapshot, date, slot, roster)`. -/
def candidateFor (date : CairoDate) (roster : List Uuid) (slot : PublicConsultationSlot) :
    Except BookingAvailabilityStatus BookingCandidate :=
  match s.refusals C date slot roster with
  | [] =>
    match s.winner C date slot roster with
    | some lawyerId => .ok { toPublicConsultationSlot := slot, lawyerId }
    -- not reached: without a refusal somebody is eligible
    | none => .error .noSlots
  | [reason] => .error reason
  | _ => .error .noSlots

/-- The opening hours of the date's weekday. -/
def dayOf (date : CairoDate) : Option ConsultationAvailabilityDay :=
  s.availability.days.find? (·.weekday = C.cairoWeekday date)

/-- The lawyers who take bookings on a weekday. -/
def rosterOf (weekday : ℕ) : List Uuid :=
  let ids := ((s.availability.directBooking.roster.find? (·.weekday = weekday)).map
    RosterDay.lawyerIds).getD []
  s.lawyers.filter (· ∈ ids)

/-- The query for all slots of a date, with a window around the whole of it. -/
def nominalQuery (date : CairoDate) : SlotQuery where
  availability := { s.availability with
    minLeadHours := 0
    bookingWindowDays := 2
    minLead_le := Nat.zero_le 168
    bookingWindow_mem := by decide }
  appointments := []
  mode := .phone
  now := date * dayLength - dayLength
  limit := some 100
  date := some date

/-- `nominal`. -/
def nominal (date : CairoDate) : List PublicConsultationSlot :=
  generateConsultationSlots P C (s.nominalQuery date)

/-- `requested`: those the filter asks for. -/
def requested (date : CairoDate) (filter : BookingFilter) : List PublicConsultationSlot :=
  (s.nominal P C date).filter fun slot ↦
    (∀ fromMinutes ∈ filter.fromTime, (fromMinutes : ℤ) ≤ C.minute slot.startsAt) ∧
      (∀ toMinutes ∈ filter.toTime,
        C.minute slot.startsAt + s.availability.slotDurationMinutes ≤ (toMinutes : ℤ))

/-- `directBookingDay(snapshot, date, filter)`. -/
def directBookingDay (date : CairoDate) (filter : BookingFilter := {}) :
    BookingDay × List BookingCandidate :=
  let day := s.dayOf C date
  let isOpen := day.filter fun d ↦ d.enabled ∧ .phone ∈ d.modes
  let hours := isOpen.map fun d ↦ ⟨d.start, d.stop⟩
  let closedPeriods := (s.availability.directBooking.closures.filter fun c ↦
    c.date = date ∧ c.lawyerId = none).map fun c ↦ ⟨c.start, c.stop⟩
  let describe status (slots : List BookingCandidate) : BookingDay × List BookingCandidate :=
    (⟨date, status, hours, closedPeriods⟩, slots)
  if ¬s.availability.directBooking.published then (⟨date, .unpublished, none, []⟩, [])
  else if date < C.cairoDateString s.now ∨
      C.cairoDateString ((consultationSlotWindow s.availability s.now).2 - 1) < date then
    describe .outsideWindow []
  else match day with
  | none => describe .closedWeekly []
  | some day =>
    if ¬day.enabled then describe .closedWeekly []
    else if .phone ∉ day.modes then describe .modeUnavailable []
    else
      let roster := s.rosterOf day.weekday
      if roster = [] then describe .noStaff []
      else
        let requested := s.requested P C date filter
        if requested = [] then
          describe (if (∃ fromMinutes ∈ filter.fromTime, day.stop ≤ fromMinutes) ∨
            (∃ toMinutes ∈ filter.toTime, toMinutes ≤ day.start) then .outsideHours
            else .noSlots) []
        else
          let evaluated := requested.map (s.candidateFor C date roster)
          let slots := evaluated.filterMap Except.toOption
          let reasons := (evaluated.filterMap fun
            | .ok _ => none
            | .error reason => some reason).dedup
          describe (if slots ≠ [] then .available else
            match reasons with
            | [reason] => reason
            | _ => .noSlots) slots

end BookingAvailabilitySnapshot

/-! ## What a day offers -/

/-- Of a sorted list the first is the least. -/
theorem head?_mergeSort_eq_some {α β : Type} [LinearOrder β] {key : α → β}
    (hkey : Function.Injective key) {l : List α} {x : α} :
    (l.mergeSort fun a b ↦ key a ≤ key b).head? = some x ↔ x ∈ l ∧ ∀ y ∈ l, key x ≤ key y := by
  have hsorted : (l.mergeSort fun a b ↦ key a ≤ key b).Pairwise fun a b ↦ decide (key a ≤ key b) :=
    List.pairwise_mergeSort
      (fun _ _ _ hab hbc ↦ decide_eq_true ((of_decide_eq_true hab).trans (of_decide_eq_true hbc)))
      (fun a b ↦ by simpa using le_total (key a) (key b)) l
  have hmem (y : α) : y ∈ (l.mergeSort fun a b ↦ key a ≤ key b) ↔ y ∈ l := List.mem_mergeSort
  cases hlist : l.mergeSort fun a b ↦ decide (key a ≤ key b) with
  | nil =>
    rw [hlist] at hmem
    exact ⟨nofun, fun h ↦ absurd ((hmem x).mpr h.1) List.not_mem_nil⟩
  | cons first rest =>
    rw [hlist] at hmem hsorted
    have hleast : ∀ y ∈ l, key first ≤ key y := fun y hy ↦ by
      rcases List.mem_cons.mp ((hmem y).mpr hy) with rfl | hrest
      · exact le_rfl
      · exact of_decide_eq_true (List.rel_of_pairwise_cons hsorted hrest)
    have hfirst : first ∈ l := (hmem first).mp List.mem_cons_self
    rw [List.head?_cons, Option.some.injEq]
    constructor
    · rintro rfl
      exact ⟨hfirst, hleast⟩
    · exact fun ⟨hx, hx'⟩ ↦ hkey (le_antisymm (hleast x hx) (hx' first hfirst))

namespace BookingAvailabilitySnapshot

variable (C : CairoClock) (s : BookingAvailabilitySnapshot)

/-- Lawyer `l` is eligible, and nobody who is has fewer appointments, or as many and an id before
hers. -/
def Chooses (date : CairoDate) (roster : List Uuid) (slot : PublicConsultationSlot) (l : Uuid) :
    Prop :=
  l ∈ s.eligibleLawyers C date slot roster ∧ ∀ l' ∈ s.eligibleLawyers C date slot roster,
    toLex (s.dailyCount C date l, l) ≤ toLex (s.dailyCount C date l', l')

/-- The slots of the opening hours for calls, over the consultations of the snapshot. -/
def phoneQuery (filter : BookingFilter) : SlotQuery where
  availability := s.availability
  appointments := (s.appointments.filter (·.type = .consultation)).map
    fun a ↦ ⟨a.startsAt, a.endsAt⟩
  mode := .phone
  now := s.now
  limit := none
  fromTime := filter.fromTime
  toTime := filter.toTime

variable {P : Platform} {C s} {date : CairoDate} {roster : List Uuid}
  {slot : PublicConsultationSlot} {c : BookingCandidate} {filter : BookingFilter}

theorem winner_eq_some {l : Uuid} :
    s.winner C date slot roster = some l ↔ s.Chooses C date roster slot l :=
  head?_mergeSort_eq_some fun _ _ h ↦ congrArg Prod.snd (toLex_inj.mp h)

theorem refusals_eq_nil :
    s.refusals C date slot roster = [] ↔
      (consultationSlotWindow s.availability s.now).1 ≤ slot.startsAt ∧
        slot.startsAt < (consultationSlotWindow s.availability s.now).2 ∧
        (∀ a ∈ s.appointments, a.type = .consultation → ¬slot.overlaps a) ∧
        s.eligibleLawyers C date slot roster ≠ [] := by
  have hopen (h : s.openLawyers C date slot roster = []) :
      s.eligibleLawyers C date slot roster = [] := by
    rw [eligibleLawyers, h, List.filter_nil]
  simp only [refusals, List.dedup_eq_nil, List.map_eq_nil_iff, List.filter_eq_nil_iff,
    List.forall_mem_cons, decide_eq_true_eq, not_lt, not_le, List.any_eq_true, not_exists, not_and]
  simp only [List.not_mem_nil, IsEmpty.forall_iff, implies_true, and_true, ne_eq]
  tauto

theorem candidateFor_eq_ok :
    s.candidateFor C date roster slot = .ok c ↔
      c.toPublicConsultationSlot = slot ∧
        (consultationSlotWindow s.availability s.now).1 ≤ slot.startsAt ∧
        slot.startsAt < (consultationSlotWindow s.availability s.now).2 ∧
        (∀ a ∈ s.appointments, a.type = .consultation → ¬slot.overlaps a) ∧
        s.Chooses C date roster slot c.lawyerId := by
  constructor
  · intro h
    unfold candidateFor at h
    split at h
    · rename_i hrefusals
      obtain ⟨hlead, hwindow, hfree, -⟩ := refusals_eq_nil.mp hrefusals
      split at h
      · rename_i l hwinner
        cases h
        exact ⟨rfl, hlead, hwindow, hfree, winner_eq_some.mp hwinner⟩
      · cases h
    · cases h
    · cases h
  · rintro ⟨rfl, hlead, hwindow, hfree, hchooses⟩
    have hrefusals := refusals_eq_nil.mpr
      ⟨hlead, hwindow, hfree, List.ne_nil_of_mem hchooses.1⟩
    unfold candidateFor
    rw [hrefusals]
    simp only [winner_eq_some.mpr hchooses]

/-- Every opened time of the date is inside the nominal window. -/
theorem mem_openTimes_nominalQuery {startsAt : Time} :
    startsAt ∈ (s.nominalQuery date).openTimes C date ↔ (s.nominalQuery date).Opens C date startsAt := by
  refine ⟨And.left, fun hopens ↦ ⟨hopens, ?_, ?_, fun a ha ↦ absurd ha List.not_mem_nil⟩⟩
  all_goals
    obtain ⟨minute, hminute, hshows⟩ := hopens.shows
    have hday := CairoClock.mem_day_of_shows hshows hminute
    simp only [SlotQuery.availableFrom, SlotQuery.availableUntil, consultationSlotWindow,
      nominalQuery, Nat.cast_zero, zero_mul, add_zero]
  · exact hday.1
  · refine hday.2.trans_eq ?_
    rw [dayLength]
    push_cast
    ring

/-- `slotMinute(slot.startsAt)` is the minute the slot was made for. -/
theorem minute_cairoDateTime {minute : ℕ} {startsAt : Time}
    (h : C.cairoDateTime date minute = some startsAt) (hminute : minute < 1440) :
    C.minute startsAt = minute :=
  (CairoClock.shows_of_cairoDateTime h).minute_eq (Int.natCast_nonneg minute)
    (by exact_mod_cast hminute)

/-- The requested slots are those of the opening hours that pass the filter. -/
theorem mem_requested :
    slot ∈ s.requested P C date filter ↔
      ∃ startsAt, (s.phoneQuery filter).Opens C date startsAt ∧
        slot = (s.phoneQuery filter).slotOf P startsAt := by
  rw [requested, List.mem_filter, decide_eq_true_eq, nominal,
    mem_generateConsultationSlots_of_date rfl rfl (by decide)]
  constructor
  · rintro ⟨⟨startsAt, hopen, rfl⟩, hfrom, hto⟩
    obtain ⟨day, minute, hday, hminute, -, -, hstartsAt⟩ := mem_openTimes_nominalQuery.mp hopen
    have hshown := minute_cairoDateTime hstartsAt (SlotQuery.minute_lt hminute)
    refine ⟨startsAt, ⟨day, minute, hday, hminute, fun i hi ↦ ?_, fun i hi ↦ ?_, hstartsAt⟩, rfl⟩
    · exact_mod_cast (hfrom i hi).trans_eq hshown
    · have hfits := hto i hi
      rw [show C.minute ((s.nominalQuery date).slotOf P startsAt).startsAt = minute from hshown]
        at hfits
      exact_mod_cast hfits
  · rintro ⟨startsAt, ⟨day, minute, hday, hminute, hfrom, hto, hstartsAt⟩, rfl⟩
    have hshown := minute_cairoDateTime hstartsAt (SlotQuery.minute_lt hminute)
    refine ⟨⟨startsAt, mem_openTimes_nominalQuery.mpr
      ⟨day, minute, hday, hminute, nofun, nofun, hstartsAt⟩, rfl⟩, fun i hi ↦ ?_, fun i hi ↦ ?_⟩
    all_goals
      rw [show C.minute ((s.phoneQuery filter).slotOf P startsAt).startsAt = minute from hshown]
    · exact_mod_cast hfrom i hi
    · exact_mod_cast hto i hi

/-- The overlap with the consultations of the snapshot, as the query sees it. -/
theorem forall_mem_phoneQuery {startsAt : Time} :
    (∀ a ∈ (s.phoneQuery filter).appointments, ¬appointmentsOverlap startsAt
      ((s.phoneQuery filter).endOf startsAt) a.startsAt a.endsAt) ↔
    ∀ a ∈ s.appointments, a.type = .consultation →
      ¬((s.phoneQuery filter).slotOf P startsAt).overlaps a := by
  simp only [phoneQuery, SlotQuery.slotOf, PublicConsultationSlot.overlaps, List.forall_mem_map,
    List.mem_filter, decide_eq_true_eq, and_imp]

theorem toOption_eq_some {ε α : Type} {x : Except ε α} {a : α} : x.toOption = some a ↔ x = .ok a := by
  cases x <;> simp [Except.toOption]

theorem weekday_of_dayOf {day : ConsultationAvailabilityDay} (h : s.dayOf C date = some day) :
    day.weekday = C.cairoWeekday date := by
  have hp := List.find?_some h
  exact of_decide_eq_true hp

theorem dayOf_eq_some {day : ConsultationAvailabilityDay} :
    (s.phoneQuery filter).hours C date = some day ↔
      s.dayOf C date = some day ∧ day.enabled ∧ .phone ∈ day.modes := by
  rw [SlotQuery.hours, Option.filter_eq_some_iff, decide_eq_true_eq]
  rfl

/-- A day offers the open times of the telephone hours for which a lawyer of the roster is
chosen. -/
theorem mem_directBookingDay :
    c ∈ (s.directBookingDay P C date filter).2 ↔
      s.availability.directBooking.published ∧
        ∃ startsAt ∈ (s.phoneQuery filter).openTimes C date,
          c.toPublicConsultationSlot = (s.phoneQuery filter).slotOf P startsAt ∧
          s.Chooses C date (s.rosterOf (C.cairoWeekday date)) c.toPublicConsultationSlot
            c.lawyerId := by
  have hcandidates (roster : List Uuid) :
      c ∈ ((s.requested P C date filter).map (s.candidateFor C date roster)).filterMap
        Except.toOption ↔
      ∃ startsAt ∈ (s.phoneQuery filter).openTimes C date,
        c.toPublicConsultationSlot = (s.phoneQuery filter).slotOf P startsAt ∧
        s.Chooses C date roster c.toPublicConsultationSlot c.lawyerId := by
    simp only [List.mem_filterMap, List.mem_map, exists_exists_and_eq_and, toOption_eq_some]
    constructor
    · rintro ⟨slot, hslot, hc⟩
      obtain ⟨startsAt, hopens, rfl⟩ := mem_requested.mp hslot
      obtain ⟨hsame, hlead, hwindow, hfree, hchooses⟩ := candidateFor_eq_ok.mp hc
      exact ⟨startsAt, ⟨hopens, hlead, hwindow, forall_mem_phoneQuery.mpr hfree⟩, hsame,
        hsame ▸ hchooses⟩
    · rintro ⟨startsAt, ⟨hopens, hlead, hwindow, hfree⟩, hsame, hchooses⟩
      refine ⟨c.toPublicConsultationSlot, mem_requested.mpr ⟨startsAt, hopens, hsame⟩,
        candidateFor_eq_ok.mpr ⟨rfl, ?_⟩⟩
      rw [hsame] at hchooses ⊢
      exact ⟨hlead, hwindow, forall_mem_phoneQuery.mp hfree, hchooses⟩
  constructor
  · intro h
    unfold directBookingDay at h
    simp only at h
    by_cases hpublished : s.availability.directBooking.published
    swap
    · rw [if_pos hpublished] at h
      exact absurd h List.not_mem_nil
    rw [if_neg (not_not.mpr hpublished)] at h
    split at h
    · exact absurd h List.not_mem_nil
    split at h
    · exact absurd h List.not_mem_nil
    rename_i day hday
    split_ifs at h
    any_goals exact absurd h List.not_mem_nil
    -- the status has no part in it
    all_goals
      have hfound := (hcandidates (s.rosterOf day.weekday)).mp h
      rw [weekday_of_dayOf hday] at hfound
      exact ⟨hpublished, hfound⟩
  · rintro ⟨hpublished, startsAt, hopen, hsame, hchooses⟩
    have hslots := (hcandidates _).mpr ⟨startsAt, hopen, hsame, hchooses⟩
    obtain ⟨hnow, hlast, hdate⟩ := SlotQuery.mem_openTimes hopen
    obtain ⟨day, minute, hhours, -⟩ := hopen.1
    obtain ⟨hday, henabled, hphone⟩ := dayOf_eq_some.mp hhours
    have hweekday := weekday_of_dayOf hday
    have hrange : ¬(date < C.cairoDateString s.now ∨
        C.cairoDateString ((consultationSlotWindow s.availability s.now).2 - 1) < date) :=
      not_or.mpr ⟨not_lt.mpr (hdate ▸ C.date_mono hnow), not_lt.mpr (hdate ▸ C.date_mono hlast)⟩
    have hroster : s.rosterOf day.weekday ≠ [] := by
      rw [hweekday]
      exact List.ne_nil_of_mem (List.mem_of_mem_filter (List.mem_of_mem_filter hchooses.1))
    have hrequested : s.requested P C date filter ≠ [] :=
      List.ne_nil_of_mem (mem_requested.mpr ⟨startsAt, hopen.1, hsame⟩)
    simp only [directBookingDay, if_neg (not_not.mpr hpublished), if_neg hrange, hday,
      if_neg (not_not.mpr henabled), if_neg (not_not.mpr hphone), if_neg hroster,
      if_neg hrequested]
    rw [hweekday]
    exact hslots

end BookingAvailabilitySnapshot

/-- `availableCandidates(db, cairoDateString(startsAt), excludeAppointmentId)`. -/
def availableCandidates (P : Platform) (C : CairoClock) (db : Database) (startsAt now : Time)
    (excludeAppointmentId : Option Uuid) : List DirectSlot :=
  ((availabilitySnapshot db excludeAppointmentId now).directBookingDay P C
    (C.cairoDateString startsAt)).2.map fun c ↦ ⟨c.startsAt, c.endsAt, c.lawyerId⟩

/-- What the office publishes, by its setting and the clocks of Cairo. -/
def publishedAvailability (P : Platform) (C : CairoClock)
    (bookingCategory : (service locale : String) → String) : Availability where
  offersRequested := offersRequestedSlot P C
  directSlots := availableCandidates P C
  bookingCategory

/-! ## Offers and conflicts

A booking is written after another look for conflicts.  What an offer has not seen of them are the
appointments that begin when the window has ended, and those of other types that belong to a
request and have no lawyer yet. -/

/-- The part of the conflict check that is the same for every scope. -/
def Appointment.blocks (id : Uuid) (excluded : Option Uuid) (startsAt endsAt : Time)
    (p : Appointment) : Prop :=
  p.status.isActive ∧ p.startsAt < endsAt ∧ startsAt < p.endsAt ∧
    ∀ i ∈ excluded, i ≠ "" → id ≠ i

theorem assertNoAppointmentConflict_office {db : Database} {startsAt endsAt : Time}
    {excluded : Option Uuid} (h : startsAt < endsAt) :
    assertNoAppointmentConflict db ⟨startsAt, endsAt, .officeConsultation, excluded⟩ = .ok () ↔
      ∀ id p, db.appointments.lookup id = some p → p.blocks id excluded startsAt endsAt →
        p.type ≠ .consultation := by
  rw [assertNoAppointmentConflict_eq_ok]
  simp only [h, true_and, appointmentConflictWhere, Appointment.blocks,
    AppointmentConflictScope.covers, decide_eq_true_eq, not_and, and_imp]

theorem assertNoAppointmentConflict_lawyer {db : Database} {startsAt endsAt : Time}
    {excluded : Option Uuid} {l : Uuid} (h : startsAt < endsAt) :
    assertNoAppointmentConflict db ⟨startsAt, endsAt, .lawyer l, excluded⟩ = .ok () ↔
      ∀ id p, db.appointments.lookup id = some p → p.blocks id excluded startsAt endsAt →
        ¬(p.lawyerId = some l ∨ (p.lawyerId = none ∧ p.consultationRequestId.isSome)) := by
  rw [assertNoAppointmentConflict_eq_ok]
  simp only [h, true_and, appointmentConflictWhere, Appointment.blocks,
    AppointmentConflictScope.covers, decide_eq_true_eq, not_and, and_imp]

/-- Every listed slot, whatever the limit, is free of the active consultations stored then. -/
def ListedSlotsFree (P : Platform) (C : CairoClock) (db : Database)
    (input : ListPublicConsultationSlots) : Prop :=
  ∀ limit, ∀ slot ∈ (listPublicConsultationSlots P C db { input with limit }).2,
    let db' := (listPublicConsultationSlots P C db { input with limit }).1
    (∀ id p, db'.appointments.lookup id = some p → p.type = .consultation → p.status.isActive →
      ¬appointmentsOverlap slot.startsAt slot.endsAt p.startsAt p.endsAt) ∧
    assertNoAppointmentConflict db' ⟨slot.startsAt, slot.endsAt, .officeConsultation, none⟩ = .ok ()

/-- Every candidate of a day passes the checks of the office and of its lawyer. -/
def CandidatesFree (P : Platform) (C : CairoClock) (db : Database) (excluded : Option Uuid)
    (now : Time) (date : CairoDate) (filter : BookingFilter) : Prop :=
  ∀ c ∈ ((availabilitySnapshot db excluded now).directBookingDay P C date filter).2,
    assertNoAppointmentConflict db ⟨c.startsAt, c.endsAt, .officeConsultation, excluded⟩ = .ok () ∧
      assertNoAppointmentConflict db ⟨c.startsAt, c.endsAt, .lawyer c.lawyerId, excluded⟩ = .ok ()

theorem SlotQuery.lt_endOf (q : SlotQuery) (startsAt : Time) : startsAt < q.endOf startsAt := by
  have hduration : (0 : ℤ) < q.availability.slotDurationMinutes * 60000 := by
    have h := q.availability.slotDuration_mem
    omega
  exact lt_add_of_pos_right startsAt hduration

theorem mem_consultationsBetween {db : Database} {id : Uuid} {p : Appointment}
    {startsAt endsAt : Time} (hp : db.appointments.lookup id = some p)
    (htype : p.type = .consultation) (hactive : p.status.isActive) (hstart : p.startsAt < endsAt)
    (hend : startsAt < p.endsAt) :
    ⟨p.startsAt, p.endsAt⟩ ∈ consultationsBetween db startsAt endsAt :=
  List.mem_map.mpr ⟨(id, p), Table.mem_select.mpr
    ⟨hp, decide_eq_true ⟨htype, hactive, hstart, hend⟩⟩, rfl⟩

/-- No open time overlaps an active consultation that begins at the end of the window or later. -/
def NoConsultationAtWindowEnd (C : CairoClock) (db : Database)
    (input : ListPublicConsultationSlots) : Prop :=
  let db' := (expireOpenConsultationPaymentAttempts db input.now none (some 500)).1
  let q := publicQuery db' input
  ∀ date ∈ q.scannedDates C, ∀ startsAt ∈ q.openTimes C date,
    ∀ id p, db'.appointments.lookup id = some p → p.type = .consultation →
      p.status.isActive → q.availableUntil ≤ p.startsAt →
      ¬appointmentsOverlap startsAt (q.endOf startsAt) p.startsAt p.endsAt

theorem listedSlotsFree_iff (P : Platform) (C : CairoClock) (db : Database)
    (input : ListPublicConsultationSlots) :
    ListedSlotsFree P C db input ↔ NoConsultationAtWindowEnd C db input := by
  let db' := (expireOpenConsultationPaymentAttempts db input.now none (some 500)).1
  let q := publicQuery db' input
  constructor
  · intro h date hdate startsAt hopen id p hp htype hactive _
    have hslot : q.slotOf P startsAt ∈
        (listPublicConsultationSlots P C db { input with limit := none }).2 :=
      (mem_generateConsultationSlots rfl).mpr ⟨date, hdate, startsAt, hopen, rfl⟩
    exact (h none _ hslot).1 id p hp htype hactive
  · intro h limit slot hslot
    obtain ⟨date, hdate, startsAt, hopen, rfl⟩ := finds_of_mem_generateConsultationSlots hslot
    have hfree (id : Uuid) (p : Appointment) (hp : db'.appointments.lookup id = some p)
        (htype : p.type = .consultation) (hactive : p.status.isActive) :
        ¬appointmentsOverlap startsAt (q.endOf startsAt) p.startsAt p.endsAt := by
      by_cases hlate : q.availableUntil ≤ p.startsAt
      · exact h date hdate startsAt hopen id p hp htype hactive hlate
      · intro hoverlap
        have hend : startsAt < p.endsAt := (of_decide_eq_true hoverlap).1
        exact hopen.2.2.2 _ (mem_consultationsBetween hp htype hactive (not_le.mp hlate)
          (hopen.2.1.trans_lt hend)) hoverlap
    refine ⟨hfree, (assertNoAppointmentConflict_office (q.lt_endOf startsAt)).mpr ?_⟩
    intro id p hp hblocks htype
    exact hfree id p hp htype hblocks.1 (decide_eq_true ⟨hblocks.2.2.1, hblocks.2.1⟩)

/-- An appointment of another type for which a lawyer is still to be found. -/
def Appointment.isUnassigned (p : Appointment) : Prop :=
  p.lawyerId = none ∧ p.consultationRequestId.isSome ∧ p.type ≠ .consultation

/-- No time for which a lawyer is chosen overlaps an active appointment that the offer has not
seen: one that begins at the end of the window or later, a consultation or the lawyer's, or one of
another type without a lawyer. -/
def NothingUnseen (P : Platform) (C : CairoClock) (db : Database) (excluded : Option Uuid)
    (now : Time) (date : CairoDate) (filter : BookingFilter) : Prop :=
  let s := availabilitySnapshot db excluded now
  let q := s.phoneQuery filter
  s.availability.directBooking.published →
    ∀ startsAt ∈ q.openTimes C date, ∀ lawyerId,
      s.Chooses C date (s.rosterOf (C.cairoWeekday date)) (q.slotOf P startsAt) lawyerId →
      ∀ id p, db.appointments.lookup id = some p →
        p.blocks id excluded startsAt (q.endOf startsAt) →
        ¬(q.availableUntil ≤ p.startsAt ∧ (p.type = .consultation ∨ p.lawyerId = some lawyerId)) ∧
          ¬p.isUnassigned

theorem candidatesFree_iff (P : Platform) (C : CairoClock) (db : Database)
    (excluded : Option Uuid) (now : Time) (date : CairoDate) (filter : BookingFilter) :
    CandidatesFree P C db excluded now date filter ↔
      NothingUnseen P C db excluded now date filter := by
  let s := availabilitySnapshot db excluded now
  let q := s.phoneQuery filter
  constructor
  · intro h hpublished startsAt hopen lawyerId hchooses id p hp hblocks
    have hc : ⟨q.slotOf P startsAt, lawyerId⟩ ∈ (s.directBookingDay P C date filter).2 :=
      BookingAvailabilitySnapshot.mem_directBookingDay.mpr
        ⟨hpublished, startsAt, hopen, rfl, hchooses⟩
    obtain ⟨hoffice, hlawyer⟩ := h _ hc
    have htype := (assertNoAppointmentConflict_office (q.lt_endOf startsAt)).mp hoffice id p hp
      hblocks
    have howner := (assertNoAppointmentConflict_lawyer (q.lt_endOf startsAt)).mp hlawyer id p hp
      hblocks
    refine ⟨?_, fun hunassigned ↦ howner (.inr ⟨hunassigned.1, hunassigned.2.1⟩)⟩
    rintro ⟨-, hconsultation | hassigned⟩
    · exact htype hconsultation
    · exact howner (.inl hassigned)
  · intro h c hc
    obtain ⟨hpublished, startsAt, hopen, hsame, hchooses⟩ :=
      BookingAvailabilitySnapshot.mem_directBookingDay.mp hc
    have hstarts : c.startsAt = startsAt := congrArg PublicConsultationSlot.startsAt hsame
    have hends : c.endsAt = q.endOf startsAt := congrArg PublicConsultationSlot.endsAt hsame
    rw [hsame] at hchooses
    have hseen (id : Uuid) (p : Appointment) (hp : db.appointments.lookup id = some p)
        (hblocks : p.blocks id excluded startsAt (q.endOf startsAt))
        (hearly : p.startsAt < q.availableUntil)
        (hwhose : p.type = .consultation ∨ ∃ l ∈ p.lawyerId, l ∈ rosterIds s.availability) :
        ⟨p.type, p.lawyerId, p.startsAt, p.endsAt⟩ ∈ s.appointments := by
      obtain ⟨hactive, -, hend, hother⟩ := hblocks
      have hrecent : now - dayLength < p.endsAt :=
        (sub_lt_self now (by decide)).trans_le
          ((SlotQuery.mem_openTimes hopen).1.trans hend.le)
      exact List.mem_map.mpr ⟨(id, p), Table.mem_select.mpr
        ⟨hp, decide_eq_true ⟨hother, hactive, hrecent, hearly, hwhose⟩⟩, rfl⟩
    have htype (id : Uuid) (p : Appointment) (hp : db.appointments.lookup id = some p)
        (hblocks : p.blocks id excluded startsAt (q.endOf startsAt)) : p.type ≠ .consultation := by
      intro htype
      obtain ⟨hlate, -⟩ := h hpublished startsAt hopen c.lawyerId hchooses id p hp hblocks
      have hearly := not_le.mp fun hle ↦ hlate ⟨hle, .inl htype⟩
      exact (BookingAvailabilitySnapshot.forall_mem_phoneQuery (P := P)).mp hopen.2.2.2 _
        (hseen id p hp hblocks hearly (.inl htype)) htype
        (decide_eq_true ⟨hblocks.2.2.1, hblocks.2.1⟩)
    rw [hstarts, hends, assertNoAppointmentConflict_office (q.lt_endOf startsAt),
      assertNoAppointmentConflict_lawyer (q.lt_endOf startsAt)]
    refine ⟨htype, fun id p hp hblocks howner ↦ ?_⟩
    obtain ⟨hlate, hassigned⟩ := h hpublished startsAt hopen c.lawyerId hchooses id p hp hblocks
    rcases howner with howner | ⟨hnobody, hrequest⟩
    · have hearly := not_le.mp fun hle ↦ hlate ⟨hle, .inr howner⟩
      obtain ⟨hopenTo, hfree⟩ := List.mem_filter.mp hchooses.1
      have hlawyer := List.mem_of_mem_filter (List.mem_of_mem_filter hopenTo)
      obtain ⟨⟨_, u⟩, hu, rfl⟩ := List.mem_map.mp hlawyer
      have hnamed := (of_decide_eq_true (Table.mem_select.mp hu).2).1
      refine of_decide_eq_true hfree (List.any_eq_true.mpr
        ⟨_, hseen id p hp hblocks hearly (.inr ⟨_, howner, hnamed⟩), decide_eq_true ⟨howner, ?_⟩⟩)
      exact decide_eq_true ⟨hblocks.2.2.1, hblocks.2.1⟩
    · exact hassigned ⟨hnobody, hrequest, htype id p hp hblocks⟩

/-- The window ends at half past three on a Sunday, when a consultation begins. -/
def busyWindowEnd : Database where
  appointments := AList.singleton "0b6f6d3c-2f0e-4a0e-9b59-5d1f0c3a2b11"
    { clientId := "c", title := "Consultation", type := .consultation, mode := .office
      startsAt := 20471 * 86400000 + 48600000, endsAt := 20471 * 86400000 + 52200000
      status := .scheduled }

end KmtLegal
