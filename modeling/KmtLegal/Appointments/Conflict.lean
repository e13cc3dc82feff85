import KmtLegal.Database
import KmtLegal.Scheduling.Calendar

/-!
# Appointment conflicts

`appointment-conflict-service.ts`: the interval of an appointment is half-open, only active
appointments take time, and a conflict is looked for among the consultations of the office, the
appointments of a client, or those of a lawyer together with the consultations no lawyer has yet.

Read as a calendar, the active appointments book their lawyers, and the check for a lawyer is the
comparison with everything else that is booked for her.
-/

namespace KmtLegal

open Relational Scheduling

/-! ## Opening hours

Working days, rosters, closures and the zone of Cairo decide which times are offered.  What they
offer is a parameter: the services compare what is asked for with it, and check for conflicts
whatever it says. -/

/-- A time that is offered for direct booking, with the lawyer it is offered with. -/
structure DirectSlot where
  startsAt : Time
  endsAt : Time
  lawyerId : Uuid
  deriving DecidableEq

/-- What the office publishes. -/
structure Availability where
  /-- `assertRequestedSlotAtApproval` finds the slot. -/
  offersRequested : Database → (startsAt endsAt : Time) → ConsultationMode → (now : Time) → Bool
  /-- `availableCandidates(db, cairoDateString(startsAt), excludeAppointmentId)`. -/
  directSlots : Database → (startsAt now : Time) → Option Uuid → List DirectSlot
  /-- `bookingCategoryForPublicService(service, locale)`. -/
  bookingCategory : (service locale : String) → String

/-! ## The check -/

/-- `ACTIVE_APPOINTMENT_STATUSES`. -/
def AppointmentStatus.isActive (s : AppointmentStatus) : Bool :=
  s ∈ [.reserved, .scheduled, .rescheduled]

/-- `appointmentIntervalsOverlap(leftStartsAt, leftEndsAt, rightStartsAt, rightEndsAt)`. -/
def appointmentIntervalsOverlap (leftStartsAt leftEndsAt rightStartsAt rightEndsAt : Time) : Bool :=
  leftStartsAt < rightEndsAt ∧ rightStartsAt < leftEndsAt

inductive AppointmentConflictScope where
  | officeConsultation
  | lawyer (lawyerId : Uuid)
  | client (clientId : Uuid)
  deriving DecidableEq

/-- The appointments of a scope. -/
def AppointmentConflictScope.covers (p : Appointment) : AppointmentConflictScope → Bool
  | officeConsultation => p.type = .consultation
  | client clientId => p.clientId = clientId
  | lawyer lawyerId =>
    p.lawyerId = some lawyerId ∨ (p.lawyerId = none ∧ p.consultationRequestId.isSome)

structure AppointmentConflictInput where
  startsAt : Time
  endsAt : Time
  scope : AppointmentConflictScope
  excludeAppointmentId : Option Uuid := none
  deriving DecidableEq

/-- `appointmentConflictWhere(input)` without the check of the interval. -/
def appointmentConflictWhere (input : AppointmentConflictInput) (id : Uuid) (p : Appointment) :
    Bool :=
  p.status.isActive ∧ p.startsAt < input.endsAt ∧ input.startsAt < p.endsAt ∧
    -- an empty id excludes nothing
    (∀ excluded ∈ input.excludeAppointmentId, excluded ≠ "" → id ≠ excluded) ∧
    input.scope.covers p

/-- `assertValidAppointmentInterval(startsAt, endsAt)`. -/
def assertValidAppointmentInterval (startsAt endsAt : Time) : Except Failure Unit :=
  throwIf (endsAt ≤ startsAt)
    (.of 400 .validationError "Appointment end time must be after its start time.")

/-- `appointmentConflictError()`. -/
def appointmentConflictError : Failure :=
  .of 409 .appointmentConflict
    "Another appointment already exists for this lawyer at this time. Choose a different time."

/-- `assertNoAppointmentConflict(input)`. -/
def assertNoAppointmentConflict (db : Database) (input : AppointmentConflictInput) :
    Except Failure Unit := do
  assertValidAppointmentInterval input.startsAt input.endsAt
  throwIf (db.appointments.any (appointmentConflictWhere input)) appointmentConflictError

/-- `consultationReference(id)`, and `publicConsultationReference(id)`. -/
def consultationReference (id : Uuid) : String := "CONS-" ++ Js.toUpperCase (Js.sliceTo id 8)

/-- `appointmentEndAt(startsAt, durationMinutes)`. -/
def appointmentEndAt (startsAt : Time) (durationMinutes : ℕ) : Time :=
  startsAt + durationMinutes * 60000

theorem assertNoAppointmentConflict_eq_ok {db : Database} {input : AppointmentConflictInput}
    {u : Unit} :
    assertNoAppointmentConflict db input = .ok u ↔
      input.startsAt < input.endsAt ∧
        ∀ id p, db.appointments.lookup id = some p → ¬appointmentConflictWhere input id p := by
  simp only [assertNoAppointmentConflict, assertValidAppointmentInterval, bind_eq_ok,
    throwIf_eq_ok, not_le, exists_and_left, exists_const, Table.any_iff, not_exists, not_and]

/-! ## Appointments as bookings -/

/-- The time an appointment takes; an inactive one takes none. -/
def Appointment.booking (p : Appointment) : Option (Booking Uuid Time) :=
  if p.status.isActive then some ⟨p.lawyerId, p.startsAt, p.endsAt⟩ else none

theorem Appointment.booking_eq_some {p : Appointment} {b : Booking Uuid Time} :
    p.booking = some b ↔ p.status.isActive ∧ b = ⟨p.lawyerId, p.startsAt, p.endsAt⟩ := by
  unfold Appointment.booking
  by_cases h : p.status.isActive
  · simp [h, eq_comm]
  · simp [h]

/-- The active appointments, each with its lawyer and its times. -/
def lawyerCalendar (db : Database) : Calendar Uuid Uuid Time := fun id ↦
  (db.appointments.lookup id).bind Appointment.booking

theorem lawyerCalendar_eq_some {db : Database} {id : Uuid} {b : Booking Uuid Time} :
    lawyerCalendar db id = some b ↔
      ∃ p, db.appointments.lookup id = some p ∧ p.booking = some b :=
  Option.bind_eq_some_iff

/-- A time without conflict for a lawyer fits into the calendar. -/
theorem fits_of_assertNoAppointmentConflict {db : Database} {startsAt endsAt : Time}
    {lawyerId id : Uuid} {excluded : Option Uuid} {u : Unit}
    (h : assertNoAppointmentConflict db ⟨startsAt, endsAt, .lawyer lawyerId, excluded⟩ = .ok u)
    (hexcluded : ∀ i ∈ excluded, i = id) :
    (lawyerCalendar db).Fits id ⟨some lawyerId, startsAt, endsAt⟩ := by
  intro j a hj ha r hr hra
  obtain ⟨p, hp, hbooking⟩ := lawyerCalendar_eq_some.mp ha
  obtain ⟨hactive, rfl⟩ := Appointment.booking_eq_some.mp hbooking
  obtain rfl := Option.some.inj hr
  refine Booking.disjoint_times fun hoverlaps ↦
    (assertNoAppointmentConflict_eq_ok.mp h).2 j p hp (decide_eq_true ?_)
  refine ⟨hactive, hoverlaps.2, hoverlaps.1, fun i hi _ ↦ ?_, decide_eq_true (.inl hra)⟩
  rw [hexcluded i hi]
  exact hj

/-! ## What a write does to the calendar -/

section

variable {db db' : Database} {id : Uuid}

/-- Nothing is booked anew if every appointment takes the time it took, or none. -/
theorem revision_of_rows (h : ∀ i p', db'.appointments.lookup i = some p' →
    p'.booking = none ∨ ∃ p, db.appointments.lookup i = some p ∧ p'.booking = p.booking) :
    (lawyerCalendar db).Revision (lawyerCalendar db') := by
  refine .dropped fun i b hb ↦ ?_
  obtain ⟨p', hp', hbooking⟩ := lawyerCalendar_eq_some.mp hb
  rcases h i p' hp' with hnone | ⟨p, hp, hsame⟩
  · rw [hbooking] at hnone
    cases hnone
  · exact lawyerCalendar_eq_some.mpr ⟨p, hp, hsame ▸ hbooking⟩

theorem revision_of_appointments_eq (h : db'.appointments = db.appointments) :
    (lawyerCalendar db).Revision (lawyerCalendar db') :=
  revision_of_rows fun _ p' hp' ↦ .inr ⟨p', h ▸ hp', rfl⟩

/-- A new appointment is booked if it fits. -/
theorem revision_of_insert {p : Appointment}
    (h : db'.appointments = AList.insert id p db.appointments)
    (hfits : (lawyerCalendar db).Fits id ⟨p.lawyerId, p.startsAt, p.endsAt⟩) :
    (lawyerCalendar db).Revision (lawyerCalendar db') := by
  refine .booked id (fun j b hj hb ↦ ?_) fun b hb ↦ ?_
  · rwa [lawyerCalendar, h, Table.lookup_insert, if_neg hj] at hb
  · rw [lawyerCalendar, h, Table.lookup_insert, if_pos rfl, Option.bind_some,
      Appointment.booking_eq_some] at hb
    exact hb.2 ▸ hfits

/-- A changed appointment stays booked if it fits or takes no time. -/
theorem revision_of_update {f : Appointment → Appointment}
    (h : db'.appointments = db.appointments.update id f)
    (hfits : ∀ p b, db.appointments.lookup id = some p → (f p).booking = some b →
      (lawyerCalendar db).Fits id b) :
    (lawyerCalendar db).Revision (lawyerCalendar db') := by
  refine .booked id (fun j b hj hb ↦ ?_) fun b hb ↦ ?_
  · rwa [lawyerCalendar, h, Table.lookup_update_of_ne _ _ hj] at hb
  · rw [lawyerCalendar, h, Table.lookup_update_self] at hb
    obtain ⟨p', hp', hbooking⟩ := Option.bind_eq_some_iff.mp hb
    obtain ⟨p, hp, rfl⟩ := Option.map_eq_some_iff.mp hp'
    exact hfits p b hp hbooking

end

end KmtLegal
