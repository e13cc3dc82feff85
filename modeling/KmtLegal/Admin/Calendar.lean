import KmtLegal.Admin.ConsultationReview

/-!
# The calendar of the office

`createAdminCalendarAppointment` and `rescheduleAdminCalendarAppointment` of
`case-operations-service.ts`: appointments of a case, and the generic move of any appointment that
is still open.  A consultation whose outcome is no longer pending is not moved here.
-/

namespace KmtLegal

open Relational Js Scheduling

/-! ## Permissions -/

/-- `canReadCase(principal, resource)`. -/
def canReadCase (principal : Principal) (clientUserId : Option Uuid) (assignedLawyerId : Uuid) :
    Bool :=
  hasPermission principal "case.read.any" ∨
    (hasPermission principal "case.read.own" ∧ clientUserId = some principal.id) ∨
    (hasPermission principal "case.read.assigned" ∧ assignedLawyerId = principal.id)

/-- `canReadAdminCase(actor, legalCase)`. -/
def canReadAdminCase (actor : Principal) (clientUserId : Option Uuid) (assignedLawyerId : Uuid) :
    Bool :=
  (hasPermission actor "case.read.any" ∨ hasPermission actor "case.read.assigned") ∧
    canReadCase actor clientUserId assignedLawyerId

/-- `canManageCaseSessions(actor, legalCase)`. -/
def canManageCaseSessions (actor : Principal) (legalCase : LegalCase) : Bool :=
  hasPermission actor "session.manage.any" ∨
    (hasPermission actor "session.manage.assigned" ∧ legalCase.assignedLawyerId = actor.id)

/-- `canManageCalendarAppointment(actor, appointment)`, by the case of the appointment. -/
def canManageCalendarAppointment (actor : Principal) (legalCase : Option LegalCase) : Bool :=
  hasPermission actor "appointment.manage.any" ∨
    (hasPermission actor "session.manage.assigned" ∧
      legalCase.any fun l ↦ l.deletedAt = none ∧ l.assignedLawyerId = actor.id)

/-- `findCaseForAction(actor, caseId, client)`. -/
def findCaseForAction (db : Database) (actor : Principal) (caseId : Uuid) :
    Except Failure LegalCase := do
  let legalCase ← orThrow ((db.legalCases.lookup caseId).filter fun l ↦ l.deletedAt = none)
    (.notFound "Case was not found.")
  let clientUserId := (db.clients.lookup legalCase.clientId).bind Client.userId
  throwIf (¬canReadAdminCase actor clientUserId legalCase.assignedLawyerId)
    (.permissionDenied "Case record is not allowed.")
  return legalCase

/-- `assertSessionManageAllowed(actor, caseId, client)`. -/
def assertSessionManageAllowed (db : Database) (actor : Principal) (caseId : Uuid) :
    Except Failure LegalCase := do
  let legalCase ← findCaseForAction db actor caseId
  throwIf (¬canManageCaseSessions actor legalCase)
    (.permissionDenied "Session management permission is required.")
  return legalCase

/-- `dateFromActionInput(value, fieldName)`. -/
def dateFromActionInput (P : Platform) (value fieldName : String) : Except Failure Time :=
  orThrow (P.parseDate value) (.of 400 .validationError (fieldName ++ " is invalid."))

/-! ## Creating -/

/-- A call of `createAdminCalendarAppointment`. -/
structure CreateCalendarAppointment where
  actor : Principal
  caseId : Uuid
  title : String
  type : AppointmentType := .courtSession
  mode : AppointmentMode := .court
  location : Option String := none
  startsAt : String
  durationMinutes : DurationMinutes 480 := ⟨60, by decide⟩
  notes : Option String := none
  now : Time
  newAppointmentId : Uuid

/-- The appointment of a case. -/
def CreateCalendarAppointment.appointment (call : CreateCalendarAppointment) (legalCase : LegalCase)
    (startsAt : Time) : Appointment where
  clientId := legalCase.clientId
  lawyerId := some legalCase.assignedLawyerId
  caseId := some call.caseId
  title := call.title
  type := call.type
  mode := call.mode
  location := orNull call.location
  startsAt
  endsAt := appointmentEndAt startsAt call.durationMinutes
  status := .scheduled
  notes := orNull call.notes
  createdAt := call.now

/-- `createAdminCalendarAppointment({ actor, body })`. -/
def createAdminCalendarAppointment (P : Platform) (db : Database)
    (call : CreateCalendarAppointment) : Except Failure Database := do
  let startsAt ← dateFromActionInput P call.startsAt "startsAt"
  let legalCase ← assertSessionManageAllowed db call.actor call.caseId
  assertNoAppointmentConflict db
    { startsAt, endsAt := appointmentEndAt startsAt call.durationMinutes
      scope := .lawyer legalCase.assignedLawyerId }
  db.createAppointment call.newAppointmentId (call.appointment legalCase startsAt)

/-! ## Moving -/

/-- `effectiveConsultationOutcome(appointment)`. -/
def effectiveConsultationOutcome (p : Appointment) (c : Option ConsultationRequest) :
    Option ConsultationOutcomeStatus :=
  if p.isPrimary then c.map ConsultationRequest.outcomeStatus else none

/-- `canUseGenericCalendarReschedule(appointment, now)`. -/
def canUseGenericCalendarReschedule (p : Appointment) (c : Option ConsultationRequest)
    (now : Time) : Bool :=
  match effectiveConsultationOutcome p c with
  | none => true
  | some outcome => outcome = .pending ∧ now < p.endsAt

/-- A call of `rescheduleAdminCalendarAppointment`. -/
structure RescheduleCalendarAppointment where
  actor : Principal
  appointmentId : String
  startsAt : String
  durationMinutes : DurationMinutes 480 := ⟨60, by decide⟩
  mode : Option AppointmentMode := none
  location : Option String := none
  now : Time
  refusedAt : Time

/-- The error of a move that the generic calendar does not make. -/
def rescheduleRefusal (p : Appointment) (c : Option ConsultationRequest) (now : Time) : Failure :=
  let pendingEndedWithoutHandling : Bool := p.isPrimary ∧ p.endsAt ≤ now ∧
    c.any fun c ↦ c.outcomeStatus = .pending ∧ c.assignedLawyerId = none ∧
      c.secretaryReviewedAt = none
  if (c.any fun c ↦ c.outcomeStatus = .missed) ∨ pendingEndedWithoutHandling then
    consultationReopenRequiredError
  else consultationStateChangedError

/-- What `rescheduleAdminCalendarAppointment` writes into the appointment. -/
def RescheduleCalendarAppointment.move (call : RescheduleCalendarAppointment) (startsAt : Time)
    (p : Appointment) : Appointment :=
  { p with
    startsAt
    endsAt := appointmentEndAt startsAt call.durationMinutes
    mode := call.mode.getD p.mode
    location := (orNull call.location).or p.location
    status := .rescheduled }

/-- The lawyer whose calendar a move is compared with, if there is one. -/
def rescheduleScope (p : Appointment) (legalCase : Option LegalCase) : AppointmentConflictScope :=
  match p.lawyerId.or (legalCase.map LegalCase.assignedLawyerId) with
  | some lawyerId => .lawyer lawyerId
  | none => .officeConsultation

/-- `rescheduleAdminCalendarAppointment({ actor, appointmentId, body })`. -/
def rescheduleAdminCalendarAppointment (P : Platform) (db : Database)
    (call : RescheduleCalendarAppointment) : Except Failure Database := do
  let appointmentId ← P.parseUuid call.appointmentId "Appointment id is invalid."
  let startsAt ← dateFromActionInput P call.startsAt "startsAt"
  let p ← orThrow (db.appointments.lookup appointmentId) (.notFound "Appointment was not found.")
  let legalCase := p.caseId.bind fun id ↦ db.legalCases.lookup id
  let c := p.consultationRequestId.bind fun id ↦ db.consultationRequests.lookup id
  throwIf (¬canManageCalendarAppointment call.actor legalCase)
    (.permissionDenied "Appointment reschedule permission is required.")
  throwIf (p.status ∈ [.cancelled, .completed, .noShow])
    (.conflict "Closed appointments cannot be rescheduled.")
  throwIf (¬canUseGenericCalendarReschedule p c call.now) (rescheduleRefusal p c call.refusedAt)
  assertNoAppointmentConflict db
    { startsAt, endsAt := appointmentEndAt startsAt call.durationMinutes
      scope := rescheduleScope p legalCase, excludeAppointmentId := some appointmentId }
  return db.updateAppointment appointmentId (call.move startsAt)

/-! ## What a call that succeeded did -/

section

variable {P : Platform} {db db' : Database}

/-- A new appointment of a case fits the lawyer of the case. -/
theorem createAdminCalendarAppointment_ok {call : CreateCalendarAppointment}
    (h : createAdminCalendarAppointment P db call = .ok db') :
    ∃ legalCase startsAt, db.appointments.lookup call.newAppointmentId = none ∧
      (lawyerCalendar db).Fits call.newAppointmentId ⟨some legalCase.assignedLawyerId, startsAt,
        appointmentEndAt startsAt call.durationMinutes⟩ ∧
      db' = { db with
        appointments := AList.insert call.newAppointmentId (call.appointment legalCase startsAt)
          db.appointments } := by
  simp only [createAdminCalendarAppointment, bind_eq_ok, Database.createAppointment_eq_ok] at h
  obtain ⟨startsAt, -, legalCase, -, _, hlawyer, hfresh, rfl⟩ := h
  exact ⟨legalCase, startsAt, hfresh,
    fits_of_assertNoAppointmentConflict hlawyer nofun, rfl⟩

/-- A moved appointment was open, its consultation's outcome was pending if it is a primary one,
and the new time fits the lawyer it has. -/
theorem rescheduleAdminCalendarAppointment_ok {call : RescheduleCalendarAppointment}
    (h : rescheduleAdminCalendarAppointment P db call = .ok db') :
    ∃ p startsAt, db.appointments.lookup call.appointmentId = some p ∧
      p.status ∉ [.cancelled, .completed, .noShow] ∧
      (p.isPrimary → ∀ id c, p.consultationRequestId = some id →
        db.consultationRequests.lookup id = some c → c.outcomeStatus = .pending) ∧
      (lawyerCalendar db).Fits call.appointmentId
        ⟨p.lawyerId, startsAt, appointmentEndAt startsAt call.durationMinutes⟩ ∧
      db' = db.updateAppointment call.appointmentId (call.move startsAt) := by
  simp only [rescheduleAdminCalendarAppointment, bind_eq_ok, throwIf_eq_ok, orThrow_eq_ok,
    Platform.parseUuid_eq_ok, pure_eq_ok, Decidable.not_not] at h
  obtain ⟨_, ⟨-, rfl⟩, startsAt, -, p, hp, _, -, _, hstatus, _, hgeneric, _, hfree, rfl⟩ := h
  refine ⟨p, startsAt, hp, hstatus, fun hprimary id c hid hc ↦ ?_, ?_, rfl⟩
  · rw [canUseGenericCalendarReschedule, effectiveConsultationOutcome, if_pos hprimary, hid,
      Option.bind_some, hc, Option.map_some] at hgeneric
    exact (of_decide_eq_true hgeneric).1
  · cases hlawyer : p.lawyerId with
    | none => exact Calendar.fits_of_resource_eq_none rfl
    | some lawyerId =>
      rw [rescheduleScope, hlawyer, Option.some_or] at hfree
      exact fits_of_assertNoAppointmentConflict hfree fun i hi ↦ (Option.some.inj hi).symm

end

end KmtLegal
