import KmtLegal.Auth.Policy
import KmtLegal.Appointments.Conflict

/-!
# Outcomes of consultations

`consultation-outcome-policy.ts` with the guards the staff services share.  The primary appointment
of a consultation is the earliest one of type `CONSULTATION` that does not belong to a case.  An
outcome is final once the consultation has succeeded, was not attended or was cancelled, and then
the primary appointment carries the matching status.
-/

namespace KmtLegal

open Relational

/-! ## Outcomes -/

namespace ConsultationOutcomeStatus

/-- `isFinalOutcome(value)`. -/
def isFinal (s : ConsultationOutcomeStatus) : Bool := s ∈ [successful, noShow, cancelled]

/-- `appointmentStatusForConsultationOutcome(outcome)`. -/
def appointmentStatus : ConsultationOutcomeStatus → Option AppointmentStatus
  | successful => some .completed
  | noShow => some .noShow
  | cancelled => some .cancelled
  | pending | awaitingResult | missed => none

/-- An appointment whose consultation has a final outcome takes no time. -/
theorem isActive_of_appointmentStatus {o : ConsultationOutcomeStatus} {s : AppointmentStatus}
    (h : o.appointmentStatus = some s) : s.isActive = false := by
  cases o <;> cases h <;> rfl

end ConsultationOutcomeStatus

/-- `FINAL_CONSULTATION_OUTCOMES`. -/
inductive FinalConsultationOutcome where
  | successful | noShow | cancelled
  deriving DecidableEq

def FinalConsultationOutcome.status : FinalConsultationOutcome → ConsultationOutcomeStatus
  | successful => .successful
  | noShow => .noShow
  | cancelled => .cancelled

/-- `ACTIVE_UNBOOKED_CONSULTATION_STATUSES`. -/
def ConsultationStatus.isActiveUnbooked (s : ConsultationStatus) : Bool :=
  s ∈ [.new, .reviewing, .paymentPending, .scheduled]

/-- `INITIAL_OUTCOME_REASON_CODES`. -/
def initialOutcomeReasonCodes : List String :=
  ["COMPLETED_AS_SCHEDULED", "CLIENT_NO_SHOW", "CANCELLED_BY_CLIENT", "CANCELLED_BY_OFFICE",
   "TECHNICAL_ISSUE", "OTHER"]

/-- `CORRECTION_OUTCOME_REASON_CODES`. -/
def correctionOutcomeReasonCodes : List String :=
  ["CORRECTED_OPERATOR_ERROR", "CORRECTED_AFTER_VERIFICATION", "CORRECTED_CLIENT_UPDATE", "OTHER"]

/-- `REOPEN_OUTCOME_REASON_CODES`. -/
def reopenOutcomeReasonCodes : List String :=
  ["REOPEN_CLIENT_REQUEST", "REOPEN_OFFICE_FOLLOW_UP", "REOPEN_SCHEDULING_ERROR", "OTHER"]

/-- `canManageConsultationOutcome(actor)`. -/
def canManageConsultationOutcome (actor : Principal) : Bool :=
  actor.roleName ∈ ["Secretary", "Office Admin", "Super Admin"] ∧
    hasPermission actor "consultation.review.any" ∧ hasPermission actor "appointment.manage.any"

/-! ## Errors -/

/-- `consultationOutcomeNotReadyError()`. -/
def consultationOutcomeNotReadyError : Failure :=
  .of 409 .consultationOutcomeNotReady
    "The consultation outcome is not ready to be recorded yet."

/-- `consultationStateChangedError()`. -/
def consultationStateChangedError : Failure :=
  .of 409 .consultationStateChanged
    "The consultation changed after this view was loaded. Refresh and try again."

/-- `consultationReopenRequiredError()`. -/
def consultationReopenRequiredError : Failure :=
  .of 409 .consultationReopenRequired
    "This missed consultation must be reopened and rescheduled before continuing."

/-! ## The primary appointment -/

/-- `PRIMARY_CONSULTATION_APPOINTMENT_WHERE`. -/
def Appointment.isPrimary (p : Appointment) : Bool := p.type = .consultation ∧ p.caseId = none

/-- A primary appointment of the consultation. -/
def Appointment.isPrimaryOf (consultationId : Uuid) (p : Appointment) : Bool :=
  p.consultationRequestId = some consultationId ∧ p.isPrimary

/-- `orderBy: [{ startsAt: "asc" }, { id: "asc" }]`. -/
def primaryOrder (x y : Uuid × Appointment) : Prop :=
  x.2.startsAt < y.2.startsAt ∨ (x.2.startsAt = y.2.startsAt ∧ x.1 ≤ y.1)

instance : DecidableRel primaryOrder := fun x y ↦
  inferInstanceAs
    (Decidable (x.2.startsAt < y.2.startsAt ∨ (x.2.startsAt = y.2.startsAt ∧ x.1 ≤ y.1)))

/-- `getPrimaryConsultationAppointment(consultationRequestId, client)`. -/
def getPrimaryConsultationAppointment (db : Database) (consultationId : Uuid) :
    Option (Uuid × Appointment) :=
  (db.appointments.findMany (fun _ p ↦ p.isPrimaryOf consultationId) primaryOrder 1).head?

section

variable {db : Database} {consultationId id : Uuid} {p : Appointment}

theorem getPrimary_eq_some (h : getPrimaryConsultationAppointment db consultationId = some (id, p)) :
    db.appointments.lookup id = some p ∧ p.isPrimaryOf consultationId :=
  Table.mem_findMany (List.mem_of_mem_head? h)

theorem getPrimary_eq_none :
    getPrimaryConsultationAppointment db consultationId = none ↔
      ∀ id p, db.appointments.lookup id = some p → ¬p.isPrimaryOf consultationId := by
  rw [getPrimaryConsultationAppointment, List.head?_eq_none_iff,
    Table.findMany_eq_nil Nat.one_ne_zero]

end

/-! ## Guards -/

inductive ExistingConsultationMutation where
  | assign | review | reject | convert
  deriving DecidableEq

namespace ExistingConsultationMutation

/-- The outcomes under which a mutation is possible. -/
def allows : ExistingConsultationMutation → ConsultationOutcomeStatus → Bool
  | convert, outcome => outcome ∈ [.awaitingResult, .successful]
  | assign, outcome | review, outcome | reject, outcome => outcome ∈ [.pending, .awaitingResult]

end ExistingConsultationMutation

/-- The context of `assertExistingConsultationMutationAllowed`. -/
structure MutationContext where
  primaryEndsAt : Option Time := none
  assignedLawyerId : Option Uuid := none
  secretaryReviewedAt : Option Time := none
  now : Time := 0
  deriving DecidableEq

/-- `assertExistingConsultationMutationAllowed(action, outcomeStatus, context)`. -/
def assertExistingConsultationMutationAllowed (action : ExistingConsultationMutation)
    (outcome : ConsultationOutcomeStatus) (context : MutationContext := {}) :
    Except Failure Unit := do
  throwIf (outcome = .missed) consultationReopenRequiredError
  throwIf (action ∈ [.assign, .review] ∧ outcome = .pending ∧
      context.primaryEndsAt.any (· ≤ context.now))
    (if context.assignedLawyerId = none ∧ context.secretaryReviewedAt = none then
      consultationReopenRequiredError
    else consultationStateChangedError)
  throwIf (¬action.allows outcome) consultationStateChangedError

theorem assertExistingConsultationMutationAllowed_eq_ok {action : ExistingConsultationMutation}
    {outcome : ConsultationOutcomeStatus} {context : MutationContext} {u : Unit} :
    assertExistingConsultationMutationAllowed action outcome context = .ok u ↔
      action.allows outcome ∧ (action ∈ [.assign, .review] → outcome = .pending →
        ∀ endsAt ∈ context.primaryEndsAt, context.now < endsAt) := by
  simp only [assertExistingConsultationMutationAllowed, bind_eq_ok, throwIf_eq_ok,
    exists_and_left, exists_const, not_and, Option.any_eq_true, decide_eq_true_eq, not_exists,
    not_le, Decidable.not_not, Option.mem_def]
  constructor
  · rintro ⟨-, hcontext, hallows⟩
    exact ⟨hallows, hcontext⟩
  · rintro ⟨hallows, hcontext⟩
    refine ⟨?_, hcontext, hallows⟩
    rintro rfl
    cases action <;> exact absurd hallows (by decide)

/-- An update that must still find the row as it was read: `updateMany` with a count of one. -/
def Database.updateConsultationIf (db : Database) (id : Uuid) (guard : ConsultationRequest → Bool)
    (f : ConsultationRequest → ConsultationRequest) : Except Failure Database := do
  throwIf (¬(db.consultationRequests.lookup id).any guard) consultationStateChangedError
  return db.updateConsultation id f

theorem Database.updateConsultationIf_eq_ok {db db' : Database} {id : Uuid}
    {guard : ConsultationRequest → Bool} {f : ConsultationRequest → ConsultationRequest} :
    db.updateConsultationIf id guard f = .ok db' ↔
      (db.consultationRequests.lookup id).any guard ∧ db' = db.updateConsultation id f := by
  simp only [updateConsultationIf, bind_eq_ok, throwIf_eq_ok, Decidable.not_not, pure_eq_ok,
    exists_and_left, exists_const, eq_comm (a := db')]

/-- A write of the primary appointment, if there is one. -/
def Database.updatePrimary (db : Database) (primary : Option (Uuid × Appointment))
    (f : Appointment → Appointment) : Database :=
  { db with appointments := db.appointments.updateFound primary f }

end KmtLegal
