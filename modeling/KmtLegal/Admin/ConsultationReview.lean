import KmtLegal.Platform
import KmtLegal.Clients
import KmtLegal.Admin.OutcomePolicy

/-!
# Review of consultations

The staff services of `consultation-review-service.ts`: a consultation is scheduled, assigned to a
lawyer, reviewed, rejected or converted to a case.  Each is one transaction; a call carries its
clock readings and the ids of the rows it may create.

Every service has one lemma that says what a call that succeeded has checked and what it wrote.
-/

namespace KmtLegal

open Relational Js Scheduling

/-- A duration the schemas accept: between a quarter of an hour and `most` minutes. -/
abbrev DurationMinutes (most : ℕ) := {n : ℕ // 15 ≤ n ∧ n ≤ most}

/-- `legalCaseReference(id, now)`. -/
def legalCaseReference (P : Platform) (id : Uuid) (now : Time) : String :=
  "KMT-" ++ toString (P.localFullYear now) ++ "-" ++ toUpperCase (sliceTo id 8)

/-- `canReviewConsultation(actor, consultation)`. -/
def canReviewConsultation (actor : Principal) (c : ConsultationRequest) : Bool :=
  hasPermission actor "consultation.review.any" ∨
    (hasPermission actor "consultation.review.assigned" ∧ c.assignedLawyerId = some actor.id)

/-- `tx.consultationRequest.findUnique`, or a 404. -/
def findConsultation (db : Database) (id : Uuid) : Except Failure ConsultationRequest :=
  orThrow (db.consultationRequests.lookup id) (.notFound "Consultation was not found.")

/-- The consultation is marked as reviewed, unless it was before. -/
def ConsultationRequest.markReviewed (c : ConsultationRequest) (now : Time) (actor : Principal) :
    ConsultationRequest :=
  { c with
    secretaryReviewedAt := some (c.secretaryReviewedAt.getD now)
    secretaryReviewedById :=
      if c.secretaryReviewedAt.isSome then c.secretaryReviewedById else some actor.id }

/-! ## Scheduling -/

/-- A call of `scheduleConsultation`. -/
structure ScheduleConsultation where
  actor : Principal
  consultationId : String
  assignedLawyerId : Uuid
  startsAt : Time
  durationMinutes : DurationMinutes 240
  mode : ConsultationMode
  location : Option String := none
  expectedOutcomeVersion : ℕ
  now : Time
  transactionNow : Time
  newClientId : Uuid
  newAppointmentId : Uuid

def ScheduleConsultation.endsAt (call : ScheduleConsultation) : Time :=
  appointmentEndAt call.startsAt call.durationMinutes

/-- A request that came through the assistant keeps the time its client asked for. -/
def assertRequestedTime (A : Availability) (db : Database) (consultationId : Uuid)
    (c : ConsultationRequest) (call : ScheduleConsultation) : Except Failure Unit :=
  if db.assistantSessions.any fun _ s ↦ s.consultationRequestId = some consultationId then do
    throwIf (c.preferredMode ≠ call.mode ∨ (c.requestedStartsAt.isSome ∧
        (c.requestedStartsAt ≠ some call.startsAt ∨ c.requestedEndsAt ≠ some call.endsAt)))
      (.conflict "Ask the client to choose an alternative before changing their requested time.")
    throwIf (¬A.offersRequested db call.startsAt call.endsAt call.mode call.transactionNow)
      (.of 409 .appointmentConflict
        "The requested time is unavailable. Ask the client to choose an alternative.")
  else .ok ()

def startsInPast : Failure :=
  .of 400 .validationError "The consultation appointment must start in the future."

/-- The appointment `scheduleConsultation` creates. -/
def ScheduleConsultation.appointment (call : ScheduleConsultation) (clientId : Uuid) :
    Appointment where
  clientId
  lawyerId := some call.assignedLawyerId
  consultationRequestId := some call.consultationId
  title := "موعد استشارة " ++ consultationReference call.consultationId
  type := .consultation
  mode := call.mode.appointmentMode
  location := orNull call.location
  startsAt := call.startsAt
  endsAt := call.endsAt
  status := .scheduled
  createdAt := call.transactionNow

/-- What `scheduleConsultation` writes into the consultation. -/
def ScheduleConsultation.write (call : ScheduleConsultation) (clientId : Uuid)
    (c : ConsultationRequest) : ConsultationRequest :=
  { c.markReviewed call.transactionNow call.actor with
    clientId := some clientId
    assignedLawyerId := some call.assignedLawyerId
    status := .scheduled
    outcomeVersion := c.outcomeVersion + 1 }

/-- `scheduleConsultation({ actor, consultationId, body })`. -/
def scheduleConsultation (P : Platform) (A : Availability) (db : Database)
    (call : ScheduleConsultation) : Except Failure Database := do
  throwIf (¬canManageConsultationOutcome call.actor) (.permissionDenied
    "Consultation scheduling requires consultation review and appointment management permissions.")
  let consultationId ← P.parseUuid call.consultationId "Consultation id is invalid."
  throwIf (call.startsAt ≤ call.now) startsInPast
  throwIf (call.startsAt ≤ call.transactionNow) startsInPast
  let c ← findConsultation db consultationId
  throwIf (c.outcomeVersion ≠ call.expectedOutcomeVersion) consultationStateChangedError
  throwIf (c.outcomeStatus ≠ .pending ∨ ¬c.status.isActiveUnbooked) consultationStateChangedError
  throwIf (getPrimaryConsultationAppointment db consultationId).isSome consultationStateChangedError
  assertAssignableLawyer db call.assignedLawyerId
  assertRequestedTime A db consultationId c call
  let (db, clientId) ← clientOfConsultation db c call.assignedLawyerId call.newClientId
    call.transactionNow
  assertNoAppointmentConflict db
    { startsAt := call.startsAt, endsAt := call.endsAt, scope := .lawyer call.assignedLawyerId }
  assertNoAppointmentConflict db
    { startsAt := call.startsAt, endsAt := call.endsAt, scope := .client clientId }
  let db ← db.createAppointment call.newAppointmentId (call.appointment clientId)
  db.updateConsultationIf consultationId
    (fun c ↦ c.outcomeStatus = .pending ∧ c.outcomeVersion = call.expectedOutcomeVersion)
    (call.write clientId)

/-! ## Assigning -/

/-- A call of `assignConsultation`. -/
structure AssignConsultation where
  actor : Principal
  consultationId : String
  assignedLawyerId : Uuid
  checkedAt : Time
  now : Time

/-- What `assignConsultation` writes into the consultation. -/
def AssignConsultation.write (call : AssignConsultation) (c : ConsultationRequest) :
    ConsultationRequest :=
  let assigned := { c with
    assignedLawyerId := some call.assignedLawyerId
    status := if c.status = .scheduled then .scheduled else .reviewing }
  if c.status = .scheduled ∧ c.secretaryReviewedAt = none then
    { assigned with
      secretaryReviewedAt := some call.now
      secretaryReviewedById := some call.actor.id
      secretaryReviewNote := some "تمت مراجعة الطلب أثناء تعيين المحامي المسؤول." }
  else assigned

/-- The lawyer is free while the primary appointment takes its time. -/
def assertPrimaryFits (db : Database) (primary : Option (Uuid × Appointment))
    (assignedLawyerId : Uuid) : Except Failure Unit :=
  match primary with
  | some (id, p) =>
    if p.status.isActive then
      assertNoAppointmentConflict db
        { startsAt := p.startsAt, endsAt := p.endsAt, scope := .lawyer assignedLawyerId
          excludeAppointmentId := some id }
    else .ok ()
  | none => .ok ()

/-- The client of the consultation gets the lawyer too. -/
def assignClient (db : Database) (clientId : Option Uuid) (assignedLawyerId : Uuid) (now : Time) :
    Except Failure Database :=
  match clientId with
  | some clientId => db.updateClient clientId fun client ↦
      { client with assignedLawyerId := some assignedLawyerId, updatedAt := now }
  | none => .ok db

/-- `assignConsultation({ actor, consultationId, body })`. -/
def assignConsultation (P : Platform) (db : Database) (call : AssignConsultation) :
    Except Failure Database := do
  throwIf (¬hasPermission call.actor "consultation.review.any")
    (.permissionDenied "Assigning consultations requires admin review permission.")
  let consultationId ← P.parseUuid call.consultationId "Consultation id is invalid."
  assertAssignableLawyer db call.assignedLawyerId
  let c ← findConsultation db consultationId
  throwIf (c.status ∈ [.converted, .rejected])
    (.conflict "Closed consultations cannot be assigned.")
  let primary := getPrimaryConsultationAppointment db consultationId
  assertExistingConsultationMutationAllowed .assign c.outcomeStatus
    { primaryEndsAt := primary.map fun e ↦ e.2.endsAt
      assignedLawyerId := c.assignedLawyerId
      secretaryReviewedAt := c.secretaryReviewedAt
      now := call.checkedAt }
  assertPrimaryFits db primary call.assignedLawyerId
  let db ← db.updateConsultationIf consultationId
    (fun c' ↦ c'.outcomeStatus = c.outcomeStatus ∧ c'.outcomeVersion = c.outcomeVersion) call.write
  let db := db.updatePrimary primary fun p ↦ { p with lawyerId := some call.assignedLawyerId }
  assignClient db c.clientId call.assignedLawyerId call.now

/-! ## Reviewing -/

/-- A call of `reviewConsultation`. -/
structure ReviewConsultation where
  actor : Principal
  consultationId : String
  note : Option String := none
  now : Time

/-- What `reviewConsultation` writes into the consultation. -/
def ReviewConsultation.write (call : ReviewConsultation) (c : ConsultationRequest) :
    ConsultationRequest :=
  { c.markReviewed call.now call.actor with secretaryReviewNote := orNull call.note }

/-- `reviewConsultation({ actor, consultationId, body })`. -/
def reviewConsultation (P : Platform) (db : Database) (call : ReviewConsultation) :
    Except Failure Database := do
  let consultationId ← P.parseUuid call.consultationId "Consultation id is invalid."
  let c ← findConsultation db consultationId
  throwIf (¬canReviewConsultation call.actor c)
    (.permissionDenied "Consultation review is not allowed.")
  throwIf (c.status = .paymentPending) (.conflict
    "Paid consultation cannot be reviewed before trusted payment confirmation.")
  throwIf (c.status ∈ [.converted, .rejected])
    (.conflict "Closed consultations cannot be reviewed.")
  let primary := getPrimaryConsultationAppointment db consultationId
  assertExistingConsultationMutationAllowed .review c.outcomeStatus
    { primaryEndsAt := primary.map fun e ↦ e.2.endsAt
      assignedLawyerId := c.assignedLawyerId
      secretaryReviewedAt := c.secretaryReviewedAt
      now := call.now }
  db.updateConsultationIf consultationId
    (fun c' ↦ c'.outcomeStatus = c.outcomeStatus ∧ c'.outcomeVersion = c.outcomeVersion) call.write

/-! ## Rejecting -/

/-- The reason codes of `rejectConsultationSchema`. -/
inductive RejectReasonCode where
  | cancelledByClient | cancelledByOffice | other
  deriving DecidableEq

def RejectReasonCode.text : RejectReasonCode → String
  | cancelledByClient => "CANCELLED_BY_CLIENT"
  | cancelledByOffice => "CANCELLED_BY_OFFICE"
  | other => "OTHER"

/-- A call of `rejectConsultation`. -/
structure RejectConsultation where
  actor : Principal
  consultationId : String
  expectedOutcomeVersion : Option ℕ := none
  reasonCode : RejectReasonCode := .cancelledByOffice
  reason : Option String := none
  now : Time

/-- What `rejectConsultation` writes into the consultation. -/
def RejectConsultation.write (call : RejectConsultation) (c : ConsultationRequest) :
    ConsultationRequest :=
  { c with
    status := .rejected
    outcomeStatus := .cancelled
    outcomeAt := some call.now
    outcomeById := some call.actor.id
    outcomeReasonCode := some call.reasonCode.text
    outcomeNote := orNull call.reason
    outcomeVersion := c.outcomeVersion + 1 }

/-- `rejectConsultation({ actor, consultationId, body })`. -/
def rejectConsultation (P : Platform) (db : Database) (call : RejectConsultation) :
    Except Failure Database := do
  throwIf (¬canManageConsultationOutcome call.actor) (.permissionDenied
    "Consultation rejection requires consultation review and appointment management permissions.")
  let consultationId ← P.parseUuid call.consultationId "Consultation id is invalid."
  let c ← findConsultation db consultationId
  throwIf (c.status ∈ [.converted, .rejected])
    (.conflict "Closed consultations cannot be rejected.")
  assertExistingConsultationMutationAllowed .reject c.outcomeStatus
  throwIf (call.expectedOutcomeVersion.any (· ≠ c.outcomeVersion)) consultationStateChangedError
  let expected := call.expectedOutcomeVersion.getD c.outcomeVersion
  let primary := getPrimaryConsultationAppointment db consultationId
  let db ← db.updateConsultationIf consultationId
    (fun c' ↦ c'.status = c.status ∧ c'.outcomeStatus = c.outcomeStatus ∧
      c'.outcomeVersion = expected) call.write
  return db.updatePrimary primary fun p ↦ { p with status := .cancelled }

/-! ## Converting -/

/-- A call of `convertConsultationToCase`. -/
structure ConvertConsultation where
  actor : Principal
  consultationId : String
  assignedLawyerId : Option Uuid := none
  caseTitle : Option String := none
  caseType : Option String := none
  priority : CasePriority := .normal
  appointmentStartsAt : Option Time := none
  appointmentMode : ConsultationMode := .online
  appointmentLocation : Option String := none
  appointmentDurationMinutes : DurationMinutes 240 := ⟨60, by decide⟩
  now : Time
  newClientId : Uuid
  newCaseId : Uuid
  newAppointmentId : Uuid

/-- The end of an appointment that begins then. -/
def ConvertConsultation.endsAt (call : ConvertConsultation) (startsAt : Time) : Time :=
  appointmentEndAt startsAt call.appointmentDurationMinutes

/-- The lawyer of the new case: the chosen one, the consultation's or else the actor. -/
def ConvertConsultation.lawyer (call : ConvertConsultation) (c : ConsultationRequest) : String :=
  orElse (call.assignedLawyerId.getD "") (orElse (c.assignedLawyerId.getD "")
    (if call.actor.roleName = "Lawyer" then call.actor.id else ""))

/-- The case `convertConsultationToCase` creates. -/
def ConvertConsultation.legalCase (P : Platform) (call : ConvertConsultation)
    (c : ConsultationRequest) (clientId lawyerId : Uuid) : LegalCase where
  internalFileNumber := legalCaseReference P call.consultationId call.now
  clientId
  assignedLawyerId := lawyerId
  consultationRequestId := some call.consultationId
  title := orElse (call.caseTitle.getD "") (sliceTo c.summary 120)
  caseType := orElse (call.caseType.getD "") c.serviceCategory
  status := .active
  priority := call.priority
  summary := some (orElse (c.aiSummary.getD "") c.summary)
  nextSessionAt := call.appointmentStartsAt

/-- The follow-up appointment of the new case. -/
def ConvertConsultation.appointment (P : Platform) (call : ConvertConsultation)
    (clientId lawyerId : Uuid) (startsAt : Time) : Appointment where
  clientId
  lawyerId := some lawyerId
  consultationRequestId := some call.consultationId
  caseId := some call.newCaseId
  title := "موعد متابعة " ++ legalCaseReference P call.consultationId call.now
  type := .consultation
  mode := call.appointmentMode.appointmentMode
  location := orNull call.appointmentLocation
  startsAt
  endsAt := call.endsAt startsAt
  status := .scheduled
  createdAt := call.now

/-- What `convertConsultationToCase` writes into the consultation. -/
def ConvertConsultation.write (clientId lawyerId : Uuid) (c : ConsultationRequest) :
    ConsultationRequest :=
  { c with
    clientId := some clientId
    assignedLawyerId := some lawyerId
    status := .converted }

/-- `tx.legalCase.create`: the reference and the consultation are unique. -/
def Database.createLegalCase (db : Database) (id : Uuid) (legalCase : LegalCase) :
    Except Failure Database := do
  throwIf (db.legalCases.any fun _ l ↦ l.internalFileNumber = legalCase.internalFileNumber ∨
    (l.consultationRequestId.isSome ∧ l.consultationRequestId = legalCase.consultationRequestId))
    .uniqueConstraint
  let legalCases ← orThrow (db.legalCases.create id legalCase) .uniqueConstraint
  return { db with legalCases }

/-- The case of a consultation. -/
def Database.convertedCase (db : Database) (consultationId : Uuid) : Option (Uuid × LegalCase) :=
  db.legalCases.findFirst fun _ l ↦ l.consultationRequestId = some consultationId

/-- The check for the follow-up appointment, if there is to be one. -/
def assertFollowUpFits (db : Database) (call : ConvertConsultation) (lawyerId : Uuid) :
    Except Failure Unit :=
  match call.appointmentStartsAt with
  | some startsAt => assertNoAppointmentConflict db
      { startsAt, endsAt := call.endsAt startsAt, scope := .lawyer lawyerId }
  | none => .ok ()

/-- Creates the follow-up appointment, if there is to be one. -/
def createFollowUp (P : Platform) (db : Database) (call : ConvertConsultation)
    (clientId lawyerId : Uuid) : Except Failure Database :=
  match call.appointmentStartsAt with
  | some startsAt =>
    db.createAppointment call.newAppointmentId (call.appointment P clientId lawyerId startsAt)
  | none => .ok db

/-- `convertConsultationToCase({ actor, consultationId, body })`. -/
def convertConsultationToCase (P : Platform) (db : Database) (call : ConvertConsultation) :
    Except Failure Database := do
  let consultationId ← P.parseUuid call.consultationId "Consultation id is invalid."
  let c ← findConsultation db consultationId
  throwIf (¬canReviewConsultation call.actor c)
    (.permissionDenied "Consultation conversion is not allowed.")
  throwIf (c.status = .converted ∨ (db.convertedCase consultationId).isSome)
    (.conflict "Consultation is already converted.")
  throwIf (c.status = .rejected) (.conflict "Rejected consultations cannot be converted.")
  assertExistingConsultationMutationAllowed .convert c.outcomeStatus
  let lawyerId := call.lawyer c
  throwIf (lawyerId = "")
    (.of 400 .validationError "Assigned lawyer is required before conversion.")
  assertAssignableLawyer db lawyerId
  assertFollowUpFits db call lawyerId
  let (db, clientId) ← clientOfConsultation db c lawyerId call.newClientId call.now
  let db ← db.createLegalCase call.newCaseId (call.legalCase P c clientId lawyerId)
  let db ← createFollowUp P db call clientId lawyerId
  return db.updateConsultation consultationId (ConvertConsultation.write clientId lawyerId)

/-! ## What a call that succeeded did -/

section

variable {P : Platform} {A : Availability} {db db' : Database}

/-- A scheduled consultation was pending without a primary appointment, and gets one at a time that
fits its lawyer. -/
theorem scheduleConsultation_ok {call : ScheduleConsultation}
    (h : scheduleConsultation P A db call = .ok db') :
    ∃ c clientId, db.consultationRequests.lookup call.consultationId = some c ∧
      c.outcomeStatus = .pending ∧
      getPrimaryConsultationAppointment db call.consultationId = none ∧
      db.appointments.lookup call.newAppointmentId = none ∧
      (lawyerCalendar db).Fits call.newAppointmentId
        ⟨some call.assignedLawyerId, call.startsAt, call.endsAt⟩ ∧
      db' = { db with
        clients := db'.clients
        appointments :=
          AList.insert call.newAppointmentId (call.appointment clientId) db.appointments
        consultationRequests :=
          db.consultationRequests.update call.consultationId (call.write clientId) } := by
  simp only [scheduleConsultation, findConsultation, bind_eq_ok, throwIf_eq_ok, orThrow_eq_ok,
    Platform.parseUuid_eq_ok, Prod.exists, Database.createAppointment_eq_ok,
    Database.updateConsultationIf_eq_ok] at h
  obtain ⟨_, -, _, ⟨-, rfl⟩, _, -, _, -, c, hc, _, -, _, hpending, _, hprimary, _, -, _, -, db₁,
    clientId, hclient, _, hlawyer, _, -, _, ⟨hfresh, rfl⟩, -, rfl⟩ := h
  have hframe := clientOfConsultation_frame hclient
  generalize db₁.clients = clients at hframe
  subst hframe
  push Not at hpending
  exact ⟨c, clientId, hc, hpending.1, Option.not_isSome_iff_eq_none.mp hprimary, hfresh,
    fits_of_assertNoAppointmentConflict hlawyer fun _ h ↦ absurd h (Option.not_mem_none _), rfl⟩

/-- An assigned consultation is open, and its primary appointment fits the lawyer it gets. -/
theorem assignConsultation_ok {call : AssignConsultation}
    (h : assignConsultation P db call = .ok db') :
    ∃ c, db.consultationRequests.lookup call.consultationId = some c ∧
      c.status ∉ [.converted, .rejected] ∧
      ExistingConsultationMutation.assign.allows c.outcomeStatus ∧
      (∀ id p, getPrimaryConsultationAppointment db call.consultationId = some (id, p) →
        p.status.isActive →
        (lawyerCalendar db).Fits id ⟨some call.assignedLawyerId, p.startsAt, p.endsAt⟩) ∧
      db' = { db with
        clients := db'.clients
        appointments := db.appointments.updateFound
          (getPrimaryConsultationAppointment db call.consultationId)
          fun p ↦ { p with lawyerId := some call.assignedLawyerId }
        consultationRequests := db.consultationRequests.update call.consultationId call.write } := by
  simp only [assignConsultation, findConsultation, bind_eq_ok, throwIf_eq_ok, orThrow_eq_ok,
    Platform.parseUuid_eq_ok, Database.updateConsultationIf_eq_ok,
    assertExistingConsultationMutationAllowed_eq_ok] at h
  obtain ⟨_, -, _, ⟨-, rfl⟩, _, -, c, hc, _, hstatus, _, ⟨hallows, -⟩, _, hfits, _, ⟨-, rfl⟩,
    hclient⟩ := h
  refine ⟨c, hc, hstatus, hallows, fun id p hprimary hactive ↦ ?_, ?_⟩
  · rw [hprimary, assertPrimaryFits, if_pos hactive] at hfits
    exact fits_of_assertNoAppointmentConflict hfits fun i hi ↦ (Option.some.inj hi).symm
  · unfold assignClient at hclient
    cases hid : c.clientId with
    | none =>
      rw [hid] at hclient
      cases hclient
      rfl
    | some clientId =>
      rw [hid] at hclient
      obtain ⟨-, rfl⟩ := Database.updateClient_eq_ok.mp hclient
      rfl

/-- A reviewed consultation does not wait for payment, and the review is all that is written. -/
theorem reviewConsultation_ok {call : ReviewConsultation}
    (h : reviewConsultation P db call = .ok db') :
    ∃ c, db.consultationRequests.lookup call.consultationId = some c ∧
      c.status ≠ .paymentPending ∧
      db' = db.updateConsultation call.consultationId call.write := by
  simp only [reviewConsultation, findConsultation, bind_eq_ok, throwIf_eq_ok, orThrow_eq_ok,
    Platform.parseUuid_eq_ok, Database.updateConsultationIf_eq_ok] at h
  obtain ⟨_, ⟨-, rfl⟩, c, hc, _, -, _, hpending, _, -, _, -, -, rfl⟩ := h
  exact ⟨c, hc, hpending, rfl⟩

/-- A rejected consultation had no final outcome and was not missed. -/
theorem rejectConsultation_ok {call : RejectConsultation}
    (h : rejectConsultation P db call = .ok db') :
    ∃ c, db.consultationRequests.lookup call.consultationId = some c ∧
      ExistingConsultationMutation.reject.allows c.outcomeStatus ∧
      db' = { db with
        appointments := db.appointments.updateFound
          (getPrimaryConsultationAppointment db call.consultationId)
          fun p ↦ { p with status := .cancelled }
        consultationRequests := db.consultationRequests.update call.consultationId call.write } := by
  simp only [rejectConsultation, findConsultation, bind_eq_ok, throwIf_eq_ok, orThrow_eq_ok,
    Platform.parseUuid_eq_ok, Database.updateConsultationIf_eq_ok, pure_eq_ok,
    assertExistingConsultationMutationAllowed_eq_ok] at h
  obtain ⟨_, -, _, ⟨-, rfl⟩, c, hc, _, -, _, ⟨hallows, -⟩, _, -, _, ⟨-, rfl⟩, rfl⟩ := h
  exact ⟨c, hc, hallows, rfl⟩

/-- A new follow-up appointment fits the lawyer of the case. -/
theorem createFollowUp_ok {call : ConvertConsultation} {clientId lawyerId : Uuid} {u : Unit}
    {db₀ : Database} (hfits : assertFollowUpFits db call lawyerId = .ok u)
    (h : createFollowUp P db₀ call clientId lawyerId = .ok db')
    (hcalendar : db₀.appointments = db.appointments) :
    db' = { db₀ with appointments := db'.appointments } ∧
      (db'.appointments = db.appointments ∨ ∃ startsAt,
        db.appointments.lookup call.newAppointmentId = none ∧
        (lawyerCalendar db).Fits call.newAppointmentId
          ⟨some lawyerId, startsAt, call.endsAt startsAt⟩ ∧
        db'.appointments = AList.insert call.newAppointmentId
          (call.appointment P clientId lawyerId startsAt) db.appointments) := by
  unfold createFollowUp at h
  unfold assertFollowUpFits at hfits
  cases hstart : call.appointmentStartsAt with
  | none =>
    rw [hstart] at h
    cases h
    exact ⟨rfl, .inl hcalendar⟩
  | some startsAt =>
    rw [hstart] at h hfits
    obtain ⟨hfresh, rfl⟩ := Database.createAppointment_eq_ok.mp h
    rw [hcalendar] at hfresh ⊢
    exact ⟨rfl, .inr ⟨startsAt, hfresh,
      fits_of_assertNoAppointmentConflict hfits nofun, rfl⟩⟩

/-- A converted consultation keeps its outcome; the follow-up appointment belongs to the case. -/
theorem convertConsultationToCase_ok {call : ConvertConsultation}
    (h : convertConsultationToCase P db call = .ok db') :
    ∃ c clientId lawyerId, db.consultationRequests.lookup call.consultationId = some c ∧
      ExistingConsultationMutation.convert.allows c.outcomeStatus ∧
      (db'.appointments = db.appointments ∨ ∃ startsAt,
        db.appointments.lookup call.newAppointmentId = none ∧
        (lawyerCalendar db).Fits call.newAppointmentId
          ⟨some lawyerId, startsAt, call.endsAt startsAt⟩ ∧
        db'.appointments = AList.insert call.newAppointmentId
          (call.appointment P clientId lawyerId startsAt) db.appointments) ∧
      db' = { db with
        clients := db'.clients
        legalCases := db'.legalCases
        appointments := db'.appointments
        consultationRequests := db.consultationRequests.update call.consultationId
          (ConvertConsultation.write clientId lawyerId) } := by
  simp only [convertConsultationToCase, Database.createLegalCase, findConsultation, bind_eq_ok,
    throwIf_eq_ok, orThrow_eq_ok, Platform.parseUuid_eq_ok, Prod.exists, pure_eq_ok,
    assertExistingConsultationMutationAllowed_eq_ok] at h
  obtain ⟨_, ⟨-, rfl⟩, c, hc, _, -, _, -, _, -, _, ⟨hallows, -⟩, _, -, _, -, _, hfits, db₁, clientId,
    hclient, _, ⟨_, -, cases, -, rfl⟩, db₂, hfollow, rfl⟩ := h
  have hframe := clientOfConsultation_frame hclient
  generalize db₁.clients = clients at hframe
  subst hframe
  obtain ⟨hdb, happointments⟩ := createFollowUp_ok hfits hfollow rfl
  generalize db₂.appointments = appointments at hdb happointments
  subst hdb
  exact ⟨c, clientId, call.lawyer c, hc, hallows, happointments, rfl⟩

end

end KmtLegal
