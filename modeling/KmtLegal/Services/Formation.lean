import KmtLegal.Assistant.Session
import KmtLegal.Services.ServiceRequest

/-!
# Interviews about a new company

`actOnFormation` of `formation-service.ts`, statement by statement: `start` opens the interview of a
session, `save` replaces its draft, `report` keeps an assessment of the draft, and `submit` makes a
service request of it.  The session is read, and the assistant is asked for its assessment, before
the transaction that locks the session; between two statements other calls may run.
-/

namespace KmtLegal

open Relational Js

/-! ## Calls -/

/-- What a call does to an interview that was started. -/
inductive FormationChange where
  | save (draft : FormationDraft)
  | report
  | submit
  deriving DecidableEq

/-- What `formationActionSchema` accepts. -/
inductive FormationAction where
  | start (locale : PublicLocale)
  | change (revision : ℕ) (change : FormationChange)
  deriving DecidableEq

/-- A call of `actOnFormation` in the session of its token, with the ids it draws. -/
structure ActOnFormation where
  sessionId : Uuid
  actor : Option Principal := none
  action : FormationAction
  newInterviewId : Uuid
  newThreadId : Uuid
  newRequestId : Uuid
  newEventId : Uuid
  /-- The uuid in the reference of the request. -/
  referenceId : Uuid

def ActOnFormation.actorClientId (call : ActOnFormation) : Option Uuid :=
  call.actor.bind Principal.clientId

/-! ## Assessments -/

/-- What the provider is asked: the names of the founders are left out. -/
structure AssessmentRequest where
  locale : PublicLocale
  actorId : Option Uuid
  draft : FormationDraft
  missing : List String
  approvedReferences : List BusinessReference

/-- What the provider answers. -/
structure AssessmentOutput where
  /-- `result.provider !== "mock"`. -/
  providerAvailable : Bool
  questionKeys : List String

/-- What a statement reads besides the rows: the clock, the approved references and the provider,
which may fail. -/
structure FormationReading where
  clock : TurnClock
  references : List BusinessReference := []
  generate : AssessmentRequest → Option AssessmentOutput := fun _ ↦ none

/-- The draft as it is sent to the provider. -/
def FormationDraft.withoutNames (draft : FormationDraft) : FormationDraft :=
  { draft with founders := draft.founders.map fun f ↦ { f with name := "" } }

/-- `assessFormation(draft, locale, actorId)`. -/
def assessFormation (P : Platform) (reading : FormationReading) (draft : FormationDraft)
    (locale : PublicLocale) (actorId : Option Uuid) : FormationAssessment :=
  let missing := (draft.review P.numberValue P.roundNumber).missing
  match reading.generate
    { locale, actorId, draft := draft.withoutNames, missing
      approvedReferences := reading.references } with
  | some output =>
    { providerAvailable := output.providerAvailable
      questionKeys := (missing ++ output.questionKeys).eraseDups
      references := reading.references }
  | none => { providerAvailable := false, questionKeys := missing, references := reading.references }

/-! ## The course of a call -/

/-- The statement a call comes to next. -/
inductive FormationPhase where
  /-- `ownAssistantSession`: the read. -/
  | begin
  /-- `ownAssistantSession`: the client of a linked session. -/
  | account (seen : AssistantSession)
  | recover (seen : AssistantSession)
  | reread
  /-- The start, the client of a submission, or the reads of a report. -/
  | prepare
  /-- The transaction. -/
  | act (clientId : Option Uuid) (assessment : Option FormationAssessment)
  | done (answer : Except Failure FormationInterview)

inductive FormationMove where
  /-- The statement runs. -/
  | proceed (reading : FormationReading)
  /-- The database or the server fails. -/
  | fails (failure : Failure)

/-- `conflict()`. -/
def formationConflict : Failure := .conflict "Refresh the interview before continuing."

/-- `new ApiError(401, "AUTH_REQUIRED", "Authentication required.")`. -/
def authenticationRequired : Failure := .of 401 .authRequired "Authentication required."

section

variable (P : Platform) (call : ActOnFormation) (db : Database) (clock : TurnClock)

/-- The lease of a session that was read is recovered if it has expired. -/
def afterOwnership (seen : AssistantSession) : FormationPhase :=
  if seen.leaseId.isSome ∧ seen.leaseExpired clock.leaseNow then .recover seen else .prepare

/-- The read of `ownAssistantSession`. -/
def ownFormationSession : FormationPhase :=
  match (db.assistantSessions.lookup call.sessionId).filter fun s ↦
      s.admits call.actorClientId clock.now with
  | some seen =>
    if seen.clientId.isSome ∧ call.actor.isSome then .account seen else afterOwnership clock seen
  | none => .done (.error authenticationRequired)

/-- `if (session.clientId && actor) await assertActiveServiceClient(actor)`. -/
def checkFormationAccount (seen : AssistantSession) : FormationPhase :=
  match call.actor.map (assertActiveServiceClient db) with
  | some (.error e) => .done (.error e)
  | some (.ok _) | none => afterOwnership clock seen

/-- The recovery of an expired lease. -/
def recoverFormationLease (seen : AssistantSession) : Database :=
  { db with
    assistantSessions := db.assistantSessions.update call.sessionId fun s ↦
      if s.leaseId = seen.leaseId ∧ s.clientId = seen.clientId ∧ s.leaseExpired clock.now then
        { s with leaseId := none, leaseExpiresAt := none, revision := s.revision + 1 }
      else s }

/-- The read after the recovery. -/
def rereadFormationSession : FormationPhase :=
  match (db.assistantSessions.lookup call.sessionId).filter fun s ↦
      s.admits call.actorClientId clock.now with
  | some _ => .prepare
  | none => .done (.error authenticationRequired)

/-- `tx.formationInterview.upsert` of a start. -/
def startFormation (locale : PublicLocale) : Except Failure (Database × FormationInterview) :=
  match db.formationInterviews.lookup call.sessionId with
  | some row => .ok (db, row)
  | none => do
    let row : FormationInterview :=
      { id := call.newInterviewId, locale := locale.text, consentAt := clock.now }
    throwIf (db.formationInterviews.any fun _ r ↦ r.id = row.id) .uniqueConstraint
    return ({ db with
      formationInterviews := db.formationInterviews.insert call.sessionId row }, row)

/-- The client of a submission. -/
def formationClient : Except Failure Uuid := do
  let actor ← orThrow call.actor (.of 401 .authRequired "An active client account is required.")
  let (id, _) ← assertActiveServiceClient db actor
  return id

/-- The reads of a report; a version that has a report is not assessed again. -/
def readForReport (reading : FormationReading) (revision : ℕ) :
    Except Failure (Option FormationAssessment) := do
  let saved ← orThrow ((db.formationInterviews.lookup call.sessionId).filter fun row ↦
    row.revision = revision) formationConflict
  if (db.formationReports.lookup (saved.id, revision)).isSome then return none
  else return some (assessFormation P reading saved.draft (.ofText saved.locale)
    (call.actor.map Principal.id))

/-! ## The transaction -/

/-- `save`. -/
def saveFormation (row : FormationInterview) (draft : FormationDraft) :
    Database × FormationInterview :=
  let row := { row with draft, revision := row.revision + 1 }
  ({ db with formationInterviews := db.formationInterviews.insert call.sessionId row }, row)

/-- The snapshot of a report. -/
def formationSnapshot (row : FormationInterview) (assessment : Option FormationAssessment) :
    FormationSnapshot where
  draft := row.draft
  review := row.draft.review P.numberValue P.roundNumber
  assessment
  locale := row.locale
  consentAt := P.isoString row.consentAt

/-- `report`: a stored report stays. -/
def reportFormation (row : FormationInterview) (assessment : Option FormationAssessment) :
    Database :=
  if (db.formationReports.lookup (row.id, row.revision)).isSome then db
  else { db with
    formationReports := db.formationReports.insert (row.id, row.revision)
      (formationSnapshot P row assessment) }

/-- `formationCopy[locale].title`. -/
def formationTitle : PublicLocale → String
  | .en => "Company formation interview"
  | .ar => "مقابلة تأسيس الشركات"

/-- The request of a submission. -/
def formationRequest (row : FormationInterview) (clientId : Uuid) : ServiceRequest where
  reference := "FORMATION-" ++
    toUpperCase (String.ofList (call.referenceId.toList.filter (· ≠ '-')))
  clientId
  conversationThreadId := some call.newThreadId
  kind := .companyFormation
  locale := row.locale
  status := .received
  intake :=
    { formation := some row.draft
      title := formationTitle (.ofText row.locale)
      purpose := row.draft.activity
      language := row.locale }
  idempotencyKey := row.id

/-- `submit`. -/
def submitFormation (row : FormationInterview) (clientId : Uuid) (actorId : Uuid) :
    Except Failure (Database × FormationInterview) := do
  throwIf (length row.draft.activity < 10)
    (.of 400 .validationError "Describe the proposed activity.")
  throwIf (db.formationReports.lookup (row.id, row.revision) = none) formationConflict
  let conversationThreads ← orThrow (db.conversationThreads.create call.newThreadId
    { clientId := some clientId
      subject := some (formationTitle (.ofText row.locale))
      status := .waitingStaff
      lastMessageAt := clock.later
      updatedAt := clock.later }) .uniqueConstraint
  -- `intakeSchema` knows these languages
  throwIf (row.locale ∉ ["ar", "en", "both"]) .zodError
  let db ← { db with conversationThreads }.createServiceRequest call.newRequestId
    (formationRequest call row clientId)
  let serviceRequestEvents ← orThrow (db.serviceRequestEvents.create call.newEventId
    { requestId := call.newRequestId, actorId, action := "submit" }) .uniqueConstraint
  let row := { row with serviceRequestId := some call.newRequestId }
  return ({ db with
    assistantSessions := db.assistantSessions.update call.sessionId fun s ↦
      { s with clientId := some clientId }
    serviceRequestEvents
    formationInterviews := db.formationInterviews.insert call.sessionId row }, row)

/-- The transaction of a call, under the lock on the session. -/
def changeFormation (revision : ℕ) (change : FormationChange) (clientId : Option Uuid)
    (assessment : Option FormationAssessment) : Except Failure (Database × FormationInterview) := do
  let _ ← orThrow ((db.assistantSessions.lookup call.sessionId).filter fun s ↦
    s.admits call.actorClientId clock.now) (.of 401 .authRequired "Session unavailable.")
  let row ← orThrow (db.formationInterviews.lookup call.sessionId)
    (.notFound "Interview not found.")
  -- a retried submission finds what the first one made
  if row.serviceRequestId.isSome then
    if change = .submit then return (db, row) else .error formationConflict
  else do
    throwIf (row.revision ≠ revision) formationConflict
    match change with
    | .save draft => return saveFormation call db row draft
    | .report => return (reportFormation P db row assessment, row)
    | .submit => do
      let clientId ← orThrow clientId .typeError
      let actor ← orThrow call.actor .typeError
      submitFormation call db clock row clientId actor.id

/-! ## Statements -/

/-- The statement after the session is owned. -/
def prepareFormation (reading : FormationReading) : Database × FormationPhase :=
  match call.action with
  | .start locale =>
    match startFormation call db reading.clock locale with
    | .ok (db, row) => (db, .done (.ok row))
    | .error e => (db, .done (.error e))
  | .change revision .report =>
    match readForReport P call db reading revision with
    | .ok assessment => (db, .act none assessment)
    | .error e => (db, .done (.error e))
  | .change _ .submit =>
    match formationClient call db with
    | .ok clientId => (db, .act (some clientId) none)
    | .error e => (db, .done (.error e))
  | .change _ (.save _) => (db, .act none none)

/-- One statement of a call. -/
def formationCallStep (move : FormationMove) (db : Database) (phase : FormationPhase) :
    Database × FormationPhase :=
  match move, phase with
  | _, .done answer => (db, .done answer)
  | .fails failure, _ => (db, .done (.error failure))
  | .proceed reading, .begin => (db, ownFormationSession call db reading.clock)
  | .proceed reading, .account seen => (db, checkFormationAccount call db reading.clock seen)
  | .proceed reading, .recover seen => (recoverFormationLease call db reading.clock seen, .reread)
  | .proceed reading, .reread => (db, rereadFormationSession call db reading.clock)
  | .proceed reading, .prepare => prepareFormation P call db reading
  | .proceed reading, .act clientId assessment =>
    match call.action with
    | .change revision change =>
      match changeFormation P call db reading.clock revision change clientId assessment with
      | .ok (db, row) => (db, .done (.ok row))
      | .error e => (db, .done (.error e))
    -- a start does not come here
    | .start _ => (db, .done (.error .typeError))

end

end KmtLegal
