import KmtLegal.Auth.Policy
import KmtLegal.Clients
import KmtLegal.Platform

/-!
# Service requests

`actOnServiceRequest` of `service-request-service.ts`: a client describes what she needs, the
office makes a quote, the client accepts it and is billed, the office delivers.  Every call names
the revision it has seen, and runs in one transaction under a lock on the row.
-/

namespace KmtLegal

open Relational Js

/-! ## Calls -/

/-- The states `transition` can ask for. -/
inductive ServiceTransition where
  | needsInformation | ready | completed | cancelled | inProgress
  deriving DecidableEq

def ServiceTransition.status : ServiceTransition → ServiceRequestStatus
  | needsInformation => .needsInformation
  | ready => .ready
  | completed => .completed
  | cancelled => .cancelled
  | inProgress => .inProgress

/-- What `serviceActionSchema` accepts, without the revision. -/
inductive ServiceAction where
  | save (intake : ServiceIntake)
  | submit
  | accept (quoteVersion : ℕ)
  | quote (quote : ServiceQuote)
  | assign (lawyerId : Uuid)
  | message (body : String) (internal : Bool)
  | transition (status : ServiceTransition) (body : String)
  deriving DecidableEq

/-- The name of the event. -/
def ServiceAction.event : ServiceAction → String
  | save _ => "save"
  | submit => "submit"
  | accept _ => "accept"
  | quote _ => "quote"
  | assign _ => "assign"
  | message _ _ => "message"
  | transition status _ => status.status.text

/-- A call of `actOnServiceRequest`, with the clock and the ids it draws. -/
structure ActOnServiceRequest where
  actor : Principal
  id : Uuid
  revision : ℕ
  action : ServiceAction
  now : Time
  newPaymentId : Uuid
  invoiceId : Uuid
  newThreadId : Uuid
  newMessageId : Uuid
  newEventId : Uuid

/-! ## Who may do what -/

/-- `denied()`. -/
def serviceDenied : Failure := .permissionDenied "This action is not permitted."

/-- `conflict()`. -/
def serviceConflict : Failure := .conflict "Refresh the request before continuing."

/-- `serviceRequestWhere(actor)`: which rows the actor sees. -/
def serviceRequestWhere (db : Database) (actor : Principal) :
    Except Failure (ServiceRequest → Bool) :=
  let client (row : ServiceRequest) : Option Client := db.clients.lookup row.clientId
  if hasPermission actor "case.read.any" then
    .ok fun row ↦ (client row).any fun c ↦ c.deletedAt = none
  else if hasPermission actor "case.read.assigned" then
    .ok fun row ↦ row.assignedLawyerId = some actor.id ∧ (client row).any fun c ↦ c.deletedAt = none
  else if hasPermission actor "client.read.self" ∧ (orNull actor.clientId).isSome then
    .ok fun row ↦ some row.clientId = actor.clientId ∧
      (client row).any fun c ↦ c.userId = some actor.id ∧ c.deletedAt = none
  else .error serviceDenied

/-- `assertActiveServiceClient(actor)`. -/
def assertActiveServiceClient (db : Database) (actor : Principal) :
    Except Failure (Uuid × Client) := do
  let clientId ← orThrow (orNull actor.clientId) serviceDenied
  throwIf (!hasPermission actor "client.read.self") serviceDenied
  let client ← orThrow ((db.clients.lookup clientId).filter fun c ↦
    c.userId = some actor.id ∧ c.deletedAt = none ∧ (db.users.lookup actor.id).any fun u ↦
      u.status = .active ∧ u.deletedAt = none ∧ u.roleName = "Client" ∧ u.roleStatus = .active)
    serviceDenied
  return (clientId, client)

/-- `tx.serviceRequest.create`. -/
def Database.createServiceRequest (db : Database) (id : Uuid) (row : ServiceRequest) :
    Except Failure Database := do
  throwIf (db.serviceRequests.any fun _ r ↦ r.reference = row.reference ∨
      (r.clientId = row.clientId ∧ r.idempotencyKey = row.idempotencyKey) ∨
      (row.conversationThreadId.isSome ∧ r.conversationThreadId = row.conversationThreadId))
    .uniqueConstraint
  let serviceRequests ← orThrow (db.serviceRequests.create id row) .uniqueConstraint
  return { db with serviceRequests }

namespace ActOnServiceRequest

variable (call : ActOnServiceRequest) (row : ServiceRequest)

/-- `own`. -/
def isOwn : Bool := call.actor.roleName = "Client" ∧ call.actor.clientId = some row.clientId

/-- `manager`. -/
def isManager : Bool := hasPermission call.actor "case.update.any"

/-- `lawyer`. -/
def isLawyer : Bool :=
  row.assignedLawyerId = some call.actor.id ∧ hasPermission call.actor "case.update.assigned"

end ActOnServiceRequest

/-- `editable`. -/
def ServiceRequest.isEditable (row : ServiceRequest) : Bool :=
  row.status ∈ [.draft, .needsInformation]

/-! ## Actions -/

/-- What an action does: to other rows, to the request, and what the event says. -/
structure ServiceEffect where
  db : Database
  change : ServiceRequest → ServiceRequest := id
  eventBody : Option String := none
  internal : Bool := false

section

variable (P : Platform) (db : Database) (call : ActOnServiceRequest) (row : ServiceRequest)

/-- The ids of the questions the answers may be about. -/
def allowedQuestions : List String :=
  ((row.questionnaireId.bind db.healthQuestionnaires.lookup).map fun q ↦
    q.questions.map HealthQuestion.id).getD []

/-- The text of the formation draft in an intake. -/
def ServiceIntake.formationText (intake : ServiceIntake) : Option String :=
  intake.formation.map fun draft ↦ draft.json.stringify

/-- `save`. -/
def saveIntake (intake : ServiceIntake) : Except Failure ServiceEffect := do
  throwIf (!call.isOwn row ∨ !row.isEditable) serviceDenied
  throwIf (row.kind = .healthCheck ∧
      intake.answers.any fun answer ↦ answer.1 ∉ allowedQuestions db row)
    (.of 400 .validationError "Unknown question.")
  throwIf (row.kind ≠ .healthCheck ∧ intake.answers ≠ [])
    (.of 400 .validationError "Questionnaire answers are not applicable.")
  throwIf (row.kind ≠ .companyFormation ∧ intake.formation.isSome)
    (.of 400 .validationError "Formation data is not applicable.")
  throwIf (row.kind = .companyFormation ∧ intake.formationText ≠ row.intake.formationText)
    (.of 400 .validationError "Use messages to clarify submitted formation facts.")
  return { db, change := fun r ↦ { r with intake } }

/-- The thread of a request that is submitted for the first time. -/
def openServiceThread : Except Failure (Database × Option Uuid) :=
  match row.conversationThreadId with
  | some id => .ok (db, some id)
  | none => do
    let conversationThreads ← orThrow (db.conversationThreads.create call.newThreadId
      { clientId := some row.clientId
        subject := some row.reference
        status := .waitingStaff
        lastMessageAt := call.now
        updatedAt := call.now }) .uniqueConstraint
    return ({ db with conversationThreads }, some call.newThreadId)

/-- `submit`. -/
def submitService : Except Failure ServiceEffect := do
  throwIf (!call.isOwn row ∨ !row.isEditable) serviceDenied
  throwIf (length row.intake.title < 3 ∨ length row.intake.purpose < 10)
    (.of 400 .validationError "Complete the request description.")
  let (db, threadId) ← openServiceThread db call row
  return { db, change := fun r ↦ { r with status := .received, conversationThreadId := threadId } }

/-- `assign`. -/
def assignService (lawyerId : Uuid) : Except Failure ServiceEffect := do
  throwIf (!call.isManager) serviceDenied
  throwIf (!(db.users.lookup lawyerId).any fun u ↦
      u.status = .active ∧ u.deletedAt = none ∧ u.roleName = "Lawyer" ∧ u.roleStatus = .active)
    (.of 400 .validationError "Choose an active lawyer.")
  return { db, change := fun r ↦ { r with assignedLawyerId := some lawyerId } }

/-- `quote`. -/
def quoteService (quote : ServiceQuote) : Except Failure ServiceEffect := do
  throwIf (!call.isManager ∨ !hasPermission call.actor "finance.manage.any" ∨
      row.status ∉ [.received, .needsInformation, .awaitingAcceptance] ∨ row.paymentId.isSome)
    serviceDenied
  return {
    db
    change := fun r ↦
      { r with
        quote := some quote
        quoteVersion := r.quoteVersion + 1
        status := .awaitingAcceptance } }

/-- The invoice for an accepted quote. -/
def servicePayment (quote : ServiceQuote) (amount : Decimal) : Payment where
  clientId := row.clientId
  invoiceNumber := "SR-" ++ toUpperCase (String.ofList (call.invoiceId.toList.filter (· ≠ '-')))
  amount
  currency := quote.currency
  issueDate := call.now
  status := if amount = 0 then .paid else .pending

/-- `accept`. -/
def acceptService (quoteVersion : ℕ) : Except Failure ServiceEffect := do
  throwIf (!call.isOwn row ∨ row.status ≠ .awaitingAcceptance ∨ row.quoteVersion ≠ quoteVersion ∨
    row.paymentId.isSome) serviceConflict
  let quote ← orThrow row.quote .zodError
  match P.decimal quote.amount with
  | .finite amount => do
    let db ← db.createPayment call.newPaymentId (servicePayment call row quote amount)
    return {
      db
      change := fun r ↦
        { r with
          paymentId := some call.newPaymentId
          acceptedQuoteVersion := some row.quoteVersion
          status := .inProgress } }
  | .throws | .notFinite => .error .decimalError

/-- The message in the thread of the request. -/
def postServiceMessage (threadId : Uuid) (body : String) : Except Failure Database := do
  let conversationMessages ← orThrow (db.conversationMessages.create call.newMessageId
    { threadId
      senderUserId := some call.actor.id
      senderType := if call.isOwn row then .client else .staff
      body
      createdAt := call.now }) .uniqueConstraint
  throwIf (db.conversationThreads.lookup threadId = none) .recordNotFound
  return { db with
    conversationMessages
    conversationThreads := db.conversationThreads.update threadId fun thread ↦
      { thread with
        lastMessageAt := call.now
        updatedAt := call.now
        status := if call.isOwn row then .waitingStaff else .waitingClient } }

/-- `message`. -/
def messageService (body : String) (internal : Bool) : Except Failure ServiceEffect := do
  throwIf (!call.isOwn row ∧ !call.isManager ∧ !call.isLawyer row) serviceDenied
  throwIf (internal ∧ call.isOwn row) serviceDenied
  match row.conversationThreadId, internal with
  | some threadId, false => do
    let db ← postServiceMessage db call row threadId body
    return { db }
  | _, _ => return { db, eventBody := some body, internal }

/-- What the owner may ask for. -/
def ownTransition (status : ServiceTransition) (body : String) : Bool :=
  match status with
  | .inProgress => row.status = .ready ∧ 5 ≤ length (trim body)
  | .completed => row.status = .ready
  | .cancelled => row.status ∈ [.draft, .received, .needsInformation, .awaitingAcceptance]
  | .needsInformation | .ready => false

/-- `transitions`. -/
def staffTransitions : ServiceRequestStatus → List ServiceTransition
  | .received => [.needsInformation, .cancelled]
  | .needsInformation => [.cancelled]
  | .awaitingAcceptance => [.needsInformation, .cancelled]
  | .inProgress => [.ready, .cancelled]
  | .ready => [.inProgress, .completed, .cancelled]
  | .draft | .completed | .cancelled => []

/-- A reviewed delivery was uploaded. -/
def hasDelivery : Bool :=
  db.documents.any fun _ d ↦ d.serviceRequestId = some call.id ∧ d.deletedAt = none ∧
    d.deliveryVersion.isSome ∧ d.visibility = .clientVisible

/-- `transition`. -/
def transitionService (status : ServiceTransition) (body : String) :
    Except Failure ServiceEffect := do
  if call.isOwn row then
    throwIf (!ownTransition row status body) serviceDenied
  else do
    throwIf (!call.isManager ∧ !call.isLawyer row) serviceDenied
    throwIf (status ∉ staffTransitions row.status) serviceConflict
    throwIf (status = .ready ∧ !hasDelivery db call)
      (.of 400 .validationError "Upload a reviewed delivery first.")
  return {
    db
    change := fun r ↦ { r with status := status.status }
    eventBody := orNull (some body) }

def serviceEffect : Except Failure ServiceEffect :=
  match call.action with
  | .save intake => saveIntake db call row intake
  | .submit => submitService db call row
  | .assign lawyerId => assignService db call lawyerId
  | .quote quote => quoteService db call row quote
  | .accept quoteVersion => acceptService P db call row quoteVersion
  | .message body internal => messageService db call row body internal
  | .transition status body => transitionService db call row status body

/-- `actOnServiceRequest(actor, id, input)`. -/
def actOnServiceRequest : Except Failure Database := do
  let isVisible ← serviceRequestWhere db call.actor
  let row ← orThrow ((db.serviceRequests.lookup call.id).filter isVisible)
    (.notFound "Request not found.")
  throwIf (row.revision ≠ call.revision) serviceConflict
  throwIf (row.status ∈ [.completed, .cancelled]) serviceConflict
  let effect ← serviceEffect P db call row
  let serviceRequestEvents ← orThrow (effect.db.serviceRequestEvents.create call.newEventId
    { requestId := call.id
      actorId := call.actor.id
      action := call.action.event
      body := effect.eventBody
      internal := effect.internal }) .uniqueConstraint
  return { effect.db with
    serviceRequests := effect.db.serviceRequests.update call.id fun r ↦
      { effect.change r with revision := r.revision + 1 }
    serviceRequestEvents }

end

end KmtLegal
