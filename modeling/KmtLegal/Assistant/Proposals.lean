import KmtLegal.Consultations.DirectBooking
import KmtLegal.Consultations.SlotOrder
import KmtLegal.Conversations.Threads

/-!
# Proposals of the assistant

`assistant-action-service.ts`: the assistant proposes an action to a client, who sees what it would
do and confirms or cancels it.  A proposal keeps the hash of what the client's records were when it
was made, and is not carried out on anything else.

Both calls are one transaction.  They carry their clocks, the ids of the rows they may create, and
`enabled`, which is `assistantActionsEnabled(actor.clientId)`.
-/

namespace KmtLegal.Proposals

open Relational Js

/-! ## Drafts -/

/-- `portalProfileUpdateSchema.partial()`. -/
structure ProfileChanges where
  fullName : Option String := none
  phone : Option String := none
  email : Option String := none
  city : Option String := none
  deriving DecidableEq

inductive BookingOperation where
  | confirmBooking | rescheduleBooking | cancelBooking | requestCallback
  deriving DecidableEq

structure BookingDraft where
  operation : BookingOperation
  fullName : Option String := none
  phone : Option String := none
  contactChannel : Option String := none
  startsAt : Option Time := none
  deriving DecidableEq

inductive ServiceOperation where
  | save | submit | accept | changes | cancel | message
  deriving DecidableEq

structure ServiceDraft where
  targetId : Option Uuid := none
  operation : ServiceOperation
  intake : Option ServiceIntake := none
  message : Option String := none
  deriving DecidableEq

/-- What `assistantActionDraftSchema` accepts. -/
inductive AssistantActionDraft where
  | profile (changes : ProfileChanges)
  | preference (locale : PublicLocale)
  | serviceCreate (service : ServiceKind)
  | officeMessage (targetId : Option Uuid) (message : String)
  | alternativeTime (targetId : Option Uuid) (startsAt : Time) (mode : ConsultationMode)
  | booking (draft : BookingDraft)
  | service (draft : ServiceDraft)
  deriving DecidableEq

/-! ## Records -/

/-- What is read and written of `users`; `canReadSelf` says that the role of the user has the
permission `client.read.self`. -/
structure UserProfile where
  name : String
  phone : Option String := none
  locale : String := "ar"
  canReadSelf : Bool := true
  deriving DecidableEq

/-- `updatedAt` of the rows a snapshot reads that have no such column in `Database`. -/
structure RowTimes where
  consultationRequests : Table Uuid Time := ∅
  appointments : Table Uuid Time := ∅
  consultationAvailability : Option Time := none

/-- The records that the actions concern. -/
structure ActionRecords where
  db : Database
  profiles : Table Uuid UserProfile := ∅
  times : RowTimes := {}
  /-- The thread that the dialogue of a session has selected. -/
  followups : Table Uuid Uuid := ∅

/-! ## Snapshots -/

structure AppointmentSnapshot where
  id : Uuid
  startsAt : Time
  status : AppointmentStatus
  updatedAt : Option Time
  deriving DecidableEq

structure RequestSnapshot where
  id : Uuid
  publicReference : Option String
  status : ConsultationStatus
  outcomeVersion : ℕ
  updatedAt : Option Time
  deriving DecidableEq

structure BookingSnapshot where
  id : Uuid
  publicReference : Option String
  outcomeVersion : ℕ
  updatedAt : Option Time
  appointments : List AppointmentSnapshot
  deriving DecidableEq

structure ServiceSnapshot where
  revision : ℕ
  reference : String
  status : ServiceRequestStatus
  quote : Option ServiceQuote
  quoteVersion : ℕ
  intake : ServiceIntake
  questions : Option (List HealthQuestion)
  deriving DecidableEq

structure ProfileSnapshot where
  fullName : String
  phone : String
  email : Option String
  city : Option String
  locale : String
  updatedAt : Time
  deriving DecidableEq

inductive Snapshot where
  /-- `{ subject: null, status: "NEW" }`. -/
  | newThread
  | thread (id : Uuid) (subject : Option String) (status : ConversationThreadStatus)
      (updatedAt : Time)
  | request (request : RequestSnapshot)
  | booking (request : Option BookingSnapshot)
      (settings : Option ConsultationAvailability × Option Time)
  | service (service : ServiceSnapshot)
  | profile (profile : ProfileSnapshot)

/-- `conflict()`. -/
def proposalConflict : Failure := .conflict "Action proposal changed or expired."

/-- `ownedClient(tx, actor)`. -/
def ownedClient (r : ActionRecords) (actor : Principal) :
    Except Failure (Uuid × Client × UserProfile) := do
  let (clientId, client) ← assertActiveServiceClient r.db actor
  let user ← orThrow ((r.profiles.lookup actor.id).filter UserProfile.canReadSelf)
    (.permissionDenied "This action is not permitted.")
  return (clientId, client, user)

/-- The primary appointments of a consultation, the latest first. -/
def bookingAppointments (r : ActionRecords) (consultationId : Uuid) : List AppointmentSnapshot :=
  let found := r.db.appointments.select fun _ p ↦ p.isPrimaryOf consultationId
  (found.insertionSort fun x y ↦ y.2.createdAt ≤ x.2.createdAt).map fun e ↦
    ⟨e.1, e.2.startsAt, e.2.status, r.times.appointments.lookup e.1⟩

def threadSnapshot (r : ActionRecords) (clientId : Uuid) : Option Uuid → Except Failure Snapshot
  | none => return .newThread
  | some targetId => do
    let thread ← orThrow ((r.db.conversationThreads.lookup targetId).filter fun thread ↦
      thread.clientId = some clientId) (.notFound "Conversation not found.")
    return .thread targetId thread.subject thread.status thread.updatedAt

def requestSnapshot (r : ActionRecords) (clientId : Uuid) (targetId : Option Uuid) :
    Except Failure Snapshot := do
  let targetId ← orThrow targetId (.validation "Select a request first.")
  let c ← orThrow ((r.db.consultationRequests.lookup targetId).filter fun c ↦
    c.clientId = some clientId) (.notFound "Request not found.")
  return .request ⟨targetId, c.publicReference, c.status, c.outcomeVersion,
    r.times.consultationRequests.lookup targetId⟩

def bookingSnapshot (r : ActionRecords) (clientId sessionId : Uuid) : Except Failure Snapshot := do
  let session ← orThrow (r.db.assistantSessions.lookup sessionId) .recordNotFound
  let settings := (r.db.consultationAvailability, r.times.consultationAvailability)
  match session.consultationRequestId with
  | none => return .booking none settings
  | some id => do
    let c ← orThrow ((r.db.consultationRequests.lookup id).filter fun c ↦
      c.clientId = some clientId) (.notFound "Request not found.")
    return .booking (some ⟨id, c.publicReference, c.outcomeVersion,
      r.times.consultationRequests.lookup id, bookingAppointments r id⟩) settings

def serviceSnapshot (r : ActionRecords) (clientId : Uuid) (targetId : Option Uuid) :
    Except Failure Snapshot := do
  let targetId ← orThrow targetId (.validation "Select a request first.")
  let row ← orThrow ((r.db.serviceRequests.lookup targetId).filter fun row ↦
    row.clientId = clientId) (.notFound "Request not found.")
  return .service
    { revision := row.revision
      reference := row.reference
      status := row.status
      quote := row.quote
      quoteVersion := row.quoteVersion
      intake := row.intake
      questions := (row.questionnaireId.bind r.db.healthQuestionnaires.lookup).map
        HealthQuestionnaire.questions }

/-- `snapshot(tx, actor, draft, sessionId)`. -/
def snapshot (r : ActionRecords) (actor : Principal) (draft : AssistantActionDraft)
    (sessionId : Uuid) : Except Failure Snapshot := do
  let (clientId, client, user) ← ownedClient r actor
  match draft with
  | .officeMessage targetId _ => threadSnapshot r clientId targetId
  | .alternativeTime targetId _ _ => requestSnapshot r clientId targetId
  | .booking _ => bookingSnapshot r clientId sessionId
  | .service draft => serviceSnapshot r clientId draft.targetId
  | .profile _ | .preference _ | .serviceCreate _ =>
    return .profile ⟨client.fullName, client.phone, client.email, client.city, user.locale,
      client.updatedAt⟩

/-! ## Proposals -/

inductive ProposalStatus where
  | pending | completed | cancelled | stale
  deriving DecidableEq

/-- What an action that is done is stored and answered with. -/
inductive ActionResult where
  | updated
  | locale (locale : PublicLocale)
  | created (id : Uuid) (reference : String)
  | queued (id : Uuid)
  | requested
  | booked (operation : BookingOperation)
  | acted (id : Uuid) (revision : ℕ)
  deriving DecidableEq

/-- A row of `assistant_action_proposals`; kind and target are those of the payload. -/
structure AssistantActionProposal where
  sessionId : Uuid
  clientId : Uuid
  messageId : Uuid
  payload : AssistantActionDraft
  snapshotHash : String
  status : ProposalStatus := .pending
  result : Option ActionResult := none
  expiresAt : Time
  completedAt : Option Time := none
  deriving DecidableEq

structure ProposalStore where
  records : ActionRecords
  proposals : Table Uuid AssistantActionProposal := ∅

/-- `tx.assistantActionProposal.update`. -/
def ProposalStore.updateProposal (s : ProposalStore) (id : Uuid)
    (f : AssistantActionProposal → AssistantActionProposal) : ProposalStore :=
  { s with proposals := s.proposals.update id f }

/-- `findFirst`: the session of the actor, as long as it is valid. -/
def findOwnSession (r : ActionRecords) (sessionId : Uuid) (actor : Principal) (now : Time) :
    Except Failure AssistantSession :=
  orThrow ((r.db.assistantSessions.lookup sessionId).filter fun session ↦
    session.clientId = actor.clientId ∧ now < session.expiresAt)
    (.of 401 .authRequired "Authentication required.")

/-! ## Proposing -/

structure ProposeAssistantAction where
  sessionId : Uuid
  actor : Principal
  messageId : Uuid
  draft : AssistantActionDraft
  enabled : Bool
  newId : Uuid
  now : Time
  createdAt : Time

/-- `directBookingInputSchema.parse` of the fields of a draft. -/
def BookingDraft.action (draft : BookingDraft) : Except Failure DirectBookingAction := do
  let contact : Option BookingContact := do
    return ⟨← draft.fullName, ← draft.phone, ← draft.contactChannel⟩
  match draft.operation with
  | .confirmBooking =>
    return .confirm (← orThrow contact .zodError) (← orThrow draft.startsAt .zodError)
  | .rescheduleBooking => return .reschedule (← orThrow draft.startsAt .zodError)
  | .cancelBooking => return .cancel
  | .requestCallback => return .requestCallback (← orThrow contact .zodError)

/-- The throws of the preview of a service action. -/
def ServiceDraft.checkPreview (draft : ServiceDraft) : Snapshot → Except Failure Unit
  | .service current => do
    let isQuoted := current.quote.any fun quote ↦
      quote.amount ≠ "" ∧ quote.scope ≠ "" ∧ quote.durationDays ≠ 0
    throwIf (draft.operation = .accept ∧ !isQuoted) proposalConflict
    let answers := (draft.intake.map ServiceIntake.answers).getD []
    throwIf (answers.any fun answer ↦
        !(current.questions.getD []).any fun question ↦ question.id = answer.1)
      (.validation "Unknown question.")
  | _ => .ok ()

/-- The throws of the preview. -/
def AssistantActionDraft.checkPreview (draft : AssistantActionDraft) (current : Snapshot) :
    Except Failure Unit :=
  match draft with
  | .profile changes => throwIf (changes = {}) (.validation "Profile payload is invalid.")
  | .booking draft => draft.action.map fun _ ↦ ()
  | .service draft => draft.checkPreview current
  | _ => .ok ()

section

variable (hash : Snapshot → String)

/-- `proposeAssistantAction(input)`, with the id of the proposal. -/
def proposeAssistantAction (s : ProposalStore) (call : ProposeAssistantAction) :
    Except Failure (ProposalStore × Uuid) := do
  throwIf (!call.enabled) (.of 409 .featureDisabled "Assistant actions are disabled.")
  let _ ← findOwnSession s.records call.sessionId call.actor call.now
  match s.proposals.findFirst fun _ p ↦
      p.sessionId = call.sessionId ∧ p.messageId = call.messageId with
  | some (id, _) => return (s, id)
  | none => do
    let current ← snapshot s.records call.actor call.draft call.sessionId
    call.draft.checkPreview current
    -- `clientId!`: `ownedClient` has checked that there is one
    let clientId ← orThrow call.actor.clientId .typeError
    let proposals ← orThrow (s.proposals.create call.newId
      { sessionId := call.sessionId
        clientId
        messageId := call.messageId
        payload := call.draft
        snapshotHash := hash current
        expiresAt := call.createdAt + 15 * 60000 }) .uniqueConstraint
    return ({ s with proposals }, call.newId)

end

/-! ## Actions -/

/-- A call of `resolveAssistantAction`; `confirm` says that the decision is not to cancel.  The ids,
the hash of the booking and the times of the written rows are what the database and the runtime
give the action. -/
structure ResolveAssistantAction where
  sessionId : Uuid
  actor : Principal
  proposalId : Uuid
  confirm : Bool
  enabled : Bool
  now : Time
  checkedAt : Time
  completedAt : Time
  newPaymentId : Uuid
  invoiceId : Uuid
  newThreadId : Uuid
  newMessageId : Uuid
  newEventId : Uuid
  newClientId : Uuid
  newConsultationId : Uuid
  newAppointmentId : Uuid
  newRequestId : Uuid
  newReference : String
  bookingHash : String
  bookingClock : DirectBookingClock
  times : RowTimes

/-- `parseWithSchema(schema, value)` of a value that is not accepted. -/
def invalidInput : Failure := .validation "البيانات المرسلة غير مكتملة أو غير صحيحة."

/-- A profile as it is posted. -/
structure PortalProfile where
  fullName : String
  phone : String
  email : String
  city : String
  deriving DecidableEq

/-- `portalProfileUpdateSchema`. -/
def PortalProfile.parse (P : Platform) (p : PortalProfile) : Except Failure PortalProfile := do
  let fullName := trim p.fullName
  let phone := trim p.phone
  let email := trim p.email
  let city := trim p.city
  let isValid : Bool := (2 ≤ length fullName ∧ length fullName ≤ 120) ∧
    (6 ≤ length phone ∧ length phone ≤ 40) ∧
    (p.email = "" ∨ P.isEmail email ∧ length email ≤ 254) ∧ length city ≤ 80
  throwIf (!isValid) (.validation "Profile payload is invalid.")
  return ⟨fullName, phone, toLowerCase email, city⟩

/-- The profile of the client with the changes. -/
def ProfileChanges.apply (changes : ProfileChanges) : Snapshot → PortalProfile
  | .profile p =>
    ⟨changes.fullName.getD p.fullName, changes.phone.getD p.phone,
      changes.email.getD (p.email.getD ""), changes.city.getD (p.city.getD "")⟩
  | _ => ⟨changes.fullName.getD "", changes.phone.getD "", changes.email.getD "",
      changes.city.getD ""⟩

/-- `updatePortalProfile({ actor, body, transaction })`. -/
def updatePortalProfile (P : Platform) (r : ActionRecords) (actor : Principal)
    (body : PortalProfile) (now : Time) : Except Failure ActionRecords := do
  let clientId ← assertClientPortalAccess actor
  let body ← body.parse P
  let _ ← orThrow ((r.db.clients.lookup clientId).filter fun c ↦ c.userId = some actor.id)
    (.notFound "Client profile was not found.")
  let db ← r.db.updateClient clientId fun c ↦
    { c with
      fullName := body.fullName
      phone := body.phone
      phoneCanonical := canonicalPhone body.phone
      email := orNull (some body.email)
      city := orNull (some body.city)
      updatedAt := now }
  return { r with
    db
    profiles := r.profiles.update actor.id fun u ↦
      { u with name := body.fullName, phone := some body.phone } }

/-- `updateClientPreferences({ actor, body, client, audit })`. -/
def updateClientPreferences (r : ActionRecords) (actor : Principal) (locale : PublicLocale) :
    Except Failure ActionRecords := do
  let clientId ← assertClientPortalAccess actor
  let _ ← orThrow ((r.db.clients.lookup clientId).filter fun c ↦
      c.userId = some actor.id ∧ c.status = .active ∧ c.deletedAt = none)
    (.notFound "Client profile was not found.")
  return { r with profiles := r.profiles.update actor.id fun u ↦ { u with locale := locale.text } }

/-- `publishedQuestionnaire(db)`: the latest version. -/
def publishedQuestionnaire (db : Database) : Option Uuid :=
  (db.healthQuestionnaires.findMany
    (fun _ q ↦ q.published ∧ q.approvedAt.isSome ∧ q.approvedById.isSome)
    (fun x y ↦ y.2.version ≤ x.2.version) 1).head?.map Prod.fst

/-- `createServiceRequest(actor, { kind, locale, idempotencyKey }, transaction)`, with the id and
the reference of the request. -/
def createServiceRequest (db : Database) (call : ResolveAssistantAction) (kind : ServiceKind)
    (locale : String) : Except Failure (Database × Uuid × String) := do
  let (clientId, _) ← assertActiveServiceClient db call.actor
  throwIf (kind = .companyFormation)
    (.validation "Start through the formation interview.")
  match db.serviceRequests.findFirst fun _ row ↦
      row.clientId = clientId ∧ row.idempotencyKey = call.proposalId with
  | some (id, row) => do
    throwIf (row.kind ≠ kind ∨ row.locale ≠ locale ∨ row.sourceRequestId.isSome) serviceConflict
    return (db, id, row.reference)
  | none => do
    let questionnaireId := if kind = .healthCheck then publishedQuestionnaire db else none
    throwIf (kind = .healthCheck ∧ questionnaireId.isNone)
      (.of 409 .featureDisabled "The questionnaire is awaiting office approval.")
    let db ← db.createServiceRequest call.newRequestId
      { reference := call.newReference
        clientId
        kind
        locale
        intake := {}
        questionnaireId
        idempotencyKey := call.proposalId }
    return (db, call.newRequestId, call.newReference)

/-- `replyClientConversationInTransaction`, after which the dialogue is about the thread. -/
def replyFromProposal (r : ActionRecords) (call : ResolveAssistantAction)
    (session : AssistantSession) (targetId : Option Uuid) (message : String) :
    Except Failure (ActionRecords × Uuid) := do
  let db ← replyClientConversationInTransaction r.db
    { actor := call.actor
      threadId := targetId
      message
      locale := .ofText session.locale
      newThreadId := call.newThreadId
      newMessageId := call.newMessageId
      now := call.completedAt }
  let threadId := targetId.getD call.newThreadId
  return ({ r with
    db := { db with
      assistantSessions := db.assistantSessions.update call.sessionId fun s ↦
        { s with revision := s.revision + 1 } }
    followups := r.followups.insert call.sessionId threadId }, threadId)

/-- `outcomeVersion`, if the snapshot has one. -/
def Snapshot.outcomeVersion : Snapshot → Option ℕ
  | .request c => some c.outcomeVersion
  | _ => none

/-- `requestAlternativeTime(actor, id, { startsAt, mode, version }, transaction)`; no version stands
for one that `alternativeTimeSchema` does not accept. -/
def requestAlternativeTime (P : Platform) (C : CairoClock) (db : Database)
    (call : ResolveAssistantAction) (id : Uuid) (startsAt : Time) (mode : ConsultationMode)
    (version : Option ℕ) : Except Failure Database := do
  let clientId ← assertClientPortalAccess call.actor
  let version ← orThrow version invalidInput
  let slot ← (AssertPublicConsultationSlotAvailable.run P C
    { startsAt, mode, now := call.checkedAt } db true).2
  let c ← orThrow ((db.consultationRequests.lookup id).filter fun c ↦
      c.clientId = some clientId ∧
      ((db.clients.lookup clientId).any fun client ↦
        client.userId = some call.actor.id ∧ client.deletedAt = none) ∧
      db.assistantSessions.any fun _ s ↦ s.consultationRequestId = some id)
    (.notFound "Request not found.")
  throwIf (c.outcomeVersion ≠ version ∨ c.status ∉ [.new, .reviewing])
    (.conflict "The appointment request changed.")
  return db.updateConsultation id fun c ↦
    { c with
      requestedStartsAt := some slot.startsAt
      requestedEndsAt := some slot.endsAt
      preferredMode := mode
      outcomeVersion := c.outcomeVersion + 1 }

/-- What `actOnServiceRequest` is called with, as far as `serviceActionSchema` accepts it. -/
def ServiceDraft.action (draft : ServiceDraft) (current : ServiceSnapshot) :
    Except Failure ServiceAction :=
  match draft.operation with
  | .changes => .ok (.transition .inProgress (draft.message.getD ""))
  | .cancel => .ok (.transition .cancelled (draft.message.getD ""))
  | .accept => do
    throwIf (current.quoteVersion = 0) invalidInput
    return .accept current.quoteVersion
  | .save => return .save (← orThrow draft.intake invalidInput)
  | .message => return .message (← orThrow draft.message invalidInput) false
  | .submit => .ok .submit

section

variable (P : Platform) (C : CairoClock) (A : Availability)

/-- What a confirmed proposal does, and its result. -/
def performAction (r : ActionRecords) (call : ResolveAssistantAction) (session : AssistantSession)
    (current : Snapshot) : AssistantActionDraft → Except Failure (ActionRecords × ActionResult)
  | .profile changes => do
    let r ← updatePortalProfile P r call.actor (changes.apply current) call.completedAt
    return (r, .updated)
  | .preference locale => do
    let r ← updateClientPreferences r call.actor locale
    return (r, .locale locale)
  | .serviceCreate service => do
    let (db, id, reference) ← createServiceRequest r.db call service session.locale
    return ({ r with db }, .created id reference)
  | .officeMessage targetId message => do
    let (r, threadId) ← replyFromProposal r call session targetId message
    return (r, .queued threadId)
  | .alternativeTime targetId startsAt mode => do
    let id ← orThrow targetId .typeError
    let db ← requestAlternativeTime P C r.db call id startsAt mode current.outcomeVersion
    return ({ r with db }, .requested)
  | .booking draft => do
    let action ← draft.action
    let db ← mutateDirectBooking A r.db
      { sessionId := call.sessionId
        actorClientId := call.actor.clientId
        action
        key := call.proposalId
        revision := session.revision
        requestHash := call.bookingHash
        clock := call.bookingClock
        newClientId := call.newClientId
        newConsultationId := call.newConsultationId
        newAppointmentId := call.newAppointmentId }
    return ({ r with db }, .booked draft.operation)
  | .service draft => do
    let id ← orThrow draft.targetId .typeError
    match current with
    | .service current => do
      let action ← draft.action current
      let db ← actOnServiceRequest P r.db
        { actor := call.actor
          id
          revision := current.revision
          action
          now := call.completedAt
          newPaymentId := call.newPaymentId
          invoiceId := call.invoiceId
          newThreadId := call.newThreadId
          newMessageId := call.newMessageId
          newEventId := call.newEventId }
      return ({ r with db }, .acted id (current.revision + 1))
    -- the revision -1 is no revision
    | _ => throw invalidInput

/-! ## Resolving -/

/-- What a call answers. -/
structure Resolution where
  status : ProposalStatus
  result : Option ActionResult := none
  deriving DecidableEq

/-- `data: { status, completedAt }`. -/
def AssistantActionProposal.close (status : ProposalStatus) (now : Time)
    (p : AssistantActionProposal) : AssistantActionProposal :=
  { p with status, completedAt := some now }

/-- `data: { status: "COMPLETED", completedAt, result }`. -/
def AssistantActionProposal.complete (result : ActionResult) (now : Time)
    (p : AssistantActionProposal) : AssistantActionProposal :=
  { p with status := .completed, completedAt := some now, result := some result }

variable (hash : Snapshot → String)

/-- `resolveAssistantAction(input)`. -/
def resolveAssistantAction (s : ProposalStore) (call : ResolveAssistantAction) :
    Except Failure (ProposalStore × Resolution) := do
  throwIf (!call.enabled) (.of 409 .featureDisabled "Assistant actions are disabled.")
  let session ← findOwnSession s.records call.sessionId call.actor call.now
  throwIf session.leaseId.isSome proposalConflict
  let (clientId, _, _) ← ownedClient s.records call.actor
  let proposal ← orThrow ((s.proposals.lookup call.proposalId).filter fun p ↦
      p.sessionId = call.sessionId ∧ p.clientId = clientId)
    (.notFound "Action proposal not found.")
  if proposal.status ≠ .pending then return (s, ⟨proposal.status, proposal.result⟩)
  else if !call.confirm then
    return (s.updateProposal call.proposalId (.close .cancelled call.completedAt),
      ⟨.cancelled, none⟩)
  else
    let current ← snapshot s.records call.actor proposal.payload call.sessionId
    if proposal.expiresAt ≤ call.checkedAt ∨ proposal.snapshotHash ≠ hash current then
      return (s.updateProposal call.proposalId (.close .stale call.completedAt), ⟨.stale, none⟩)
    else
      let (records, result) ← performAction P C A s.records call session current proposal.payload
      let s := { s with records := { records with times := call.times } }
      return (s.updateProposal call.proposalId (.complete result call.completedAt),
        ⟨.completed, some result⟩)

end

end KmtLegal.Proposals
