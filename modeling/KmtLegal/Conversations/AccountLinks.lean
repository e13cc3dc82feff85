import KmtLegal.Database
import KmtLegal.Relational.Run

/-!
# The client of a conversation

A guest talks to the office before there is an account, and the conversation, its thread, its
request and the appointments of the request are carried over when the session is linked to a client.
Five services link a session, each in its own transaction, and two more write what it refers to.

Here are the columns the links consist of.  Whether a call is refused for any other reason is left
open: a refused call changes nothing, like one that is not made.
-/

namespace KmtLegal.Linking

open Relational

/-! ## Columns -/

/-- The columns of `assistant_sessions`. -/
structure SessionLinks where
  clientId : Option Uuid := none
  consultationRequestId : Option Uuid := none
  conversationThreadId : Option Uuid := none
  deriving DecidableEq

/-- The columns of `consultation_requests`. -/
structure RequestLinks where
  clientId : Option Uuid := none
  confirmationSource : String := "STAFF_APPROVAL"
  deriving DecidableEq

/-- The columns of `appointments`. -/
structure AppointmentLinks where
  clientId : Uuid
  consultationRequestId : Option Uuid := none
  deriving DecidableEq

/-- The columns of `clients`. -/
structure ClientLinks where
  userId : Option Uuid := none
  source : Option String := none
  deriving DecidableEq

/-- Who owns what; of a thread there is only the client. -/
structure Links where
  clients : Table Uuid ClientLinks := ∅
  sessions : Table Uuid SessionLinks := ∅
  threads : Table Uuid (Option Uuid) := ∅
  requests : Table Uuid RequestLinks := ∅
  appointments : Table Uuid AppointmentLinks := ∅

namespace Links

variable (db : Links)

/-- An isolated lead of a guest booking, without an account. -/
def isLead (clientId : Uuid) : Bool :=
  (db.clients.lookup clientId).any fun client ↦
    client.source = some "assistant_guest_booking" ∧ client.userId = none

def updateSession (sessionId : Uuid) (f : SessionLinks → SessionLinks) : Links :=
  { db with sessions := db.sessions.update sessionId f }

def setThreadClient (threadId clientId : Uuid) : Links :=
  { db with threads := db.threads.update threadId fun _ ↦ some clientId }

def createClient (clientId : Uuid) (client : ClientLinks) : Option Links :=
  (db.clients.create clientId client).map fun clients ↦ { db with clients }

def createThread (threadId : Uuid) (clientId : Option Uuid) : Option Links :=
  (db.threads.create threadId clientId).map fun threads ↦ { db with threads }

def createRequest (requestId : Uuid) (request : RequestLinks) : Option Links :=
  (db.requests.create requestId request).map fun requests ↦ { db with requests }

def createAppointment (appointmentId : Uuid) (appointment : AppointmentLinks) : Option Links :=
  (db.appointments.create appointmentId appointment).map fun appointments ↦ { db with appointments }

/-- The request and its appointments go over to the client. -/
def rebindRequest (requestId : Uuid) (request : RequestLinks) (clientId : Uuid) : Links :=
  { db with
    requests := db.requests.update requestId fun request ↦
      { request with clientId := some clientId }
    appointments := db.appointments.updateMany
      (fun _ p ↦ p.consultationRequestId = some requestId ∧ some p.clientId = request.clientId)
      fun p ↦ { p with clientId } }

/-! ## Binding -/

/-- Only the isolated lead of the conversation can be attached. -/
def canAttach (request : RequestLinks) (clientId : Uuid) : Bool :=
  request.clientId ≠ some clientId ∧ request.confirmationSource ≠ "STAFF_APPROVAL" ∧
    request.clientId.any db.isLead

def bindRequest (clientId requestId : Uuid) : Option Links := do
  let request ← db.requests.lookup requestId
  if db.canAttach request clientId then some (db.rebindRequest requestId request clientId)
  else some db

def bindAssistantThreadIdentity (sessionId clientId : Uuid) : Option Links := do
  let session ← db.sessions.lookup sessionId
  let db ← session.consultationRequestId.elim (some db) (db.bindRequest clientId)
  return session.conversationThreadId.elim db (db.setThreadClient · clientId)

/-- The update of the session that all services but one follow with the binding. -/
def link (sessionId clientId : Uuid) : Option Links :=
  (db.updateSession sessionId fun session ↦ { session with clientId := some clientId })
    |>.bindAssistantThreadIdentity sessionId clientId

def ensureAssistantHandoff (sessionId newThreadId : Uuid) : Option (Links × Uuid) := do
  let session ← db.sessions.lookup sessionId
  match session.conversationThreadId with
  | some threadId => return (db, threadId)
  | none =>
    let db ← db.createThread newThreadId session.clientId
    return (db.updateSession sessionId fun session ↦
      { session with conversationThreadId := some newThreadId }, newThreadId)

end Links

/-! ## Calls -/

inductive BookingAction where
  | confirm | requestCallback | reschedule | cancel
  deriving DecidableEq

/-- A call of `mutateDirectBooking`. -/
structure Booking where
  sessionId : Uuid
  actorClientId : Option Uuid := none
  action : BookingAction
  newClientId : Uuid
  newRequestId : Uuid
  newAppointmentId : Uuid
  newThreadId : Uuid

/-- The services that link a session or write what is linked to it. -/
inductive LinkCall where
  /-- A fresh session of a guest or a client. -/
  | createAssistantSession (sessionId : Uuid) (clientId : Option Uuid)
  | attachAuthenticatedClient (sessionId clientId : Uuid)
  | registerConversationClient (sessionId newClientId newUserId : Uuid)
  /-- The account of the e-mail address, if there is one, belongs to `existing`. -/
  | completeClientVerification (sessionId : Uuid) (existing : Option Uuid)
      (newClientId newUserId : Uuid)
  /-- The private read of `sendAssistantMessage`. -/
  | privateRead (sessionId clientId : Uuid)
  /-- `actOnFormation` with the action `submit`. -/
  | submitFormation (sessionId clientId newThreadId : Uuid)
  | submitConversationRequest (sessionId clientId newRequestId : Uuid)
  | mutateDirectBooking (call : Booking)

namespace Links

variable (db : Links)

/-- `assertActiveServiceClient`: the client has an account. -/
def hasAccount (clientId : Uuid) : Bool :=
  (db.clients.lookup clientId).any fun client ↦ client.userId.isSome

/-- A session nobody else owns is linked to a client. -/
def linkOwned (sessionId clientId : Uuid) : Option Links := do
  let session ← db.sessions.lookup sessionId
  if session.clientId.all (· = clientId) then db.link sessionId clientId else none

/-- An account is created and the session of a guest linked to it. -/
def linkNewClient (source : String) (sessionId newClientId newUserId : Uuid) : Option Links := do
  let session ← db.sessions.lookup sessionId
  if session.clientId.isSome then none
  else
    let db ← db.createClient newClientId { userId := some newUserId, source := some source }
    db.link sessionId newClientId

def attachAuthenticatedClient (sessionId clientId : Uuid) : Option Links :=
  db.linkOwned sessionId clientId

def registerConversationClient (sessionId newClientId newUserId : Uuid) : Option Links :=
  db.linkNewClient "assistant_password_signup" sessionId newClientId newUserId

def completeClientVerification (sessionId newClientId newUserId : Uuid) :
    Option Uuid → Option Links
  | some clientId => if db.hasAccount clientId then db.linkOwned sessionId clientId else none
  | none => db.linkNewClient "verified_assistant" sessionId newClientId newUserId

def privateRead (sessionId clientId : Uuid) : Option Links := do
  let session ← db.sessions.lookup sessionId
  if ¬db.hasAccount clientId then none
  else if session.clientId = some clientId then some db
  else if session.clientId = none then db.link sessionId clientId
  else none

/-- The thread is that of the service request; what the session refers to is not bound. -/
def submitFormation (sessionId clientId newThreadId : Uuid) : Option Links := do
  let session ← db.sessions.lookup sessionId
  if session.clientId.all (· = clientId) ∧ db.hasAccount clientId then
    let db ← db.createThread newThreadId (some clientId)
    return db.updateSession sessionId fun session ↦ { session with clientId := some clientId }
  else none

def submitConversationRequest (sessionId clientId newRequestId : Uuid) : Option Links := do
  let session ← db.sessions.lookup sessionId
  if session.clientId = some clientId ∧ session.consultationRequestId = none ∧
      db.hasAccount clientId then
    let db ← db.createRequest newRequestId { clientId := some clientId }
    return db.updateSession sessionId fun session ↦
      { session with consultationRequestId := some newRequestId }
  else none

/-- The client of a booking; a guest becomes a lead of her own. -/
def clientOfBooking (newClientId : Uuid) : Option Uuid → Option (Links × Uuid)
  | some clientId => some (db, clientId)
  | none => (db.createClient newClientId { source := some "assistant_guest_booking" }).map
      fun db ↦ (db, newClientId)

/-- The request of a new booking, with its appointment if a slot is taken. -/
def createBooking (call : Booking) (clientId : Uuid) : Option Links := do
  let slot := call.action = .confirm
  let db ← db.createRequest call.newRequestId
    { clientId := some clientId
      confirmationSource := if slot then "PUBLISHED_SLOT" else "CALLBACK_REQUEST" }
  if slot then
    db.createAppointment call.newAppointmentId
      { clientId, consultationRequestId := some call.newRequestId }
  else some db

/-- What follows on the request: the session refers to it, and the thread goes to its client. -/
def placeBooking (call : Booking) (requestId clientId : Uuid) : Option Links := do
  let db := db.updateSession call.sessionId fun session ↦
    { session with consultationRequestId := some requestId }
  let (db, threadId) ← db.ensureAssistantHandoff call.sessionId call.newThreadId
  return db.setThreadClient threadId clientId

def mutateDirectBooking (call : Booking) : Option Links := do
  let session ← db.sessions.lookup call.sessionId
  if ¬session.clientId.all (some · = call.actorClientId) then none
  else match session.consultationRequestId with
    | none =>
      if call.action = .confirm ∨ call.action = .requestCallback then
        let (db, clientId) ← db.clientOfBooking call.newClientId session.clientId
        let db ← db.createBooking call clientId
        db.placeBooking call call.newRequestId clientId
      else none
    | some requestId =>
      let request ← db.requests.lookup requestId
      if request.confirmationSource = "STAFF_APPROVAL" then none
      else if call.action = .reschedule then
        let (db, clientId) ← db.clientOfBooking call.newClientId
          (request.clientId.or session.clientId)
        db.placeBooking call requestId clientId
      -- the status of the appointment is no link
      else if call.action = .cancel then some db
      else none

end Links

def LinkCall.serve (db : Links) : LinkCall → Option Links
  | createAssistantSession sessionId clientId =>
    (db.sessions.create sessionId { clientId }).map fun sessions ↦ { db with sessions }
  | attachAuthenticatedClient sessionId clientId =>
    db.attachAuthenticatedClient sessionId clientId
  | registerConversationClient sessionId newClientId newUserId =>
    db.registerConversationClient sessionId newClientId newUserId
  | completeClientVerification sessionId existing newClientId newUserId =>
    db.completeClientVerification sessionId newClientId newUserId existing
  | privateRead sessionId clientId => db.privateRead sessionId clientId
  | submitFormation sessionId clientId newThreadId =>
    db.submitFormation sessionId clientId newThreadId
  | submitConversationRequest sessionId clientId newRequestId =>
    db.submitConversationRequest sessionId clientId newRequestId
  | mutateDirectBooking call => db.mutateDirectBooking call

/-- One call; a call that throws is rolled back. -/
def linkStep (db : Links) (call : LinkCall) : Links := (call.serve db).getD db

/-! ## What is to hold -/

/-- What a session refers to belongs to its client `c`, except for a request that was not taken
over. -/
structure Belongs (db : Links) (session : SessionLinks) (c : Uuid) : Prop where
  thread : ∀ id, session.conversationThreadId = some id → db.threads.lookup id = some (some c)
  request : ∀ id q, session.consultationRequestId = some id → db.requests.lookup id = some q →
    q.clientId = some c ∨ q.confirmationSource = "STAFF_APPROVAL" ∨ ¬q.clientId.any db.isLead
  appointments : ∀ id q p appointment, session.consultationRequestId = some id →
    db.requests.lookup id = some q → q.clientId = some c →
    db.appointments.lookup p = some appointment → appointment.consultationRequestId = some id →
    appointment.clientId = c

/-- Every linked session has what it owns. -/
def Carried (db : Links) : Prop :=
  ∀ id session c, db.sessions.lookup id = some session → session.clientId = some c →
    Belongs db session c

/-- The foreign key of the appointments: the request of an appointment exists. -/
def Links.AppointmentsKeyed (db : Links) : Prop :=
  ∀ p appointment request, db.appointments.lookup p = some appointment →
    appointment.consultationRequestId = some request → ∃ q, db.requests.lookup request = some q

/-- No session changes its client, and no request whose client is not an isolated lead. -/
structure ClientsKept (db db' : Links) : Prop where
  sessions : ∀ id session, db.sessions.lookup id = some session →
    ∃ session', db'.sessions.lookup id = some session' ∧
      ∀ c, session.clientId = some c → session'.clientId = some c
  requests : ∀ id q, db.requests.lookup id = some q → ¬q.clientId.any db.isLead →
    ∃ q', db'.requests.lookup id = some q' ∧ q'.clientId = q.clientId

/-- An interview is submitted from a session that is linked already, or refers to nothing. -/
def LinkedBefore (db : Links) : LinkCall → Prop
  | .submitFormation sessionId _ _ => ∀ session, db.sessions.lookup sessionId = some session →
      session.clientId = none →
        session.conversationThreadId = none ∧ session.consultationRequestId = none
  | _ => True

end KmtLegal.Linking
