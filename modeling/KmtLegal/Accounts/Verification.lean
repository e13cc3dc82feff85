import KmtLegal.Accounts.Portal
import KmtLegal.Assistant.Dialogue
import KmtLegal.Relational.Interleaving
import KmtLegal.Relational.Locks

/-!
# Account links

`startClientVerification` and `completeClientVerification` statement by statement, for any number
of calls.  A visitor of the assistant has a link sent to an e-mail, and whoever opens the link
chooses a password: of a new account, or of the account the e-mail has.

What a transaction writes is seen by the others when it ends; until then it holds the locks of the
rows it has written.
-/

namespace KmtLegal

open Relational Js

/-! ## Rows -/

inductive VerificationPurpose where
  | activate | recover
  deriving DecidableEq

/-- A row of `client_verification_tokens`. -/
structure VerificationToken where
  sessionId : Uuid
  tokenHash : String
  email : String
  purpose : VerificationPurpose := .activate
  expiresAt : Time
  consumedAt : Option Time := none
  createdAt : Time
  deriving DecidableEq

/-- The columns of `assistant_sessions` the two services read and write. -/
structure ClientConversation where
  capabilityHash : String
  locale : PublicLocale := .ar
  clientId : Option Uuid := none
  consultationRequestId : Option Uuid := none
  conversationThreadId : Option Uuid := none
  draft : IntakeDraft := {}
  dialogue : DialogueState := {}
  revision : ℕ := 0
  leaseId : Option Uuid := none
  leaseExpiresAt : Option Time := none
  expiresAt : Time

structure VerificationRows where
  accounts : Accounts
  tokens : Table Uuid VerificationToken := ∅
  conversations : Table Uuid ClientConversation := ∅
  consultationRequests : Table Uuid ConsultationRequest := ∅
  appointments : Table Uuid Appointment := ∅
  threads : Table Uuid ConversationThread := ∅

/-- What a transaction can lock: a row, or `pg_advisory_xact_lock(hashtext(email))`. -/
inductive VerificationLock where
  | token (id : Uuid)
  | conversation (id : Uuid)
  | email (key : ℤ)
  deriving DecidableEq

structure VerificationDatabase (ω : Type) where
  rows : VerificationRows
  locks : Locks VerificationLock ω := .none

/-- A minute, in milliseconds. -/
def resendInterval : Time := 60 * 1000

def VerificationToken.consume (consumedAt : Time) (t : VerificationToken) : VerificationToken :=
  { t with consumedAt := some consumedAt }

/-- What `completeClientVerification` asks of the token of a link. -/
def VerificationRows.accepts (rows : VerificationRows) (now : Time) (t : VerificationToken) :
    Bool :=
  t.consumedAt = none ∧ now < t.expiresAt ∧
    (rows.conversations.lookup t.sessionId).any fun c ↦ now < c.expiresAt

/-! ## Starting -/

/-- A call of `startClientVerification`, with the token and the key it generates. -/
structure StartVerification where
  capability : String
  email : String
  purpose : VerificationPurpose := .activate
  actor : Option Principal := none
  /-- `getAccountEmailMode() === "smtp"`. -/
  smtp : Bool := true
  rawToken : String
  newTokenId : Uuid

/-- What a call has found out about an e-mail. -/
structure Addressee where
  conversationId : Uuid
  email : String
  /-- Some user has the e-mail. -/
  existing : Bool
  eligible : Bool
  deriving DecidableEq

/-- How far a call of `startClientVerification` is. -/
inductive StartPhase where
  | begin
  /-- `ownAssistantSession`: a lease that has expired is released. -/
  | recover (id : Uuid) (seen : ClientConversation)
  | reread (id : Uuid)
  | owned (id : Uuid)
  | rested (id : Uuid)
  | addressed (a : Addressee)
  /-- In the transaction: the conversation is locked. -/
  | locked (a : Addressee)
  | unrepeated (a : Addressee)
  /-- The earlier tokens are consumed. -/
  | cleared (a : Addressee) (earlier : List Uuid) (consumedAt : Time)
  /-- The transaction has ended. -/
  | issued (a : Addressee)
  | undelivered
  | accepted
  | failed (failure : Failure)

/-- `new ApiError(410, "TOKEN_EXPIRED", …)`. -/
def verificationExpired : Failure :=
  .of 410 .tokenExpired "Account verification link is invalid or expired."

/-- The account action of a purpose has been asked for. -/
def VerificationPurpose.requested (purpose : VerificationPurpose) (c : ClientConversation) : Bool :=
  match purpose with
  | .activate => bookingAllowed c.dialogue || c.consultationRequestId.isSome
  | .recover => bookingAllowed c.dialogue || c.dialogue.accountAccess

def ClientConversation.leaseExpired (c : ClientConversation) (now : Time) : Bool :=
  c.leaseExpiresAt.all (· ≤ now)

/-- The guest's capability alone does not open a conversation linked to a client. -/
def ClientConversation.isOpenTo (c : ClientConversation) (clientId : Option Uuid) (now : Time) :
    Bool :=
  now < c.expiresAt ∧ (c.clientId.isSome → c.clientId = clientId)

/-- `assertActiveServiceClient(actor)`. -/
def isActiveServiceClient (acc : Accounts) (actor : Principal) : Bool :=
  (orNull actor.clientId).any fun clientId ↦ hasPermission actor "client.read.self" ∧
    (acc.clients.lookup clientId).any fun c ↦ c.userId = some actor.id ∧ c.deletedAt = none ∧
      (acc.users.lookup actor.id).any (acc.hasActiveRole "Client")

section

variable (P : Platform) (capabilityHash : String → String) (hashtext : String → ℤ)

namespace StartVerification

variable (call : StartVerification)

def actorClientId : Option Uuid := call.actor.bind Principal.clientId

/-- The conversation is the caller's; may the link be asked for? -/
def permit (id : Uuid) (c : ClientConversation) : StartPhase :=
  if !call.purpose.requested c then
    .failed (.permissionDenied "Account action must be requested.")
  else if !call.smtp then
    .failed (.of 503 .emailDeliveryFailed "Account email delivery is unavailable.")
  else .owned id

/-- The read of `ownAssistantSession`. -/
def own (rows : VerificationRows) (now : Time) : StartPhase :=
  match (rows.conversations.findFirst fun _ c ↦
      c.capabilityHash = capabilityHash call.capability).filter fun (_, c) ↦
        c.isOpenTo call.actorClientId now with
  | none => .failed (.of 401 .authRequired "Authentication required.")
  | some (id, c) =>
    if c.clientId.isSome ∧ call.actor.any fun actor ↦ !isActiveServiceClient rows.accounts actor then
      .failed (.permissionDenied "This action is not permitted.")
    else if c.leaseId.isSome ∧ c.leaseExpired now then .recover id c
    else call.permit id c

/-- The lease that was seen is released, if it still is there and has expired. -/
def releaseLease (seen : ClientConversation) (now : Time) (c : ClientConversation) :
    ClientConversation :=
  if c.leaseId = seen.leaseId ∧ c.clientId = seen.clientId ∧ c.leaseExpired now then
    { c with leaseId := none, leaseExpiresAt := none, revision := c.revision + 1 }
  else c

/-- The read after the release. -/
def ownAgain (rows : VerificationRows) (now : Time) (id : Uuid) : StartPhase :=
  match (rows.conversations.lookup id).filter (·.isOpenTo call.actorClientId now) with
  | none => .failed (.of 401 .authRequired "Authentication required.")
  | some c => call.permit id c

/-- `new ApiError(429, "RATE_LIMITED", …)`. -/
def rateLimited : StartPhase :=
  .failed (.of 429 .rateLimited "Please wait before requesting another email.")

/-- The latest token of the conversation has to be a minute old. -/
def rest (rows : VerificationRows) (now : Time) (id : Uuid) : StartPhase :=
  let latest := rows.tokens.findMany (fun _ t ↦ t.sessionId = id)
    (fun a b ↦ b.2.createdAt ≤ a.2.createdAt) 1
  if latest.any fun (_, t) ↦ now - resendInterval < t.createdAt then rateLimited else .rested id

/-- The user with the e-mail. -/
def address (rows : VerificationRows) (id : Uuid) : StartPhase :=
  match emailSchema P call.email with
  | none => .failed .zodError
  | some email =>
    let existing := rows.accounts.users.findFirst fun _ u ↦ toLowerCase u.email = toLowerCase email
    .addressed
      { conversationId := id
        email
        existing := existing.isSome
        eligible := existing.all fun (_, u) ↦
          u.status = .active ∧ u.deletedAt = none ∧
            (rows.accounts.roles.lookup u.roleId).any fun r ↦ r.name = "Client" }

/-- No link is sent: the e-mail is somebody else's, or there is nothing to recover. -/
def isSilent (a : Addressee) : Bool := !a.eligible || !a.existing && call.purpose = .recover

/-- The new token.  A link that only leads to the login is consumed from the start. -/
def newToken (a : Addressee) (now : Time) : VerificationToken where
  sessionId := a.conversationId
  tokenHash := capabilityHash call.rawToken
  email := a.email
  purpose := call.purpose
  expiresAt := now + 30 * 60 * 1000
  consumedAt := if call.isSilent a ∨ a.existing ∧ call.purpose = .activate then some now else none
  createdAt := now

/-- The earlier tokens are consumed, and there is a new one. -/
def issue (rows : VerificationRows) (a : Addressee) (earlier : List Uuid)
    (consumedAt now : Time) : Except Failure VerificationRows := do
  let token := call.newToken capabilityHash a now
  throwIf (rows.tokens.any fun _ t ↦ t.tokenHash = token.tokenHash) .uniqueConstraint
  let tokens ← orThrow ((rows.tokens.updateMany (fun id _ ↦ id ∈ earlier)
    (VerificationToken.consume consumedAt)).create call.newTokenId token) .uniqueConstraint
  pure { rows with tokens }

end StartVerification

variable {ω : Type} [DecidableEq ω]

namespace VerificationDatabase

variable (s : VerificationDatabase ω) (w : ω)

/-- The transaction takes locks. -/
def acquire (locks : List VerificationLock) : VerificationDatabase ω :=
  { s with locks := s.locks.acquire w locks }

/-- The transaction is rolled back. -/
def rollback : VerificationDatabase ω := { s with locks := s.locks.release w }

/-- The transaction has written the rows. -/
def finish (rows : VerificationRows) : VerificationDatabase ω :=
  { rows, locks := s.locks.release w }

end VerificationDatabase

/-- The next statement of a call of `startClientVerification`.  One that needs a lock somebody else
holds waits. -/
def startStep (call : StartVerification) (w : ω) (now : Time) (delivered : Bool)
    (s : VerificationDatabase ω) : StartPhase → VerificationDatabase ω × StartPhase
  | .begin => (s, call.own capabilityHash s.rows now)
  | .recover id seen =>
    if s.locks.isFree w [.conversation id] then
      ({ s with rows.conversations :=
          s.rows.conversations.update id (StartVerification.releaseLease seen now) }, .reread id)
    else (s, .recover id seen)
  | .reread id => (s, call.ownAgain s.rows now id)
  | .owned id => (s, StartVerification.rest s.rows now id)
  | .rested id => (s, call.address P s.rows id)
  | .addressed a =>
    if s.locks.isFree w [.conversation a.conversationId] then
      match s.rows.conversations.lookup a.conversationId with
      | none => (s.rollback w, .failed .recordNotFound)
      | some current =>
        if call.purpose.requested current then
          (s.acquire w [.conversation a.conversationId], .locked a)
        else (s.rollback w, .failed (.permissionDenied "Account action must be requested."))
    else (s, .addressed a)
  | .locked a =>
    if s.rows.tokens.any fun _ t ↦
        t.sessionId = a.conversationId ∧ now - resendInterval < t.createdAt then
      (s.rollback w, StartVerification.rateLimited)
    else (s, .unrepeated a)
  | .unrepeated a =>
    let earlier := (s.rows.tokens.select fun _ t ↦
      t.sessionId = a.conversationId ∧ t.consumedAt = none).map Prod.fst
    if s.locks.isFree w (earlier.map .token) then
      (s.acquire w (earlier.map .token), .cleared a earlier now)
    else (s, .unrepeated a)
  | .cleared a earlier consumedAt =>
    match call.issue capabilityHash s.rows a earlier consumedAt now with
    | .ok rows => (s.finish w rows, if call.isSilent a then .accepted else .issued a)
    | .error e => (s.rollback w, .failed e)
  | .issued _ => (s, if delivered then .accepted else .undelivered)
  | .undelivered =>
    if s.locks.isFree w [.token call.newTokenId] then
      ({ s with rows.tokens := s.rows.tokens.update call.newTokenId (.consume now) },
        .failed (.of 502 .emailDeliveryFailed "Email delivery failed."))
    else (s, .undelivered)
  | phase => (s, phase)

/-! ## Completing -/

/-- A call of `completeClientVerification`, with the keys it generates. -/
structure CompleteVerification where
  token : String
  passwordHash : String
  newCapability : String
  newUserId : Uuid
  newClientId : Uuid
  newSessionId : Uuid

/-- The token of a link and its conversation, as they were read. -/
structure Challenge where
  id : Uuid
  token : VerificationToken
  conversation : ClientConversation
  consumedAt : Time := 0

/-- How far a call of `completeClientVerification` is. -/
inductive CompletePhase where
  | begin
  | challenged (c : Challenge)
  /-- In the transaction: the token is locked, then the e-mail, then the conversation. -/
  | consumed (c : Challenge)
  | queued (c : Challenge)
  | rotated (c : Challenge)
  /-- The e-mail has an account that may be recovered. -/
  | found (c : Challenge) (userId clientId : Uuid)
  /-- The sessions of the account are revoked. -/
  | revoked (c : Challenge) (userId clientId : Uuid) (sessions : List Uuid)
  /-- Nobody has the e-mail. -/
  | vacant (c : Challenge)
  /-- The transaction has ended. -/
  | committed (c : Challenge) (userId clientId : Uuid)
  | answered (c : Challenge) (userId clientId : Uuid)
  | failed (failure : Failure)

/-- The link, the user and the client of a call that has committed. -/
def CompletePhase.completed : CompletePhase → Option (Challenge × Uuid × Uuid)
  | committed c userId clientId => some (c, userId, clientId)
  | answered c userId clientId => some (c, userId, clientId)
  | _ => none

namespace VerificationRows

variable (rows : VerificationRows)

/-- `tx.clientVerificationToken.findUnique({ where: { tokenHash }, include: { session: true } })`,
and the checks of what it finds. -/
def readChallenge (tokenHash : String) (now : Time) : Except Failure Challenge := do
  let (id, token) ← orThrow (rows.tokens.findFirst fun _ t ↦ t.tokenHash = tokenHash)
    verificationExpired
  let conversation ← orThrow (rows.conversations.lookup token.sessionId) verificationExpired
  throwIf (¬rows.accepts now token) verificationExpired
  pure { id, token, conversation }

/-- The guest's lead of a request goes to the client. -/
def attachRequest (requestId : Option Uuid) (clientId : Uuid) : Except Failure VerificationRows :=
  match requestId with
  | none => pure rows
  | some requestId => do
    let request ← orThrow (rows.consultationRequests.lookup requestId) .recordNotFound
    let isLead := (request.clientId.bind rows.accounts.clients.lookup).any fun c ↦
      c.source = some "assistant_guest_booking" ∧ c.userId = none
    if request.clientId ≠ some clientId ∧ request.confirmationSource ≠ "STAFF_APPROVAL" ∧ isLead then
      pure { rows with
        consultationRequests := rows.consultationRequests.update requestId
          fun r ↦ { r with clientId := some clientId }
        appointments := rows.appointments.updateMany
          (fun _ p ↦ p.consultationRequestId = some requestId ∧ some p.clientId = request.clientId)
          fun p ↦ { p with clientId } }
    else pure rows

/-- The thread of a conversation goes to the client. -/
def attachThread (threadId : Option Uuid) (clientId : Uuid) : Except Failure VerificationRows :=
  match threadId with
  | none => pure rows
  | some threadId => do
    let _ ← orThrow (rows.threads.lookup threadId) .recordNotFound
    pure { rows with
      threads := rows.threads.update threadId fun t ↦ { t with clientId := some clientId } }

/-- `bindAssistantThreadIdentity(tx, sessionId, clientId)`. -/
def bindAssistantThreadIdentity (sessionId clientId : Uuid) : Except Failure VerificationRows := do
  let session ← orThrow (rows.conversations.lookup sessionId) .recordNotFound
  let rows ← rows.attachRequest session.consultationRequestId clientId
  rows.attachThread session.conversationThreadId clientId

/-- The account of the e-mail, if it has one, and whether the link may be used for it. -/
def matchAccount (c : Challenge) : Except Failure (Option (Uuid × Uuid)) :=
  match rows.accounts.users.findFirst fun _ u ↦ toLowerCase u.email = toLowerCase c.token.email with
  | some (userId, u) => do
    throwIf (c.token.purpose ≠ .recover ∨ !rows.accounts.hasActiveRole "Client" u)
      (.conflict "Sign in to your existing account to continue.")
    let (clientId, _) ← orThrow
      ((rows.accounts.clientProfile userId).filter fun (_, client) ↦ client.deletedAt = none)
      (.conflict "Sign in to your existing account to continue.")
    throwIf (c.conversation.clientId.isSome ∧ c.conversation.clientId ≠ some clientId)
      (.of 403 .forbidden "Access denied.")
    pure (some (userId, clientId))
  | none => do
    throwIf (c.token.purpose ≠ .activate ∨ c.conversation.clientId.isSome) verificationExpired
    throwIf (!bookingAllowed c.conversation.dialogue ∧ c.conversation.consultationRequestId = none)
      (.permissionDenied "Booking preparation has stopped.")
    throwIf (orNull c.conversation.draft.fullName = none ∨ orNull c.conversation.draft.phone = none)
      (.validation "Name and phone are required before account activation.")
    pure none

/-- The sessions of a user that are not revoked. -/
def openSessions (userId : Uuid) : List Uuid :=
  (rows.accounts.sessions.select fun _ s ↦ s.userId = userId ∧ s.revokedAt = none).map Prod.fst

end VerificationRows

namespace CompleteVerification

variable (call : CompleteVerification)

/-- What both ways write to the conversation. -/
def rotate (clientId : Uuid) (c : ClientConversation) : ClientConversation :=
  { c with
    capabilityHash := capabilityHash call.newCapability
    leaseId := none
    leaseExpiresAt := none
    clientId := some clientId }

def setPassword (now : Time) (u : UserRecord) : UserRecord :=
  { u with passwordHash := some call.passwordHash, updatedAt := now }

/-- The writes of a recovery. -/
def recoverAccount (rows : VerificationRows) (c : Challenge) (userId clientId : Uuid)
    (sessions : List Uuid) (now : Time) : Except Failure VerificationRows :=
  let acc := rows.accounts.updateUser userId (call.setPassword now)
  let rows := { rows with
    accounts := { acc with
      sessions := acc.sessions.updateMany (fun id _ ↦ id ∈ sessions)
        fun s ↦ { s with status := .revoked, revokedAt := some now } }
    tokens := rows.tokens.update c.id (.consume c.consumedAt)
    conversations := rows.conversations.update c.token.sessionId
      (call.rotate capabilityHash clientId) }
  rows.bindAssistantThreadIdentity c.token.sessionId clientId

/-- The account of a visitor. -/
def newUser (c : Challenge) (roleId : Uuid) (now : Time) : UserRecord where
  email := c.token.email
  name := c.conversation.draft.fullName.getD ""
  phone := c.conversation.draft.phone
  passwordHash := some call.passwordHash
  roleId
  status := .active
  locale := c.conversation.locale
  updatedAt := now

/-- "Never find or merge a historical client by email/phone." -/
def newClient (c : Challenge) (now : Time) : Client where
  userId := some call.newUserId
  fullName := c.conversation.draft.fullName.getD ""
  phone := c.conversation.draft.phone.getD ""
  email := some c.token.email
  city := c.conversation.draft.city
  source := some "verified_assistant"
  status := .active
  updatedAt := now

/-- What an activation writes to the conversation. -/
def link (c : Challenge) (s : ClientConversation) : ClientConversation :=
  { call.rotate capabilityHash call.newClientId s with
    draft := { c.conversation.draft with email := some c.token.email }
    revision := s.revision + 1 }

/-- The role of clients. -/
def clientRole (acc : Accounts) : Except Failure Uuid := do
  let (roleId, role) ← orThrow (acc.roleOfName "Client")
    (.of 503 .serviceUnavailable "Client accounts are unavailable.")
  throwIf (role.status ≠ .active)
    (.of 503 .serviceUnavailable "Client accounts are unavailable.")
  pure roleId

/-- The writes of an activation. -/
def activateAccount (rows : VerificationRows) (c : Challenge) (now : Time) :
    Except Failure VerificationRows := do
  let roleId ← clientRole rows.accounts
  let acc ← rows.accounts.createUser call.newUserId (call.newUser c roleId now)
  throwIf (acc.clients.any fun _ client ↦ client.userId = some call.newUserId) .uniqueConstraint
  let clients ← orThrow (acc.clients.create call.newClientId (call.newClient c now))
    .uniqueConstraint
  let rows := { rows with
    accounts := { acc with clients }
    tokens := rows.tokens.update c.id (.consume c.consumedAt)
    conversations := rows.conversations.update c.token.sessionId
      (call.link capabilityHash c) }
  rows.bindAssistantThreadIdentity c.token.sessionId call.newClientId

end CompleteVerification

/-- The next statement of a call of `completeClientVerification`.  The session is made after the
transaction. -/
def completeStep (call : CompleteVerification) (w : ω) (now : Time)
    (s : VerificationDatabase ω) : CompletePhase → VerificationDatabase ω × CompletePhase
  | .begin =>
    match s.rows.readChallenge (capabilityHash call.token) now with
    | .ok c => (s, .challenged c)
    | .error e => (s.rollback w, .failed e)
  | .challenged c =>
    if s.locks.isFree w [.token c.id] then
      if (s.rows.tokens.lookup c.id).any fun t ↦ t.consumedAt = none ∧ now < t.expiresAt then
        (s.acquire w [.token c.id], .consumed { c with consumedAt := now })
      else (s.rollback w, .failed verificationExpired)
    else (s, .challenged c)
  | .consumed c =>
    if s.locks.isFree w [.email (hashtext (toLowerCase c.token.email))] then
      (s.acquire w [.email (hashtext (toLowerCase c.token.email))], .queued c)
    else (s, .consumed c)
  | .queued c =>
    if s.locks.isFree w [.conversation c.token.sessionId] then
      -- the capability is unique
      if s.rows.conversations.any fun id c' ↦ id ≠ c.token.sessionId ∧
          c'.capabilityHash = capabilityHash call.newCapability then
        (s.rollback w, .failed .uniqueConstraint)
      else (s.acquire w [.conversation c.token.sessionId], .rotated c)
    else (s, .queued c)
  | .rotated c =>
    match s.rows.matchAccount c with
    | .ok (some (userId, clientId)) => (s, .found c userId clientId)
    | .ok none => (s, .vacant c)
    | .error e => (s.rollback w, .failed e)
  | .found c userId clientId => (s, .revoked c userId clientId (s.rows.openSessions userId))
  | .revoked c userId clientId sessions =>
    match call.recoverAccount capabilityHash s.rows c userId clientId sessions now with
    | .ok rows => (s.finish w rows, .committed c userId clientId)
    | .error e => (s.rollback w, .failed e)
  | .vacant c =>
    match call.activateAccount capabilityHash s.rows c now with
    | .ok rows => (s.finish w rows, .committed c call.newUserId call.newClientId)
    | .error e => (s.rollback w, .failed e)
  | .committed c userId clientId =>
    match createSessionForUser P s.rows.accounts userId call.newSessionId now with
    | .ok accounts => ({ s with rows.accounts := accounts }, .answered c userId clientId)
    | .error e => (s, .failed e)
  | phase => (s, phase)

/-! ## All calls -/

inductive VerificationCall where
  | start (call : StartVerification)
  | complete (call : CompleteVerification)

inductive VerificationPhase where
  | start (phase : StartPhase)
  | complete (phase : CompletePhase)

inductive VerificationMove where
  /-- The next statement runs; an e-mail is delivered or not. -/
  | proceed (now : Time) (delivered : Bool := true)
  /-- The database or the server fails. -/
  | fails (failure : Failure)

/-- A call that is not over fails. -/
def VerificationPhase.abandon (failure : Failure) : VerificationPhase → VerificationPhase
  | start .accepted => .start .accepted
  | start (.failed e) => .start (.failed e)
  | start _ => .start (.failed failure)
  | complete (.answered c userId clientId) => .complete (.answered c userId clientId)
  | complete (.failed e) => .complete (.failed e)
  | complete _ => .complete (.failed failure)

def verificationStep (call : ω → VerificationCall) (w : ω) (move : VerificationMove)
    (s : VerificationDatabase ω) (phase : VerificationPhase) :
    VerificationDatabase ω × VerificationPhase :=
  match move, call w, phase with
  | .proceed now delivered, .start call, .start phase =>
    (startStep P capabilityHash call w now delivered s phase).map id .start
  | .proceed now _, .complete call, .complete phase =>
    (completeStep P capabilityHash hashtext call w now s phase).map id .complete
  | .fails failure, _, phase => (s.rollback w, phase.abandon failure)
  | _, _, phase => (s, phase)

/-- Any number of calls. -/
abbrev Verifications (ω : Type) := Processes ω (VerificationDatabase ω) VerificationPhase

/-- A call makes its next step. -/
def verificationsStep (call : ω → VerificationCall) (s : Verifications ω)
    (i : ω × VerificationMove) : Verifications ω :=
  interleave (verificationStep P capabilityHash hashtext call) s i

/-- No link has been sent, and no call has begun. -/
def Verifications.begin (call : ω → VerificationCall) (rows : VerificationRows) :
    Verifications ω where
  store := { rows := { rows with tokens := ∅ } }
  process w := match call w with
    | .start _ => .start .begin
    | .complete _ => .complete .begin

end

end KmtLegal
