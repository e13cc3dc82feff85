import KmtLegal.Assistant.Session
import KmtLegal.Services.ServiceRequest

/-!
# Conversations between clients and the office

`conversation-service.ts`: clients and staff write into threads, and managers assign, close and
reopen them.  A client's message to the office in the middle of a talk with the assistant
(`sendAssistantMessage`) goes into the thread of the session, which gets a transcript of the talk.

Every call is one transaction; it carries its clock and the ids of the rows it may create.
-/

namespace KmtLegal

open Relational Js

/-! ## Threads -/

/-- The status is `CLOSED` or `ARCHIVED`. -/
def ConversationThreadStatus.isClosed (s : ConversationThreadStatus) : Bool :=
  s ∈ [.closed, .archived]

/-- A turn as it is stored. -/
structure StoredTurn extends AssistantTurn where
  id : Uuid
  createdAt : Time
  updatedAt : Time

/-- The database with the turns of the assistant, by their session and message id. -/
structure Inbox where
  db : Database
  turns : Table (Uuid × Uuid) StoredTurn := ∅

/-- `tx.conversationThread.create`. -/
def Database.createThread (db : Database) (id : Uuid) (thread : ConversationThread) :
    Except Failure Database := do
  let conversationThreads ← orThrow (db.conversationThreads.create id thread) .uniqueConstraint
  pure { db with conversationThreads }

/-- `tx.conversationThread.update`. -/
def Database.updateThread (db : Database) (id : Uuid) (f : ConversationThread → ConversationThread) :
    Except Failure Database := do
  throwIf (db.conversationThreads.lookup id).isNone .recordNotFound
  pure { db with conversationThreads := db.conversationThreads.update id f }

/-- `tx.conversationMessage.create`. -/
def Database.createMessage (db : Database) (id : Uuid) (m : ConversationMessage) :
    Except Failure Database := do
  let conversationMessages ← orThrow (db.conversationMessages.create id m) .uniqueConstraint
  pure { db with conversationMessages }

/-- `thread.assistantSession`. -/
def Database.sessionOfThread (db : Database) (threadId : Uuid) : Option (Uuid × AssistantSession) :=
  db.assistantSessions.findFirst fun _ s ↦ s.conversationThreadId = some threadId

/-- The nested update of the session of a thread. -/
def Database.updateSession (db : Database) (found : Option (Uuid × AssistantSession))
    (f : AssistantSession → AssistantSession) : Database :=
  { db with assistantSessions := db.assistantSessions.updateFound found f }

/-! ## Permissions -/

/-- `assertClientPortalAccess(actor)`. -/
def assertClientPortalAccess (actor : Principal) : Except Failure Uuid := do
  throwIf (!hasPermission actor "client.read.self")
    (.permissionDenied "Client portal access is required.")
  orThrow (orNull actor.clientId) (.permissionDenied "Client portal access is required.")

/-- `canUseClientConversations(actor)`. -/
def canUseClientConversations (actor : Principal) : Bool :=
  (orNull actor.clientId).isSome ∧ hasPermission actor "conversation.read.own" ∧
    hasPermission actor "conversation.create.own" ∧ hasPermission actor "conversation.reply.own"

/-- `assertClientConversationAccess(actor)`. -/
def assertClientConversationAccess (actor : Principal) : Except Failure Uuid := do
  let clientId ← assertClientPortalAccess actor
  throwIf (!canUseClientConversations actor)
    (.permissionDenied "Client conversation permission is required.")
  pure clientId

/-- `canManageAdminConversations(actor)`. -/
def canManageAdminConversations (actor : Principal) : Bool :=
  hasPermission actor "conversation.manage.any"

/-- `canReplyAdminConversations(actor)`. -/
def canReplyAdminConversations (actor : Principal) : Bool :=
  hasPermission actor "conversation.reply.any" ∨ hasPermission actor "conversation.manage.any"

/-- `canAssignAdminConversations(actor)`. -/
def canAssignAdminConversations (actor : Principal) : Bool :=
  hasPermission actor "conversation.assign.any" ∨ hasPermission actor "conversation.manage.any"

/-! ## Guards -/

/-- `assertThreadIsReplyable(status)`. -/
def assertThreadIsReplyable (status : ConversationThreadStatus) : Except Failure Unit :=
  throwIf status.isClosed (.conflict "Conversation thread is closed.")

/-- `lockActiveConversationThread(tx, { threadId, clientId })`. -/
def lockActiveConversationThread (db : Database) (threadId : Uuid) (clientId : Option Uuid) :
    Except Failure Unit :=
  throwIf (!(db.conversationThreads.lookup threadId).any fun thread ↦
      (clientId.isSome → thread.clientId = clientId) ∧ !thread.status.isClosed)
    (.conflict "Conversation thread is closed.")

/-! ## Messages -/

/-- The message is written, and the thread waits for the other side. -/
def postMessage (db : Database) (messageId threadId : Uuid) (sender : ConversationSender)
    (actor : Principal) (body : String) (now : Time) : Except Failure Database := do
  let db ← db.createMessage messageId
    { threadId, senderType := sender, senderUserId := some actor.id, body, createdAt := now }
  db.updateThread threadId fun thread ↦
    { thread with
      status := if sender = .client then .waitingStaff else .waitingClient
      lastMessageAt := now
      closedAt := none
      updatedAt := now }

/-- A call that writes a client's message. -/
structure ClientMessage where
  actor : Principal
  /-- Without one a thread is made, or for `createOrContinueClientConversation` found. -/
  threadId : Option String := none
  subject : Option String := none
  message : String
  locale : PublicLocale := .ar
  newThreadId : Uuid
  newMessageId : Uuid
  now : Time

/-- The thread a new message goes to, if there is one: the latest active one. -/
def activeThread (db : Database) (clientId : Uuid) : Option (Uuid × ConversationThread) :=
  (db.conversationThreads.findMany
    (fun _ thread ↦ thread.clientId = some clientId ∧ !thread.status.isClosed)
    (fun a b ↦ b.2.lastMessageAt ≤ a.2.lastMessageAt) 1).head?

def createOrContinueClientConversation (db : Database) (call : ClientMessage) :
    Except Failure Database := do
  let clientId ← assertClientConversationAccess call.actor
  throwIf (db.clients.lookup clientId).isNone (.notFound "Client account was not found.")
  match activeThread db clientId with
  | some (threadId, _) => do
    lockActiveConversationThread db threadId (some clientId)
    postMessage db call.newMessageId threadId .client call.actor call.message call.now
  | none => do
    let db ← db.createThread call.newThreadId
      { clientId := some clientId
        subject := some ((orNull (call.subject.map trim)).getD "Client team conversation")
        status := .open
        lastMessageAt := call.now
        updatedAt := call.now }
    postMessage db call.newMessageId call.newThreadId .client call.actor call.message call.now

/-- The title of the assistant's page. -/
def conversationTitle : PublicLocale → String
  | .ar => "مساعد KMT الذكي"
  | .en => "KMT AI assistant"

/-- The thread a client replies in, which is made if the call names none. -/
def replyThread (db : Database) (call : ClientMessage) (clientId : Uuid) :
    Except Failure (Database × Uuid) :=
  match call.threadId with
  | some threadId => pure (db, threadId)
  | none => do
    let db ← db.createThread call.newThreadId
      { clientId := some clientId
        subject := some (conversationTitle call.locale)
        status := .waitingStaff
        lastMessageAt := call.now
        updatedAt := call.now }
    pure (db, call.newThreadId)

/-- `replyClientConversationInTransaction(tx, { actor, threadId, body, locale })`. -/
def replyClientConversationInTransaction (db : Database) (call : ClientMessage) :
    Except Failure Database := do
  let clientId ← assertClientConversationAccess call.actor
  let (db, threadId) ← replyThread db call clientId
  lockActiveConversationThread db threadId (some clientId)
  postMessage db call.newMessageId threadId .client call.actor call.message call.now

/-- `replyClientConversation({ actor, threadId, body })`. -/
def replyClientConversation (P : Platform) (db : Database) (call : ClientMessage)
    (threadId : String) : Except Failure Database := do
  let clientId ← assertClientConversationAccess call.actor
  let threadId ← P.parseUuid threadId "Conversation thread id is invalid."
  let thread ← orThrow ((db.conversationThreads.lookup threadId).filter fun thread ↦
    thread.clientId = some clientId) (.notFound "Conversation thread was not found.")
  assertThreadIsReplyable thread.status
  replyClientConversationInTransaction db { call with threadId := some threadId }

/-- A call of `replyAdminConversation`. -/
structure StaffMessage where
  actor : Principal
  threadId : String
  message : String
  newMessageId : Uuid
  now : Time

/-- The session of the thread, which was read before the transaction, is in human hands. -/
def replyAdminConversation (P : Platform) (db : Database) (call : StaffMessage) :
    Except Failure Database := do
  throwIf (!canReplyAdminConversations call.actor)
    (.permissionDenied "Conversation reply permission is required.")
  let threadId ← P.parseUuid call.threadId "Conversation thread id is invalid."
  let thread ← orThrow (db.conversationThreads.lookup threadId)
    (.notFound "Conversation thread was not found.")
  assertThreadIsReplyable thread.status
  let session := db.sessionOfThread threadId
  lockActiveConversationThread db threadId none
  let db ← postMessage db call.newMessageId threadId .staff call.actor call.message call.now
  pure (db.updateSession session fun s ↦ { s with humanOwned := true, revision := s.revision + 1 })

/-! ## Management -/

inductive AssistantMode where
  | ai | human
  deriving DecidableEq

/-- A call of `updateAdminConversation`. -/
structure UpdateConversation where
  actor : Principal
  threadId : String
  status : Option ConversationThreadStatus := none
  assistantMode : Option AssistantMode := none
  /-- `some none` takes the assignee away. -/
  assignedToId : Option (Option Uuid) := none
  updatedAt : Time
  now : Time

/-- The columns of the thread that are written. -/
def UpdateConversation.thread (call : UpdateConversation) (thread : ConversationThread) :
    ConversationThread :=
  { thread with
    assignedToId := call.assignedToId.getD thread.assignedToId
    status := call.status.getD thread.status
    closedAt := match call.status with
      | some status => if status.isClosed then some call.now else none
      | none => thread.closedAt
    updatedAt := call.now }

/-- The columns of its session; closing takes precedence. -/
def UpdateConversation.session (call : UpdateConversation) (s : AssistantSession) :
    AssistantSession :=
  if call.status.any ConversationThreadStatus.isClosed then
    { s with humanOwned := true, revision := s.revision + 1 }
  else match call.assistantMode with
    | some mode =>
      { s with humanOwned := mode = .human, handoffRequestedAt := none, revision := s.revision + 1 }
    | none => s

/-- `assignableRoleNames`. -/
def isConversationAssignee (u : User) : Bool :=
  u.status = .active ∧ u.roleName ∈ ["Secretary", "Office Admin", "Super Admin"]

def updateAdminConversation (P : Platform) (db : Database) (call : UpdateConversation) :
    Except Failure Database := do
  let threadId ← P.parseUuid call.threadId "Conversation thread id is invalid."
  let thread ← orThrow (db.conversationThreads.lookup threadId)
    (.notFound "Conversation thread was not found.")
  throwIf (call.assignedToId.isSome ∧ !canAssignAdminConversations call.actor)
    (.permissionDenied "Conversation assignment permission is required.")
  throwIf ((call.status.isSome ∨ call.assistantMode.isSome) ∧ !canManageAdminConversations call.actor)
    (.permissionDenied "Conversation management permission is required.")
  throwIf ((call.assignedToId.bind id).any fun userId ↦
      !(db.users.lookup userId).any isConversationAssignee)
    (.of 400 .badRequest "Selected assignee is not available for client messages.")
  let session := db.sessionOfThread threadId
  throwIf (call.assistantMode.isSome ∧ session.isNone)
    (.of 400 .badRequest "This conversation has no AI session.")
  throwIf (thread.updatedAt ≠ call.updatedAt)
    (.conflict "Conversation changed after the management form was loaded.")
  let db ← db.updateThread threadId call.thread
  pure (db.updateSession session call.session)

/-! ## Messages out of a talk with the assistant -/

/-- `transcriptId(turnId, side)`. -/
def transcriptId (P : Platform) (turnId side : String) : Uuid :=
  let hex := (P.sha256 ("kmt-transcript:" ++ turnId ++ ":" ++ side)).toList
  String.ofList (hex.take 8 ++ '-' :: (hex.drop 8).take 4 ++ '-' :: '4' :: (hex.drop 13).take 3 ++
    '-' :: 'a' :: (hex.drop 17).take 3 ++ '-' :: (hex.drop 20).take 12)

def TurnRecipient.text : TurnRecipient → String
  | .assistant => "ASSISTANT"
  | .office => "OFFICE"

/-- The messages of a turn in a transcript. -/
def StoredTurn.transcript (P : Platform) (threadId : Uuid) (t : StoredTurn) :
    List (Uuid × ConversationMessage) :=
  (transcriptId P t.id "user",
    { threadId, senderType := .client, recipient := some t.recipient.text, body := t.userText
      createdAt := t.createdAt }) ::
  match t.assistantText with
  | some text => if text = "" then [] else
      [(transcriptId P t.id "assistant",
        { threadId, senderType := .system, body := text, createdAt := t.updatedAt })]
  | none => []

/-- `createMany({ skipDuplicates: true })`. -/
def Database.createMessages (db : Database) (l : List (Uuid × ConversationMessage)) : Database :=
  { db with conversationMessages := l.foldl (fun t e ↦ if (t.lookup e.1).isSome then t
      else t.insert e.1 e.2) db.conversationMessages }

/-- `syncAssistantTranscript(tx, sessionId, threadId)`. -/
def syncAssistantTranscript (P : Platform) (s : Inbox) (sessionId threadId : Uuid) : Inbox :=
  let turns := s.turns.findMany (fun k t ↦ k.1 = sessionId ∧ t.isFinished)
    (fun a b ↦ a.2.createdAt ≤ b.2.createdAt) 100
  { s with db := s.db.createMessages (turns.flatMap fun e ↦ e.2.transcript P threadId) }

/-- `ensureAssistantHandoff(tx, sessionId)`. -/
def ensureAssistantHandoff (P : Platform) (s : Inbox) (sessionId newThreadId : Uuid) (now : Time) :
    Except Failure (Inbox × Uuid) := do
  let session ← orThrow (s.db.assistantSessions.lookup sessionId) .recordNotFound
  match session.conversationThreadId with
  | some threadId => pure (syncAssistantTranscript P s sessionId threadId, threadId)
  | none => do
    let db ← s.db.createThread newThreadId
      { clientId := session.clientId
        subject := some (conversationTitle (PublicLocale.ofText session.locale))
        status := .waitingStaff, lastMessageAt := now, updatedAt := now }
    let db := { db with
      assistantSessions := db.assistantSessions.update sessionId fun session ↦
        { session with conversationThreadId := some newThreadId } }
    pure (syncAssistantTranscript P { s with db } sessionId newThreadId, newThreadId)

/-- The transaction of `sendAssistantMessage` for a message to the office. -/
structure OfficeMessage where
  sessionId : Uuid
  messageId : Uuid
  lease : Uuid
  actorClientId : Option Uuid := none
  clock : TurnClock
  newThreadId : Uuid

/-- The thread of the session is not closed. -/
def assertOfficeThreadOpen (db : Database) (session : AssistantSession) : Except Failure Unit :=
  match session.conversationThreadId with
  | some threadId => do
    let thread ← orThrow (db.conversationThreads.lookup threadId) .recordNotFound
    throwIf thread.status.isClosed (.conflict "This conversation is closed.")
  | none => pure ()

def sendOfficeMessage (P : Platform) (s : Inbox) (call : OfficeMessage) : Except Failure Inbox := do
  let fresh ← orThrow (s.db.assistantSessions.lookup call.sessionId) .recordNotFound
  throwIf (!fresh.admits call.actorClientId call.clock.now)
    (.of 401 .authRequired "Authentication required.")
  throwIf (!fresh.holds call.lease call.clock.leaseNow) (.conflict "Conversation ownership changed.")
  assertOfficeThreadOpen s.db fresh
  throwIf (s.turns.lookup (call.sessionId, call.messageId)).isNone .recordNotFound
  let s := { s with
    turns := s.turns.update (call.sessionId, call.messageId) fun t ↦
      { t with status := .human, updatedAt := call.clock.later } }
  let (s, threadId) ← ensureAssistantHandoff P s call.sessionId call.newThreadId call.clock.later
  let db ← s.db.updateThread threadId fun thread ↦
    { thread with
      status := .waitingStaff, lastMessageAt := call.clock.later, updatedAt := call.clock.later }
  pure { s with
    db := { db with
      assistantSessions := db.assistantSessions.update call.sessionId fun session ↦
        { session with
          handoffRequestedAt := some (fresh.handoffRequestedAt.getD call.clock.later)
          revision := session.revision + 1 } } }

end KmtLegal
