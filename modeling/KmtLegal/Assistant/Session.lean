import KmtLegal.Database
import KmtLegal.Relational.Interleaving

/-!
# Conversations with the assistant

`sendAssistantMessage` of `conversation-session-service.ts`, statement by statement.  A worker
reads the conversation, recovers an expired lease, acquires a lease of its own and answers the
message in a turn; between any two statements other workers may run and the lease may expire.  Each
statement reads the clock for itself.

What the assistant, its tools and the provider do between the statements is left to the worker: it
may check its ownership, link the client, answer, or fail at any point.
-/

namespace KmtLegal

open Relational

/-! ## Turns -/

inductive TurnRecipient where
  | assistant | office
  deriving DecidableEq

inductive TurnStatus where
  | pending | completed | human | failed
  deriving DecidableEq

/-- A message and its answer. -/
structure AssistantTurn where
  userText : String
  recipient : TurnRecipient := .assistant
  protocol : Js.Json := .arr []
  assistantText : Option String := none
  status : TurnStatus := .pending
  errorCode : Option String := none

/-- The turn is `COMPLETED` or `HUMAN`. -/
def AssistantTurn.isFinished (t : AssistantTurn) : Bool := t.status ∈ [.completed, .human]

/-- A session with its turns, by their message ids. -/
structure Conversation where
  session : AssistantSession
  turns : Table Uuid AssistantTurn := ∅

/-! ## Calls -/

/-- A call of `sendAssistantMessage`. -/
structure SendMessage where
  messageId : Uuid
  message : String
  locale : String := "ar"
  recipient : TurnRecipient := .assistant
  actorClientId : Option Uuid := none

/-- What `finalize` writes. -/
structure Answer where
  text : String
  protocol : Js.Json := .arr []
  locale : String := "ar"
  bookingConsent : Bool := false
  draft : Option IntakeDraft := none

/-- The readings of the clock for one statement, in the order they are taken. -/
structure TurnClock where
  now : Time
  leaseNow : Time
  later : Time
  deriving DecidableEq

/-- Where the conversation is read for the answer to the client. -/
inductive Report where
  /-- The turn was finished before a lease was asked for. -/
  | early
  /-- The turn was finished when the lease was acquired. -/
  | replayed
  | answered
  | handedOver
  /-- An error was caught, and the turn is in human hands. -/
  | settled
  deriving DecidableEq

/-- What an ownership read is for. -/
inductive Purpose where
  | begin
  /-- `assertActive`, before an answer is written if there is one. -/
  | check (answer : Option Answer)
  /-- The tool `own_request_status`, which does not ask for the lease. -/
  | look
  /-- `readAssistantSession`. -/
  | report (report : Report)

/-- The statement a worker comes to next. -/
inductive Phase where
  /-- `ownAssistantSession`: the read. -/
  | own (purpose : Purpose)
  /-- `ownAssistantSession`: the transaction that recovers an expired lease. -/
  | recover (purpose : Purpose) (seen : AssistantSession)
  /-- `ownAssistantSession`: the read after it. -/
  | reread (purpose : Purpose)
  | previous (seen : AssistantSession)
  /-- `known`: there was a turn with the message id. -/
  | acquire (seen : AssistantSession) (known : Bool)
  | replay (known : Bool)
  | count (known : Bool)
  | upsert
  | handOver
  | answering
  | finalize (answer : Answer)
  | failing (code : String)
  | marking (code : String)
  | releasing
  | finished

/-- What a worker does next. -/
inductive Move where
  /-- The statement runs. -/
  | proceed (clock : TurnClock)
  /-- Something throws before it does: `code` is that of the `ApiError`, or
  `AI_PROVIDER_UNAVAILABLE`.  While an answer is worked on a handler may catch it and answer
  otherwise. -/
  | throws (code : String) (caught : Bool)
  /-- `assertActive`. -/
  | checks
  /-- `own_request_status`. -/
  | looks
  /-- The transaction of `assertPrivate`. -/
  | links (now : Time)
  | answers (answer : Answer)
  /-- The `finally` block, while the conversation is still being read. -/
  | releases

/-! ## Ownership -/

namespace AssistantSession

variable (s : AssistantSession)

/-- The session is neither over nor somebody else's. -/
def admits (actorClientId : Option Uuid) (now : Time) : Bool :=
  now < s.expiresAt ∧ (s.clientId.isSome → s.clientId = actorClientId)

/-- `leaseExpiresAt` is not set, or reached. -/
def leaseExpired (now : Time) : Bool := s.leaseExpiresAt.all (· ≤ now)

/-- The session carries the lease, and it has not expired. -/
def holds (lease : Uuid) (now : Time) : Bool :=
  s.leaseId = some lease ∧ s.leaseExpiresAt.any (now < ·)

end AssistantSession

/-! ## Statements -/

namespace Conversation

variable (c : Conversation)

/-- The recovery: the lease that was seen is released if it is still there and expired, and the
replies it leaves behind have failed. -/
def recoverLease (seen : AssistantSession) (now : Time) : Conversation :=
  if c.session.leaseId = seen.leaseId ∧ c.session.clientId = seen.clientId ∧
      c.session.leaseExpired now then
    { session := { c.session with
        leaseId := none
        leaseExpiresAt := none
        revision := c.session.revision + 1 }
      turns := c.turns.updateMany (fun _ t ↦ t.status = .pending) fun t ↦
        { t with status := .failed, errorCode := some "AI_PROVIDER_TIMEOUT" } }
  else c

/-- The acquisition of a lease for 90 seconds, if the session was not changed and is free. -/
def acquireLease (lease : Uuid) (seen : AssistantSession) (locale : String) (clock : TurnClock) :
    Option Conversation :=
  if c.session.revision = seen.revision ∧
      (c.session.leaseId = none ∨ c.session.leaseExpiresAt.any (· < clock.now)) then
    some { c with
      session := { c.session with
        leaseId := some lease
        leaseExpiresAt := some (clock.later + 90000)
        locale } }
  else none

/-- `tx.assistantTurn.upsert`: a stored turn is pending again. -/
def upsertTurn (call : SendMessage) : Conversation :=
  { c with
    turns :=
      if (c.turns.lookup call.messageId).isSome then
        c.turns.update call.messageId fun t ↦ { t with status := .pending, errorCode := none }
      else c.turns.insert call.messageId { userText := call.message, recipient := call.recipient } }

/-- The transaction for a message to the office. -/
def handOver (lease : Uuid) (call : SendMessage) (clock : TurnClock) :
    Except ApiErrorCode Conversation :=
  if ¬c.session.admits call.actorClientId clock.now then .error .authRequired
  else if ¬c.session.holds lease clock.leaseNow then .error .conflict
  else .ok
    { session := { c.session with
        handoffRequestedAt := c.session.handoffRequestedAt.or (some clock.later)
        revision := c.session.revision + 1 }
      turns := c.turns.update call.messageId fun t ↦ { t with status := .human } }

/-- The transaction of `finalize`. -/
def finalize (lease : Uuid) (call : SendMessage) (answer : Answer) (now : Time) :
    Except ApiErrorCode Conversation :=
  if ¬c.session.holds lease now then .error .conflict
  else .ok
    { session := { c.session with
        revision := c.session.revision + 1
        locale := answer.locale
        bookingConsent := answer.bookingConsent
        draft := answer.draft.getD c.session.draft }
      turns := c.turns.update call.messageId fun t ↦
        { t with
          assistantText := some answer.text
          protocol := answer.protocol
          status := .completed } }

/-- The transaction of `assertPrivate`: a guest's session becomes the client's. -/
def linkClient (lease : Uuid) (call : SendMessage) (now : Time) :
    Except ApiErrorCode Conversation :=
  if call.actorClientId = none then .error .authRequired
  else if c.session.clientId = call.actorClientId then .ok c
  else if c.session.clientId = none ∧ c.session.holds lease now then
    .ok { c with session := { c.session with clientId := call.actorClientId } }
  else .error .authRequired

/-- The failure marking: only of a pending turn, and under the lease. -/
def markFailed (lease : Uuid) (call : SendMessage) (code : String) : Conversation :=
  if c.session.leaseId = some lease then
    { c with
      turns := c.turns.updateMany (fun id t ↦ id = call.messageId ∧ t.status = .pending) fun t ↦
        { t with status := .failed, errorCode := some code } }
  else c

/-- The release in the `finally` block. -/
def releaseLease (lease : Uuid) : Conversation :=
  if c.session.leaseId = some lease then
    { c with session := { c.session with leaseId := none, leaseExpiresAt := none } }
  else c

end Conversation

/-! ## The course of a call -/

/-- The read is returned without `await`: the `finally` block does not wait for it, and the
handlers do not see its errors. -/
def Report.isReturned : Report → Bool
  | replayed | handedOver | settled => true
  | early | answered => false

def Report.thrown (code : String) (caught : Bool) : Report → Phase
  | early => .finished
  | replayed | handedOver | settled => .releasing
  -- the handler around an answer does not know that it was committed
  | answered => if caught then .answering else .failing code

def Report.done : Report → Phase
  | early => .finished
  | replayed | answered | handedOver | settled => .releasing

/-- The ownership read throws. -/
def Purpose.thrown (code : String) (caught : Bool) : Purpose → Phase
  | begin => .finished
  | check _ | look => if caught then .answering else .failing code
  | report r => r.thrown code caught

/-- The ownership read returns the session `s`. -/
def Purpose.resume (lease : Uuid) (s : AssistantSession) (now : Time) : Purpose → Phase
  | begin => .previous s
  | check answer =>
    if s.holds lease now then
      match answer with
      | none => .answering
      | some answer => .finalize answer
    else .failing ApiErrorCode.conflict.text
  | look => .answering
  | report r => r.done

/-- Something throws. -/
def Phase.thrown (code : String) (caught : Bool) : Phase → Phase
  | own purpose | recover purpose _ | reread purpose => purpose.thrown code caught
  | previous _ | acquire _ _ => .finished
  | replay _ | count _ | upsert | handOver => .failing code
  | answering | finalize _ => if caught then .answering else .failing code
  | failing _ | marking _ => .releasing
  | releasing | finished => .finished

/-- The `finally` block may run before the read is over. -/
def Phase.isReturned : Phase → Bool
  | own (.report r) | recover (.report r) _ | reread (.report r) => r.isReturned
  | _ => false

/-- The message id was used before for another message. -/
def AssistantTurn.differs (t : AssistantTurn) (call : SendMessage) : Bool :=
  t.userText ≠ call.message ∨ t.recipient ≠ call.recipient

/-- The statement at a phase runs. -/
def Phase.proceed (lease : Uuid) (call : SendMessage) (clock : TurnClock) (c : Conversation) :
    Phase → Conversation × Phase
  | own purpose =>
    (c, if ¬c.session.admits call.actorClientId clock.now then
        purpose.thrown ApiErrorCode.authRequired.text false
      else if c.session.leaseId.isSome ∧ c.session.leaseExpired clock.leaseNow then
        .recover purpose c.session
      else purpose.resume lease c.session clock.later)
  | recover purpose seen => (c.recoverLease seen clock.now, .reread purpose)
  | reread purpose =>
    (c, if ¬c.session.admits call.actorClientId clock.now then
        purpose.thrown ApiErrorCode.authRequired.text false
      else purpose.resume lease c.session clock.later)
  | previous seen =>
    (c, match c.turns.lookup call.messageId with
      | none => .acquire seen false
      | some t =>
        if t.differs call then .finished
        else if t.isFinished then .own (.report .early)
        else .acquire seen true)
  | acquire seen known =>
    match c.acquireLease lease seen call.locale clock with
    | some c => (c, .replay known)
    | none => (c, .finished)
  | replay known =>
    (c, match c.turns.lookup call.messageId with
      | none => .count known
      | some t =>
        if t.differs call then .failing ApiErrorCode.conflict.text
        else if t.isFinished then .own (.report .replayed)
        else .count known)
  | count known =>
    (c, if ¬known ∧ 60 ≤ c.turns.entries.length then
        .failing ApiErrorCode.conversationLimitReached.text
      else .upsert)
  | upsert =>
    (c.upsertTurn call, match call.recipient with
      | .office => .handOver
      | .assistant => .answering)
  | handOver =>
    match c.handOver lease call clock with
    | .ok c => (c, .own (.report .handedOver))
    | .error code => (c, .failing code.text)
  | answering => (c, .answering)
  | finalize answer =>
    match c.finalize lease call answer clock.now with
    | .ok c => (c, .own (.report .answered))
    | .error code => (c, .failing code.text)
  | failing code =>
    (c, if (c.turns.lookup call.messageId).any (·.status = .human) then .own (.report .settled)
      else .marking code)
  | marking code => (c.markFailed lease call code, .releasing)
  | releasing => (c.releaseLease lease, .finished)
  | finished => (c, .finished)

/-- One step of `sendAssistantMessage`, for the worker with the lease id `lease`. -/
def sendAssistantMessage (lease : Uuid) (call : SendMessage) (move : Move) (c : Conversation)
    (phase : Phase) : Conversation × Phase :=
  match move, phase with
  | .proceed clock, phase => phase.proceed lease call clock c
  | .throws code caught, phase => (c, phase.thrown code caught)
  | .checks, .answering => (c, .own (.check none))
  | .looks, .answering => (c, .own .look)
  | .answers answer, .answering => (c, .own (.check (some answer)))
  | .links now, .answering =>
    match c.linkClient lease call now with
    | .ok c => (c, .answering)
    | .error code => (c, .failing code.text)
  | .releases, phase => (if phase.isReturned then c.releaseLease lease else c, phase)
  | _, phase => (c, phase)

/-- Any number of workers on one conversation. -/
abbrev Workers (ω : Type) := Processes ω Conversation Phase

/-- One worker makes a step. -/
def workersStep {ω : Type} [DecidableEq ω] (lease : ω → Uuid) (call : ω → SendMessage)
    (s : Workers ω) (i : ω × Move) : Workers ω :=
  interleave (fun w ↦ sendAssistantMessage (lease w) (call w)) s i

end KmtLegal
