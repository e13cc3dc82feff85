import KmtLegal.Auth.Policy
import KmtLegal.Payments.Expiry

/-!
# Webhook deliveries

`handlePaymentWebhook` and `replayAdminPaymentWebhookEvent`: from the raw request to the
transaction of `applyWebhookPaymentState`, with the events that are stored on the way.  Unlike the
transaction, a delivery is several writes, so a handler returns the database it leaves together
with its answer, which may be an error.
-/

namespace KmtLegal

open Relational Js

/-! ## Reading a delivery -/

/-- `parseWebhookJson(rawBody)`. -/
def parseWebhookJson (P : Platform) (rawBody : String) : Except Failure Json := do
  let parsed ← orThrow (P.parseJson (orElse rawBody "{}"))
    (.validation "Payment webhook payload is invalid JSON.")
  match parsed with
  | .obj fields => return .obj fields
  | .arr items => return .arr items
  | _ => .error (.validation "Payment webhook payload is invalid.")

/-- What `handlePaymentWebhook` knows before it touches the database. -/
structure ReadWebhook where
  body : Json
  rawPayloadHash : String
  payloadHash : String
  eventId : String
  verified : Bool

/-- The first half of `handlePaymentWebhook`. -/
def readWebhook (P : Platform) (request : WebhookRequest) : Except Failure ReadWebhook := do
  let rawPayloadHash := P.sha256 request.rawBody
  let body ← parseWebhookJson P request.rawBody
  let payloadHash ← match request.provider with
    | .paymob => paymobWebhookFingerprint P body
    | .paytabs => .ok rawPayloadHash
  let eventId ← providerWebhookEventId P body request.provider payloadHash
  let signature ← webhookSignature request body
  let verified ← verifyWebhookSignature P request.provider request.rawBody signature
    (paymentWebhookSecret P request.provider) body
  return { body, rawPayloadHash, payloadHash, eventId, verified }

/-! ## Events -/

/-- `isPaymentUuid(attemptId) ? attemptId : null`. -/
def eventAttemptId (P : Platform) (attemptId : Option String) : Option Uuid :=
  attemptId.filter P.isUuid

/-- `upsertWebhookEvent(input)`: an event that is stored already is left as it is. -/
def upsertWebhookEvent (db : Database) (key : String × String) (event : PaymentWebhookEvent) :
    Except Failure (Database × PaymentWebhookEvent) :=
  match db.paymentWebhookEvents.lookup key with
  | some existing => .ok (db, existing)
  | none => do
    throwIf (∃ id ∈ event.attemptId, (db.paymentAttempts.lookup id).isNone) .foreignKeyConstraint
    return ({ db with paymentWebhookEvents := db.paymentWebhookEvents.insert key event }, event)

/-- The event that keeps the trace of a delivery nobody signed. -/
def invalidEventKey (P : Platform) (request : WebhookRequest) : String × String :=
  (request.provider.text, "invalid:" ++ P.sha256 request.rawBody)

/-- A payload as the event stores it. -/
def storedNormalizedPayload (p : NormalizedWebhookPayload) : Json :=
  .obj ([("provider", .str p.provider.text), ("attemptId", .str p.attemptId),
    ("providerTransactionId", match p.providerTransactionId with
      | some id => .str id
      | none => .null)] ++
    (match p.providerOrderId with
      | some id => [("providerOrderId", Json.str id)]
      | none => []) ++
    [("rawStatus", .str p.rawStatus), ("status", .str p.status.text), ("amount", .str p.amount),
      ("currency", .str p.currency)])

/-- `typeof value === "string" ? value : fallback`. -/
def stringOr (fallback : String) : Option Json → String
  | some (.str s) => s
  | _ => fallback

/-- `typeof value === "string" ? value : null`. -/
def stringOrNull : Option Json → Option String
  | some (.str s) => some s
  | _ => none

/-- `parseStoredNormalizedPayload(value)`. -/
def parseStoredNormalizedPayload (value : Option Json) : Option NormalizedWebhookPayload := do
  let fields ← value.bind Json.asObject
  let field (key : String) := Json.field fields key
  let status := stringOr "" (field "status")
  let attemptId := stringOr "" (field "attemptId")
  if attemptId = "" ∨ status = "" then none
  else some {
    provider := if stringOr "" (field "provider") = "paymob" then .paymob else .paytabs
    attemptId
    providerTransactionId := stringOrNull (field "providerTransactionId")
    providerOrderId := stringOrNull (field "providerOrderId")
    rawStatus := stringOr "" (field "rawStatus")
    status := mapProviderPaymentStatus status
    amount := stringOr "" (field "amount")
    currency := stringOr "EGP" (field "currency") }

/-- A stored payload is read back as it was. -/
theorem parseStoredNormalizedPayload_stored {p : NormalizedWebhookPayload} (h : p.attemptId ≠ "") :
    parseStoredNormalizedPayload (some (storedNormalizedPayload p)) = some p := by
  obtain ⟨provider, attemptId, transactionId, orderId, rawStatus, status, amount, currency⟩ := p
  have hstatus : status.text ≠ "" := by cases status <;> decide
  cases transactionId <;> cases orderId <;> cases provider <;>
    simp_all [parseStoredNormalizedPayload, storedNormalizedPayload, Json.asObject, Json.field,
      stringOr, stringOrNull, List.lookup, PaymentProviderName.text]

/-! ## Deliveries -/

/-- A delivery with the clock and the ids of its processing. -/
structure WebhookDelivery where
  request : WebhookRequest
  clock : WebhookClock
  /-- `processedAt` of an event whose processing failed. -/
  failedAt : Time
  fresh : FreshIds

/-- The answer to an accepted delivery. -/
structure WebhookAccepted where
  event : String × String
  idempotent : Bool
  deriving DecidableEq

/-- `paymentWebhookProcessingErrorCode(error)`. -/
def paymentWebhookProcessingErrorCode : Failure → String
  | .api error =>
    orElse (toUpperCase ((error.details.head?.bind ApiErrorDetail.code).getD "")) error.code.text
  | _ => "WEBHOOK_PROCESSING_FAILED"

/-- The attempt a signed order is bound to. -/
def boundAttempt (db : Database) (provider : PaymentProviderName) (payload : NormalizedWebhookPayload) :
    Option (Uuid × PaymentAttempt) :=
  match payload.providerOrderId with
  | none => none
  | some orderId =>
    if orderId = "" then none
    else db.paymentAttempts.findFirst fun _ a ↦
      a.provider = provider.text ∧ a.providerOrderId = some orderId

/-- A Paymob payload is about the attempt its order is bound to, and must not claim another. -/
def bindOrder (db : Database) (provider : PaymentProviderName) (payload : NormalizedWebhookPayload) :
    Except Failure NormalizedWebhookPayload :=
  match provider with
  | .paytabs => .ok payload
  | .paymob =>
    match boundAttempt db provider payload with
    | none => .error (.conflict orderMismatch)
    | some (id, _) =>
      if payload.attemptId ≠ "" ∧ payload.attemptId ≠ id then .error (.conflict orderMismatch)
      else .ok { payload with attemptId := id }

def payloadMismatch : String := "Payment webhook event payload does not match the original event."

/-- The event row of a verified delivery. -/
def verifiedEvent (P : Platform) (read : ReadWebhook) (payload : NormalizedWebhookPayload) :
    PaymentWebhookEvent where
  attemptId := eventAttemptId P (some payload.attemptId)
  signatureStatus := .verified
  processingStatus := .pending
  payloadHash := read.payloadHash
  normalizedPayload := some (storedNormalizedPayload payload)

/-- What a handler has decided before the payment transaction: it is done, or `w` is applied. -/
inductive WebhookPlan (α : Type) where
  | done (db : Database) (answer : Except Failure α)
  | apply (db : Database) (w : WebhookApplication)

/-- Stores the event of a verified delivery, whose payload is then applied. -/
def planVerifiedEvent (P : Platform) (db : Database) (delivery : WebhookDelivery)
    (read : ReadWebhook) (payload : NormalizedWebhookPayload) : WebhookPlan WebhookAccepted :=
  let key := (delivery.request.provider.text, read.eventId)
  match upsertWebhookEvent db key (verifiedEvent P read payload) with
  | .error e => .done db (.error e)
  | .ok (db, event) =>
    if event.payloadHash ≠ read.payloadHash then .done db (.error (.conflict payloadMismatch))
    else .apply db ⟨key, delivery.request.provider, payload, delivery.clock, delivery.fresh⟩

/-- `handlePaymentWebhook` after the signature has verified, up to the payment transaction. -/
def planVerifiedWebhook (P : Platform) (db : Database) (delivery : WebhookDelivery)
    (read : ReadWebhook) : WebhookPlan WebhookAccepted :=
  let provider := delivery.request.provider
  match normalizeProviderWebhookPayload P read.body provider >>= bindOrder db provider with
  | .error e => .done db (.error e)
  | .ok payload =>
    match db.paymentWebhookEvents.lookup (provider.text, read.eventId) with
    | none => planVerifiedEvent P db delivery read payload
    | some existing =>
      if existing.payloadHash ≠ read.payloadHash then
        .done db (.error (.conflict payloadMismatch
          [{ path := some "eventId"
             message := "Duplicate payment webhook event has a different payload."
             code := some "webhook_payload_hash_mismatch" }]))
      else if existing.processingStatus = .processed then
        .done db (.ok ⟨(provider.text, read.eventId), true⟩)
      else planVerifiedEvent P db delivery read payload

/-- The event row of a delivery that is not verified. -/
def invalidEvent (read : ReadWebhook) : PaymentWebhookEvent where
  signatureStatus := .invalid
  processingStatus := .failed
  payloadHash := read.rawPayloadHash
  errorCode := some "INVALID_SIGNATURE"

/-- `handlePaymentWebhook` up to the payment transaction. -/
def planWebhook (P : Platform) (db : Database) (delivery : WebhookDelivery) :
    WebhookPlan WebhookAccepted :=
  match readWebhook P delivery.request with
  | .error e => .done db (.error e)
  | .ok read =>
    if read.verified then planVerifiedWebhook P db delivery read
    else
      -- never stored under the event id of the body, which a genuine delivery may still bring
      match upsertWebhookEvent db (invalidEventKey P delivery.request) (invalidEvent read) with
      | .error e => .done db (.error e)
      | .ok (db, _) =>
        .done db (.error (.validation "Payment webhook signature is invalid."
          [{ path := some "signature", message := "Invalid webhook signature."
             code := some "invalid_signature" }]))

/-- `handlePaymentWebhook({ request, rawBody, provider })`: a payment transaction that fails is
recorded in the event. -/
def handlePaymentWebhook (P : Platform) (db : Database) (delivery : WebhookDelivery) :
    Database × Except Failure WebhookAccepted :=
  match planWebhook P db delivery with
  | .done db answer => (db, answer)
  | .apply db w =>
    match applyWebhookPaymentState P db w with
    | .ok db => (db, .ok ⟨w.event, false⟩)
    | .error e =>
      (db.updateEvent w.event fun event ↦
        { event with
          processingStatus := .failed
          errorCode := some (paymentWebhookProcessingErrorCode e)
          processedAt := some delivery.failedAt }, .error e)

/-- The signature of a request verifies. -/
def Verifies (P : Platform) (request : WebhookRequest) : Prop :=
  ∃ read, readWebhook P request = .ok read ∧ read.verified

/-! ## Replays -/

/-- A replay by an administrator. -/
structure WebhookReplay where
  actor : Principal
  event : String × String
  clock : WebhookClock
  fresh : FreshIds

/-- The provider an event is replayed for. -/
def replayProvider (event : String × String) : PaymentProviderName :=
  if event.1 = "paymob" then .paymob else .paytabs

/-- `replayAdminPaymentWebhookEvent` up to the payment transaction. -/
def planReplay (db : Database) (replay : WebhookReplay) :
    WebhookPlan (String × String) :=
  if ¬hasPermission replay.actor "finance.manage.any" then
    .done db (.error (.permissionDenied "Finance management permission is required."))
  else
    match db.paymentWebhookEvents.lookup replay.event with
    | none => .done db (.error (.notFound "Payment webhook event was not found."))
    | some event =>
      if event.attemptId = none then
        .done db (.error (.conflict "Webhook event is not linked to a payment attempt."))
      else if event.signatureStatus ≠ .verified then
        .done db (.error (.conflict "Payment webhook signature is invalid."))
      else
        let db := db.updateEvent replay.event fun event ↦
          { event with
            replayCount := event.replayCount + 1
            processingStatus := .pending
            errorCode := none }
        match parseStoredNormalizedPayload event.normalizedPayload with
        | none => .done db (.ok replay.event)
        | some payload =>
          .apply db
            ⟨replay.event, replayProvider replay.event, payload, replay.clock, replay.fresh⟩

/-- `replayAdminPaymentWebhookEvent({ actor, eventId })`. -/
def replayAdminPaymentWebhookEvent (P : Platform) (db : Database) (replay : WebhookReplay) :
    Database × Except Failure (String × String) :=
  match planReplay db replay with
  | .done db answer => (db, answer)
  | .apply db w =>
    match applyWebhookPaymentState P db w with
    | .ok db => (db, .ok w.event)
    | .error e => (db, .error e)

/-! ## Requests -/

/-- What drives the payment tables. -/
inductive PaymentRequest where
  | webhook (delivery : WebhookDelivery)
  | replay (replay : WebhookReplay)
  | expire (now : Time) (attemptId : Option Uuid) (limit : Option ℕ)

inductive PaymentResponse where
  | webhook (answer : Except Failure WebhookAccepted)
  | replay (answer : Except Failure (String × String))
  | expired (count : ℕ)

/-- Serves one request. -/
def servePayment (P : Platform) (db : Database) : PaymentRequest → Database × PaymentResponse
  | .webhook delivery =>
    let (db, answer) := handlePaymentWebhook P db delivery
    (db, .webhook answer)
  | .replay replay =>
    let (db, answer) := replayAdminPaymentWebhookEvent P db replay
    (db, .replay answer)
  | .expire now attemptId limit =>
    let (db, count) := expireOpenConsultationPaymentAttempts db now attemptId limit
    (db, .expired count)

/-- The database after one request. -/
def paymentStep (P : Platform) (db : Database) (request : PaymentRequest) : Database :=
  (servePayment P db request).1

/-! ## What a request comes to

Besides the events, which only decide what is applied, a request changes the database by at most
one payment transaction or one expiry batch. -/

def Database.setEvents (db : Database) (events : Table (String × String) PaymentWebhookEvent) :
    Database :=
  { db with paymentWebhookEvents := events }

/-- The payment transaction a request leads to, with the database it runs on. -/
def appliedWebhook (P : Platform) (db : Database) :
    PaymentRequest → Option (Database × WebhookApplication)
  | .webhook delivery =>
    match planWebhook P db delivery with
    | .apply db w => some (db, w)
    | .done _ _ => none
  | .replay replay =>
    match planReplay db replay with
    | .apply db w => some (db, w)
    | .done _ _ => none
  | .expire _ _ _ => none

/-- What a request does to the database. -/
inductive PaymentOutcome (P : Platform) (db : Database) (request : PaymentRequest) : Database → Prop
  | events (events : Table (String × String) PaymentWebhookEvent)
      (hrejected : ∀ db₀ w db₁, appliedWebhook P db request = some (db₀, w) →
        applyWebhookPaymentState P db₀ w ≠ .ok db₁) :
      PaymentOutcome P db request (db.setEvents events)
  | applied (events : Table (String × String) PaymentWebhookEvent) (w : WebhookApplication)
      (db₁ : Database) (happlied : appliedWebhook P db request = some (db.setEvents events, w))
      (hok : applyWebhookPaymentState P (db.setEvents events) w = .ok db₁) :
      PaymentOutcome P db request db₁
  | expired (now : Time) (attemptId : Option Uuid) (limit : Option ℕ)
      (hrequest : request = .expire now attemptId limit) (batch : List ExpiryCandidate)
      (hbatch : batch = expiryCandidates db now attemptId (min (max (limit.getD 100) 1) 500)) :
      PaymentOutcome P db request (expireBatch db now batch)

/-- The database a plan has come to. -/
def WebhookPlan.database {α : Type} : WebhookPlan α → Database
  | .done db _ => db
  | .apply db _ => db

/-- The two rows a delivery may leave before the payment transaction. -/
inductive DeliveredEvent (P : Platform) : PaymentWebhookEvent → Prop
  | invalid (read : ReadWebhook) : DeliveredEvent P (invalidEvent read)
  | verified (read : ReadWebhook) (payload : NormalizedWebhookPayload) :
      DeliveredEvent P (verifiedEvent P read payload)

/-- An event is stored already, or a new row is added whose attempt exists. -/
theorem upsertWebhookEvent_eq_ok {db db' : Database} {key : String × String}
    {row row' : PaymentWebhookEvent} :
    upsertWebhookEvent db key row = .ok (db', row') ↔
      (db' = db ∧ db.paymentWebhookEvents.lookup key = some row') ∨
      (db.paymentWebhookEvents.lookup key = none ∧ row' = row ∧
        (∀ id ∈ row.attemptId, (db.paymentAttempts.lookup id).isSome) ∧
        db' = { db with paymentWebhookEvents := db.paymentWebhookEvents.insert key row }) := by
  unfold upsertWebhookEvent
  cases hlookup : db.paymentWebhookEvents.lookup key with
  | some existing =>
    simp only [Except.ok.injEq, Prod.mk.injEq, Option.some.injEq, reduceCtorEq, false_and, or_false]
    exact and_congr_left' eq_comm
  | none =>
    simp only [bind_eq_ok, throwIf_eq_ok, pure_eq_ok, Prod.mk.injEq, reduceCtorEq, and_false,
      false_or, true_and, not_exists, not_and, Bool.not_eq_true, Option.isNone_eq_false_iff]
    constructor
    · rintro ⟨_, hattempt, rfl, rfl⟩
      exact ⟨rfl, hattempt, rfl⟩
    · rintro ⟨rfl, hattempt, rfl⟩
      exact ⟨(), hattempt, rfl, rfl⟩

/-- Before the payment transaction a delivery writes one event at most. -/
theorem planWebhook_database (P : Platform) (db : Database) (delivery : WebhookDelivery) :
    (planWebhook P db delivery).database = db ∨ ∃ key row, DeliveredEvent P row ∧
      db.paymentWebhookEvents.lookup key = none ∧
      (∀ id ∈ row.attemptId, (db.paymentAttempts.lookup id).isSome) ∧
      (planWebhook P db delivery).database =
        { db with paymentWebhookEvents := db.paymentWebhookEvents.insert key row } := by
  have hverified : ∀ read payload,
      (planVerifiedEvent P db delivery read payload).database = db ∨ ∃ key row,
        DeliveredEvent P row ∧ db.paymentWebhookEvents.lookup key = none ∧
        (∀ id ∈ row.attemptId, (db.paymentAttempts.lookup id).isSome) ∧
        (planVerifiedEvent P db delivery read payload).database =
          { db with paymentWebhookEvents := db.paymentWebhookEvents.insert key row } := by
    intro read payload
    simp only [planVerifiedEvent]
    split
    · exact .inl rfl
    · rename_i hok
      rcases upsertWebhookEvent_eq_ok.mp hok with ⟨rfl, -⟩ | ⟨hfree, rfl, hattempt, rfl⟩
      · split_ifs <;> exact .inl rfl
      · refine .inr ⟨_, _, .verified read payload, hfree, hattempt, ?_⟩
        split_ifs <;> rfl
  unfold planWebhook
  split
  · exact .inl rfl
  · split_ifs
    · simp only [planVerifiedWebhook]
      split
      · exact .inl rfl
      · split
        · exact hverified _ _
        · split_ifs
          · exact .inl rfl
          · exact .inl rfl
          · exact hverified _ _
    · split
      · exact .inl rfl
      · rename_i hok
        rcases upsertWebhookEvent_eq_ok.mp hok with ⟨rfl, -⟩ | ⟨hfree, rfl, hattempt, rfl⟩
        · exact .inl rfl
        · exact .inr ⟨_, _, .invalid _, hfree, hattempt, rfl⟩

/-- Before the payment transaction only events are written. -/
theorem planWebhook_setEvents (P : Platform) (db : Database) (delivery : WebhookDelivery) :
    (∃ events answer, planWebhook P db delivery = .done (db.setEvents events) answer) ∨
      ∃ events w, planWebhook P db delivery = .apply (db.setEvents events) w := by
  obtain ⟨events, hevents⟩ : ∃ events, (planWebhook P db delivery).database = db.setEvents events := by
    rcases planWebhook_database P db delivery with h | ⟨key, row, -, -, -, h⟩
    · exact ⟨db.paymentWebhookEvents, h⟩
    · exact ⟨_, h⟩
  cases hplan : planWebhook P db delivery with
  | done db' answer =>
    rw [hplan] at hevents
    exact .inl ⟨events, answer, congrArg (WebhookPlan.done · answer) hevents⟩
  | apply db' w =>
    rw [hplan] at hevents
    exact .inr ⟨events, w, congrArg (WebhookPlan.apply · w) hevents⟩

theorem planReplay_setEvents (db : Database) (replay : WebhookReplay) :
    (∃ events answer, planReplay db replay = .done (db.setEvents events) answer) ∨
      ∃ events w, planReplay db replay = .apply (db.setEvents events) w := by
  simp only [planReplay]
  split
  · exact .inl ⟨db.paymentWebhookEvents, _, rfl⟩
  · split
    · exact .inl ⟨db.paymentWebhookEvents, _, rfl⟩
    · split_ifs
      · exact .inl ⟨db.paymentWebhookEvents, _, rfl⟩
      · exact .inl ⟨db.paymentWebhookEvents, _, rfl⟩
      · split
        · exact .inl ⟨_, _, rfl⟩
        · exact .inr ⟨_, _, rfl⟩

/-- Every request has one of the three outcomes. -/
theorem paymentStep_outcome (P : Platform) (db : Database) (request : PaymentRequest) :
    PaymentOutcome P db request (paymentStep P db request) := by
  cases request with
  | webhook delivery =>
    simp only [paymentStep, servePayment, handlePaymentWebhook]
    obtain ⟨events, answer, hplan⟩ | ⟨events, w, hplan⟩ := planWebhook_setEvents P db delivery
    · rw [hplan]
      exact .events events fun db₀ w db₁ h ↦ by simp [appliedWebhook, hplan] at h
    · have happlied : appliedWebhook P db (.webhook delivery) = some (db.setEvents events, w) := by
        simp [appliedWebhook, hplan]
      rw [hplan]
      cases hok : applyWebhookPaymentState P (db.setEvents events) w with
      | ok db₁ => simpa [hok] using .applied events w db₁ happlied hok
      | error e =>
        simp only [hok]
        refine .events (events.update w.event _) fun db₀ w' db₁ h ↦ ?_
        rw [happlied] at h
        cases h
        simp [hok]
  | replay replay =>
    simp only [paymentStep, servePayment, replayAdminPaymentWebhookEvent]
    obtain ⟨events, answer, hplan⟩ | ⟨events, w, hplan⟩ := planReplay_setEvents db replay
    · rw [hplan]
      exact .events events fun db₀ w db₁ h ↦ by simp [appliedWebhook, hplan] at h
    · have happlied : appliedWebhook P db (.replay replay) = some (db.setEvents events, w) := by
        simp [appliedWebhook, hplan]
      rw [hplan]
      cases hok : applyWebhookPaymentState P (db.setEvents events) w with
      | ok db₁ => simpa [hok] using .applied events w db₁ happlied hok
      | error e =>
        simp only [hok]
        refine .events events fun db₀ w' db₁ h ↦ ?_
        rw [happlied] at h
        cases h
        simp [hok]
  | expire now attemptId limit =>
    have hstep : paymentStep P db (.expire now attemptId limit) = expireBatch db now
        (expiryCandidates db now attemptId (min (max (limit.getD 100) 1) 500)) := by
      simp only [paymentStep, servePayment, expireOpenConsultationPaymentAttempts]
      split_ifs with hempty
      · rw [hempty, expireBatch_nil]
      · rfl
    rw [hstep]
    exact .expired now attemptId limit rfl _ rfl

/-- What payment transactions and expiry batches preserve, whatever the events are, every request
preserves. -/
theorem paymentStep_preserves {P : Platform} {I : Database → Prop}
    (hevents : ∀ db events, I db → I (db.setEvents events))
    (happly : ∀ db db' w, I db → applyWebhookPaymentState P db w = .ok db' → I db')
    (hexpire : ∀ db now batch, I db → I (expireBatch db now batch)) {db : Database} (h : I db)
    (request : PaymentRequest) : I (paymentStep P db request) := by
  have houtcome := paymentStep_outcome P db request
  generalize paymentStep P db request = db' at houtcome ⊢
  cases houtcome with
  | events events => exact hevents db events h
  | applied events w db₁ _ hok => exact happly _ _ w (hevents db events h) hok
  | expired now _ _ _ batch => exact hexpire db now batch h

/-- The database before the payment transaction of a request, if it has one. -/
def plannedDatabase (P : Platform) (db : Database) : PaymentRequest → Database
  | .webhook delivery => (planWebhook P db delivery).database
  | .replay replay => (planReplay db replay).database
  | .expire now attemptId limit => paymentStep P db (.expire now attemptId limit)

/-- An event whose payment transaction has failed. -/
def PaymentWebhookEvent.fail (e : Failure) (failedAt : Time) (event : PaymentWebhookEvent) :
    PaymentWebhookEvent :=
  { event with
    processingStatus := .failed
    errorCode := some (paymentWebhookProcessingErrorCode e)
    processedAt := some failedAt }

/-- A request ends with what is planned, with the payment transaction, or with its failure recorded in
the event. -/
theorem paymentStep_cases {P : Platform} {db : Database} {request : PaymentRequest}
    {C : Database → Prop} (hplanned : C (plannedDatabase P db request))
    (happlied : ∀ w db₁, appliedWebhook P db request = some (plannedDatabase P db request, w) →
      applyWebhookPaymentState P (plannedDatabase P db request) w = .ok db₁ → C db₁)
    (hfailed : ∀ w e failedAt, applyWebhookPaymentState P (plannedDatabase P db request) w = .error e →
      C ((plannedDatabase P db request).updateEvent w.event (PaymentWebhookEvent.fail e failedAt))) :
    C (paymentStep P db request) := by
  cases request with
  | webhook delivery =>
    simp only [plannedDatabase] at hplanned happlied hfailed
    simp only [paymentStep, servePayment, handlePaymentWebhook]
    cases hplan : planWebhook P db delivery with
    | done db₀ answer =>
      rw [hplan] at hplanned
      exact hplanned
    | apply db₀ w =>
      rw [hplan] at happlied hfailed
      cases hok : applyWebhookPaymentState P db₀ w with
      | ok db₁ =>
        simp only [hok]
        exact happlied w db₁ (by simp only [appliedWebhook, hplan, WebhookPlan.database]) hok
      | error e =>
        simp only [hok]
        exact hfailed w e delivery.failedAt hok
  | replay replay =>
    simp only [plannedDatabase] at hplanned happlied
    simp only [paymentStep, servePayment, replayAdminPaymentWebhookEvent]
    cases hplan : planReplay db replay with
    | done db₀ answer =>
      rw [hplan] at hplanned
      exact hplanned
    | apply db₀ w =>
      rw [hplan] at hplanned happlied
      cases hok : applyWebhookPaymentState P db₀ w with
      | ok db₁ =>
        simp only [hok]
        exact happlied w db₁ (by simp only [appliedWebhook, hplan, WebhookPlan.database]) hok
      | error e =>
        simp only [hok]
        exact hplanned
  | expire now attemptId limit => exact hplanned

end KmtLegal
