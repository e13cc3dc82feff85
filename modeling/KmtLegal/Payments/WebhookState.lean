import KmtLegal.Js.Date
import KmtLegal.Payments.Provider

/-!
# Applying a webhook

`applyWebhookPaymentState` of `payment-service.ts` and the functions it calls: one transaction
that records the provider's transaction, compares the reported money with the reservation and
then confirms, releases, flags or leaves the attempt.

A call reads the clock several times and creates up to three rows with random ids; both come
with the application, so that the functions below are functions of the database.
-/

namespace KmtLegal

open Relational Js

/-! ## Statuses -/

namespace PaymentAttemptStatus

/-- `confirmablePaidAttemptStatuses`, the open statuses. -/
def isOpen (s : PaymentAttemptStatus) : Bool := s ∈ [created, pending]

def text : PaymentAttemptStatus → String
  | created => "CREATED"
  | pending => "PENDING"
  | paid => "PAID"
  | failed => "FAILED"
  | expired => "EXPIRED"
  | refunded => "REFUNDED"
  | disputed => "DISPUTED"
  | cancelled => "CANCELLED"

end PaymentAttemptStatus

/-- The attempt status of the same name. -/
def ProviderPaymentStatus.attemptStatus : ProviderPaymentStatus → PaymentAttemptStatus
  | paid => .paid
  | pending => .pending
  | refunded => .refunded
  | disputed => .disputed
  | cancelled => .cancelled
  | expired => .expired
  | failed => .failed

/-- `paymentTransactionStatus(status)`. -/
def paymentTransactionStatus : ProviderPaymentStatus → PaymentTransactionStatus
  | .paid => .paid
  | .refunded => .refunded
  | .disputed => .disputed
  | .cancelled => .cancelled
  | .pending => .pending
  | .expired => .failed
  | .failed => .failed

/-- `financialReviewCodes`. -/
def financialReviewCodes : List String :=
  ["PAYMENT_REVERSAL_REVIEW_REQUIRED", "PAYMENT_COLLECTION_REVIEW_REQUIRED"]

/-! ## Money -/

/-- `providerReportedMoney(payload)`. -/
def providerReportedMoney (P : Platform) (payload : NormalizedWebhookPayload) :
    Except Failure (Option (Decimal × Currency)) :=
  match Currency.ofText (toUpperCase (trim payload.currency)) with
  | none => .ok none
  | some currency =>
    if isMoneyText (trim payload.amount) then
      -- the text is parsed untrimmed, which throws if there was something to trim
      match P.decimal payload.amount with
      | .throws => .error .decimalError
      | .notFinite => .ok none
      | .finite amount =>
        .ok (if 0 ≤ amount ∧ amount ≤ 9999999999.99 then some (amount, currency) else none)
    else .ok none

/-- What `paidWebhookPayloadProblem` finds. -/
structure PayloadProblem where
  code : String
  path : String
  message : String
  deriving DecidableEq

/-- `paidWebhookPayloadProblem({ payload, attempt })`. -/
def paidWebhookPayloadProblem (P : Platform) (payload : NormalizedWebhookPayload)
    (attempt : PaymentAttempt) : Option PayloadProblem :=
  let currency := toUpperCase (trim payload.currency)
  let amountText := trim payload.amount
  if currency = "" ∨ currency ≠ attempt.currency.text then
    some ⟨"PAYMENT_CURRENCY_MISMATCH", "currency",
      "Paid webhook currency does not match the reserved payment attempt."⟩
  else if amountText = "" then
    some ⟨"PAYMENT_AMOUNT_MISMATCH", "amount", "Paid webhook amount is missing."⟩
  else
    match P.decimal amountText with
    | .throws => some ⟨"PAYMENT_AMOUNT_MISMATCH", "amount", "Paid webhook amount is invalid."⟩
    | result =>
      if result = .finite attempt.amount then none
      else some ⟨"PAYMENT_AMOUNT_MISMATCH", "amount",
        "Paid webhook amount does not match the reserved payment attempt."⟩

/-- `paidAttemptWebhookConfirmationBlocker(input, now)`; no blocker is `none`. -/
def paidAttemptWebhookConfirmationBlocker (attemptStatus : PaymentAttemptStatus) (expiresAt : Time)
    (appointmentStatus : AppointmentStatus) (consultationStatus : ConsultationStatus)
    (now : Time) : Option String :=
  if ¬attemptStatus.isOpen then some "Payment attempt can no longer confirm this appointment."
  else if expiresAt ≤ now then
    some "Payment attempt expired before trusted payment confirmation."
  else if appointmentStatus ≠ .reserved then
    some "Payment attempt appointment is no longer reserved."
  else if consultationStatus ≠ .paymentPending then
    some "Payment attempt consultation is no longer pending payment."
  else none

theorem confirmationBlocker_eq_none {attemptStatus : PaymentAttemptStatus} {expiresAt now : Time}
    {appointmentStatus : AppointmentStatus} {consultationStatus : ConsultationStatus} :
    paidAttemptWebhookConfirmationBlocker attemptStatus expiresAt appointmentStatus
        consultationStatus now = none ↔
      attemptStatus.isOpen ∧ now < expiresAt ∧ appointmentStatus = .reserved ∧
        consultationStatus = .paymentPending := by
  unfold paidAttemptWebhookConfirmationBlocker
  split_ifs with hopen hexp happ hcons <;> simp_all

/-! ## Requests -/

/-- The readings of the clock in one application, in the order they are taken. -/
structure WebhookClock where
  /-- When a late collection is looked for. -/
  checkedAt : Time
  /-- `paidAt` of the transaction. -/
  recordedAt : Time
  /-- When `confirmPaidAttempt` looks for a blocker. -/
  confirmAt : Time
  /-- `now` of `confirmPaidAttempt`. -/
  issuedAt : Time
  /-- `processedAt` of the event. -/
  processedAt : Time
  deriving DecidableEq

/-- The ids the application gives to rows it creates. -/
structure FreshIds where
  transaction : Uuid
  payment : Uuid
  entry : Uuid
  deriving DecidableEq

/-- The input of `applyWebhookPaymentState`. -/
structure WebhookApplication where
  event : String × String
  provider : PaymentProviderName
  payload : NormalizedWebhookPayload
  clock : WebhookClock
  fresh : FreshIds
  deriving DecidableEq

/-- An attempt with its appointment, consultation and payment. -/
structure AttemptWithRelations where
  id : Uuid
  row : PaymentAttempt
  appointment : Appointment
  consultationRequest : ConsultationRequest
  payment : Option (Uuid × Payment)

/-- `tx.paymentAttempt.findUnique` with its relations.  The two required ones are foreign keys
that cascade, a stored attempt has them. -/
def Database.findAttempt (db : Database) (id : Uuid) : Option AttemptWithRelations := do
  let row ← db.paymentAttempts.lookup id
  let appointment ← db.appointments.lookup row.appointmentId
  let consultationRequest ← db.consultationRequests.lookup row.consultationRequestId
  some { id, row, appointment, consultationRequest, payment := db.paymentOfAttempt id }

/-! ## Transactions -/

/-- `preserveTransactionState(current, incoming, paidAt)`. -/
def preserveTransactionState (current incoming : PaymentTransactionStatus)
    (paidAt : Option Time) : Bool :=
  if current ∈ [.refunded, .disputed] ∨ (current = .cancelled ∧ paidAt.isSome) then true
  else current = .paid ∧ incoming ∉ [.refunded, .disputed, .cancelled]

/-- The update of a transaction that was recorded before; a collection time is kept. -/
def PaymentTransaction.merge (existing input : PaymentTransaction) : PaymentTransaction :=
  { existing with
    rawStatus := input.rawStatus
    status := input.status
    amount := input.amount
    currency := input.currency
    paidAt := existing.paidAt <|> input.paidAt }

def linkedElsewhere : String :=
  "Provider transaction is already linked to a different payment attempt."

/-- The transaction the event is linked to already, if it is to be left as it is. -/
def linkedTransaction (db : Database) (event : String × String) (input : PaymentTransaction) :
    Except Failure (Option (Uuid × PaymentTransaction)) :=
  match (db.paymentWebhookEvents.lookup event).bind PaymentWebhookEvent.transactionId with
  | none => .ok none
  | some id => do
    let linked ← orThrow (db.paymentTransactions.lookup id) .recordNotFound
    throwIf (linked.attemptId ≠ input.attemptId) (.conflict linkedElsewhere)
    return if preserveTransactionState linked.status input.status linked.paidAt then
      some (id, linked) else none

/-- The stored transaction with the provider's id; an empty id is none. -/
def transactionOfProvider (db : Database) (input : PaymentTransaction) :
    Option (Uuid × PaymentTransaction) :=
  match input.providerTransactionId with
  | none => none
  | some providerTransactionId =>
    if providerTransactionId = "" then none
    else db.paymentTransactions.findFirst fun _ t ↦
      t.provider = input.provider ∧ t.providerTransactionId = some providerTransactionId

/-- `upsertPaymentTransaction(tx, input)`. -/
def upsertPaymentTransaction (db : Database) (event : String × String) (newId : Uuid)
    (input : PaymentTransaction) : Except Failure (Database × Uuid × PaymentTransaction) := do
  match ← linkedTransaction db event input with
  | some linked => return (db, linked)
  | none =>
    match transactionOfProvider db input with
    | some (id, existing) => do
      throwIf (existing.attemptId ≠ input.attemptId) (.conflict linkedElsewhere
        [{ path := some "providerTransactionId", message := linkedElsewhere,
           code := some "provider_transaction_attempt_mismatch" }])
      if preserveTransactionState existing.status input.status existing.paidAt then
        return (db, id, existing)
      else
        return ({ db with
          paymentTransactions := db.paymentTransactions.update id fun t ↦ t.merge input },
          id, existing.merge input)
    | none => do
      let db ← db.createPaymentTransaction newId input
      return (db, newId, input)

/-! ## Attempts -/

/-- `gatewayInvoiceNumber(attemptId, paidAt)`. -/
def gatewayInvoiceNumber (attemptId : Uuid) (paidAt : Time) : String :=
  "CONS-" ++ toString (utcFullYear paidAt) ++ "-" ++ toUpperCase (sliceTo attemptId 8)

/-- The entry of `recordTrustedInvoiceSettlement(tx, invoice)`. -/
def trustedSettlement (invoiceId : Uuid) (invoice : Payment) (now : Time) : PaymentEntry :=
  let method := invoice.paymentMethod.getD "MANUAL"
  let receiptNumber := invoice.receiptNumber.getD invoice.invoiceNumber
  { paymentId := invoiceId
    kind := .settlement
    amount := invoice.amount
    currency := invoice.currency
    method
    receiptNumber
    occurredAt := invoice.paidAt.getD now
    approvedById := invoice.createdById
    idempotencyKey := match invoice.paymentAttemptId with
      | some attemptId => "gateway:" ++ attemptId
      | none => "manual-initial-paid"
    externalReference := match invoice.paymentAttemptId with
      | some attemptId => some ("gateway:" ++ attemptId)
      | none => some ("manual:" ++ invoice.currency.text ++ ":" ++ method ++ ":" ++ receiptNumber) }

/-- `recordTrustedInvoiceSettlement(tx, invoice)`. -/
def recordTrustedInvoiceSettlement (db : Database) (entryId invoiceId : Uuid) (invoice : Payment)
    (now : Time) : Except Failure Database :=
  db.createPaymentEntry entryId (trustedSettlement invoiceId invoice now)

/-- The invoice `confirmPaidAttempt` writes. -/
def gatewayPayment (attempt : AttemptWithRelations) (transactionId : Uuid)
    (transaction : PaymentTransaction) (now : Time) : Payment where
  invoiceNumber := gatewayInvoiceNumber attempt.id now
  clientId := attempt.row.clientId
  consultationRequestId := some attempt.row.consultationRequestId
  appointmentId := some attempt.row.appointmentId
  paymentAttemptId := some attempt.id
  issueDate := now
  amount := attempt.row.amount
  currency := attempt.row.currency
  status := .paid
  paymentMethod := some attempt.row.provider
  receiptNumber := some (orElse (transaction.providerTransactionId.getD "") transactionId)
  paidAt := some now
  notes := some "Gateway-confirmed consultation booking payment."

/-- The reservation becomes an appointment. -/
def confirmReservation (db : Database) (attempt : AttemptWithRelations)
    (transaction : PaymentTransaction) : Database :=
  ((db.updateAttempt attempt.id fun a ↦
      { a with status := .paid, providerPaymentId := transaction.providerTransactionId }
    ).updateAppointment attempt.row.appointmentId fun p ↦
      { p with status := .scheduled, notes := some "Confirmed after trusted payment webhook." }
    ).updateConsultation attempt.row.consultationRequestId fun c ↦ { c with status := .scheduled }

/-- `confirmPaidAttempt({ tx, attempt, transaction })`. -/
def confirmPaidAttempt (db : Database) (clock : WebhookClock) (fresh : FreshIds)
    (attempt : AttemptWithRelations) (transactionId : Uuid) (transaction : PaymentTransaction) :
    Except Failure Database :=
  if attempt.payment.isSome ∨ attempt.row.status = .paid then .ok db
  else
    match paidAttemptWebhookConfirmationBlocker attempt.row.status attempt.row.expiresAt
      attempt.appointment.status attempt.consultationRequest.status clock.confirmAt with
    | some blocker => .error (.conflict blocker)
    | none => do
      let payment := gatewayPayment attempt transactionId transaction clock.issuedAt
      let db ← db.createPayment fresh.payment payment
      let db ← recordTrustedInvoiceSettlement db fresh.entry fresh.payment payment clock.issuedAt
      return confirmReservation db attempt transaction

/-- Neither paid for nor closed: `!attempt.payment` and an open status. -/
def AttemptWithRelations.isReleasable (attempt : AttemptWithRelations) : Bool :=
  attempt.payment.isNone ∧ attempt.row.status.isOpen

/-- `releaseFailedAttempt({ tx, attempt, status, failureCode })`. -/
def releaseFailedAttempt (db : Database) (attempt : AttemptWithRelations)
    (status : PaymentAttemptStatus) (failureCode : String) : Database :=
  if attempt.isReleasable then
    ((db.updateAttempt attempt.id fun a ↦ { a with status, failureCode := some failureCode }
      ).updateAppointment attempt.row.appointmentId fun p ↦
        if p.status = .reserved then
          { p with status := .cancelled
                   notes := some ("Payment attempt ended with " ++ status.text ++ ".") }
        else p
      ).updateConsultation attempt.row.consultationRequestId fun c ↦
        if c.status = .paymentPending then { c with status := .reviewing } else c
  else db

/-- `updateOpenAttemptStatus({ tx, attempt, status })`. -/
def updateOpenAttemptStatus (db : Database) (attempt : AttemptWithRelations)
    (status : ProviderPaymentStatus) : Database :=
  if attempt.isReleasable then
    db.updateAttempt attempt.id fun a ↦ { a with status := status.attemptStatus }
  else db

/-! ## The transaction -/

/-- The transaction row a payload asks for. -/
def payloadTransaction (w : WebhookApplication) (attempt : AttemptWithRelations)
    (money : Option (Decimal × Currency)) : PaymentTransaction where
  attemptId := attempt.id
  provider := w.provider.text
  providerTransactionId := w.payload.providerTransactionId
  rawStatus := if w.payload.rawStatus = "" then none else some w.payload.rawStatus
  status := if w.payload.status = .paid ∧ money.isNone then .failed
    else paymentTransactionStatus w.payload.status
  amount := (money.map Prod.fst).getD attempt.row.amount
  currency := (money.map Prod.snd).getD attempt.row.currency
  paidAt := if w.payload.status = .paid ∧ money.isSome then some w.clock.recordedAt else none

/-- The event is settled with an error code, or processed without one. -/
def finishEvent (db : Database) (w : WebhookApplication) (errorCode : Option String) : Database :=
  db.updateEvent w.event fun e ↦
    { e with
      processingStatus := if errorCode.isSome then .failed else .processed
      errorCode
      processedAt := some w.clock.processedAt }

/-- A collection that cannot be matched: the attempt is released and flagged for review. -/
def reviewCollection (db : Database) (attempt : AttemptWithRelations)
    (problem : Option PayloadProblem) : Database :=
  (match problem with
    | some problem => releaseFailedAttempt db attempt .failed problem.code
    | none => releaseFailedAttempt db attempt .expired "PAYMENT_COLLECTION_REVIEW_REQUIRED"
  ).updateAttempt attempt.id fun a ↦
    { a with failureCode := some "PAYMENT_COLLECTION_REVIEW_REQUIRED" }

/-- The status of an attempt whose collection was reversed: the transaction's, if it is reversed. -/
def reversalStatus (w : WebhookApplication) (transaction : PaymentTransaction) :
    PaymentAttemptStatus :=
  match transaction.status with
  | .refunded => .refunded
  | .disputed => .disputed
  | .cancelled => .cancelled
  | _ => w.payload.status.attemptStatus

/-- A refund, a dispute or the cancellation of a payment: recorded for review, and the payment's
ledger with it. -/
def recordReversal (db : Database) (w : WebhookApplication) (attempt : AttemptWithRelations)
    (transaction : PaymentTransaction) : Database :=
  let db := db.updateAttempt attempt.id fun a ↦
    { a with
      status := reversalStatus w transaction
      failureCode := some "PAYMENT_REVERSAL_REVIEW_REQUIRED" }
  match attempt.payment with
  | some (paymentId, _) =>
    { db with payments := db.payments.update paymentId fun p ↦ { p with ledgerReviewRequired := true } }
  | none => db

/-- `paidPayloadProblem`: only a payload that reports a payment is compared. -/
def paidPayloadProblem (P : Platform) (w : WebhookApplication) (attempt : AttemptWithRelations) :
    Option PayloadProblem :=
  if w.payload.status = .paid then paidWebhookPayloadProblem P w.payload attempt.row else none

/-- `lateCollection`: a payment for an attempt that has none and can no longer be confirmed. -/
def lateCollection (w : WebhookApplication) (attempt : AttemptWithRelations) : Bool :=
  w.payload.status = .paid ∧ attempt.payment.isNone ∧
    (paidAttemptWebhookConfirmationBlocker attempt.row.status attempt.row.expiresAt
      attempt.appointment.status attempt.consultationRequest.status w.clock.checkedAt).isSome

/-- Another collected transaction of the attempt than the one under `transactionId`. -/
def Database.otherCollection (db : Database) (attemptId transactionId : Uuid) : Bool :=
  db.paymentTransactions.any fun id t ↦ t.attemptId = attemptId ∧ id ≠ transactionId ∧ t.paidAt.isSome

/-- `additionalCollection`: a payment with money besides one that was collected before. -/
def additionalCollection (db : Database) (w : WebhookApplication) (attempt : AttemptWithRelations)
    (money : Option (Decimal × Currency)) (transactionId : Uuid) : Bool :=
  w.payload.status = .paid ∧ money.isSome ∧ db.otherCollection attempt.id transactionId

/-- The error code of an event whose collection goes to review. -/
def reviewErrorCode (problem : Option PayloadProblem) (additional : Bool) : String :=
  match problem with
  | some problem => problem.code
  | none =>
    if additional then "ADDITIONAL_PAYMENT_REVIEW_REQUIRED" else "LATE_PAYMENT_REVIEW_REQUIRED"

/-- What the recorded transaction means for the attempt. -/
def applyPaymentSignal (P : Platform) (db : Database) (w : WebhookApplication)
    (attempt : AttemptWithRelations) (money : Option (Decimal × Currency)) (transactionId : Uuid)
    (transaction : PaymentTransaction) : Except Failure Database :=
  let problem := paidPayloadProblem P w attempt
  let additional := additionalCollection db w attempt money transactionId
  if problem.isSome ∨ lateCollection w attempt ∨ additional then
    .ok (finishEvent (reviewCollection db attempt problem) w
      (some (reviewErrorCode problem additional)))
  else
    match w.payload.status with
    | .paid => do
      let db ← confirmPaidAttempt db w.clock w.fresh attempt transactionId transaction
      return finishEvent db w none
    | .pending => .ok (finishEvent (updateOpenAttemptStatus db attempt w.payload.status) w none)
    | status =>
      if status = .refunded ∨ status = .disputed ∨ (status = .cancelled ∧ attempt.payment.isSome)
      then
        .ok (finishEvent (recordReversal db w attempt transaction) w
          (some "PAYMENT_REVERSAL_REVIEW_REQUIRED"))
      else
        .ok (finishEvent (releaseFailedAttempt db attempt status.attemptStatus
          (orElse w.payload.rawStatus status.text)) w none)

def orderMismatch : String := "Payment webhook order does not match a reserved payment attempt."

/-- `applyWebhookPaymentState(input)`. -/
def applyWebhookPaymentState (P : Platform) (db : Database) (w : WebhookApplication) :
    Except Failure Database := do
  let attemptId ← P.parseUuid w.payload.attemptId "Payment attempt id is invalid."
  let event ← orThrow (db.paymentWebhookEvents.lookup w.event) .recordNotFound
  if event.processingStatus = .processed then return db
  else
    throwIf (event.signatureStatus ≠ .verified) (.conflict "Payment webhook signature is invalid.")
    let attempt ← orThrow (db.findAttempt attemptId) (.notFound "Payment attempt was not found.")
    throwIf (attempt.row.provider ≠ w.provider.text) (.conflict
      "Payment webhook provider does not match the original payment attempt provider.")
    throwIf (w.provider = .paymob ∧ (attempt.row.providerOrderId.getD "" = "" ∨
      attempt.row.providerOrderId ≠ w.payload.providerOrderId)) (.conflict orderMismatch)
    let money ← providerReportedMoney P w.payload
    let (db, transactionId, transaction) ← upsertPaymentTransaction db w.event w.fresh.transaction
      (payloadTransaction w attempt money)
    let db := db.updateEvent w.event fun e ↦
      { e with attemptId := some attempt.id, transactionId := some transactionId }
    applyPaymentSignal P db w attempt money transactionId transaction

/-! ## A booking to evaluate with -/

/-- The attempt of `heldBooking`. -/
def heldAttempt : Uuid := "3b241101-e2bb-4255-8caf-4136c566a962"

/-- The key of a webhook event of `heldBooking`. -/
def heldEvent : String × String := ("paytabs", "TST2606500001")

/-- An appointment held for an attempt that expires at 1000, and a verified webhook event that is
not applied yet. -/
def heldBooking : Database where
  paymentAttempts := AList.singleton heldAttempt
    { provider := "paytabs", status := .pending, clientId := "c", consultationRequestId := "r"
      appointmentId := "p", amount := 750, currency := .egp, startsAt := 90000, endsAt := 93600
      expiresAt := 1000, idempotencyKey := "k" }
  paymentWebhookEvents := AList.singleton heldEvent
    { signatureStatus := .verified, processingStatus := .pending, payloadHash := "h" }
  appointments := AList.singleton "p"
    { clientId := "c", consultationRequestId := some "r", title := "Consultation"
      type := .consultation, mode := .office, startsAt := 90000, endsAt := 93600
      status := .reserved }
  consultationRequests := AList.singleton "r"
    { clientId := some "c", fullName := "Mona", phone := "01000000001", serviceCategory := "family"
      summary := "Custody of a child", preferredMode := .office, status := .paymentPending }

/-- A signal about the attempt of `heldBooking`, applied at one moment. -/
def heldSignal (status : ProviderPaymentStatus) (amount : String) (at_ : Time) :
    WebhookApplication where
  event := heldEvent
  provider := .paytabs
  payload := { provider := .paytabs, attemptId := heldAttempt
               providerTransactionId := some "TST2606500001", rawStatus := "A", status
               amount, currency := "EGP" }
  clock := ⟨at_, at_, at_, at_, at_⟩
  fresh := ⟨"t", "i", "e"⟩

end KmtLegal
