import KmtLegal.Clients
import KmtLegal.Appointments.Conflict
import KmtLegal.Payments.WebhookState

/-!
# Reserving a paid consultation

The transaction of `createPublicConsultationCheckout` and the attempt
`createConsultationPaymentAttempt` opens in it: the office's price is the one the client saw, the
contact has no other booking, the time is free, and then client, consultation, reservation and
attempt are written together.  The checks before the transaction only read, and come again in it.
-/

namespace KmtLegal

open Relational Js Scheduling

/-! ## Prices -/

/-- `ConsultationPriceSnapshot`. -/
structure ConsultationPrice where
  amount : Decimal
  amountText : String
  currency : Currency
  pricingRuleId : Uuid
  priceVersion : ℕ
  serviceCategory : String
  mode : ConsultationMode
  deriving DecidableEq

/-- The price the client has confirmed. -/
structure ExpectedPrice where
  amount : String
  currency : String
  pricingRuleId : Uuid
  priceVersion : ℕ
  serviceCategory : String
  mode : ConsultationMode
  deriving DecidableEq

/-- The price is the one that was confirmed, and the one that was read before. -/
def ConsultationPrice.isConfirmed (P : Platform) (current price : ConsultationPrice)
    (expected : ExpectedPrice) : Bool :=
  P.decimal expected.amount = .finite current.amount ∧ current.currency.text = expected.currency ∧
    current.pricingRuleId = expected.pricingRuleId ∧
    current.priceVersion = expected.priceVersion ∧
    current.serviceCategory = expected.serviceCategory ∧ current.mode = expected.mode ∧
    current.amount = price.amount ∧ current.priceVersion = price.priceVersion

/-! ## Calls -/

/-- The answer of the payment provider to a hosted checkout. -/
structure HostedCheckout where
  provider : PaymentProviderName
  checkoutUrl : String
  providerSessionId : String
  providerOrderId : Option String := none
  deriving DecidableEq

/-- A checkout whose form is complete and whose time the office offers. -/
structure CreateCheckout where
  fullName : String
  phone : String
  email : Option String := none
  city : Option String := none
  serviceCategory : String
  summary : String
  opposingPartyName : Option String := none
  urgency : Urgency := .normal
  preferredMode : ConsultationMode := .online
  locale : String
  startsAt : Time
  endsAt : Time
  /-- `deterministicBookingSummary(checkoutBody, startsAt)`. -/
  bookingSummary : String
  /-- `getConsultationBookingMode({ client: tx })`. -/
  bookingMode : String
  price : ConsultationPrice
  currentPrice : ConsultationPrice
  expectedPrice : ExpectedPrice
  activeProvider : PaymentProviderName
  reservationMinutes : ℕ
  hosted : Except Failure HostedCheckout
  checkedAt : Time
  writtenAt : Time
  openedAt : Time
  searchedAt : Time
  newClientId : Uuid
  newConsultationId : Uuid
  newAppointmentId : Uuid
  newAttemptId : Uuid

/-- The contact matches by canonical phone, or by the phone itself if there is no canonical one, or
by the address. -/
def CreateCheckout.matches (call : CreateCheckout) (phone : String)
    (phoneCanonical email : Option String) : Bool :=
  let samePhone : Bool :=
    match orNull (canonicalPhone call.phone) with
    | some canonical => phoneCanonical = some canonical
    | none => phone = call.phone
  samePhone ∨ ((orNull call.email).isSome ∧ email = orNull call.email)

/-- `assertNoBookingDuplicate(body, client)`. -/
def assertNoBookingDuplicate (db : Database) (call : CreateCheckout) : Except Failure Unit :=
  throwIf (db.consultationRequests.any fun id c ↦
      call.checkedAt - 86400000 ≤ c.createdAt ∧ call.matches c.phone c.phoneCanonical c.email ∧
      (c.status = .scheduled ∨ (c.status = .paymentPending ∧
        db.paymentAttempts.any fun _ a ↦
          a.consultationRequestId = id ∧ a.status.isOpen ∧ call.checkedAt < a.expiresAt)))
    (.conflict "A scheduled consultation already exists for this contact and service area.")

/-! ## The client -/

/-- `upsertAssistantClient(tx, body, phoneCanonical)`, with the client's id. -/
def upsertAssistantClient (db : Database) (call : CreateCheckout) :
    Except Failure (Database × Uuid) :=
  match (db.clients.findMany (fun _ client ↦
      client.deletedAt = none ∧ call.matches client.phone client.phoneCanonical client.email)
      (fun x y ↦ y.2.updatedAt ≤ x.2.updatedAt) 1).head? with
  | some (id, _) => do
    let db ← db.updateClient id fun client ↦
      { client with
        fullName := call.fullName
        phone := call.phone
        phoneCanonical := canonicalPhone call.phone
        email := (orNull call.email).or client.email
        city := (orNull call.city).or client.city
        source := (orNull client.source).or (some "ai-assistant")
        status := if client.status = .archived then .archived else .lead
        updatedAt := call.writtenAt }
    return (db, id)
  | none => do
    let db ← db.createClient call.newClientId
      { fullName := call.fullName
        phone := call.phone
        phoneCanonical := canonicalPhone call.phone
        email := orNull call.email
        city := orNull call.city
        source := some "ai-assistant"
        status := .lead
        updatedAt := call.writtenAt }
    return (db, call.newClientId)

/-! ## The reservation -/

/-- The consultation that waits for payment. -/
def CreateCheckout.consultation (call : CreateCheckout) (clientId : Uuid) :
    ConsultationRequest where
  clientId := some clientId
  fullName := call.fullName
  phone := call.phone
  phoneCanonical := canonicalPhone call.phone
  email := orNull call.email
  city := orNull call.city
  serviceCategory := call.serviceCategory
  summary := call.summary
  aiSummary := some call.bookingSummary
  opposingPartyName := orNull call.opposingPartyName
  urgency := call.urgency
  preferredMode := call.preferredMode
  locale := call.locale
  status := .paymentPending
  createdAt := call.writtenAt

/-- The reserved appointment; no lawyer has it yet. -/
def CreateCheckout.appointment (call : CreateCheckout) (clientId : Uuid) : Appointment where
  clientId
  consultationRequestId := some call.newConsultationId
  title :=
    if call.locale = "ar" then "موعد استشارة " ++ consultationReference call.newConsultationId
    else "Consultation appointment " ++ consultationReference call.newConsultationId
  type := .consultation
  mode := call.preferredMode.appointmentMode
  startsAt := call.startsAt
  endsAt := call.endsAt
  status := .reserved
  notes := some "Reserved pending trusted payment webhook confirmation."
  createdAt := call.writtenAt

/-- `tx.consultationRequest.create`. -/
def Database.createConsultation (db : Database) (id : Uuid) (c : ConsultationRequest) :
    Except Failure Database := do
  let consultationRequests ← orThrow (db.consultationRequests.create id c) .uniqueConstraint
  return { db with consultationRequests }

def modeText : ConsultationMode → String
  | .office => "OFFICE"
  | .phone => "PHONE"
  | .online => "ONLINE"

/-- `consultationAttemptIdempotencyKey(input)`. -/
def consultationAttemptIdempotencyKey (P : Platform) (call : CreateCheckout) (clientId : Uuid) :
    String :=
  P.sha256 ("|".intercalate [call.activeProvider.text, clientId, P.isoString call.startsAt,
    call.currentPrice.serviceCategory, modeText call.currentPrice.mode, call.currentPrice.amountText,
    call.currentPrice.currency.text, toString call.currentPrice.priceVersion])

/-- The attempt of a reservation. -/
def CreateCheckout.attempt (P : Platform) (call : CreateCheckout) (clientId : Uuid) :
    PaymentAttempt where
  provider := call.activeProvider.text
  status := .created
  clientId
  consultationRequestId := call.newConsultationId
  appointmentId := call.newAppointmentId
  amount := call.currentPrice.amount
  currency := call.currentPrice.currency
  startsAt := call.startsAt
  endsAt := call.endsAt
  expiresAt := call.openedAt + call.reservationMinutes * 60000
  idempotencyKey := consultationAttemptIdempotencyKey P call clientId

/-- The open attempt of the same booking. -/
def existingAttempt (P : Platform) (db : Database) (call : CreateCheckout) (clientId : Uuid) :
    Option (Uuid × PaymentAttempt) :=
  db.paymentAttempts.findFirst fun _ a ↦
    a.idempotencyKey = consultationAttemptIdempotencyKey P call clientId ∧ a.status.isOpen ∧
      call.searchedAt < a.expiresAt

/-- That attempt, or a new one. -/
def openAttempt (P : Platform) (db : Database) (call : CreateCheckout) (clientId : Uuid) :
    Except Failure (Table Uuid PaymentAttempt × Uuid) :=
  match existingAttempt P db call clientId with
  | some (id, _) => .ok (db.paymentAttempts, id)
  | none => do
    let attempts ← orThrow (db.paymentAttempts.create call.newAttemptId (call.attempt P clientId))
      .uniqueConstraint
    return (attempts, call.newAttemptId)

/-- `createConsultationPaymentAttempt(input)`. -/
def createConsultationPaymentAttempt (P : Platform) (db : Database) (call : CreateCheckout)
    (clientId : Uuid) : Except Failure Database :=
  if (existingAttempt P db call clientId).any fun e ↦ (orNull e.2.checkoutUrl).isSome then .ok db
  else do
    let (attempts, attemptId) ← openAttempt P db call clientId
    let hosted ← call.hosted
    return { db with
      paymentAttempts := attempts.update attemptId fun a ↦
        { a with
          provider := hosted.provider.text
          status := .pending
          checkoutUrl := some hosted.checkoutUrl
          providerSessionId := some hosted.providerSessionId
          providerOrderId := hosted.providerOrderId.or a.providerOrderId } }

/-- `createPublicConsultationCheckout({ body })`. -/
def createPublicConsultationCheckout (P : Platform) (db : Database) (call : CreateCheckout) :
    Except Failure Database := do
  throwIf (call.bookingMode ≠ "AI_CHAT_PAID" ∨
      ¬call.currentPrice.isConfirmed P call.price call.expectedPrice)
    (.conflict "Booking payment details changed. Go back and review the booking before paying.")
  assertNoBookingDuplicate db call
  assertNoAppointmentConflict db
    { startsAt := call.startsAt, endsAt := call.endsAt, scope := .officeConsultation }
  let (db, clientId) ← upsertAssistantClient db call
  let db ← db.createConsultation call.newConsultationId (call.consultation clientId)
  let db ← db.createAppointment call.newAppointmentId (call.appointment clientId)
  createConsultationPaymentAttempt P db call clientId

/-! ## What a call that succeeded did -/

section

variable {P : Platform} {db db' : Database} {call : CreateCheckout}

/-- Only clients are written. -/
theorem upsertAssistantClient_frame {id : Uuid}
    (h : upsertAssistantClient db call = .ok (db', id)) :
    db' = { db with clients := db'.clients } := by
  unfold upsertAssistantClient at h
  split at h
  · simp only [bind_eq_ok, Database.updateClient_eq_ok, pure_eq_ok, Prod.mk.injEq] at h
    obtain ⟨_, ⟨-, rfl⟩, rfl, -⟩ := h
    rfl
  · simp only [bind_eq_ok, Database.createClient_eq_ok, pure_eq_ok, Prod.mk.injEq] at h
    obtain ⟨_, ⟨-, rfl⟩, rfl, -⟩ := h
    rfl

/-- Only attempts are written. -/
theorem createConsultationPaymentAttempt_frame {clientId : Uuid}
    (h : createConsultationPaymentAttempt P db call clientId = .ok db') :
    db' = { db with paymentAttempts := db'.paymentAttempts } := by
  unfold createConsultationPaymentAttempt at h
  split at h
  · cases h
    rfl
  · simp only [bind_eq_ok, Prod.exists, pure_eq_ok] at h
    obtain ⟨_, _, -, _, -, rfl⟩ := h
    rfl

/-- A checkout creates a consultation and an appointment nobody has yet. -/
theorem createPublicConsultationCheckout_ok
    (h : createPublicConsultationCheckout P db call = .ok db') :
    ∃ clientId, db.consultationRequests.lookup call.newConsultationId = none ∧
      db.appointments.lookup call.newAppointmentId = none ∧
      db' = { db with
        clients := db'.clients
        paymentAttempts := db'.paymentAttempts
        consultationRequests := AList.insert call.newConsultationId (call.consultation clientId)
          db.consultationRequests
        appointments := AList.insert call.newAppointmentId (call.appointment clientId)
          db.appointments } := by
  simp only [createPublicConsultationCheckout, Database.createConsultation, bind_eq_ok, Prod.exists,
    orThrow_eq_ok, Table.create_eq_some, pure_eq_ok, Database.createAppointment_eq_ok] at h
  obtain ⟨_, -, _, -, _, -, db₁, clientId, hclient, _, ⟨_, ⟨hconsultation, rfl⟩, rfl⟩, _,
    ⟨happointment, rfl⟩, hattempt⟩ := h
  have hframe := upsertAssistantClient_frame hclient
  generalize db₁.clients = clients at hframe
  subst hframe
  have hattempts := createConsultationPaymentAttempt_frame hattempt
  generalize db'.paymentAttempts = attempts at hattempts
  subst hattempts
  exact ⟨clientId, hconsultation, happointment, rfl⟩

end

end KmtLegal
