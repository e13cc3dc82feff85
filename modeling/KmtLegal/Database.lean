import Mathlib.Algebra.Order.Ring.Rat
import KmtLegal.Relational.Table
import KmtLegal.Js.Json
import KmtLegal.Http.Errors
import KmtLegal.Services.FormationDraft

/-!
# The database

The tables of `schema.prisma` the services read and write, with the columns they use.  A row is
stored under its primary key and does not repeat it.  Webhook events are stored under their
unique pair of provider and event id, so that the random id of the row plays no part in what
the services compute.  Booking actions, interviews and reports are stored under their unique columns
too.

Enumerations keep the names of the schema, `text` is the value as the code compares it with a
string.
-/

namespace KmtLegal

open Relational

abbrev Uuid := String

/-- Milliseconds since the epoch, as `Date.getTime()`. -/
abbrev Time := ℤ

/-- `Prisma.Decimal`. -/
abbrev Decimal := ℚ

/-! ## Enumerations -/

inductive Currency where
  | egp | usd | eur | sar | aed
  deriving DecidableEq

namespace Currency

/-- `currencyValues`. -/
def values : List Currency := [egp, usd, eur, sar, aed]

def text : Currency → String
  | egp => "EGP"
  | usd => "USD"
  | eur => "EUR"
  | sar => "SAR"
  | aed => "AED"

/-- The currency of a code, if it is one of `currencyValues`. -/
def ofText (code : String) : Option Currency := values.find? fun c ↦ c.text = code

theorem text_injective : Function.Injective text := by
  intro a b h
  cases a <;> cases b <;> first | rfl | exact absurd h (by decide)

@[simp] theorem ofText_text (c : Currency) : ofText c.text = some c := by
  cases c <;> decide

end Currency

inductive PaymentAttemptStatus where
  | created | pending | paid | failed | expired | refunded | disputed | cancelled
  deriving DecidableEq

inductive PaymentTransactionStatus where
  | pending | paid | failed | refunded | disputed | cancelled
  deriving DecidableEq

inductive WebhookSignatureStatus where
  | verified | unverified | invalid
  deriving DecidableEq

inductive WebhookProcessingStatus where
  | pending | processed | failed | ignored
  deriving DecidableEq

inductive PaymentStatus where
  | draft | issued | pending | paid | overdue | cancelled
  deriving DecidableEq

inductive PaymentEntryKind where
  | settlement | refund | reversal | legacy
  deriving DecidableEq

inductive AppointmentStatus where
  | reserved | scheduled | completed | cancelled | rescheduled | noShow
  deriving DecidableEq

inductive AppointmentType where
  | consultation | courtSession | internalMeeting | call | onlineMeeting
  deriving DecidableEq

inductive AppointmentMode where
  | office | phone | online | court
  deriving DecidableEq

inductive ConsultationStatus where
  | new | reviewing | paymentPending | scheduled | rejected | converted
  deriving DecidableEq

inductive ConsultationOutcomeStatus where
  | pending | awaitingResult | missed | successful | noShow | cancelled
  deriving DecidableEq

inductive ConsultationMode where
  | office | phone | online
  deriving DecidableEq

/-- An appointment is held the way the consultation asks for. -/
def ConsultationMode.appointmentMode : ConsultationMode → AppointmentMode
  | office => .office
  | phone => .phone
  | online => .online

inductive Urgency where
  | low | normal | high | urgent
  deriving DecidableEq

inductive CaseStatus where
  | new | underReview | active | awaitingJudgment | completed | closed | archived
  deriving DecidableEq

inductive CasePriority where
  | low | normal | high | urgent
  deriving DecidableEq

inductive ClientStatus where
  | lead | active | inactive | archived | deleted
  deriving DecidableEq

inductive UserStatus where
  | invited | active | suspended | deleted
  deriving DecidableEq

inductive RoleStatus where
  | active | disabled
  deriving DecidableEq

inductive ServiceKind where
  | contractDraft | contractReview | healthCheck | companyFormation
  deriving DecidableEq

inductive ServiceRequestStatus where
  | draft | received | needsInformation | awaitingAcceptance | inProgress | ready | completed
  | cancelled
  deriving DecidableEq

def ServiceRequestStatus.text : ServiceRequestStatus → String
  | draft => "DRAFT"
  | received => "RECEIVED"
  | needsInformation => "NEEDS_INFORMATION"
  | awaitingAcceptance => "AWAITING_ACCEPTANCE"
  | inProgress => "IN_PROGRESS"
  | ready => "READY"
  | completed => "COMPLETED"
  | cancelled => "CANCELLED"

inductive QuestionAnswer where
  | yes | no | unsure | notApplicable
  deriving DecidableEq

inductive ConversationThreadStatus where
  | open | waitingStaff | waitingClient | closed | archived
  deriving DecidableEq

inductive ConversationSender where
  | client | staff | system
  deriving DecidableEq

inductive DocumentVisibility where
  | clientVisible | staffOnly | internalOnly
  deriving DecidableEq

inductive PublicLocale where
  | ar | en
  deriving DecidableEq

namespace PublicLocale

def text : PublicLocale → String
  | ar => "ar"
  | en => "en"

/-- `locale === "en" ? "en" : "ar"`. -/
def ofText (locale : String) : PublicLocale := if locale = "en" then en else ar

end PublicLocale

/-! ## Rows -/

structure PaymentAttempt where
  provider : String
  status : PaymentAttemptStatus
  clientId : Uuid
  consultationRequestId : Uuid
  appointmentId : Uuid
  amount : Decimal
  currency : Currency
  startsAt : Time
  endsAt : Time
  expiresAt : Time
  idempotencyKey : String
  checkoutUrl : Option String := none
  providerSessionId : Option String := none
  providerOrderId : Option String := none
  providerPaymentId : Option String := none
  failureCode : Option String := none
  deriving DecidableEq

structure PaymentTransaction where
  attemptId : Uuid
  provider : String
  providerTransactionId : Option String
  rawStatus : Option String
  status : PaymentTransactionStatus
  amount : Decimal
  currency : Currency
  paidAt : Option Time
  deriving DecidableEq

structure PaymentWebhookEvent where
  attemptId : Option Uuid := none
  transactionId : Option Uuid := none
  signatureStatus : WebhookSignatureStatus
  processingStatus : WebhookProcessingStatus
  replayCount : ℕ := 0
  payloadHash : String
  normalizedPayload : Option Js.Json := none
  errorCode : Option String := none
  processedAt : Option Time := none

structure Payment where
  invoiceNumber : String
  clientId : Uuid
  caseId : Option Uuid := none
  consultationRequestId : Option Uuid := none
  appointmentId : Option Uuid := none
  paymentAttemptId : Option Uuid := none
  issueDate : Time
  dueDate : Option Time := none
  amount : Decimal
  currency : Currency
  status : PaymentStatus
  paymentMethod : Option String := none
  receiptNumber : Option String := none
  paidAt : Option Time := none
  notes : Option String := none
  ledgerReviewRequired : Bool := false
  createdById : Option Uuid := none
  deriving DecidableEq

structure PaymentEntry where
  paymentId : Uuid
  kind : PaymentEntryKind
  amount : Decimal
  currency : Currency
  method : String
  receiptNumber : String
  occurredAt : Time
  approvedById : Option Uuid
  idempotencyKey : String
  externalReference : Option String
  reversesEntryId : Option Uuid := none
  reason : Option String := none
  deriving DecidableEq

structure Appointment where
  clientId : Uuid
  lawyerId : Option Uuid := none
  consultationRequestId : Option Uuid := none
  caseId : Option Uuid := none
  title : String
  type : AppointmentType
  mode : AppointmentMode
  location : Option String := none
  startsAt : Time
  endsAt : Time
  status : AppointmentStatus
  notes : Option String := none
  createdAt : Time := 0
  deriving DecidableEq

structure ConsultationRequest where
  clientId : Option Uuid := none
  publicReference : Option String := none
  publicServiceSlug : Option String := none
  fullName : String
  phone : String
  phoneCanonical : Option String := none
  email : Option String := none
  city : Option String := none
  serviceCategory : String
  summary : String
  aiSummary : Option String := none
  opposingPartyName : Option String := none
  urgency : Urgency := .normal
  preferredMode : ConsultationMode
  contactChannel : String := "PHONE"
  locale : String := "ar"
  status : ConsultationStatus
  confirmationSource : String := "STAFF_APPROVAL"
  requestedStartsAt : Option Time := none
  requestedEndsAt : Option Time := none
  assignedLawyerId : Option Uuid := none
  secretaryReviewedAt : Option Time := none
  secretaryReviewedById : Option Uuid := none
  secretaryReviewNote : Option String := none
  outcomeStatus : ConsultationOutcomeStatus := .pending
  outcomeAt : Option Time := none
  outcomeById : Option Uuid := none
  outcomeReasonCode : Option String := none
  outcomeNote : Option String := none
  outcomeVersion : ℕ := 0
  createdAt : Time := 0
  deriving DecidableEq

structure LegalCase where
  internalFileNumber : String
  clientId : Uuid
  assignedLawyerId : Uuid
  consultationRequestId : Option Uuid := none
  title : String
  caseType : String
  status : CaseStatus := .new
  priority : CasePriority := .normal
  summary : Option String := none
  nextSessionAt : Option Time := none
  deletedAt : Option Time := none
  deriving DecidableEq

structure Client where
  userId : Option Uuid := none
  fullName : String
  phone : String
  phoneCanonical : Option String := none
  email : Option String := none
  city : Option String := none
  source : Option String := none
  status : ClientStatus := .lead
  assignedLawyerId : Option Uuid := none
  updatedAt : Time := 0
  deletedAt : Option Time := none
  deriving DecidableEq

/-- A user with the role the account refers to. -/
structure User where
  status : UserStatus
  roleName : String
  roleStatus : RoleStatus := .active
  deletedAt : Option Time := none
  deriving DecidableEq

/-- What `intakeDraftSchema` reads of a session's draft. -/
structure IntakeDraft where
  fullName : Option String := none
  phone : Option String := none
  email : Option String := none
  city : Option String := none
  service : Option String := none
  summary : Option String := none
  preferredMode : Option ConsultationMode := none
  contactChannel : Option String := none
  requestedStartsAt : Option Time := none
  deriving DecidableEq

/-- What `intakeSchema` reads of a service request's intake. -/
structure ServiceIntake where
  formation : Option FormationDraft := none
  title : String := ""
  purpose : String := ""
  language : String := "ar"
  requestedDate : String := ""
  answers : List (String × QuestionAnswer) := []
  deriving DecidableEq

/-- What `quoteSchema` reads of a quote; the amount is decimal text. -/
structure ServiceQuote where
  amount : String
  currency : Currency
  scope : String
  durationDays : ℕ
  deriving DecidableEq

structure ServiceRequest where
  reference : String
  clientId : Uuid
  assignedLawyerId : Option Uuid := none
  paymentId : Option Uuid := none
  conversationThreadId : Option Uuid := none
  sourceRequestId : Option Uuid := none
  kind : ServiceKind
  locale : String
  status : ServiceRequestStatus := .draft
  intake : ServiceIntake
  questionnaireId : Option Uuid := none
  /-- `none` also stands for what `quoteSchema` refuses. -/
  quote : Option ServiceQuote := none
  quoteVersion : ℕ := 0
  acceptedQuoteVersion : Option ℕ := none
  revision : ℕ := 0
  idempotencyKey : String
  deriving DecidableEq

structure ServiceRequestEvent where
  requestId : Uuid
  actorId : Uuid
  action : String
  body : Option String := none
  internal : Bool := false
  deriving DecidableEq

/-- A question of the health check, in both languages. -/
structure HealthQuestion where
  id : String
  ar : String
  en : String
  deriving DecidableEq

structure HealthQuestionnaire where
  version : ℕ
  questions : List HealthQuestion
  approvedById : Option Uuid := none
  approvedAt : Option Time := none
  published : Bool := false
  deriving DecidableEq

structure Document where
  serviceRequestId : Option Uuid := none
  deliveryVersion : Option ℕ := none
  visibility : DocumentVisibility := .staffOnly
  deletedAt : Option Time := none
  deriving DecidableEq

structure ConversationThread where
  clientId : Option Uuid := none
  status : ConversationThreadStatus := .open
  subject : Option String := none
  assignedToId : Option Uuid := none
  lastMessageAt : Time := 0
  closedAt : Option Time := none
  updatedAt : Time := 0
  deriving DecidableEq

structure ConversationMessage where
  threadId : Uuid
  senderType : ConversationSender
  senderUserId : Option Uuid := none
  body : String
  recipient : Option String := none
  createdAt : Time := 0
  deriving DecidableEq

/-- An interview about a new company. -/
structure FormationInterview where
  id : Uuid
  serviceRequestId : Option Uuid := none
  locale : String
  consentAt : Time
  draft : FormationDraft := {}
  revision : ℕ := 0
  deriving DecidableEq

/-- A conversation with the assistant. -/
structure AssistantSession where
  locale : String := "ar"
  clientId : Option Uuid := none
  consultationRequestId : Option Uuid := none
  conversationThreadId : Option Uuid := none
  draft : IntakeDraft := {}
  /-- The mode of the dialogue is `BOOKING` and the consent has a time. -/
  bookingConsent : Bool := false
  humanOwned : Bool := false
  handoffRequestedAt : Option Time := none
  revision : ℕ := 0
  leaseId : Option Uuid := none
  leaseExpiresAt : Option Time := none
  expiresAt : Time
  deriving DecidableEq

/-! ### The opening hours

Clock times are minutes of the day, dates are days since the epoch. -/

/-- A date of the calendar, as the day it is since the epoch. -/
abbrev CairoDate := ℤ

/-- `consultationAvailabilityDaySchema`. -/
structure ConsultationAvailabilityDay where
  weekday : ℕ
  enabled : Bool
  start : ℕ
  stop : ℕ
  modes : List ConsultationMode
  weekday_le : weekday ≤ 6 := by decide
  start_lt_stop : start < stop := by decide
  stop_le : stop ≤ 1440 := by decide
  modes_ne_nil : modes ≠ [] := by decide
  deriving DecidableEq

/-- The lawyers who take the bookings of a weekday. -/
structure RosterDay where
  weekday : ℕ
  lawyerIds : List Uuid
  weekday_le : weekday ≤ 6 := by decide
  lawyerIds_length : lawyerIds.length ≤ 100 := by decide
  deriving DecidableEq

/-- Hours of one date at which the office, or one of its lawyers, is closed. -/
structure Closure where
  date : CairoDate
  start : ℕ
  stop : ℕ
  lawyerId : Option Uuid := none
  start_lt_stop : start < stop := by decide
  stop_le : stop ≤ 1440 := by decide
  deriving DecidableEq

structure DirectBookingSettings where
  published : Bool := false
  roster : List RosterDay := []
  closures : List Closure := []
  roster_nodup : (roster.map RosterDay.weekday).Nodup := by decide
  closures_length : closures.length ≤ 366 := by decide
  deriving DecidableEq

/-- `consultationAvailabilitySchema`. -/
structure ConsultationAvailability where
  directBooking : DirectBookingSettings := {}
  slotDurationMinutes : ℕ := 60
  minLeadHours : ℕ := 4
  bookingWindowDays : ℕ := 14
  days : List ConsultationAvailabilityDay
  slotDuration_mem : 15 ≤ slotDurationMinutes ∧ slotDurationMinutes ≤ 240 := by decide
  minLead_le : minLeadHours ≤ 168 := by decide
  bookingWindow_mem : 1 ≤ bookingWindowDays ∧ bookingWindowDays ≤ 60 := by decide
  days_length : days.length = 7 := by decide
  deriving DecidableEq

/-! ## Tables -/

structure Database where
  /-- The setting `consultation.availability`, if it is stored. -/
  consultationAvailability : Option ConsultationAvailability := none
  paymentAttempts : Table Uuid PaymentAttempt := ∅
  paymentTransactions : Table Uuid PaymentTransaction := ∅
  paymentWebhookEvents : Table (String × String) PaymentWebhookEvent := ∅
  payments : Table Uuid Payment := ∅
  paymentEntries : Table Uuid PaymentEntry := ∅
  appointments : Table Uuid Appointment := ∅
  consultationRequests : Table Uuid ConsultationRequest := ∅
  legalCases : Table Uuid LegalCase := ∅
  clients : Table Uuid Client := ∅
  users : Table Uuid User := ∅
  assistantSessions : Table Uuid AssistantSession := ∅
  /-- The request hash of a booking action, by its session and key. -/
  assistantBookingActions : Table (Uuid × String) String := ∅
  serviceRequests : Table Uuid ServiceRequest := ∅
  serviceRequestEvents : Table Uuid ServiceRequestEvent := ∅
  healthQuestionnaires : Table Uuid HealthQuestionnaire := ∅
  documents : Table Uuid Document := ∅
  conversationThreads : Table Uuid ConversationThread := ∅
  conversationMessages : Table Uuid ConversationMessage := ∅
  /-- By the session. -/
  formationInterviews : Table Uuid FormationInterview := ∅
  /-- By the interview and the version. -/
  formationReports : Table (Uuid × ℕ) FormationSnapshot := ∅

namespace Database

variable (db : Database)

/-- The attempt's payment, the other side of `Payment.paymentAttemptId`. -/
def paymentOfAttempt (attemptId : Uuid) : Option (Uuid × Payment) :=
  db.payments.findFirst fun _ p ↦ p.paymentAttemptId = some attemptId

/-- The ledger entries of an invoice. -/
def entriesOf (paymentId : Uuid) : List (Uuid × PaymentEntry) :=
  db.paymentEntries.select fun _ e ↦ e.paymentId = paymentId

/-! ### Updates -/

/-- `tx.paymentAttempt.update`. -/
def updateAttempt (id : Uuid) (f : PaymentAttempt → PaymentAttempt) : Database :=
  { db with paymentAttempts := db.paymentAttempts.update id f }

/-- `tx.appointment.update`. -/
def updateAppointment (id : Uuid) (f : Appointment → Appointment) : Database :=
  { db with appointments := db.appointments.update id f }

/-- `tx.consultationRequest.update`. -/
def updateConsultation (id : Uuid) (f : ConsultationRequest → ConsultationRequest) : Database :=
  { db with consultationRequests := db.consultationRequests.update id f }

/-- `tx.paymentWebhookEvent.update`. -/
def updateEvent (event : String × String) (f : PaymentWebhookEvent → PaymentWebhookEvent) :
    Database :=
  { db with paymentWebhookEvents := db.paymentWebhookEvents.update event f }

/-! ### Constraints

The writes below fail where an index or a `CHECK` of the migrations fails.  Each has one lemma
that lists what a successful write tells and what it did. -/

end Database

/-- `lower(btrim("receiptNumber"))`, if something is left of it. -/
def receiptKey (receiptNumber : Option String) : Option String :=
  (receiptNumber.map fun r ↦
    Js.toLowerCase (String.ofList ((r.toList.dropWhile (· = ' ')).rdropWhile (· = ' ')))).filter
      (· ≠ "")

/-- The expression of `payments_manual_paid_receipt_number_unique_idx`, on the rows the index
covers: invoices recorded as paid by hand. -/
def Payment.manualReceiptKey (p : Payment) : Option String :=
  if p.status = .paid ∧ p.paymentAttemptId = none then receiptKey p.receiptNumber else none

/-- `payment_entries_amount_check`. -/
def PaymentEntry.amountCheck (e : PaymentEntry) : Bool :=
  e.amount ≠ 0 ∧ (e.kind ∈ [.settlement, .legacy] → 0 < e.amount) ∧
    (e.kind = .refund → e.amount < 0)

theorem PaymentEntry.amountCheck_iff {e : PaymentEntry} :
    e.amountCheck ↔ e.amount ≠ 0 ∧ (e.kind ∈ [.settlement, .legacy] → 0 < e.amount) ∧
      (e.kind = .refund → e.amount < 0) := by
  simp only [PaymentEntry.amountCheck, decide_eq_true_eq, Bool.decide_and, Bool.and_eq_true]

namespace Database

variable (db : Database)

/-- Whether row `p` under `id` repeats a unique value of another invoice. -/
def paymentClash (id : Uuid) (p : Payment) : Bool :=
  db.payments.any fun id' p' ↦ id' ≠ id ∧
    (p'.invoiceNumber = p.invoiceNumber ∨
      (p.paymentAttemptId.isSome ∧ p'.paymentAttemptId = p.paymentAttemptId) ∨
      (p.manualReceiptKey.isSome ∧ p'.manualReceiptKey = p.manualReceiptKey))

/-- `tx.payment.create`. -/
def createPayment (id : Uuid) (p : Payment) : Except Failure Database := do
  throwIf (db.paymentClash id p) .uniqueConstraint
  let payments ← orThrow (db.payments.create id p) .uniqueConstraint
  return { db with payments }

/-- `tx.payment.update`. -/
def updatePayment (id : Uuid) (f : Payment → Payment) : Except Failure Database := do
  let p ← orThrow (db.payments.lookup id) .recordNotFound
  throwIf (db.paymentClash id (f p)) .uniqueConstraint
  return { db with payments := db.payments.update id f }

/-- Whether entry `e` repeats a unique value of a stored entry. -/
def paymentEntryClash (e : PaymentEntry) : Bool :=
  db.paymentEntries.any fun _ e' ↦
    (e'.paymentId = e.paymentId ∧ e'.idempotencyKey = e.idempotencyKey) ∨
      (e.externalReference.isSome ∧ e'.externalReference = e.externalReference) ∨
      (e.reversesEntryId.isSome ∧ e'.reversesEntryId = e.reversesEntryId)

/-- `tx.paymentEntry.create`. -/
def createPaymentEntry (id : Uuid) (e : PaymentEntry) : Except Failure Database := do
  throwIf (!e.amountCheck) .checkConstraint
  throwIf (db.paymentEntryClash e) .uniqueConstraint
  let paymentEntries ← orThrow (db.paymentEntries.create id e) .uniqueConstraint
  return { db with paymentEntries }

/-- `tx.paymentTransaction.create`. -/
def createPaymentTransaction (id : Uuid) (t : PaymentTransaction) : Except Failure Database := do
  throwIf (t.providerTransactionId.isSome ∧ db.paymentTransactions.any fun _ t' ↦
    t'.provider = t.provider ∧ t'.providerTransactionId = t.providerTransactionId)
    .uniqueConstraint
  let paymentTransactions ← orThrow (db.paymentTransactions.create id t) .uniqueConstraint
  return { db with paymentTransactions }

/-- `tx.appointment.create`. -/
def createAppointment (id : Uuid) (p : Appointment) : Except Failure Database := do
  let appointments ← orThrow (db.appointments.create id p) .uniqueConstraint
  return { db with appointments }

variable {db : Database}

theorem createAppointment_eq_ok {id : Uuid} {p : Appointment} {db' : Database} :
    db.createAppointment id p = .ok db' ↔
      db.appointments.lookup id = none ∧
        db' = { db with appointments := db.appointments.insert id p } := by
  simp only [createAppointment, bind_eq_ok, orThrow_eq_ok, Table.create_eq_some, pure_eq_ok]
  constructor
  · rintro ⟨_, ⟨hnone, rfl⟩, rfl⟩
    exact ⟨hnone, rfl⟩
  · rintro ⟨hnone, rfl⟩
    exact ⟨_, ⟨hnone, rfl⟩, rfl⟩

theorem createPayment_eq_ok {id : Uuid} {p : Payment} {db' : Database} :
    db.createPayment id p = .ok db' ↔
      db.paymentClash id p = false ∧ db.payments.lookup id = none ∧
        db' = { db with payments := db.payments.insert id p } := by
  simp only [createPayment, bind_eq_ok, throwIf_eq_ok, orThrow_eq_ok, Table.create_eq_some,
    pure_eq_ok, Bool.not_eq_true]
  constructor
  · rintro ⟨_, hclash, _, ⟨hnone, rfl⟩, rfl⟩
    exact ⟨hclash, hnone, rfl⟩
  · rintro ⟨hclash, hnone, rfl⟩
    exact ⟨(), hclash, _, ⟨hnone, rfl⟩, rfl⟩

theorem updatePayment_eq_ok {id : Uuid} {f : Payment → Payment} {db' : Database} :
    db.updatePayment id f = .ok db' ↔
      ∃ p, db.payments.lookup id = some p ∧ db.paymentClash id (f p) = false ∧
        db' = { db with payments := db.payments.update id f } := by
  simp only [updatePayment, bind_eq_ok, throwIf_eq_ok, orThrow_eq_ok, pure_eq_ok,
    Bool.not_eq_true]
  constructor
  · rintro ⟨p, hp, _, hclash, rfl⟩
    exact ⟨p, hp, hclash, rfl⟩
  · rintro ⟨p, hp, hclash, rfl⟩
    exact ⟨p, hp, (), hclash, rfl⟩

theorem createPaymentEntry_eq_ok {id : Uuid} {e : PaymentEntry} {db' : Database} :
    db.createPaymentEntry id e = .ok db' ↔
      e.amountCheck ∧ db.paymentEntryClash e = false ∧ db.paymentEntries.lookup id = none ∧
        db' = { db with paymentEntries := db.paymentEntries.insert id e } := by
  simp only [createPaymentEntry, bind_eq_ok, throwIf_eq_ok, orThrow_eq_ok, Table.create_eq_some,
    pure_eq_ok, Bool.not_eq_true, Bool.not_eq_false, Bool.not_eq_eq_eq_not, Bool.not_true]
  constructor
  · rintro ⟨_, hcheck, _, hclash, _, ⟨hnone, rfl⟩, rfl⟩
    exact ⟨hcheck, hclash, hnone, rfl⟩
  · rintro ⟨hcheck, hclash, hnone, rfl⟩
    exact ⟨(), hcheck, (), hclash, _, ⟨hnone, rfl⟩, rfl⟩

theorem createPaymentTransaction_eq_ok {id : Uuid} {t : PaymentTransaction} {db' : Database} :
    db.createPaymentTransaction id t = .ok db' ↔
      (t.providerTransactionId.isSome → db.paymentTransactions.any (fun _ t' ↦
        t'.provider = t.provider ∧ t'.providerTransactionId = t.providerTransactionId) = false) ∧
      db.paymentTransactions.lookup id = none ∧
        db' = { db with paymentTransactions := db.paymentTransactions.insert id t } := by
  simp only [createPaymentTransaction, bind_eq_ok, throwIf_eq_ok, orThrow_eq_ok,
    Table.create_eq_some, pure_eq_ok, not_and, Bool.not_eq_true]
  constructor
  · rintro ⟨_, hclash, _, ⟨hnone, rfl⟩, rfl⟩
    exact ⟨hclash, hnone, rfl⟩
  · rintro ⟨hclash, hnone, rfl⟩
    exact ⟨(), hclash, _, ⟨hnone, rfl⟩, rfl⟩

end Database

end KmtLegal
