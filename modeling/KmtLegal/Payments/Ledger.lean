import Mathlib.Algebra.BigOperators.Group.List.Basic
import Mathlib.Tactic.Linarith
import Mathlib.Tactic.Positivity
import KmtLegal.Auth.Policy
import KmtLegal.Payments.WebhookState

/-!
# The payment ledger

`payment-ledger-service.ts`: the balance of an invoice, and the posting of settlements, refunds
and corrections to it.  An entry is never changed or deleted, which a trigger of the database sees
to; the invoice's status follows from its balance at every posting.
-/

namespace KmtLegal

open Relational

/-! ## Balances -/

/-- What `invoiceBalance` reports. -/
structure InvoiceBalance where
  total : Decimal
  paid : Decimal
  remaining : Decimal
  reviewRequired : Bool
  deriving DecidableEq

/-- The sum of the entries. -/
def paidAmount (entries : List (Uuid × PaymentEntry)) : Decimal :=
  (entries.map fun e ↦ e.2.amount).sum

/-- `invoiceBalance(invoice, entries)`. -/
def invoiceBalance (invoice : Payment) (entries : List (Uuid × PaymentEntry)) : InvoiceBalance :=
  let paid := paidAmount entries
  { total := invoice.amount
    paid
    remaining := if invoice.status = .cancelled ∨ invoice.status = .draft then 0
      else max 0 (invoice.amount - paid)
    reviewRequired := invoice.ledgerReviewRequired ∨ paid < 0 ∨ invoice.amount < paid ∨
      (invoice.status = .paid ∧ paid ≠ invoice.amount) }

/-! ## Bodies -/

inductive PaymentEntryMethod where
  | cash | bankTransfer
  deriving DecidableEq

def PaymentEntryMethod.text : PaymentEntryMethod → String
  | cash => "CASH"
  | bankTransfer => "BANK_TRANSFER"

/-- The fields of `paymentEntryInputSchema`, each of them accepted: a positive amount in whole
cents and one of three kinds. -/
structure PaymentEntryInput where
  idempotencyKey : Uuid
  kind : PaymentEntryKind
  kind_ne_legacy : kind ≠ .legacy
  cents : ℕ
  cents_pos : 0 < cents
  currency : Currency
  method : PaymentEntryMethod
  receiptNumber : String
  occurredAt : Time
  reversesEntryId : Option Uuid := none
  reason : Option String := none

namespace PaymentEntryInput

/-- `new Prisma.Decimal(body.amount)`. -/
def amount (body : PaymentEntryInput) : Decimal := body.cents / 100

theorem amount_pos (body : PaymentEntryInput) : 0 < body.amount := by
  have hcents := body.cents_pos
  unfold amount
  positivity

/-- The issues of `superRefine`. -/
def issues (body : PaymentEntryInput) (now : Time) : List ApiErrorDetail :=
  let issue (path message : String) : ApiErrorDetail :=
    { path := some path, message, code := some "custom" }
  (if (body.kind = .reversal) ≠ (body.reversesEntryId.isSome : Prop) then
    [issue "reversesEntryId" "Correction requires an original entry."] else []) ++
  (if body.kind ≠ .settlement ∧ body.reason.getD "" = "" then
    [issue "reason" "A reason is required for refunds and corrections."] else []) ++
  (if now + 60000 < body.occurredAt then
    [issue "occurredAt" "The payment date cannot be in the future."] else [])

/-- `parseWithSchema(paymentEntryInputSchema, body)`. -/
def parse (body : PaymentEntryInput) (now : Time) : Except Failure PaymentEntryInput :=
  if body.issues now = [] then .ok body
  else .error (.validation "البيانات المرسلة غير مكتملة أو غير صحيحة." (body.issues now))

theorem parse_eq_ok {body body' : PaymentEntryInput} {now : Time} (h : body.parse now = .ok body') :
    body' = body ∧ (body.kind = .reversal ↔ body.reversesEntryId.isSome) := by
  unfold parse at h
  split_ifs at h with hissues
  · cases h
    simp only [issues, List.append_eq_nil_iff, ite_eq_right_iff, reduceCtorEq, imp_false, ne_eq,
      not_not, eq_iff_iff] at hissues
    exact ⟨rfl, hissues.1.1⟩

end PaymentEntryInput

/-! ## Posting -/

/-- A call of `postPaymentEntry`, with its clock and the id of the entry. -/
structure EntryPosting where
  actor : Principal
  paymentId : Uuid
  body : PaymentEntryInput
  /-- When the body is checked. -/
  checkedAt : Time
  /-- When the due date is compared. -/
  postedAt : Time
  entryId : Uuid

/-- The stored entry is what the body asks for, so that the body repeats an earlier action. -/
def PaymentEntry.repeats (existing : PaymentEntry) (body : PaymentEntryInput) : Bool :=
  existing.kind = body.kind ∧ |existing.amount| = body.amount ∧ existing.currency = body.currency ∧
    existing.method = body.method.text ∧ existing.receiptNumber = body.receiptNumber ∧
    existing.occurredAt = body.occurredAt ∧ existing.reversesEntryId = body.reversesEntryId ∧
    existing.reason = body.reason

/-- The signed amount of an entry; a correction takes back the whole of an entry that is no
correction itself and was not taken back before. -/
def entryAmount (entries : List (Uuid × PaymentEntry)) (body : PaymentEntryInput) :
    Except Failure Decimal :=
  match body.kind with
  | .reversal => do
    let refused := Failure.conflict "The original payment entry cannot be reversed."
    let (originalId, original) ← orThrow
      (entries.find? fun e ↦ some e.1 = body.reversesEntryId) refused
    throwIf (original.kind = .reversal ∨
      (∃ e ∈ entries, e.2.reversesEntryId = some originalId) ∨ |original.amount| ≠ body.amount)
      refused
    return -original.amount
  | .refund => .ok (-body.amount)
  | _ => .ok body.amount

/-- The entry that is written. -/
def postedEntry (posting : EntryPosting) (invoice : Payment) (amount : Decimal) : PaymentEntry :=
  let body := posting.body
  { paymentId := posting.paymentId
    kind := body.kind
    amount
    currency := invoice.currency
    method := body.method.text
    receiptNumber := body.receiptNumber
    occurredAt := body.occurredAt
    approvedById := some posting.actor.id
    idempotencyKey := body.idempotencyKey
    externalReference := if body.kind = .settlement then some ("manual:" ++
      invoice.currency.text ++ ":" ++ body.method.text ++ ":" ++ body.receiptNumber) else none
    reversesEntryId := body.reversesEntryId
    reason := body.reason }

/-- The invoice with its new balance. -/
def Payment.settle (invoice : Payment) (posting : EntryPosting) (net : Decimal) : Payment :=
  { invoice with
    status :=
      if invoice.status = .cancelled then .cancelled
      else if net = invoice.amount then .paid
      else if ∃ dueDate ∈ invoice.dueDate, dueDate < posting.postedAt then .overdue
      else .pending
    paidAt := if net = invoice.amount then some posting.body.occurredAt else none }

/-- `postPaymentEntry({ actor, paymentId, body })`. -/
def postPaymentEntry (db : Database) (posting : EntryPosting) :
    Except Failure (Database × Uuid × PaymentEntry) := do
  throwIf (¬hasPermission posting.actor "finance.manage.any")
    (.permissionDenied "Finance management permission is required.")
  let body ← posting.body.parse posting.checkedAt
  let invoice ← orThrow (db.payments.lookup posting.paymentId) (.notFound "Payment was not found.")
  let entries := db.entriesOf posting.paymentId
  match entries.find? fun e ↦ e.2.idempotencyKey = body.idempotencyKey with
  | some existing =>
    throwIf (¬existing.2.repeats body)
      (.conflict "This payment action identifier has already been used.")
    return (db, existing)
  | none =>
    throwIf (invoice.ledgerReviewRequired ∨ invoice.paymentAttemptId.isSome)
      (.conflict "This invoice requires payment-provider reconciliation before manual changes.")
    throwIf (body.currency ≠ invoice.currency ∨ invoice.status = .draft ∨
      (invoice.status = .cancelled ∧ body.kind = .settlement))
      (.conflict "This payment does not match an open invoice.")
    let balance := invoiceBalance invoice entries
    throwIf balance.reviewRequired (.conflict "The invoice balance requires reconciliation.")
    let amount ← entryAmount entries body
    let net := balance.paid + amount
    throwIf (net < 0 ∨ invoice.amount < net)
      (.conflict "The payment exceeds the invoice balance or refundable amount.")
    let entry := postedEntry posting invoice amount
    let db ← db.createPaymentEntry posting.entryId entry
    let db ← db.updatePayment posting.paymentId fun invoice ↦ invoice.settle posting net
    return (db, posting.entryId, entry)

end KmtLegal
