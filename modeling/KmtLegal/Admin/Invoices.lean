import KmtLegal.Platform
import KmtLegal.Payments.Ledger
import KmtLegal.Js.Double

/-!
# Invoices of the office

`createAdminPayment` and `updateAdminPayment` of `finance-report-service.ts`.  An invoice that is
created or edited as paid is settled in the same transaction, and an invoice with entries is no
longer edited.
-/

namespace KmtLegal

open Relational Js

/-! ## Bodies -/

/-- What `adminPaymentWriteSchema` returns.  An amount is rounded to whole cents, which may leave
nothing of a positive one. -/
structure AdminPaymentWriteInput where
  invoiceNumber : String := ""
  clientId : Uuid
  caseId : Option String := none
  issueDate : String
  dueDate : Option String := none
  cents : ℕ
  cents_le : cents ≤ 99999999999
  currency : Currency := .egp
  status : PaymentStatus := .draft
  paymentMethod : Option String := none
  receiptNumber : Option String := none
  paidAt : Option String := none
  notes : Option String := none

/-- `new Prisma.Decimal(body.amount.toFixed(2))`. -/
def AdminPaymentWriteInput.amount (body : AdminPaymentWriteInput) : Decimal := body.cents / 100

theorem AdminPaymentWriteInput.amount_nonneg (body : AdminPaymentWriteInput) : 0 ≤ body.amount := by
  unfold amount
  positivity

/-- `parseDateInput(value, field)`. -/
def parseDateInput (P : Platform) (value : Option String) (field : String) :
    Except Failure (Option Time) :=
  let trimmed := trim (value.getD "")
  if trimmed = "" then .ok none
  else
    match P.parseDate trimmed with
    | some date => .ok (some date)
    | none => .error (.validation (field ++ " is invalid."))

/-- `parseRequiredDate(value, field)`. -/
def parseRequiredDate (P : Platform) (value field : String) : Except Failure Time := do
  let date ← parseDateInput P (some value) field
  orThrow date (.validation (field ++ " is required."))

/-- `paidAtForWrite(body)`. -/
def paidAtForWrite (P : Platform) (body : AdminPaymentWriteInput) (now : Time) :
    Except Failure (Option Time) := do
  let paidAt ← parseDateInput P body.paidAt "paidAt"
  throwIf (paidAt.isSome ∧ body.status ≠ .paid)
    (.validation "paidAt can be set only when payment status is PAID.")
  return if body.status = .paid then some (paidAt.getD now) else none

/-- What `paymentMutationData` returns: the columns both services write. -/
structure PaymentMutationData where
  invoiceNumber : String
  clientId : Uuid
  caseId : Option Uuid
  issueDate : Time
  dueDate : Option Time
  amount : Decimal
  currency : Currency
  status : PaymentStatus
  paymentMethod : Option String
  receiptNumber : Option String
  paidAt : Option Time
  notes : Option String

/-- `paymentMutationData(body, invoiceNumber, issueDate)`. -/
def paymentMutationData (P : Platform) (body : AdminPaymentWriteInput) (invoiceNumber : String)
    (issueDate now : Time) : Except Failure PaymentMutationData := do
  let dueDate ← parseDateInput P body.dueDate "dueDate"
  let paidAt ← paidAtForWrite P body now
  return {
    invoiceNumber
    clientId := body.clientId
    caseId := orNull body.caseId
    issueDate
    dueDate
    amount := body.amount
    currency := body.currency
    status := body.status
    paymentMethod := orNull body.paymentMethod
    receiptNumber := orNull body.receiptNumber
    paidAt
    notes := orNull body.notes }

/-- The row with the columns written. -/
def PaymentMutationData.write (data : PaymentMutationData) (p : Payment) : Payment :=
  { p with
    invoiceNumber := data.invoiceNumber
    clientId := data.clientId
    caseId := data.caseId
    issueDate := data.issueDate
    dueDate := data.dueDate
    amount := data.amount
    currency := data.currency
    status := data.status
    paymentMethod := data.paymentMethod
    receiptNumber := data.receiptNumber
    paidAt := data.paidAt
    notes := data.notes }

/-- A new row. -/
def PaymentMutationData.create (data : PaymentMutationData) (createdById : Uuid) : Payment where
  invoiceNumber := data.invoiceNumber
  clientId := data.clientId
  caseId := data.caseId
  issueDate := data.issueDate
  dueDate := data.dueDate
  amount := data.amount
  currency := data.currency
  status := data.status
  paymentMethod := data.paymentMethod
  receiptNumber := data.receiptNumber
  paidAt := data.paidAt
  notes := data.notes
  createdById := some createdById

/-! ## Invoice numbers -/

/-- `formatAdminInvoiceNumber(year, sequence)`. -/
def formatAdminInvoiceNumber (year : ℤ) (sequence : ℕ) : Except Failure String :=
  if year < 1 then .error (.plain "Invoice year is invalid.")
  else if sequence < 1 then .error (.plain "Invoice sequence is invalid.")
  else .ok ("INV-" ++ toString year ++ "-" ++ padStart (wholeText sequence) 4)

/-- `Number(match[2])` of an invoice number of the year, by `generatedInvoiceNumberPattern`. -/
def invoiceSequence (year : ℤ) (invoiceNumber : String) : Option ℕ :=
  let rest := invoiceNumber.toList.drop 4
  match rest.drop 4 with
  | '-' :: digits =>
    if startsWith invoiceNumber "INV-" ∧ isDigits (rest.take 4) ∧
        String.ofList (rest.take 4) = toString year ∧ isDigits digits then
      digitsNumber digits
    else none
  | _ => none

/-- `nextAdminInvoiceNumberFromExisting(year, invoiceNumbers)`. -/
def nextAdminInvoiceNumberFromExisting (year : ℤ) (invoiceNumbers : List String) :
    Except Failure String :=
  let maxSequence := (invoiceNumbers.filterMap (invoiceSequence year)).foldl max 0
  formatAdminInvoiceNumber year (roundDouble (maxSequence + 1))

/-- `generateAdminInvoiceNumber(issueDate)`. -/
def generateAdminInvoiceNumber (db : Database) (issueDate : Time) : Except Failure String :=
  let year := utcFullYear issueDate
  nextAdminInvoiceNumberFromExisting year ((db.payments.select fun _ p ↦
    startsWith p.invoiceNumber ("INV-" ++ toString year ++ "-")).map fun e ↦ e.2.invoiceNumber)

example : nextAdminInvoiceNumberFromExisting 2026 ["INV-2026-0009", "INV-2025-0041", "A-7"] =
    .ok "INV-2026-0010" := by decide +kernel

/-! ## Checks -/

/-- `assertFinanceManage(actor)`. -/
def assertFinanceManage (actor : Principal) : Except Failure Unit :=
  throwIf (¬hasPermission actor "finance.manage.any")
    (.permissionDenied "Finance management permission is required.")

/-- `isGatewayManagedPaymentMethod(value)`. -/
def isGatewayManagedPaymentMethod (value : Option String) : Bool :=
  let normalized := toLowerCase (trim (value.getD ""))
  ["paytabs", "paymob", "hosted checkout", "gateway", "webhook"].any fun word ↦
    hasWord word normalized

/-- `assertClientAndCase(body)`. -/
def assertClientAndCase (db : Database) (body : AdminPaymentWriteInput) : Except Failure Unit := do
  throwIf ((db.clients.lookup body.clientId).all fun client ↦ client.deletedAt.isSome)
    (.validation "Client is invalid.")
  match orNull body.caseId with
  | none => return ()
  | some caseId =>
    throwIf ((db.legalCases.lookup caseId).all fun c ↦
        c.clientId ≠ body.clientId ∨ c.deletedAt.isSome)
      (.validation "Case is invalid for the selected client.")

def duplicateReceipt : String := "A paid manual payment with this receipt number already exists."

/-- `assertManualPaymentDoesNotDuplicateGatewayOrReceipt(body, existingPaymentId)`. -/
def assertManualPaymentDoesNotDuplicateGatewayOrReceipt (db : Database)
    (body : AdminPaymentWriteInput) (existingPaymentId : Option Uuid) : Except Failure Unit :=
  if body.status ≠ .paid then .ok ()
  else do
    throwIf (isGatewayManagedPaymentMethod body.paymentMethod) (.conflict
      "Gateway payments must be recorded by the trusted payment webhook, not as a manual invoice.")
    let receiptNumber := trim (body.receiptNumber.getD "")
    if receiptNumber = "" then return ()
    else
      throwIf (db.payments.any fun id p ↦ p.receiptNumber = some receiptNumber ∧
        p.status = .paid ∧ some id ≠ existingPaymentId) (.conflict duplicateReceipt)

/-- `handlePaymentWriteError(error)`: a receipt that is taken has a text of its own. -/
def paymentWriteError (db : Database) (id : Uuid) (body : AdminPaymentWriteInput)
    (invoiceNumber : String) : Failure → Failure
  | .uniqueConstraint =>
    let key := if body.status = .paid then receiptKey (orNull body.receiptNumber) else none
    let numberTaken := db.payments.any fun id' p ↦ id' ≠ id ∧ p.invoiceNumber = invoiceNumber
    let receiptTaken := db.payments.any fun id' p ↦
      id' ≠ id ∧ key.isSome ∧ p.manualReceiptKey = key
    if ¬numberTaken ∧ receiptTaken then .conflict duplicateReceipt
    else .conflict "Invoice number already exists."
  | error => error

/-! ## The services -/

/-- A call of `createAdminPayment`, with its clock and the ids of its rows. -/
structure InvoiceCreation where
  actor : Principal
  body : AdminPaymentWriteInput
  now : Time
  paymentId : Uuid
  entryId : Uuid

/-- An invoice that was written as paid is settled. -/
def settleIfPaid (db : Database) (entryId paymentId : Uuid) (payment : Payment) (now : Time) :
    Except Failure Database :=
  if payment.status = .paid then recordTrustedInvoiceSettlement db entryId paymentId payment now
  else .ok db

/-- The transaction of `createAdminPayment`. -/
def createInvoice (P : Platform) (db : Database) (creation : InvoiceCreation)
    (invoiceNumber : String) (issueDate : Time) : Except Failure Database := do
  let data ← paymentMutationData P creation.body invoiceNumber issueDate creation.now
  let created := data.create creation.actor.id
  let db ← db.createPayment creation.paymentId created
  settleIfPaid db creation.entryId creation.paymentId created creation.now

/-- `requestedInvoiceNumber || await generateAdminInvoiceNumber(issueDate)`. -/
def nextInvoiceNumber (db : Database) (creation : InvoiceCreation) (issueDate : Time) :
    Except Failure String :=
  let requested := trim creation.body.invoiceNumber
  if requested = "" then generateAdminInvoiceNumber db issueDate else .ok requested

/-- The loop of `createAdminPayment`: a generated number that is taken is generated again. -/
def createInvoiceAttempts (P : Platform) (db : Database) (creation : InvoiceCreation)
    (issueDate : Time) : ℕ → Except Failure Database
  | 0 => .error (.conflict "Could not generate a unique invoice number. Try again.")
  | attempts + 1 => do
    let invoiceNumber ← nextInvoiceNumber db creation issueDate
    match createInvoice P db creation invoiceNumber issueDate with
    | .ok db => return db
    | .error error =>
      if trim creation.body.invoiceNumber = "" ∧ error = .uniqueConstraint ∧ attempts ≠ 0 then
        createInvoiceAttempts P db creation issueDate attempts
      else .error (paymentWriteError db creation.paymentId creation.body invoiceNumber error)

/-- `createAdminPayment({ actor, body })`. -/
def createAdminPayment (P : Platform) (db : Database) (creation : InvoiceCreation) :
    Except Failure Database := do
  assertFinanceManage creation.actor
  assertClientAndCase db creation.body
  assertManualPaymentDoesNotDuplicateGatewayOrReceipt db creation.body none
  let issueDate ← parseRequiredDate P creation.body.issueDate "issueDate"
  createInvoiceAttempts P db creation issueDate 5

/-- A call of `updateAdminPayment`, with its clock and the id of a settlement. -/
structure InvoiceUpdate where
  actor : Principal
  paymentId : String
  body : AdminPaymentWriteInput
  now : Time
  entryId : Uuid

/-- The transaction of `updateAdminPayment`. -/
def updateInvoice (P : Platform) (db : Database) (update : InvoiceUpdate) (paymentId : Uuid)
    (invoiceNumber : String) : Except Failure Database := do
  let current ← orThrow (db.payments.lookup paymentId) .recordNotFound
  throwIf (db.entriesOf paymentId ≠ [] ∨ current.ledgerReviewRequired ∨
    current.paymentAttemptId.isSome)
    (.conflict "Recorded payments are immutable. Use a ledger correction instead.")
  let issueDate ← parseRequiredDate P update.body.issueDate "issueDate"
  let data ← paymentMutationData P update.body invoiceNumber issueDate update.now
  let db ← db.updatePayment paymentId data.write
  settleIfPaid db update.entryId paymentId (data.write current) update.now

/-- `updateAdminPayment({ actor, paymentId, body })`. -/
def updateAdminPayment (P : Platform) (db : Database) (update : InvoiceUpdate) :
    Except Failure Database := do
  assertFinanceManage update.actor
  let paymentId ← P.parseUuid update.paymentId "Payment id is invalid."
  assertClientAndCase db update.body
  let existing ← orThrow (db.payments.lookup paymentId) (.notFound "Payment was not found.")
  throwIf existing.paymentAttemptId.isSome
    (.conflict "Gateway-confirmed payments cannot be edited as manual finance records.")
  assertManualPaymentDoesNotDuplicateGatewayOrReceipt db update.body (some paymentId)
  let invoiceNumber := orElse update.body.invoiceNumber existing.invoiceNumber
  match updateInvoice P db update paymentId invoiceNumber with
  | .ok db => return db
  | .error error => .error (paymentWriteError db paymentId update.body invoiceNumber error)

end KmtLegal
