import KmtLegal.Payments.Replay
import KmtLegal.Payments.WebhookEffects
import KmtLegal.Relational.Run

/-!
# The money status of a webhook event

The list of webhook events shows what the provider reported next to what the attempt expects, under
a label, `paymentWebhookMoneyComparison`, and can be filtered by that label,
`paymentWebhookMoneyStatusWhere`.  The label is computed from the stored payload, the filter is a
condition of the query, and one does not know of the other.
-/

namespace KmtLegal

open Relational Js

/-- `webhookMoneyStatusSchema`. -/
inductive MoneyStatus where
  | matched | amountMismatch | currencyMismatch | missingAttempt | notPaid | needsReview
  deriving DecidableEq

/-! ## The filter -/

/-- The path `["status"]` of the stored payload; a missing payload has none. -/
def PaymentWebhookEvent.storedStatus (event : PaymentWebhookEvent) : Option Json :=
  match event.normalizedPayload with
  | some (.obj fields) => Json.field fields "status"
  | _ => none

/-- The value is the text. -/
def isText (text : String) : Json → Bool
  | .str s => s = text
  | _ => false

/-- `paymentWebhookMoneyStatusWhere(status)`.  A comparison with a path that is not there is neither
true nor false, so the row is not selected, by `not` either. -/
def paymentWebhookMoneyStatusWhere (status : MoneyStatus) (event : PaymentWebhookEvent) : Bool :=
  match status with
  | .matched => event.attemptId.isSome ∧ event.processingStatus = .processed ∧
      event.errorCode = none ∧ event.storedStatus.any (isText "PAID")
  | .amountMismatch => event.errorCode = some "PAYMENT_AMOUNT_MISMATCH"
  | .currencyMismatch => event.errorCode = some "PAYMENT_CURRENCY_MISMATCH"
  | .missingAttempt => event.attemptId = none
  | .notPaid => event.storedStatus.any fun value ↦ !isText "PAID" value
  | .needsReview => event.processingStatus = .failed ∨ event.signatureStatus = .invalid ∨
      event.errorCode ≠ none ∨ event.attemptId = none

/-! ## The label -/

/-- The result of `moneyComparisonResult`, with amounts for their texts. -/
structure MoneyComparison where
  status : MoneyStatus
  expectedAmount : Option Decimal
  expectedCurrency : Option String
  receivedAmount : Option String
  receivedCurrency : Option String
  providerStatus : Option ProviderPaymentStatus
  differenceAmount : Option DecimalResult := none

/-- `text || null`. -/
def nonEmpty (text : String) : Option String := if text = "" then none else some text

/-- `new Prisma.Decimal(text).minus(expected)`; what is not finite stays so. -/
def difference (P : Platform) (text : String) (expected : Decimal) : DecimalResult :=
  match P.decimal text with
  | .finite amount => .finite (amount - expected)
  | .notFinite => .notFinite
  | .throws => .throws

/-- `paymentWebhookMoneyComparison(input)`. -/
def paymentWebhookMoneyComparison (P : Platform) (event : PaymentWebhookEvent)
    (attempt : Option PaymentAttempt) : MoneyComparison :=
  let normalized := parseStoredNormalizedPayload event.normalizedPayload
  let expectedAmount := attempt.map PaymentAttempt.amount
  let expectedCurrency := attempt.map fun a ↦ a.currency.text
  let receivedAmount := normalized.bind fun p ↦ nonEmpty (trim p.amount)
  let receivedCurrency := normalized.bind fun p ↦ nonEmpty (toUpperCase (trim p.currency))
  let providerStatus := normalized.map NormalizedWebhookPayload.status
  let result (status : MoneyStatus) : MoneyComparison :=
    { status, expectedAmount, expectedCurrency, receivedAmount, receivedCurrency, providerStatus }
  if event.errorCode = some "PAYMENT_AMOUNT_MISMATCH" then result .amountMismatch
  else if event.errorCode = some "PAYMENT_CURRENCY_MISMATCH" then result .currencyMismatch
  else if attempt.isNone then result .missingAttempt
  else if event.signatureStatus = .invalid ∨ event.processingStatus = .failed ∨
      event.errorCode.getD "" ≠ "" then result .needsReview
  else if providerStatus ≠ some .paid then result .notPaid
  else
    match receivedAmount with
    | none => result .amountMismatch
    | some amount =>
      if receivedCurrency = none ∨ receivedCurrency ≠ expectedCurrency then
        result .currencyMismatch
      else
        match difference P amount (expectedAmount.getD 0) with
        | .throws => result .amountMismatch
        | differenceAmount =>
          { result (if differenceAmount = .finite 0 then .matched else .amountMismatch) with
            differenceAmount := some differenceAmount }

/-- The attempt an event is listed with. -/
def Database.attemptOf (db : Database) (event : PaymentWebhookEvent) : Option PaymentAttempt :=
  event.attemptId.bind db.paymentAttempts.lookup

/-- The label of an event in the list. -/
def moneyStatus (P : Platform) (db : Database) (event : PaymentWebhookEvent) : MoneyStatus :=
  (paymentWebhookMoneyComparison P event (db.attemptOf event)).status

section

variable {P : Platform} {event : PaymentWebhookEvent} {a : PaymentAttempt}
  {p : NormalizedWebhookPayload}

/-- A reported payment is labelled as matched exactly if a payment transaction finds no problem with
it. -/
theorem comparison_of_paid (hcode : event.errorCode = none) (hsigned : event.signatureStatus ≠ .invalid)
    (hprocessed : event.processingStatus ≠ .failed)
    (hpayload : parseStoredNormalizedPayload event.normalizedPayload = some p)
    (hpaid : p.status = .paid) :
    (paymentWebhookMoneyComparison P event (some a)).status = .matched ↔
      paidWebhookPayloadProblem P p a = none := by
  simp only [paymentWebhookMoneyComparison, hcode, hpayload, hpaid, hsigned, hprocessed, nonEmpty,
    paidWebhookPayloadProblem, difference, Option.map_some, Option.bind_some, Option.isNone_some,
    Option.getD_some, Option.getD_none, reduceCtorEq, if_false, ne_eq, not_true_eq_false, or_self,
    Bool.false_eq_true]
  by_cases hamount : trim p.amount = ""
  · simp only [hamount, if_true, reduceCtorEq, false_iff]
    split_ifs <;> simp only [not_false_eq_true]
  · by_cases hcurrency : toUpperCase (trim p.currency) = ""
    · simp only [hamount, hcurrency, if_false, if_true, true_or, reduceCtorEq]
    · by_cases hsame : toUpperCase (trim p.currency) = a.currency.text
      · simp only [hamount, hsame ▸ hcurrency, hsame, if_false, reduceCtorEq, not_true_eq_false, or_self]
        cases hdecimal : P.decimal (trim p.amount) with
        | throws => simp only [reduceCtorEq]
        | notFinite => simp only [reduceCtorEq, if_false]
        | finite amount =>
          simp only [DecimalResult.finite.injEq, sub_eq_zero]
          by_cases heq : amount = a.amount
          · simp only [heq, if_true]
          · simp only [heq, if_false, reduceCtorEq]
      · simp only [hamount, hcurrency, hsame, if_false, not_false_eq_true, or_true, if_true,
          Option.some.injEq, reduceCtorEq]

/-! ## The two on one event -/

/-- For each status but the last, the filter selects the event exactly if the label is the status. -/
def FilterAgrees (P : Platform) (db : Database) (event : PaymentWebhookEvent) : Prop :=
  ∀ status ≠ .needsReview,
    (paymentWebhookMoneyStatusWhere status event ↔ moneyStatus P db event = status)

/-- The payload reports something else than a payment, and the event is up for review: it has failed,
or has no attempt. -/
def UnpaidForReview (event : PaymentWebhookEvent) : Prop :=
  (event.storedStatus.any fun value ↦ !isText "PAID" value) ∧
    (event.processingStatus = .failed ∨ event.attemptId = none)

/-- The event is processed and its payload reports a payment, but not of the attempt's money. -/
def UncheckedPayment (P : Platform) (db : Database) (event : PaymentWebhookEvent) : Prop :=
  event.processingStatus = .processed ∧ event.storedStatus.any (isText "PAID") ∧
    ¬∃ p a, parseStoredNormalizedPayload event.normalizedPayload = some p ∧
      db.attemptOf event = some a ∧ paidWebhookPayloadProblem P p a = none

/-- The error codes the filter reads. -/
def mismatchCodes : List String := ["PAYMENT_AMOUNT_MISMATCH", "PAYMENT_CURRENCY_MISMATCH"]

/-- How a delivery leaves an event: signed with a payload or refused without one, and failed with a
code or processed for an attempt. -/
structure EventKept (db : Database) (event : PaymentWebhookEvent) : Prop where
  linked : ∀ id ∈ event.attemptId, (db.paymentAttempts.lookup id).isSome
  signed : (event.signatureStatus = .verified ∧
      ∃ p, event.normalizedPayload = some (storedNormalizedPayload p)) ∨
    (event.signatureStatus = .invalid ∧ event.attemptId = none ∧ event.normalizedPayload = none ∧
      event.processingStatus = .failed)
  processed : event.processingStatus = .processed →
    event.errorCode = none ∧ event.attemptId.isSome
  failed : event.processingStatus = .failed →
    ∃ code, event.errorCode = some code ∧ (event.attemptId = none → code ∉ mismatchCodes)

theorem EventKept.payload {db : Database} (h : EventKept db event)
    (hverified : event.signatureStatus = .verified) :
    ∃ p, event.normalizedPayload = some (storedNormalizedPayload p) := by
  rcases h.signed with ⟨-, hpayload⟩ | ⟨hinvalid, -⟩
  · exact hpayload
  · rw [hverified] at hinvalid
    cases hinvalid

theorem EventKept.verified_of_processed {db : Database} (h : EventKept db event)
    (hprocessed : event.processingStatus = .processed) : event.signatureStatus = .verified ∧
      ∃ p, event.normalizedPayload = some (storedNormalizedPayload p) := by
  refine h.signed.resolve_right ?_
  rintro ⟨-, -, -, hfailed⟩
  rw [hprocessed] at hfailed
  cases hfailed

theorem storedStatus_stored {p : NormalizedWebhookPayload}
    (h : event.normalizedPayload = some (storedNormalizedPayload p)) :
    event.storedStatus = some (.str p.status.text) := by
  rw [PaymentWebhookEvent.storedStatus, h]
  cases horder : p.providerOrderId <;>
    simp [storedNormalizedPayload, Json.field, List.lookup, horder]

/-- What is read back is what was stored. -/
theorem eq_of_parse_stored {q : NormalizedWebhookPayload}
    (h : parseStoredNormalizedPayload (some (storedNormalizedPayload p)) = some q) : q = p := by
  by_cases hattempt : p.attemptId = ""
  · have hnone : parseStoredNormalizedPayload (some (storedNormalizedPayload p)) = none := by
      cases horder : p.providerOrderId <;>
        simp [parseStoredNormalizedPayload, storedNormalizedPayload, Json.asObject, Json.field,
          stringOr, List.lookup, horder, hattempt]
    rw [hnone] at h
    cases h
  · rw [parseStoredNormalizedPayload_stored hattempt] at h
    exact (Option.some.inj h).symm

theorem isText_status (status : ProviderPaymentStatus) :
    isText "PAID" (.str status.text) = decide (status = .paid) := by
  cases status <;> decide

theorem EventKept.attemptOf {db : Database} (h : EventKept db event)
    (hlinked : event.attemptId.isSome) : ∃ a, db.attemptOf event = some a := by
  obtain ⟨id, hid⟩ := Option.isSome_iff_exists.mp hlinked
  obtain ⟨a, ha⟩ := Option.isSome_iff_exists.mp (h.linked id hid)
  exact ⟨a, by rw [Database.attemptOf, hid, Option.bind_some, ha]⟩

/-- A failed event: only the reversed and the refused ones are selected under a label they do not
have. -/
theorem agrees_of_failed {db : Database} (h : EventKept db event)
    (hfailed : event.processingStatus = .failed) :
    FilterAgrees P db event ↔ ¬UnpaidForReview event := by
  obtain ⟨code, hcode, hmismatch⟩ := h.failed hfailed
  have hlabel : moneyStatus P db event =
      if code = "PAYMENT_AMOUNT_MISMATCH" then .amountMismatch
      else if code = "PAYMENT_CURRENCY_MISMATCH" then .currencyMismatch
      else if event.attemptId = none then .missingAttempt
      else .needsReview := by
    have hattempt : (db.attemptOf event).isNone ↔ event.attemptId = none := by
      cases hid : event.attemptId with
      | none => simp [Database.attemptOf, hid]
      | some id =>
        obtain ⟨a, ha⟩ := h.attemptOf (by rw [hid]; rfl)
        simp [ha]
    simp only [moneyStatus, paymentWebhookMoneyComparison, hcode, Option.some.injEq, hfailed, true_or,
      or_true, if_true, hattempt, apply_ite MoneyComparison.status]
  have hunlinked : event.attemptId = none →
      code ≠ "PAYMENT_AMOUNT_MISMATCH" ∧ code ≠ "PAYMENT_CURRENCY_MISMATCH" := by
    intro hid
    have hnot := hmismatch hid
    rw [mismatchCodes, List.mem_pair, not_or] at hnot
    exact hnot
  have hunpaid : UnpaidForReview event ↔ paymentWebhookMoneyStatusWhere .notPaid event := by
    simp only [UnpaidForReview, hfailed, true_or, and_true, paymentWebhookMoneyStatusWhere]
  have hnever : moneyStatus P db event ≠ .notPaid ∧ moneyStatus P db event ≠ .matched := by
    rw [hlabel]
    split_ifs <;> exact ⟨nofun, nofun⟩
  rw [hunpaid]
  constructor
  · intro hagrees hselected
    exact hnever.1 ((hagrees .notPaid nofun).mp hselected)
  · intro hselected status hstatus
    cases status with
    | matched =>
      simp only [paymentWebhookMoneyStatusWhere, hfailed, reduceCtorEq, false_and, and_false,
        decide_false, Bool.false_eq_true, hnever.2]
    | amountMismatch =>
      simp only [paymentWebhookMoneyStatusWhere, hcode, Option.some.injEq, decide_eq_true_eq, hlabel]
      split_ifs <;> simp_all
    | currencyMismatch =>
      simp only [paymentWebhookMoneyStatusWhere, hcode, Option.some.injEq, decide_eq_true_eq, hlabel]
      split_ifs <;> simp_all
    | missingAttempt =>
      simp only [paymentWebhookMoneyStatusWhere, decide_eq_true_eq, hlabel]
      constructor
      · intro hid
        rw [if_neg (hunlinked hid).1, if_neg (hunlinked hid).2, if_pos hid]
      · intro hmissing
        split_ifs at hmissing with _ _ hid
        exact hid
    | notPaid => exact ⟨fun h ↦ absurd h hselected, fun h ↦ absurd h hnever.1⟩
    | needsReview => exact absurd rfl hstatus

/-- If the filter selects the event under one status, it agrees with the label exactly if that is the
label. -/
theorem agrees_iff_label {db : Database} {s : MoneyStatus} (hs : s ≠ .needsReview)
    (hselect : ∀ status ≠ .needsReview, (paymentWebhookMoneyStatusWhere status event ↔ status = s)) :
    FilterAgrees P db event ↔ moneyStatus P db event = s := by
  constructor
  · intro h
    exact (h s hs).mp ((hselect s hs).mpr rfl)
  · intro h status hstatus
    rw [hselect status hstatus, h]
    exact eq_comm

/-- A processed event: only one with an unchecked payment is selected under a label it does not
have. -/
theorem agrees_of_processed {db : Database} (h : EventKept db event)
    (hprocessed : event.processingStatus = .processed) :
    FilterAgrees P db event ↔ ¬UncheckedPayment P db event := by
  obtain ⟨hcode, hlinked⟩ := h.processed hprocessed
  obtain ⟨a, ha⟩ := h.attemptOf hlinked
  obtain ⟨hverified, p, hpayload⟩ := h.verified_of_processed hprocessed
  have hid : event.attemptId ≠ none := Option.isSome_iff_ne_none.mp hlinked
  have hpaid := isText_status p.status
  have hselect (s : MoneyStatus) (hs : s = if p.status = .paid then .matched else .notPaid) :
      ∀ status ≠ .needsReview, (paymentWebhookMoneyStatusWhere status event ↔ status = s) := by
    intro status hstatus
    cases status with
    | needsReview => exact absurd rfl hstatus
    | _ =>
      simp only [paymentWebhookMoneyStatusWhere, hcode, hlinked, hprocessed, hid,
        storedStatus_stored hpayload, Option.any_some, hpaid, hs]
      split_ifs with hstatus <;> simp [hstatus]
  have hunpaid (hnone : ∀ q, parseStoredNormalizedPayload event.normalizedPayload = some q →
      q.status ≠ .paid) : moneyStatus P db event = .notPaid := by
    have hstatus : (parseStoredNormalizedPayload event.normalizedPayload).map
        NormalizedWebhookPayload.status ≠ some .paid := by
      intro heq
      obtain ⟨q, hq, hqpaid⟩ := Option.map_eq_some_iff.mp heq
      exact hnone q hq hqpaid
    simp only [moneyStatus, paymentWebhookMoneyComparison, ha, hcode, hverified, hprocessed, hstatus,
      Option.isNone_some, Option.getD_none, reduceCtorEq, if_false, ne_eq, not_true_eq_false, or_self,
      not_false_eq_true, if_true, Bool.false_eq_true]
  by_cases hstatus : p.status = .paid
  · rw [agrees_iff_label (by exact nofun) (hselect .matched (by rw [if_pos hstatus]))]
    have hstored : event.storedStatus.any (isText "PAID") := by
      rw [storedStatus_stored hpayload, Option.any_some, hpaid]
      exact decide_eq_true hstatus
    simp only [UncheckedPayment, hprocessed, hstored, true_and, not_not]
    cases hparse : parseStoredNormalizedPayload event.normalizedPayload with
    | none =>
      have hlabel := hunpaid fun q hq ↦ by rw [hparse] at hq; cases hq
      rw [hlabel]
      refine iff_of_false nofun ?_
      rintro ⟨_, _, hq, -⟩
      cases hq
    | some q =>
      obtain rfl := eq_of_parse_stored (hpayload ▸ hparse)
      rw [moneyStatus, ha, comparison_of_paid hcode (by rw [hverified]; exact nofun)
        (by rw [hprocessed]; exact nofun) hparse hstatus]
      constructor
      · exact fun hnone ↦ ⟨q, a, rfl, rfl, hnone⟩
      · rintro ⟨_, _, hq, ha', hnone⟩
        cases hq
        cases ha'
        exact hnone
  · rw [agrees_iff_label (by exact nofun) (hselect .notPaid (by rw [if_neg hstatus]))]
    have hstored : ¬event.storedStatus.any (isText "PAID") := by
      rw [storedStatus_stored hpayload, Option.any_some, hpaid]
      simpa using hstatus
    refine iff_of_true (hunpaid fun q hq ↦ ?_) fun hunchecked ↦ hstored hunchecked.2.1
    have heq : q = p := eq_of_parse_stored (hpayload ▸ hq)
    rwa [heq]

end

/-! ## Errors that are recorded -/

/-- An error whose recorded code says nothing about money. -/
def NamesNoMoney (e : Failure) : Prop := paymentWebhookProcessingErrorCode e ∉ mismatchCodes

theorem namesNoMoney_conflict (message : String) : NamesNoMoney (.conflict message) :=
  show "CONFLICT" ∉ mismatchCodes by decide

theorem namesNoMoney_of_not_api {e : Failure} (h : ∀ error, e ≠ .api error) : NamesNoMoney e := by
  cases e with
  | api error => exact absurd rfl (h error)
  | _ => exact show "WEBHOOK_PROCESSING_FAILED" ∉ mismatchCodes by decide

section

variable {db : Database}

theorem upsertPaymentTransaction_raises (event : String × String) (newId : Uuid)
    (input : PaymentTransaction) :
    Raises NamesNoMoney (upsertPaymentTransaction db event newId input) := by
  refine .bind ?_ fun linked _ ↦ ?_
  · unfold linkedTransaction
    split
    · exact .ok _
    · exact .bind (.orThrow (namesNoMoney_of_not_api nofun)) fun _ _ ↦
        .bind (.throwIf (namesNoMoney_conflict _)) fun _ _ ↦ .ok _
  · split
    · exact .ok _
    · split
      · refine .bind (.throwIf ?_) fun _ _ ↦ ?_
        · exact show "PROVIDER_TRANSACTION_ATTEMPT_MISMATCH" ∉ mismatchCodes by decide
        · split_ifs <;> exact .ok _
      · refine .bind ?_ fun _ _ ↦ .ok _
        exact .bind (.throwIf (namesNoMoney_of_not_api nofun)) fun _ _ ↦
          .bind (.orThrow (namesNoMoney_of_not_api nofun)) fun _ _ ↦ .ok _

theorem confirmPaidAttempt_raises (clock : WebhookClock) (fresh : FreshIds)
    (attempt : AttemptWithRelations) (transactionId : Uuid) (transaction : PaymentTransaction) :
    Raises NamesNoMoney (confirmPaidAttempt db clock fresh attempt transactionId transaction) := by
  unfold confirmPaidAttempt
  split_ifs
  · exact .ok _
  · split
    · exact .error (namesNoMoney_conflict _)
    · refine .bind ?_ fun _ _ ↦ .bind ?_ fun _ _ ↦ .ok _
      · exact .bind (.throwIf (namesNoMoney_of_not_api nofun)) fun _ _ ↦
          .bind (.orThrow (namesNoMoney_of_not_api nofun)) fun _ _ ↦ .ok _
      · exact .bind (.throwIf (namesNoMoney_of_not_api nofun)) fun _ _ ↦
          .bind (.throwIf (namesNoMoney_of_not_api nofun)) fun _ _ ↦
          .bind (.orThrow (namesNoMoney_of_not_api nofun)) fun _ _ ↦ .ok _

theorem applyPaymentSignal_raises (P : Platform) (w : WebhookApplication)
    (attempt : AttemptWithRelations) (money : Option (Decimal × Currency)) (transactionId : Uuid)
    (transaction : PaymentTransaction) :
    Raises NamesNoMoney (applyPaymentSignal P db w attempt money transactionId transaction) := by
  unfold applyPaymentSignal
  dsimp only
  split_ifs
  · exact .ok _
  · split
    · exact .bind (confirmPaidAttempt_raises _ _ _ _ _) fun _ _ ↦ .ok _
    · exact .ok _
    · split_ifs <;> exact .ok _

/-- A payment transaction that fails is recorded under a code that says nothing about money. -/
theorem applyWebhookPaymentState_raises (P : Platform) (w : WebhookApplication) :
    Raises NamesNoMoney (applyWebhookPaymentState P db w) := by
  refine .bind ?_ fun _ _ ↦
    .bind (.orThrow (namesNoMoney_of_not_api fun _ h ↦ by cases h)) fun _ _ ↦ ?_
  · unfold Platform.parseUuid
    split_ifs
    · exact .ok _
    · exact .error (show "INVALID_FORMAT" ∉ mismatchCodes by decide)
  · split_ifs
    · exact .ok _
    · refine .bind (.throwIf (namesNoMoney_conflict _)) fun _ _ ↦
        .bind (.orThrow (show "NOT_FOUND" ∉ mismatchCodes by decide)) fun _ _ ↦
        .bind (.throwIf (namesNoMoney_conflict _)) fun _ _ ↦
        .bind (.throwIf (namesNoMoney_conflict _)) fun _ _ ↦
        .bind ?_ fun _ _ ↦ .bind (upsertPaymentTransaction_raises _ _ _) fun _ _ ↦
        applyPaymentSignal_raises _ _ _ _ _ _
      unfold providerReportedMoney
      split
      · exact .ok _
      · split_ifs
        · split
          · exact .error (namesNoMoney_of_not_api fun _ h ↦ by cases h)
          · exact .ok _
          · exact .ok _
        · exact .ok _

end

/-! ## What a transaction does to its event -/

/-- An event after its payment transaction. -/
def PaymentWebhookEvent.settle (w : WebhookApplication) (attemptId transactionId : Uuid)
    (errorCode : Option String) (event : PaymentWebhookEvent) : PaymentWebhookEvent :=
  { event with
    attemptId := some attemptId
    transactionId := some transactionId
    processingStatus := if errorCode.isSome then .failed else .processed
    errorCode
    processedAt := some w.clock.processedAt }

section

variable {P : Platform} {db db' : Database} {w : WebhookApplication}

theorem applyPaymentSignal_events {attempt : AttemptWithRelations}
    {money : Option (Decimal × Currency)} {transactionId : Uuid} {transaction : PaymentTransaction}
    (h : applyPaymentSignal P db w attempt money transactionId transaction = .ok db') :
    ∃ errorCode, db'.paymentWebhookEvents = (finishEvent db w errorCode).paymentWebhookEvents ∧
      (errorCode = none → paidPayloadProblem P w attempt = none) := by
  cases hproblem : paidPayloadProblem P w attempt with
  | none =>
    obtain ⟨errorCode, hevents⟩ := (applyPaymentSignal_eq_ok h).events_eq
    exact ⟨errorCode, hevents, fun _ ↦ rfl⟩
  | some problem =>
    simp only [applyPaymentSignal, hproblem, Option.isSome_some, true_or, if_true, Except.ok.injEq] at h
    subst h
    refine ⟨_, finishEvent_events w _ (reviewCollection_events db attempt _), fun hnone ↦ ?_⟩
    cases hnone

/-- A payment transaction settles its event, without an error code only if a payment reports the
money of its attempt. -/
theorem applyWebhookPaymentState_events (h : applyWebhookPaymentState P db w = .ok db') :
    db' = db ∨ ∃ attempt transactionId errorCode,
      (∃ e, db.paymentWebhookEvents.lookup w.event = some e ∧ e.signatureStatus = .verified) ∧
      db.paymentAttempts.lookup attempt.id = some attempt.row ∧
      (errorCode = none → paidPayloadProblem P w attempt = none) ∧
      db'.paymentWebhookEvents = db.paymentWebhookEvents.update w.event
        (PaymentWebhookEvent.settle w attempt.id transactionId errorCode) := by
  rcases applyWebhookPaymentState_eq_ok.mp h with ⟨-, rfl, -⟩ |
    ⟨attempt, money, db₁, transactionId, transaction, haccepted, hupsert, hsignal⟩
  · exact .inl rfl
  · obtain ⟨errorCode, hevents, hproblem⟩ := applyPaymentSignal_events hsignal
    obtain ⟨e, he, -, hverified⟩ := haccepted.event
    obtain ⟨hid, hrow, -⟩ := Database.findAttempt_eq_some.mp haccepted.found
    have hstored : db₁.paymentWebhookEvents = db.paymentWebhookEvents := by
      rw [(upsertPaymentTransaction_eq_ok hupsert).frame]
    refine .inr ⟨attempt, transactionId, errorCode, ⟨e, he, hverified⟩, hid ▸ hrow, hproblem, ?_⟩
    rw [hevents]
    simp only [finishEvent, linkEvent, Database.updateEvent, Table.update_update, hstored]
    rfl

end

/-! ## What holds of every event

A condition on events is kept by every request if it is kept by the four writes of an event. -/

/-- Every attempt is still there, with its amount and currency. -/
def BookingsKept (db db' : Database) : Prop :=
  ∀ id a, db.paymentAttempts.lookup id = some a → ∃ a', db'.paymentAttempts.lookup id = some a' ∧
    a'.amount = a.amount ∧ a'.currency = a.currency

theorem PaymentFrame.bookingsKept {db db' : Database} (h : PaymentFrame db db') :
    BookingsKept db db' := by
  intro id a ha
  obtain ⟨a', ha', hsame⟩ := h.attempts.lookup ha
  exact ⟨a', ha', hsame.money_eq⟩

theorem BookingsKept.of_eq {db db' : Database} (h : db'.paymentAttempts = db.paymentAttempts) :
    BookingsKept db db' :=
  fun _ a ha ↦ ⟨a, h ▸ ha, rfl, rfl⟩

/-- A condition `J` on events that survives their writes.  `S` relates the event of a payment
transaction to the payload that is applied. -/
structure EventInvariant (P : Platform) (S : PaymentWebhookEvent → NormalizedWebhookPayload → Prop)
    (J : Database → PaymentWebhookEvent → Prop) : Prop where
  kept : ∀ {db db' e}, BookingsKept db db' → J db e → J db' e
  delivered : ∀ {db row}, DeliveredEvent P row →
    (∀ id ∈ row.attemptId, (db.paymentAttempts.lookup id).isSome) → J db row
  reset : ∀ {db e}, e.signatureStatus = .verified → J db e → J db e.reset
  failed : ∀ {db e} (error : Failure) (failedAt : Time), NamesNoMoney error → J db e →
    J db (e.fail error failedAt)
  settled : ∀ {db e w} {attempt : AttemptWithRelations} {transactionId errorCode},
    db.paymentAttempts.lookup attempt.id = some attempt.row →
    (errorCode = none → paidPayloadProblem P w attempt = none) → e.signatureStatus = .verified →
    S e w.payload → J db e → J db (e.settle w attempt.id transactionId errorCode)

/-- `J` holds of every event. -/
def OfEvents (J : Database → PaymentWebhookEvent → Prop) (db : Database) : Prop :=
  ∀ key event, db.paymentWebhookEvents.lookup key = some event → J db event

/-- The payment transaction the request leads to applies a payload related to its event. -/
def Applies (S : PaymentWebhookEvent → NormalizedWebhookPayload → Prop) (P : Platform)
    (db : Database) (request : PaymentRequest) : Prop :=
  ∀ db₀ w e, appliedWebhook P db request = some (db₀, w) →
    db₀.paymentWebhookEvents.lookup w.event = some e → S e w.payload

namespace EventInvariant

variable {P : Platform} {S : PaymentWebhookEvent → NormalizedWebhookPayload → Prop}
  {J : Database → PaymentWebhookEvent → Prop} {db db' : Database}

theorem update (hJ : EventInvariant P S J) (h : OfEvents J db) (hbookings : BookingsKept db db')
    {key : String × String} {f : PaymentWebhookEvent → PaymentWebhookEvent}
    (hevents : db'.paymentWebhookEvents = db.paymentWebhookEvents.update key f)
    (hf : ∀ e, db.paymentWebhookEvents.lookup key = some e → J db e → J db (f e)) :
    OfEvents J db' := by
  intro key' event hevent
  rw [hevents] at hevent
  by_cases hkey : key' = key
  · rw [hkey, Table.lookup_update_self] at hevent
    obtain ⟨e, he, rfl⟩ := Option.map_eq_some_iff.mp hevent
    exact hJ.kept hbookings (hf e he (h key e he))
  · rw [Table.lookup_update_of_ne _ _ hkey] at hevent
    exact hJ.kept hbookings (h key' event hevent)

theorem planWebhook (hJ : EventInvariant P S J) (h : OfEvents J db) (delivery : WebhookDelivery) :
    OfEvents J (planWebhook P db delivery).database := by
  rcases planWebhook_database P db delivery with heq | ⟨key, row, hrow, -, hattempt, heq⟩
  · rwa [heq]
  · rw [heq]
    have hbookings : BookingsKept db
        { db with paymentWebhookEvents := db.paymentWebhookEvents.insert key row } := .of_eq rfl
    intro key' event hevent
    rw [Table.lookup_insert] at hevent
    split_ifs at hevent with hkey
    · cases hevent
      exact hJ.kept hbookings (hJ.delivered hrow hattempt)
    · exact hJ.kept hbookings (h key' event hevent)

theorem planReplay (hJ : EventInvariant P S J) (h : OfEvents J db) (replay : WebhookReplay) :
    OfEvents J (planReplay db replay).database := by
  simp only [KmtLegal.planReplay]
  split
  · exact h
  · split
    · exact h
    · rename_i e he
      split_ifs with _ hverified
      · exact h
      · exact h
      · have hreset : OfEvents J (db.updateEvent replay.event PaymentWebhookEvent.reset) := by
          refine hJ.update h (.of_eq rfl) rfl fun e' he' hkept ↦ hJ.reset ?_ hkept
          rw [he] at he'
          cases he'
          exact not_not.mp hverified
        split <;> exact hreset

/-- What a payment transaction does to the events. -/
theorem apply (hJ : EventInvariant P S J) {w : WebhookApplication} (h : OfEvents J db)
    (hS : ∀ e, db.paymentWebhookEvents.lookup w.event = some e → S e w.payload)
    (hok : applyWebhookPaymentState P db w = .ok db') : OfEvents J db' := by
  rcases applyWebhookPaymentState_events hok with rfl |
    ⟨attempt, transactionId, errorCode, ⟨e, he, hverified⟩, hattempt, hproblem, hevents⟩
  · exact h
  · refine hJ.update h (applyWebhookPaymentState_frame hok).bookingsKept hevents fun e' he' hkept ↦ ?_
    rw [he] at he'
    cases he'
    exact hJ.settled hattempt hproblem hverified (hS e he) hkept

/-- One request. -/
theorem paymentStep (hJ : EventInvariant P S J) (h : OfEvents J db) {request : PaymentRequest}
    (hS : Applies S P db request) : OfEvents J (paymentStep P db request) := by
  have hplanned : OfEvents J (plannedDatabase P db request) := by
    cases request with
    | webhook delivery => exact hJ.planWebhook h delivery
    | replay replay => exact hJ.planReplay h replay
    | expire now attemptId limit =>
      simp only [plannedDatabase, KmtLegal.paymentStep, servePayment,
        expireOpenConsultationPaymentAttempts]
      split_ifs with hempty
      · exact h
      · exact fun key event hevent ↦
          hJ.kept (expireBatch_paymentFrame db now _).bookingsKept (h key event hevent)
  refine paymentStep_cases hplanned (fun w db₁ happlied hok ↦ ?_) fun w e failedAt herror ↦ ?_
  · exact hJ.apply hplanned (fun e ↦ hS _ w e happlied) hok
  · exact hJ.update hplanned (.of_eq rfl) rfl fun _ _ hkept ↦
      hJ.failed e failedAt (applyWebhookPaymentState_raises P w e herror) hkept

end EventInvariant

/-- Events are kept, whatever is applied. -/
theorem eventKept_invariant (P : Platform) : EventInvariant P (fun _ _ ↦ True) EventKept where
  kept := by
    intro db db' e hbookings h
    refine { h with linked := fun id hid ↦ ?_ }
    obtain ⟨a, ha⟩ := Option.isSome_iff_exists.mp (h.linked id hid)
    obtain ⟨a', ha', -⟩ := hbookings id a ha
    rw [ha']
    rfl
  delivered := by
    intro db row hrow hattempt
    cases hrow with
    | invalid read =>
      exact ⟨hattempt, .inr ⟨rfl, rfl, rfl, rfl⟩, nofun, fun _ ↦ ⟨_, rfl, fun _ ↦ by decide⟩⟩
    | verified read payload => exact ⟨hattempt, .inl ⟨rfl, payload, rfl⟩, nofun, nofun⟩
  reset := by
    intro db e hverified h
    exact ⟨h.linked, .inl ⟨hverified, h.payload hverified⟩, nofun, nofun⟩
  failed := by
    intro db e error failedAt hcode h
    refine ⟨h.linked, ?_, nofun, fun _ ↦ ⟨_, rfl, fun _ ↦ hcode⟩⟩
    rcases h.signed with hsigned | ⟨hsigned, hattempt, hpayload, -⟩
    · exact .inl hsigned
    · exact .inr ⟨hsigned, hattempt, hpayload, rfl⟩
  settled := by
    intro db e w attempt transactionId errorCode hattempt _ hverified _ h
    refine ⟨?_, .inl ⟨hverified, h.payload hverified⟩, fun hprocessed ↦ ?_, fun hfailed ↦ ?_⟩
    · rintro id ⟨⟩
      rw [hattempt]
      rfl
    · cases errorCode with
      | none => exact ⟨rfl, rfl⟩
      | some code => cases hprocessed
    · cases errorCode with
      | none => cases hfailed
      | some code => exact ⟨code, rfl, nofun⟩

/-- The stored payload of a processed event can be read back, and if it reports a payment it reports
the money of the attempt. -/
def EventChecked (P : Platform) (db : Database) (event : PaymentWebhookEvent) : Prop :=
  event.processingStatus = .processed → ∃ p a,
    parseStoredNormalizedPayload event.normalizedPayload = some p ∧ db.attemptOf event = some a ∧
      (p.status = .paid → paidWebhookPayloadProblem P p a = none)

/-- The payload is the stored one. -/
def IsStored (event : PaymentWebhookEvent) (payload : NormalizedWebhookPayload) : Prop :=
  parseStoredNormalizedPayload event.normalizedPayload = some payload

theorem paidWebhookPayloadProblem_congr {P : Platform} {p : NormalizedWebhookPayload}
    {a a' : PaymentAttempt} (hamount : a'.amount = a.amount) (hcurrency : a'.currency = a.currency) :
    paidWebhookPayloadProblem P p a' = paidWebhookPayloadProblem P p a := by
  simp only [paidWebhookPayloadProblem, hamount, hcurrency]

/-- Events are checked if the stored payloads are the ones that are applied. -/
theorem eventChecked_invariant (P : Platform) : EventInvariant P IsStored (EventChecked P) where
  kept := by
    intro db db' e hbookings h hprocessed
    obtain ⟨p, a, hp, ha, hproblem⟩ := h hprocessed
    obtain ⟨id, hid, hrow⟩ := Option.bind_eq_some_iff.mp ha
    obtain ⟨a', ha', hamount, hcurrency⟩ := hbookings id a hrow
    refine ⟨p, a', hp, by rw [Database.attemptOf, hid, Option.bind_some, ha'], fun hpaid ↦ ?_⟩
    rw [paidWebhookPayloadProblem_congr hamount hcurrency]
    exact hproblem hpaid
  delivered := by
    intro db row hrow _ hprocessed
    cases hrow <;> cases hprocessed
  reset := fun _ _ hprocessed ↦ by cases hprocessed
  failed := fun _ _ _ _ hprocessed ↦ by cases hprocessed
  settled := by
    intro db e w attempt transactionId errorCode hattempt hproblem _ hstored _ hprocessed
    refine ⟨w.payload, attempt.row, hstored, hattempt, fun hpaid ↦ ?_⟩
    cases errorCode with
    | none =>
      have hnone := hproblem rfl
      rwa [paidPayloadProblem, if_pos hpaid] at hnone
    | some code => cases hprocessed

/-! ## Runs -/

/-- A move of the office: a request to the payment tables, or whatever else happens to the
database. -/
inductive DeskMove where
  | payment (request : PaymentRequest)
  | elsewhere (db' : Database)

def deskStep (P : Platform) (db : Database) : DeskMove → Database
  | .payment request => paymentStep P db request
  | .elsewhere db' => db'

/-- Nothing else writes webhook events, or touches the attempts' amounts and currencies. -/
def Ordinary (db : Database) : DeskMove → Prop
  | .payment _ => True
  | .elsewhere db' => db'.paymentWebhookEvents = db.paymentWebhookEvents ∧ BookingsKept db db'

/-- A payment transaction applies the payload its event stores. -/
def AppliesStored (P : Platform) (db : Database) : DeskMove → Prop
  | .payment request => Applies IsStored P db request
  | .elsewhere _ => True

theorem EventInvariant.deskStep {P : Platform}
    {S : PaymentWebhookEvent → NormalizedWebhookPayload → Prop}
    {J : Database → PaymentWebhookEvent → Prop} (hJ : EventInvariant P S J) {db : Database}
    {move : DeskMove} (h : OfEvents J db) (hmove : Ordinary db move)
    (hS : ∀ request, move = .payment request → Applies S P db request) :
    OfEvents J (deskStep P db move) := by
  cases move with
  | payment request => exact hJ.paymentStep h (hS request rfl)
  | elsewhere db' =>
    intro key event hevent
    exact hJ.kept hmove.2 (h key event (hmove.1 ▸ hevent))

/-- In a run that starts without events, the filter agrees with the label of a processed or failed
event exactly if the event is neither up for review without a payment nor holds an unchecked one; and
it holds none as long as every payment transaction applies the payload its event stores. -/
theorem filter_agrees_iff (P : Platform) {base : Database} {moves : List DeskMove}
    (hbase : ∀ key, base.paymentWebhookEvents.lookup key = none)
    (hmoves : AllSteps (deskStep P) Ordinary base moves) {key : String × String}
    {event : PaymentWebhookEvent}
    (hevent : (run (deskStep P) base moves).paymentWebhookEvents.lookup key = some event)
    (hfinished : event.processingStatus = .processed ∨ event.processingStatus = .failed) :
    (FilterAgrees P (run (deskStep P) base moves) event ↔
      ¬UnpaidForReview event ∧ ¬UncheckedPayment P (run (deskStep P) base moves) event) ∧
    (AllSteps (deskStep P) (AppliesStored P) base moves →
      ¬UncheckedPayment P (run (deskStep P) base moves) event) := by
  have hnone (J : Database → PaymentWebhookEvent → Prop) : OfEvents J base := by
    intro key event hevent
    rw [hbase] at hevent
    cases hevent
  have hkept : OfEvents EventKept (run (deskStep P) base moves) :=
    run_invariant_of_allSteps (fun _ _ h hmove ↦ (eventKept_invariant P).deskStep h hmove
      fun _ _ _ _ _ _ _ ↦ trivial) (hnone EventKept) hmoves
  have h := hkept key event hevent
  constructor
  · rcases hfinished with hprocessed | hfailed
    · rw [agrees_of_processed h hprocessed, and_iff_right]
      rintro ⟨-, hfailed | hunlinked⟩
      · rw [hprocessed] at hfailed
        cases hfailed
      · exact Option.isSome_iff_ne_none.mp (h.processed hprocessed).2 hunlinked
    · rw [agrees_of_failed h hfailed, and_iff_left]
      rintro ⟨hprocessed, -⟩
      rw [hfailed] at hprocessed
      cases hprocessed
  · rintro hstored ⟨hprocessed, hpaid, hunchecked⟩
    have hboth : AllSteps (deskStep P) (fun s i ↦ Ordinary s i ∧ AppliesStored P s i) base moves :=
      allSteps_and.mpr ⟨hmoves, hstored⟩
    have hchecked : OfEvents (EventChecked P) (run (deskStep P) base moves) :=
      run_invariant_of_allSteps (fun _ move h hmove ↦ (eventChecked_invariant P).deskStep h hmove.1
        fun request heq ↦ by subst heq; exact hmove.2) (hnone (EventChecked P)) hboth
    obtain ⟨p, a, hp, ha, hproblem⟩ := hchecked key event hevent hprocessed
    refine hunchecked ⟨p, a, hp, ha, hproblem ?_⟩
    obtain ⟨hverified, q, hq⟩ := h.verified_of_processed hprocessed
    rw [storedStatus_stored hq, Option.any_some, isText_status, decide_eq_true_eq] at hpaid
    have heq : p = q := eq_of_parse_stored (hq ▸ hp)
    rwa [heq]

/-! ## A payment and a refund -/

/-- A callback about the attempt of `heldBooking`. -/
def callbackBody (tranType : String) : Json :=
  .obj [("tran_ref", .str "TST2606500002"), ("tran_type", .str tranType),
    ("cart_id", .str heldAttempt), ("cart_amount", .str "750.00"), ("cart_currency", .str "EGP"),
    ("payment_result", .obj [("response_status", .str "A")])]

def callbackText (tranType : String) : String :=
  "\x7b\"tran_ref\":\"TST2606500002\",\"tran_type\":\"" ++ tranType ++
    "\",\"cart_id\":\"3b241101-e2bb-4255-8caf-4136c566a962\",\"cart_amount\":\"750.00\"," ++
    "\"cart_currency\":\"EGP\",\"payment_result\":\x7b\"response_status\":\"A\"\x7d\x7d"

/-- A platform that knows the text of one callback, its hash and its signature. -/
def callbackPlatform (tranType hash signature : String) : Platform :=
  { plainPlatform with
    parseJson := fun _ ↦ some (callbackBody tranType)
    sha256 := fun _ ↦ hash
    hmacSha256 := fun _ _ ↦ signature
    env := fun name ↦ if name = "PAYTABS_WEBHOOK_SECRET" then "sample-webhook-secret" else "" }

def callbackDelivery (tranType signature : String) : DeskMove :=
  .payment (.webhook {
    request := { provider := .paytabs, rawBody := callbackText tranType
                 headers := [("signature", signature)] }
    clock := ⟨999, 999, 999, 999, 999⟩
    failedAt := 999
    fresh := ⟨"t", "i", "e"⟩ })

/-- The booking before anything is delivered. -/
def quietBooking : Database := { heldBooking with paymentWebhookEvents := ∅ }

def salePlatform : Platform := callbackPlatform "sale"
  "14cb789d8aac6b722e5a60924521d5518fc5b629c827358e40ef0d045e0e11b0"
  "b67e29ae909c4947ef38b84ea86efcacd69e674bae7038e5db811a5cf5911724"

def sale : DeskMove := callbackDelivery "sale"
  "b67e29ae909c4947ef38b84ea86efcacd69e674bae7038e5db811a5cf5911724"

def refundPlatform : Platform := callbackPlatform "refund"
  "85ee9004e38a450f388b109aad5fa7b6b6e3d89c15383953fcb028bc54294900"
  "f827ecd69101ab2eb576e9ef038aba0529b4a50e288108711f2679576d951cdc"

def refund : DeskMove := callbackDelivery "refund"
  "f827ecd69101ab2eb576e9ef038aba0529b4a50e288108711f2679576d951cdc"

theorem quietBooking_events (key : String × String) :
    quietBooking.paymentWebhookEvents.lookup key = none := rfl

/-- The payment is listed as matched. -/
theorem filter_agrees_iff_sale : ∃ event,
    (run (deskStep salePlatform) quietBooking [sale]).paymentWebhookEvents.lookup
        ("paytabs", "TST2606500002") = some event ∧
      FilterAgrees salePlatform (run (deskStep salePlatform) quietBooking [sale]) event := by
  have hcheck : ((run (deskStep salePlatform) quietBooking [sale]).paymentWebhookEvents.lookup
      ("paytabs", "TST2606500002")).any fun e ↦ e.processingStatus = .processed ∧
        e.attemptId ≠ none ∧ (parseStoredNormalizedPayload e.normalizedPayload).any fun p ↦
          ((run (deskStep salePlatform) quietBooking [sale]).attemptOf e).any fun a ↦
            paidWebhookPayloadProblem salePlatform p a = none := by
    decide +kernel
  obtain ⟨event, hevent, hcheck⟩ := (Option.any_eq_true _ _).mp hcheck
  obtain ⟨hprocessed, hlinked, hpayload⟩ := of_decide_eq_true hcheck
  obtain ⟨p, hp, hattempt⟩ := (Option.any_eq_true _ _).mp hpayload
  obtain ⟨a, ha, hnone⟩ := (Option.any_eq_true _ _).mp hattempt
  refine ⟨event, hevent, (@filter_agrees_iff salePlatform quietBooking [sale] quietBooking_events
    ⟨trivial, trivial⟩ _ event hevent (.inl hprocessed)).1.mpr ⟨?_, ?_⟩⟩
  · rintro ⟨-, hfailed | hunlinked⟩
    · rw [hprocessed] at hfailed
      cases hfailed
    · exact hlinked hunlinked
  · exact fun h ↦ h.2.2 ⟨p, a, hp, ha, of_decide_eq_true hnone⟩

/-- A refund goes to review: the filter has it among what is not paid, the label does not. -/
theorem reversal_listed_as_unpaid :
    ¬∀ (P : Platform) (base : Database) (moves : List DeskMove) (key : String × String)
      (event : PaymentWebhookEvent), (∀ key, base.paymentWebhookEvents.lookup key = none) →
      AllSteps (deskStep P) Ordinary base moves →
      (run (deskStep P) base moves).paymentWebhookEvents.lookup key = some event →
      event.processingStatus = .processed ∨ event.processingStatus = .failed →
      FilterAgrees P (run (deskStep P) base moves) event := by
  intro h
  have hcheck : ((run (deskStep refundPlatform) quietBooking [refund]).paymentWebhookEvents.lookup
      ("paytabs", "TST2606500002")).any fun e ↦ e.processingStatus = .failed ∧
        paymentWebhookMoneyStatusWhere .notPaid e ∧
        moneyStatus refundPlatform (run (deskStep refundPlatform) quietBooking [refund]) e =
          .needsReview := by
    decide +kernel
  obtain ⟨event, hevent, hcheck⟩ := (Option.any_eq_true _ _).mp hcheck
  obtain ⟨hfailed, hselected, hlabel⟩ := of_decide_eq_true hcheck
  have hagrees := h refundPlatform quietBooking [refund] _ event quietBooking_events
    ⟨trivial, trivial⟩ hevent (.inr hfailed)
  cases hlabel.symm.trans ((hagrees .notPaid nofun).mp hselected)

end KmtLegal
