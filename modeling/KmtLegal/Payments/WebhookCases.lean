import KmtLegal.Payments.WebhookState

/-!
# What an applied webhook did

`applyWebhookPaymentState` read backwards.  `applyWebhookPaymentState_eq_ok` lists the guards of
a successful application, `TransactionRecorded` the three ways its transaction was stored and
`SignalOutcome` the six things that then happened to the attempt.  Every invariant of the
payment tables is derived from these three and never unfolds the code.
-/

namespace KmtLegal

open Relational Js

/-! ## The attempt that is read -/

theorem Database.findAttempt_eq_some {db : Database} {id : Uuid} {v : AttemptWithRelations} :
    db.findAttempt id = some v ↔
      v.id = id ∧ db.paymentAttempts.lookup id = some v.row ∧
        db.appointments.lookup v.row.appointmentId = some v.appointment ∧
        db.consultationRequests.lookup v.row.consultationRequestId = some v.consultationRequest ∧
        v.payment = db.paymentOfAttempt id := by
  simp only [Database.findAttempt, Option.bind_eq_bind, Option.bind_eq_some_iff,
    Option.some.injEq]
  constructor
  · rintro ⟨row, hrow, appointment, happ, consultation, hcons, rfl⟩
    exact ⟨rfl, hrow, happ, hcons, rfl⟩
  · rintro ⟨rfl, hrow, happ, hcons, hpay⟩
    exact ⟨v.row, hrow, v.appointment, happ, v.consultationRequest, hcons, by rw [← hpay]⟩

/-! ## The transaction that is recorded -/

/-- The three ways `upsertPaymentTransaction` succeeds: the stored transaction is kept, updated,
or a new one is created. -/
inductive TransactionRecorded (db : Database) (newId : Uuid) (input : PaymentTransaction) :
    Database → Uuid → PaymentTransaction → Prop
  | kept {id : Uuid} {t : PaymentTransaction} (hlookup : db.paymentTransactions.lookup id = some t)
      (hattempt : t.attemptId = input.attemptId)
      (hkeep : preserveTransactionState t.status input.status t.paidAt) :
      TransactionRecorded db newId input db id t
  | merged {id : Uuid} {t : PaymentTransaction}
      (hlookup : db.paymentTransactions.lookup id = some t)
      (hattempt : t.attemptId = input.attemptId)
      (hchange : preserveTransactionState t.status input.status t.paidAt = false) :
      TransactionRecorded db newId input
        { db with paymentTransactions := db.paymentTransactions.update id fun t ↦ t.merge input }
        id (t.merge input)
  | created (hfree : db.paymentTransactions.lookup newId = none) :
      TransactionRecorded db newId input
        { db with paymentTransactions := db.paymentTransactions.insert newId input } newId input

theorem transactionOfProvider_lookup {db : Database} {input : PaymentTransaction} {id : Uuid}
    {t : PaymentTransaction} (h : transactionOfProvider db input = some (id, t)) :
    db.paymentTransactions.lookup id = some t := by
  unfold transactionOfProvider at h
  split at h
  · cases h
  · split_ifs at h
    exact (Table.findFirst_eq_some h).1

theorem linkedTransaction_eq_ok {db : Database} {event : String × String}
    {input : PaymentTransaction} {r : Option (Uuid × PaymentTransaction)}
    (h : linkedTransaction db event input = .ok r) :
    r = none ∨ ∃ id t, r = some (id, t) ∧ db.paymentTransactions.lookup id = some t ∧
      t.attemptId = input.attemptId ∧ preserveTransactionState t.status input.status t.paidAt := by
  unfold linkedTransaction at h
  split at h
  · cases h
    exact .inl rfl
  · rename_i id _
    simp only [bind_eq_ok, orThrow_eq_ok, throwIf_eq_ok, pure_eq_ok, not_not] at h
    obtain ⟨t, ht, _, hattempt, hr⟩ := h
    by_cases hkeep : preserveTransactionState t.status input.status t.paidAt
    · rw [if_pos hkeep] at hr
      exact .inr ⟨id, t, hr.symm, ht, hattempt, hkeep⟩
    · rw [if_neg hkeep] at hr
      exact .inl hr.symm

theorem upsertPaymentTransaction_eq_ok {db db' : Database} {event : String × String}
    {newId id : Uuid} {input t : PaymentTransaction}
    (h : upsertPaymentTransaction db event newId input = .ok (db', id, t)) :
    TransactionRecorded db newId input db' id t := by
  simp only [upsertPaymentTransaction, bind_eq_ok] at h
  obtain ⟨linked, hlinked, h⟩ := h
  rcases linkedTransaction_eq_ok hlinked with rfl | ⟨id, t, rfl, ht, hattempt, hkeep⟩
  · dsimp only at h
    split at h
    · rename_i id t hprovider
      have ht := transactionOfProvider_lookup hprovider
      simp only [bind_eq_ok, throwIf_eq_ok, not_not] at h
      obtain ⟨_, hattempt, h⟩ := h
      by_cases hkeep : preserveTransactionState t.status input.status t.paidAt
      · rw [if_pos hkeep] at h
        cases h
        exact .kept ht hattempt hkeep
      · rw [if_neg hkeep] at h
        cases h
        exact .merged ht hattempt (by simpa using hkeep)
    · simp only [bind_eq_ok, Database.createPaymentTransaction_eq_ok] at h
      obtain ⟨_, ⟨-, hfree, rfl⟩, h⟩ := h
      cases h
      exact .created hfree
  · cases h
    exact .kept ht hattempt hkeep

namespace TransactionRecorded

variable {db db' : Database} {newId id : Uuid} {input t : PaymentTransaction}

/-- Only the transactions change. -/
theorem frame (h : TransactionRecorded db newId input db' id t) :
    db' = { db with paymentTransactions := db'.paymentTransactions } := by
  cases h <;> rfl

theorem lookup_self (h : TransactionRecorded db newId input db' id t) :
    db'.paymentTransactions.lookup id = some t := by
  cases h with
  | kept hlookup => exact hlookup
  | merged hlookup => simp [hlookup]
  | created => simp

theorem lookup_of_ne (h : TransactionRecorded db newId input db' id t) {id' : Uuid}
    (hne : id' ≠ id) :
    db'.paymentTransactions.lookup id' = db.paymentTransactions.lookup id' := by
  cases h <;> simp [hne]

theorem attemptId_eq (h : TransactionRecorded db newId input db' id t) :
    t.attemptId = input.attemptId := by
  cases h with
  | kept _ hattempt => exact hattempt
  | merged _ hattempt => exact hattempt
  | created => rfl

/-- A transaction that was collected before stays collected under its key. -/
theorem paidAt_of_lookup (h : TransactionRecorded db newId input db' id t)
    {t₀ : PaymentTransaction} (ht₀ : db.paymentTransactions.lookup id = some t₀)
    (hpaid : t₀.paidAt.isSome) : t.paidAt.isSome := by
  cases h with
  | kept hlookup =>
    rw [hlookup] at ht₀
    cases ht₀
    exact hpaid
  | merged hlookup =>
    rw [hlookup] at ht₀
    cases ht₀
    obtain ⟨p, hp⟩ := Option.isSome_iff_exists.mp hpaid
    simp [PaymentTransaction.merge, hp]
  | created hfree =>
    rw [hfree] at ht₀
    cases ht₀

/-- An input without a collection time collects nothing. -/
theorem paidAt_of_none (h : TransactionRecorded db newId input db' id t)
    (hinput : input.paidAt = none) (hpaid : t.paidAt.isSome) :
    ∃ t₀, db.paymentTransactions.lookup id = some t₀ ∧ t₀.attemptId = t.attemptId ∧
      t₀.paidAt.isSome := by
  cases h with
  | kept hlookup => exact ⟨_, hlookup, rfl, hpaid⟩
  | merged hlookup =>
    refine ⟨_, hlookup, rfl, ?_⟩
    simpa [PaymentTransaction.merge, hinput] using hpaid
  | created => simp [hinput] at hpaid

end TransactionRecorded

/-! ## The signal that is applied -/

/-- The six outcomes of `applyPaymentSignal`. -/
inductive SignalOutcome (P : Platform) (db : Database) (w : WebhookApplication)
    (attempt : AttemptWithRelations) (money : Option (Decimal × Currency)) (transactionId : Uuid)
    (transaction : PaymentTransaction) : Database → Prop
  | reviewed (problem : Option PayloadProblem) (errorCode : String)
      (hstatus : w.payload.status = .paid) :
      SignalOutcome P db w attempt money transactionId transaction
        (finishEvent (reviewCollection db attempt problem) w (some errorCode))
  | alreadyPaid (hstatus : w.payload.status = .paid) (hpayment : attempt.payment.isSome)
      (hsingle : money.isSome → db.otherCollection attempt.id transactionId = false) :
      SignalOutcome P db w attempt money transactionId transaction (finishEvent db w none)
  | confirmed (hstatus : w.payload.status = .paid)
      (hproblem : paidWebhookPayloadProblem P w.payload attempt.row = none)
      (hpayment : attempt.payment = none) (hopen : attempt.row.status.isOpen)
      (hreserved : attempt.appointment.status = .reserved)
      (hpending : attempt.consultationRequest.status = .paymentPending)
      (htime : w.clock.checkedAt < attempt.row.expiresAt ∧
        w.clock.confirmAt < attempt.row.expiresAt)
      (hsingle : money.isSome → db.otherCollection attempt.id transactionId = false)
      (hfree : db.payments.lookup w.fresh.payment = none)
      (hclash : db.paymentClash w.fresh.payment
        (gatewayPayment attempt transactionId transaction w.clock.issuedAt) = false)
      (hentry : db.paymentEntries.lookup w.fresh.entry = none)
      (hentryClash : db.paymentEntryClash (trustedSettlement w.fresh.payment
        (gatewayPayment attempt transactionId transaction w.clock.issuedAt) w.clock.issuedAt) =
          false)
      (hamount : 0 < attempt.row.amount) :
      SignalOutcome P db w attempt money transactionId transaction
        (finishEvent (confirmReservation { db with
          payments := db.payments.insert w.fresh.payment
            (gatewayPayment attempt transactionId transaction w.clock.issuedAt)
          paymentEntries := db.paymentEntries.insert w.fresh.entry
            (trustedSettlement w.fresh.payment
              (gatewayPayment attempt transactionId transaction w.clock.issuedAt)
              w.clock.issuedAt) } attempt transaction) w none)
  | reversed (hstatus : w.payload.status = .refunded ∨ w.payload.status = .disputed ∨
        (w.payload.status = .cancelled ∧ attempt.payment.isSome)) :
      SignalOutcome P db w attempt money transactionId transaction
        (finishEvent (recordReversal db w attempt transaction) w
          (some "PAYMENT_REVERSAL_REVIEW_REQUIRED"))
  | released (hstatus : w.payload.status = .failed ∨ w.payload.status = .expired ∨
        (w.payload.status = .cancelled ∧ attempt.payment = none)) :
      SignalOutcome P db w attempt money transactionId transaction
        (finishEvent (releaseFailedAttempt db attempt w.payload.status.attemptStatus
          (orElse w.payload.rawStatus w.payload.status.text)) w none)
  | pending (hstatus : w.payload.status = .pending) :
      SignalOutcome P db w attempt money transactionId transaction
        (finishEvent (updateOpenAttemptStatus db attempt w.payload.status) w none)

/-- The settlement of a gateway payment passes the amount check exactly for positive amounts. -/
theorem trustedSettlement_amountCheck (invoiceId : Uuid) (invoice : Payment) (now : Time) :
    (trustedSettlement invoiceId invoice now).amountCheck ↔ 0 < invoice.amount := by
  rw [PaymentEntry.amountCheck_iff]
  constructor
  · exact fun h ↦ h.2.1 (by simp [trustedSettlement])
  · exact fun h ↦ ⟨h.ne', fun _ ↦ h, nofun⟩

/-- What a confirmation that succeeds and is not skipped needs and does. -/
theorem confirmPaidAttempt_eq_ok {db db' : Database} {clock : WebhookClock} {fresh : FreshIds}
    {attempt : AttemptWithRelations} {transactionId : Uuid} {transaction : PaymentTransaction}
    (hpayment : attempt.payment = none) (hunpaid : attempt.row.status ≠ .paid) :
    confirmPaidAttempt db clock fresh attempt transactionId transaction = .ok db' ↔
      paidAttemptWebhookConfirmationBlocker attempt.row.status attempt.row.expiresAt
        attempt.appointment.status attempt.consultationRequest.status clock.confirmAt = none ∧
      db.payments.lookup fresh.payment = none ∧
      db.paymentClash fresh.payment
        (gatewayPayment attempt transactionId transaction clock.issuedAt) = false ∧
      db.paymentEntries.lookup fresh.entry = none ∧
      db.paymentEntryClash (trustedSettlement fresh.payment
        (gatewayPayment attempt transactionId transaction clock.issuedAt) clock.issuedAt) = false ∧
      0 < attempt.row.amount ∧
      db' = confirmReservation { db with
        payments := db.payments.insert fresh.payment
          (gatewayPayment attempt transactionId transaction clock.issuedAt)
        paymentEntries := db.paymentEntries.insert fresh.entry
          (trustedSettlement fresh.payment
            (gatewayPayment attempt transactionId transaction clock.issuedAt) clock.issuedAt) }
        attempt transaction := by
  have hskip : ¬(attempt.payment.isSome ∨ attempt.row.status = .paid) := by simp [hpayment, hunpaid]
  rw [confirmPaidAttempt, if_neg hskip]
  cases hblocker : paidAttemptWebhookConfirmationBlocker attempt.row.status attempt.row.expiresAt
      attempt.appointment.status attempt.consultationRequest.status clock.confirmAt with
  | some blocker => simp
  | none =>
    simp only [bind_eq_ok, recordTrustedInvoiceSettlement, Database.createPayment_eq_ok,
      Database.createPaymentEntry_eq_ok, trustedSettlement_amountCheck, pure_eq_ok]
    constructor
    · rintro ⟨_, ⟨hclash, hfree, rfl⟩, _, ⟨hamount, hentryClash, hentry, rfl⟩, rfl⟩
      exact ⟨trivial, hfree, hclash, hentry, hentryClash, hamount, rfl⟩
    · rintro ⟨-, hfree, hclash, hentry, hentryClash, hamount, rfl⟩
      exact ⟨_, ⟨hclash, hfree, rfl⟩, _, ⟨hamount, hentryClash, hentry, rfl⟩, rfl⟩

theorem applyPaymentSignal_eq_ok {P : Platform} {db db' : Database} {w : WebhookApplication}
    {attempt : AttemptWithRelations} {money : Option (Decimal × Currency)} {transactionId : Uuid}
    {transaction : PaymentTransaction}
    (h : applyPaymentSignal P db w attempt money transactionId transaction = .ok db') :
    SignalOutcome P db w attempt money transactionId transaction db' := by
  rw [applyPaymentSignal] at h
  by_cases hreview : (paidPayloadProblem P w attempt).isSome ∨ lateCollection w attempt ∨
      additionalCollection db w attempt money transactionId
  · have hstatus : w.payload.status = .paid := by
      by_contra hne
      simp [paidPayloadProblem, lateCollection, additionalCollection, hne] at hreview
    rw [if_pos hreview] at h
    obtain rfl := Except.ok.inj h
    exact .reviewed _ _ hstatus
  · rw [if_neg hreview] at h
    simp only [not_or, Bool.not_eq_true, Option.isSome_eq_false_iff, Option.isNone_iff_eq_none] at hreview
    obtain ⟨hproblem, hlate, hadditional⟩ := hreview
    cases hstatus : w.payload.status with
    | paid =>
      simp only [hstatus, bind_eq_ok, pure_eq_ok] at h
      obtain ⟨db₁, hconfirm, rfl⟩ := h
      simp only [paidPayloadProblem, hstatus, if_true] at hproblem
      have hsingle : money.isSome → db.otherCollection attempt.id transactionId = false :=
        fun hmoney ↦ by simpa [additionalCollection, hstatus, hmoney] using hadditional
      cases hpayment : attempt.payment with
      | some p =>
        have hskip : db₁ = db := by
          rw [confirmPaidAttempt, if_pos (.inl (by simp [hpayment]))] at hconfirm
          exact (Except.ok.inj hconfirm).symm
        subst hskip
        exact .alreadyPaid hstatus (by simp [hpayment]) hsingle
      | none =>
        have hblocker : paidAttemptWebhookConfirmationBlocker attempt.row.status
            attempt.row.expiresAt attempt.appointment.status attempt.consultationRequest.status
            w.clock.checkedAt = none := by
          simpa [lateCollection, hstatus, hpayment] using hlate
        obtain ⟨hopen, hchecked, -, -⟩ := confirmationBlocker_eq_none.mp hblocker
        have hunpaid : attempt.row.status ≠ .paid := by
          intro heq
          simp [heq, PaymentAttemptStatus.isOpen] at hopen
        obtain ⟨hblocker', hfree, hclash, hentry, hentryClash, hamount, rfl⟩ :=
          (confirmPaidAttempt_eq_ok hpayment hunpaid).mp hconfirm
        obtain ⟨-, htime, hreserved, hpending⟩ := confirmationBlocker_eq_none.mp hblocker'
        exact .confirmed hstatus hproblem hpayment hopen hreserved hpending ⟨hchecked, htime⟩
          hsingle hfree hclash hentry hentryClash hamount
    | pending =>
      simp only [hstatus] at h
      obtain rfl := Except.ok.inj h
      exact hstatus ▸ .pending hstatus
    | refunded =>
      simp only [hstatus, true_or, if_true] at h
      obtain rfl := Except.ok.inj h
      exact .reversed (.inl hstatus)
    | disputed =>
      simp only [hstatus, true_or, or_true, if_true] at h
      obtain rfl := Except.ok.inj h
      exact .reversed (.inr (.inl hstatus))
    | cancelled =>
      cases hpayment : attempt.payment with
      | some p =>
        simp only [hstatus, hpayment, Option.isSome_some, and_self, or_true, if_true] at h
        obtain rfl := Except.ok.inj h
        exact .reversed (.inr (.inr ⟨hstatus, by simp [hpayment]⟩))
      | none =>
        simp [hstatus, hpayment] at h
        obtain rfl := h
        exact hstatus ▸ .released (.inr (.inr ⟨hstatus, hpayment⟩))
    | expired =>
      simp [hstatus] at h
      obtain rfl := h
      exact hstatus ▸ .released (.inr (.inl hstatus))
    | failed =>
      simp [hstatus] at h
      obtain rfl := h
      exact hstatus ▸ .released (.inl hstatus)

/-! ## The whole transaction -/

/-- The guards of `applyWebhookPaymentState`, for an event that is not processed yet. -/
structure Accepted (P : Platform) (db : Database) (w : WebhookApplication)
    (attempt : AttemptWithRelations) (money : Option (Decimal × Currency)) : Prop where
  uuid : P.isUuid w.payload.attemptId
  event : ∃ e, db.paymentWebhookEvents.lookup w.event = some e ∧ e.processingStatus ≠ .processed ∧
    e.signatureStatus = .verified
  found : db.findAttempt w.payload.attemptId = some attempt
  provider : attempt.row.provider = w.provider.text
  order : w.provider = .paymob → attempt.row.providerOrderId.getD "" ≠ "" ∧
    attempt.row.providerOrderId = w.payload.providerOrderId
  money : providerReportedMoney P w.payload = .ok money

/-- The event of an application is linked to the attempt and the recorded transaction. -/
def linkEvent (db : Database) (w : WebhookApplication) (attemptId transactionId : Uuid) :
    Database :=
  db.updateEvent w.event fun e ↦
    { e with attemptId := some attemptId, transactionId := some transactionId }

/-- A successful application is one of a processed event, which changes nothing, or passes the
guards, records a transaction and applies the signal. -/
theorem applyWebhookPaymentState_eq_ok {P : Platform} {db db' : Database} {w : WebhookApplication} :
    applyWebhookPaymentState P db w = .ok db' ↔
      (P.isUuid w.payload.attemptId ∧ db' = db ∧ ∃ e,
        db.paymentWebhookEvents.lookup w.event = some e ∧ e.processingStatus = .processed) ∨
      ∃ attempt money db₁ transactionId transaction, Accepted P db w attempt money ∧
        upsertPaymentTransaction db w.event w.fresh.transaction
          (payloadTransaction w attempt money) = .ok (db₁, transactionId, transaction) ∧
        applyPaymentSignal P (linkEvent db₁ w attempt.id transactionId) w attempt money
          transactionId transaction = .ok db' := by
  simp only [applyWebhookPaymentState, bind_eq_ok, Platform.parseUuid_eq_ok, orThrow_eq_ok]
  constructor
  · rintro ⟨_, ⟨huuid, rfl⟩, e, he, h⟩
    by_cases hprocessed : e.processingStatus = .processed
    · rw [if_pos hprocessed, pure_eq_ok] at h
      exact .inl ⟨huuid, h.symm, e, he, hprocessed⟩
    · simp only [if_neg hprocessed, bind_eq_ok, throwIf_eq_ok, orThrow_eq_ok, not_not, not_and,
        not_or] at h
      obtain ⟨_, hverified, attempt, hfound, _, hprovider, _, horder, money, hmoney,
        ⟨db₁, transactionId, transaction⟩, hupsert, h⟩ := h
      exact .inr ⟨attempt, money, db₁, transactionId, transaction,
        ⟨huuid, ⟨e, he, hprocessed, hverified⟩, hfound, hprovider, horder, hmoney⟩, hupsert, h⟩
  · rintro (⟨huuid, rfl, e, he, hprocessed⟩ | ⟨attempt, money, db₁, transactionId, transaction,
      ⟨huuid, ⟨e, he, hprocessed, hverified⟩, hfound, hprovider, horder, hmoney⟩, hupsert, h⟩)
    · exact ⟨_, ⟨huuid, rfl⟩, e, he, by rw [if_pos hprocessed, pure_eq_ok]⟩
    · refine ⟨_, ⟨huuid, rfl⟩, e, he, ?_⟩
      simp only [if_neg hprocessed, bind_eq_ok, throwIf_eq_ok, orThrow_eq_ok, not_not, not_and,
        not_or]
      exact ⟨(), hverified, attempt, hfound, (), hprovider, (), horder, money, hmoney, _, hupsert, h⟩

/-- The same with the transaction and the outcome spelled out. -/
theorem applyWebhookPaymentState_cases {P : Platform} {db db' : Database} {w : WebhookApplication}
    (h : applyWebhookPaymentState P db w = .ok db') :
    db' = db ∨ ∃ attempt money db₁ transactionId transaction, Accepted P db w attempt money ∧
      TransactionRecorded db w.fresh.transaction (payloadTransaction w attempt money) db₁
        transactionId transaction ∧
      SignalOutcome P (linkEvent db₁ w attempt.id transactionId) w attempt money transactionId
        transaction db' := by
  obtain ⟨-, rfl, -⟩ | ⟨attempt, money, db₁, transactionId, transaction, haccepted, hupsert,
    hsignal⟩ := applyWebhookPaymentState_eq_ok.mp h
  · exact .inl rfl
  · exact .inr ⟨attempt, money, db₁, transactionId, transaction, haccepted,
      upsertPaymentTransaction_eq_ok hupsert, applyPaymentSignal_eq_ok hsignal⟩

end KmtLegal
