import KmtLegal.Office

/-!
# Staff work during a checkout

While a client pays, the consultation waits for the payment and its appointment is reserved.  The
staff may work on both in the meantime.  A review does not get through, but an assignment takes the
consultation out of its waiting state, and the generic move takes the appointment out of its
reservation; the payment that arrives then is put under review instead of being confirmed.
-/

namespace KmtLegal

open Relational Js

/-! ## The work of the staff -/

inductive StaffCall where
  | assign (call : AssignConsultation)
  | review (call : ReviewConsultation)
  | reschedule (call : RescheduleCalendarAppointment)

def serveStaff (P : Platform) (db : Database) : StaffCall → Except Failure Database
  | .assign call => assignConsultation P db call
  | .review call => reviewConsultation P db call
  | .reschedule call => rescheduleAdminCalendarAppointment P db call

/-- The call assigns the consultation of the attempt or moves its appointment. -/
def StaffCall.disturbs (a : PaymentAttempt) : StaffCall → Prop
  | .assign call => call.consultationId = a.consultationRequestId
  | .review _ => False
  | .reschedule call => call.appointmentId = a.appointmentId

/-- The appointment of the attempt is reserved and its consultation waits for the payment. -/
def AwaitsPayment (a : PaymentAttempt) (db : Database) : Prop :=
  (db.appointments.lookup a.appointmentId).map Appointment.status = some .reserved ∧
    (db.consultationRequests.lookup a.consultationRequestId).map ConsultationRequest.status =
      some .paymentPending

/-- The staff writes clients, appointments and consultations. -/
def StaffFrame (db db' : Database) : Prop :=
  db' = { db with
    clients := db'.clients
    appointments := db'.appointments
    consultationRequests := db'.consultationRequests }

section

variable {P : Platform} {db db' : Database} {a : PaymentAttempt}

theorem StaffFrame.trans {db'' : Database} (h : StaffFrame db db') (h' : StaffFrame db' db'') :
    StaffFrame db db'' := by
  rw [StaffFrame] at h h' ⊢
  rw [h'] at *
  rw [h]

theorem serveStaff_frame {call : StaffCall} (h : serveStaff P db call = .ok db') :
    StaffFrame db db' := by
  cases call with
  | assign call =>
    obtain ⟨c, -, -, -, -, hdb⟩ := assignConsultation_ok h
    rw [StaffFrame, hdb]
  | review call =>
    obtain ⟨c, -, -, rfl⟩ := reviewConsultation_ok h
    rfl
  | reschedule call =>
    obtain ⟨p, startsAt, -, -, -, -, rfl⟩ := rescheduleAdminCalendarAppointment_ok h
    rfl

/-- Only the two statuses matter. -/
theorem awaitsPayment_congr
    (happointment : (db'.appointments.lookup a.appointmentId).map Appointment.status =
      (db.appointments.lookup a.appointmentId).map Appointment.status)
    (hconsultation : (db'.consultationRequests.lookup a.consultationRequestId).map
        ConsultationRequest.status =
      (db.consultationRequests.lookup a.consultationRequestId).map ConsultationRequest.status) :
    AwaitsPayment a db' ↔ AwaitsPayment a db := by
  rw [AwaitsPayment, AwaitsPayment, happointment, hconsultation]

/-- An assigned consultation does not wait for a payment. -/
theorem AssignConsultation.write_status (call : AssignConsultation) (c : ConsultationRequest) :
    (call.write c).status = if c.status = .scheduled then .scheduled else .reviewing := by
  unfold AssignConsultation.write
  split_ifs <;> rfl

/-- An assignment ends the waiting of its consultation, and of no other. -/
theorem assignConsultation_awaits_iff {call : AssignConsultation}
    (h : assignConsultation P db call = .ok db') :
    AwaitsPayment a db' ↔ AwaitsPayment a db ∧ ¬call.consultationId = a.consultationRequestId := by
  obtain ⟨c, hc, -, -, -, hdb⟩ := assignConsultation_ok h
  have hconsultations := congrArg Database.consultationRequests hdb
  by_cases hid : call.consultationId = a.consultationRequestId
  · refine ⟨fun hawaits ↦ ?_, fun hawaits ↦ absurd hid hawaits.2⟩
    have hstatus := hawaits.2
    rw [hconsultations, ← hid, Table.lookup_update_self, hc, Option.map_some, Option.map_some,
      call.write_status] at hstatus
    split_ifs at hstatus <;> cases hstatus
  · rw [and_iff_left hid]
    refine awaitsPayment_congr ?_ ?_
    · rw [congrArg Database.appointments hdb]
      cases getPrimaryConsultationAppointment db call.consultationId with
      | none => rfl
      | some e => exact Table.lookup_update_column _ _ _ fun _ ↦ rfl
    · rw [hconsultations, Table.lookup_update_of_ne _ _ (Ne.symm hid)]

/-- A move ends the reservation of its appointment, and of no other. -/
theorem rescheduleAdminCalendarAppointment_awaits_iff {call : RescheduleCalendarAppointment}
    (h : rescheduleAdminCalendarAppointment P db call = .ok db') :
    AwaitsPayment a db' ↔ AwaitsPayment a db ∧ ¬call.appointmentId = a.appointmentId := by
  obtain ⟨p, startsAt, hp, -, -, -, rfl⟩ := rescheduleAdminCalendarAppointment_ok h
  by_cases hid : call.appointmentId = a.appointmentId
  · refine ⟨fun hawaits ↦ ?_, fun hawaits ↦ absurd hid hawaits.2⟩
    have hstatus := hawaits.1
    rw [Database.updateAppointment, ← hid, Table.lookup_update_self, hp, Option.map_some,
      Option.map_some] at hstatus
    cases hstatus
  · rw [and_iff_left hid]
    refine awaitsPayment_congr ?_ rfl
    rw [Database.updateAppointment, Table.lookup_update_of_ne _ _ (Ne.symm hid)]

/-- A call ends the waiting exactly if it disturbs the attempt. -/
theorem serveStaff_awaits_iff {call : StaffCall} (h : serveStaff P db call = .ok db') :
    AwaitsPayment a db' ↔ AwaitsPayment a db ∧ ¬call.disturbs a := by
  cases call with
  | assign call => exact assignConsultation_awaits_iff h
  | review call =>
    obtain ⟨c, -, -, rfl⟩ := reviewConsultation_ok h
    rw [and_iff_left (show ¬(StaffCall.review call).disturbs a from id)]
    exact awaitsPayment_congr rfl (Table.lookup_update_column _ _ _ fun _ ↦ rfl)
  | reschedule call => exact rescheduleAdminCalendarAppointment_awaits_iff h

/-! ## The payment -/

/-- A verified report of the payment of attempt `a`, over its amount and in its currency, that
arrives in time.  The ids of the rows it creates are fresh. -/
structure PaidSignal (P : Platform) (db : Database) (w : WebhookApplication) (a : PaymentAttempt) :
    Prop where
  uuid : P.isUuid w.payload.attemptId
  attempt : db.paymentAttempts.lookup w.payload.attemptId = some a
  isOpen : a.status.isOpen
  event : ∃ e, db.paymentWebhookEvents.lookup w.event = some e ∧ e.signatureStatus = .verified ∧
    e.processingStatus ≠ .processed ∧ e.transactionId = none
  provider : a.provider = w.provider.text
  order : w.provider = .paymob → a.providerOrderId.getD "" ≠ "" ∧
    a.providerOrderId = w.payload.providerOrderId
  paid : w.payload.status = .paid
  money : providerReportedMoney P w.payload = .ok (some (a.amount, a.currency))
  exact : paidWebhookPayloadProblem P w.payload a = none
  inTime : w.clock.checkedAt < a.expiresAt ∧ w.clock.confirmAt < a.expiresAt
  /-- The provider gives its transactions ids of their own. -/
  transaction : w.payload.providerTransactionId ≠ some "" ∧
    ∀ id t, db.paymentTransactions.lookup id = some t → t.provider = w.provider.text →
      t.providerTransactionId.isSome →
      t.providerTransactionId = w.payload.providerTransactionId →
      t.attemptId = w.payload.attemptId
  sound : (collectionOf db w.payload.attemptId).Sound
  freshTransaction : db.paymentTransactions.lookup w.fresh.transaction = none
  freshPayment : db.payments.lookup w.fresh.payment = none ∧
    ∀ id e, db.paymentEntries.lookup id = some e → e.paymentId ≠ w.fresh.payment
  freshEntry : db.paymentEntries.lookup w.fresh.entry = none

/-- There is something to settle, and the number of the invoice and the reference of its settlement
are free. -/
def Billable (db : Database) (w : WebhookApplication) (a : PaymentAttempt) : Prop :=
  0 < a.amount ∧
    (∀ id p, db.payments.lookup id = some p →
      p.invoiceNumber ≠ gatewayInvoiceNumber w.payload.attemptId w.clock.issuedAt) ∧
    ∀ id e, db.paymentEntries.lookup id = some e →
      e.externalReference ≠ some ("gateway:" ++ w.payload.attemptId)

/-- The webhook confirms the booking: nothing blocks it, one invoice is created for the attempt,
and its appointment is scheduled. -/
def Confirms (P : Platform) (db : Database) (w : WebhookApplication) : Prop :=
  ∃ attempt db', db.findAttempt w.payload.attemptId = some attempt ∧
    paidAttemptWebhookConfirmationBlocker attempt.row.status attempt.row.expiresAt
      attempt.appointment.status attempt.consultationRequest.status w.clock.confirmAt = none ∧
    applyWebhookPaymentState P db w = .ok db' ∧
    (∃ id p, db.payments.lookup id = none ∧ p.paymentAttemptId = some w.payload.attemptId ∧
      db'.payments = AList.insert id p db.payments) ∧
    (db'.appointments.lookup attempt.row.appointmentId).map Appointment.status = some .scheduled

variable {w : WebhookApplication}

/-- The staff does not touch what a report of a payment is about. -/
theorem PaidSignal.staffFrame (h : PaidSignal P db w a) (hframe : StaffFrame db db') :
    PaidSignal P db' w a := by
  rw [StaffFrame] at hframe
  rw [hframe]
  exact { h with }

theorem billable_staffFrame (hframe : StaffFrame db db') : Billable db' w a ↔ Billable db w a := by
  rw [StaffFrame] at hframe
  rw [hframe]
  rfl

/-- The transaction of the report is recorded. -/
theorem upsertPaymentTransaction_succeeds {event : String × String} {newId : Uuid}
    (input : PaymentTransaction)
    (hevent : ∀ e, db.paymentWebhookEvents.lookup event = some e → e.transactionId = none)
    (hid : input.providerTransactionId ≠ some "")
    (hprovider : ∀ id t, db.paymentTransactions.lookup id = some t → t.provider = input.provider →
      t.providerTransactionId.isSome → t.providerTransactionId = input.providerTransactionId →
      t.attemptId = input.attemptId)
    (hfresh : db.paymentTransactions.lookup newId = none) :
    ∃ r, upsertPaymentTransaction db event newId input = .ok r := by
  have hlinked : linkedTransaction db event input = .ok none := by
    unfold linkedTransaction
    cases hlookup : db.paymentWebhookEvents.lookup event with
    | none => rfl
    | some e => rw [Option.bind_some, hevent e hlookup]
  rw [upsertPaymentTransaction, hlinked, ok_bind]
  cases hstored : transactionOfProvider db input with
  | some e =>
    obtain ⟨id, t⟩ := e
    have hlookup := transactionOfProvider_lookup hstored
    have hsame : t.attemptId = input.attemptId := by
      unfold transactionOfProvider at hstored
      split at hstored
      · cases hstored
      · rename_i providerTransactionId hsome
        split_ifs at hstored
        obtain ⟨hcolumn, hprovider'⟩ := of_decide_eq_true (Table.findFirst_eq_some hstored).2
        exact hprovider id t hlookup hcolumn (by rw [hprovider']; rfl) (by rw [hprovider', hsome])
    simp only [hsame, ne_eq, not_true_eq_false]
    split_ifs <;> exact ⟨_, rfl⟩
  | none =>
    have hcreate : db.createPaymentTransaction newId input =
        .ok { db with paymentTransactions := db.paymentTransactions.insert newId input } := by
      refine Database.createPaymentTransaction_eq_ok.mpr ⟨fun hsome ↦ ?_, hfresh, rfl⟩
      unfold transactionOfProvider at hstored
      split at hstored
      · rename_i hnone
        rw [hnone] at hsome
        cases hsome
      · rename_i providerTransactionId hvalue
        rw [if_neg fun hempty ↦ hid (hvalue.trans (congrArg some hempty)),
          Table.findFirst_eq_none] at hstored
        refine Table.any_eq_false.mpr fun id t ht ↦ ?_
        rw [hvalue]
        exact hstored id t ht
    simp only [hcreate, ok_bind]
    exact ⟨_, rfl⟩

/-- An open attempt has no other collection than the one that is reported. -/
theorem PaidSignal.otherCollection (h : PaidSignal P db w a) {db₁ : Database} {transactionId : Uuid}
    {input transaction : PaymentTransaction}
    (hrecorded : TransactionRecorded db w.fresh.transaction input db₁ transactionId transaction) :
    (linkEvent db₁ w w.payload.attemptId transactionId).otherCollection w.payload.attemptId
      transactionId = false := by
  have hnone : Collected db w.payload.attemptId = ∅ :=
    (h.sound.of_open ((collectionOf_isOpen h.attempt).mpr h.isOpen)).1
  refine Table.any_eq_false.mpr fun id t ht hother ↦ ?_
  obtain ⟨hattempt, hne, hpaid⟩ := of_decide_eq_true hother
  have hmem : id ∈ Collected db w.payload.attemptId :=
    ⟨t, (hrecorded.lookup_of_ne hne).symm.trans ht, hattempt, hpaid⟩
  rw [hnone] at hmem
  exact hmem

/-- The invoice is written exactly if its number is free. -/
theorem paymentClash_gatewayPayment (h : PaidSignal P db w a) {attempt : AttemptWithRelations}
    (hid : attempt.id = w.payload.attemptId) (hpayments : db'.payments = db.payments)
    (transactionId : Uuid) (transaction : PaymentTransaction) :
    db'.paymentClash w.fresh.payment
        (gatewayPayment attempt transactionId transaction w.clock.issuedAt) = false ↔
      ∀ id p, db.payments.lookup id = some p →
        p.invoiceNumber ≠ gatewayInvoiceNumber w.payload.attemptId w.clock.issuedAt := by
  have hinvoiced : Invoiced db w.payload.attemptId = ∅ :=
    (h.sound.of_open ((collectionOf_isOpen h.attempt).mpr h.isOpen)).2
  rw [Database.paymentClash, hpayments, Table.any_eq_false]
  refine forall₃_congr fun id p hp ↦ not_congr ?_
  have hne : id ≠ w.fresh.payment := by
    rintro rfl
    rw [h.freshPayment.1] at hp
    cases hp
  have hattempt : p.paymentAttemptId ≠ some w.payload.attemptId := fun hattempt ↦ by
    have hmem : id ∈ Invoiced db w.payload.attemptId := ⟨p, hp, hattempt⟩
    rw [hinvoiced] at hmem
    exact hmem
  simp [gatewayPayment, Payment.manualReceiptKey, hid, hne, hattempt]

/-- The settlement is written exactly if its reference is free. -/
theorem paymentEntryClash_trustedSettlement (h : PaidSignal P db w a)
    {attempt : AttemptWithRelations} (hid : attempt.id = w.payload.attemptId)
    (hentries : db'.paymentEntries = db.paymentEntries) (transactionId : Uuid)
    (transaction : PaymentTransaction) :
    db'.paymentEntryClash (trustedSettlement w.fresh.payment
        (gatewayPayment attempt transactionId transaction w.clock.issuedAt) w.clock.issuedAt) =
        false ↔
      ∀ id e, db.paymentEntries.lookup id = some e →
        e.externalReference ≠ some ("gateway:" ++ w.payload.attemptId) := by
  rw [Database.paymentEntryClash, hentries, Table.any_eq_false]
  refine forall₃_congr fun id e he ↦ not_congr ?_
  simp [trustedSettlement, gatewayPayment, hid, h.freshPayment.2 id e he]

theorem ne_paid_of_isOpen {s : PaymentAttemptStatus} (h : s.isOpen) : s ≠ .paid := by
  rintro rfl
  cases h

/-- A confirmation that nothing blocks writes the invoice and schedules the appointment. -/
theorem PaidSignal.confirmPaidAttempt_succeeds (h : PaidSignal P db w a)
    (attempt : AttemptWithRelations) (db' : Database) (hid : attempt.id = w.payload.attemptId)
    (hrow : attempt.row = a) (hpayment : attempt.payment = none)
    (hblocker : paidAttemptWebhookConfirmationBlocker attempt.row.status attempt.row.expiresAt
      attempt.appointment.status attempt.consultationRequest.status w.clock.confirmAt = none)
    (hbillable : Billable db w a) (hpayments : db'.payments = db.payments)
    (hentries : db'.paymentEntries = db.paymentEntries) (transactionId : Uuid)
    (transaction : PaymentTransaction) :
    ∃ db'', confirmPaidAttempt db' w.clock w.fresh attempt transactionId transaction = .ok db'' ∧
      (∃ p, p.paymentAttemptId = some attempt.id ∧
        db''.payments = AList.insert w.fresh.payment p db'.payments) ∧
      db''.appointments = db'.appointments.update attempt.row.appointmentId fun p ↦
        { p with
          status := .scheduled
          notes := some "Confirmed after trusted payment webhook." } := by
  subst hrow
  refine ⟨_, (confirmPaidAttempt_eq_ok hpayment (ne_paid_of_isOpen h.isOpen)).mpr ⟨hblocker, ?_,
    (paymentClash_gatewayPayment h hid hpayments transactionId transaction).mpr hbillable.2.1, ?_,
    (paymentEntryClash_trustedSettlement h hid hentries transactionId transaction).mpr
      hbillable.2.2, hbillable.1, rfl⟩, ⟨_, rfl, rfl⟩, rfl⟩
  · rw [hpayments]
    exact h.freshPayment.1
  · rw [hentries]
    exact h.freshEntry

/-- A payment that nothing speaks against is confirmed. -/
theorem applyPaymentSignal_paid {attempt : AttemptWithRelations}
    (money : Option (Decimal × Currency)) {transactionId : Uuid} {transaction : PaymentTransaction}
    (hconfirm : confirmPaidAttempt db w.clock w.fresh attempt transactionId transaction = .ok db')
    (hpaid : w.payload.status = .paid)
    (hproblem : paidWebhookPayloadProblem P w.payload attempt.row = none)
    (hblocker : paidAttemptWebhookConfirmationBlocker attempt.row.status attempt.row.expiresAt
      attempt.appointment.status attempt.consultationRequest.status w.clock.checkedAt = none)
    (hsingle : db.otherCollection attempt.id transactionId = false) :
    applyPaymentSignal P db w attempt money transactionId transaction =
      .ok (finishEvent db' w none) := by
  have hmatches : ¬((paidPayloadProblem P w attempt).isSome ∨ lateCollection w attempt ∨
      additionalCollection db w attempt money transactionId) := by
    simp [paidPayloadProblem, lateCollection, additionalCollection, hpaid, hproblem, hblocker,
      hsingle]
  rw [applyPaymentSignal, if_neg hmatches]
  simp only [hpaid, hconfirm, ok_bind]
  rfl

/-- A report confirms the booking exactly if the booking waits for it and it can be billed. -/
theorem PaidSignal.confirms_iff (h : PaidSignal P db w a) :
    Confirms P db w ↔ AwaitsPayment a db ∧ Billable db w a := by
  constructor
  · rintro ⟨attempt, db', hfound, hblocker, hok, ⟨id, p, hfree, -, hpayments⟩, -⟩
    obtain ⟨hid, hrow, happ, hcons, -⟩ := Database.findAttempt_eq_some.mp hfound
    obtain rfl : a = attempt.row := Option.some.inj (h.attempt.symm.trans hrow)
    obtain ⟨-, -, hreserved, hpending⟩ := confirmationBlocker_eq_none.mp hblocker
    refine ⟨⟨by rw [happ, ← hreserved]; rfl, by rw [hcons, ← hpending]; rfl⟩, ?_⟩
    have hchanged : db'.payments ≠ db.payments := by
      intro hsame
      rw [hsame] at hpayments
      rw [hpayments, Table.lookup_insert, if_pos rfl] at hfree
      cases hfree
    obtain rfl | ⟨attempt', money, db₁, transactionId, transaction, haccepted, hrecorded,
      houtcome⟩ := applyWebhookPaymentState_cases hok
    · exact absurd rfl hchanged
    obtain rfl : attempt' = attempt := Option.some.inj (haccepted.found.symm.trans hfound)
    have hframe := hrecorded.frame
    generalize db₁.paymentTransactions = transactions at hframe
    subst hframe
    cases houtcome with
    | reviewed problem => exact absurd (reviewCollection_payments problem) hchanged
    | alreadyPaid => exact absurd rfl hchanged
    | confirmed _ _ _ _ _ _ _ _ _ hclash _ hentryClash hamount =>
      exact ⟨hamount, (paymentClash_gatewayPayment h hid rfl transactionId transaction).mp hclash,
        (paymentEntryClash_trustedSettlement h hid rfl transactionId transaction).mp hentryClash⟩
    | reversed hstatus => simp [h.paid] at hstatus
    | released hstatus => simp [h.paid] at hstatus
    | pending hstatus => simp [h.paid] at hstatus
  · rintro ⟨⟨hp, hc⟩, hamount, hnumber, hreference⟩
    obtain ⟨p, hp, hreserved⟩ := Option.map_eq_some_iff.mp hp
    obtain ⟨c, hc, hpending⟩ := Option.map_eq_some_iff.mp hc
    have hunpaid : db.paymentOfAttempt w.payload.attemptId = none := paymentOfAttempt_eq_none.mpr
      (h.sound.of_open ((collectionOf_isOpen h.attempt).mpr h.isOpen)).2
    let attempt : AttemptWithRelations := ⟨w.payload.attemptId, a, p, c, none⟩
    have hfound : db.findAttempt w.payload.attemptId = some attempt :=
      Database.findAttempt_eq_some.mpr ⟨rfl, h.attempt, hp, hc, hunpaid.symm⟩
    have hblocker : ∀ now, now < a.expiresAt → paidAttemptWebhookConfirmationBlocker a.status
        a.expiresAt p.status c.status now = none := fun now htime ↦
      confirmationBlocker_eq_none.mpr ⟨h.isOpen, htime, hreserved, hpending⟩
    obtain ⟨e, he, hverified, hprocessed, hlinked⟩ := h.event
    have haccepted : Accepted P db w attempt (some (a.amount, a.currency)) :=
      ⟨h.uuid, ⟨e, he, hprocessed, hverified⟩, hfound, h.provider, h.order, h.money⟩
    obtain ⟨⟨db₁, transactionId, transaction⟩, hupsert⟩ := upsertPaymentTransaction_succeeds
      (payloadTransaction w attempt (some (a.amount, a.currency)))
      (fun e' he' ↦ by rw [he] at he'; cases he'; exact hlinked) h.transaction.1 h.transaction.2
      h.freshTransaction
    have hrecorded := upsertPaymentTransaction_eq_ok hupsert
    have hsingle := h.otherCollection hrecorded
    have hframe := hrecorded.frame
    generalize db₁.paymentTransactions = transactions at hframe
    subst hframe
    obtain ⟨db₂, hconfirm, hpayments, happointments⟩ := h.confirmPaidAttempt_succeeds attempt
      (linkEvent { db with paymentTransactions := transactions } w w.payload.attemptId
        transactionId) rfl rfl rfl (hblocker w.clock.confirmAt h.inTime.2)
      ⟨hamount, hnumber, hreference⟩ rfl rfl transactionId transaction
    have hsignal := applyPaymentSignal_paid (some (a.amount, a.currency)) hconfirm h.paid h.exact
      (hblocker w.clock.checkedAt h.inTime.1) hsingle
    refine ⟨attempt, _, hfound, hblocker w.clock.confirmAt h.inTime.2,
      applyWebhookPaymentState_eq_ok.mpr (.inr ⟨attempt, _, _, transactionId, transaction,
        haccepted, hupsert, hsignal⟩), ?_, ?_⟩
    · obtain ⟨payment, hattempt, hinsert⟩ := hpayments
      exact ⟨w.fresh.payment, payment, h.freshPayment.1, hattempt, hinsert⟩
    · change (db₂.appointments.lookup a.appointmentId).map _ = _
      rw [happointments, Table.lookup_update_self, Option.map_map]
      change (db.appointments.lookup a.appointmentId).map _ = _
      rw [hp]
      rfl

/-! ## Sequences -/

end

/-! ## Two calls -/

/-- The attempt of `sampleOffice`. -/
def sampleAttempt : PaymentAttempt where
  provider := "paytabs"
  status := .pending
  clientId := "c"
  consultationRequestId := sampleConsultation
  appointmentId := sampleReservation
  amount := 750
  currency := .egp
  startsAt := 90000
  endsAt := 93600
  expiresAt := 1000
  idempotencyKey := "k"

theorem sampleOffice_awaits : AwaitsPayment sampleAttempt sampleOffice := ⟨rfl, rfl⟩

theorem sampleOffice_billable :
    Billable sampleOffice (heldSignal .paid "750.00" 999) sampleAttempt :=
  ⟨by decide +kernel, fun _ p h ↦ (nomatch (show none = some p from h)),
    fun _ e h ↦ nomatch (show none = some e from h)⟩

/-- A report of the payment one millisecond before the attempt expires; reading dates does not
matter for it. -/
theorem sampleOffice_signal (parseDate : String → Option Time) :
    PaidSignal { plainPlatform with parseDate } sampleOffice (heldSignal .paid "750.00" 999)
      sampleAttempt where
  uuid := show plainPlatform.isUuid heldAttempt by decide +kernel
  attempt := rfl
  isOpen := rfl
  event := ⟨_, rfl, rfl, nofun, rfl⟩
  provider := rfl
  order := nofun
  paid := rfl
  money := show providerReportedMoney plainPlatform (heldSignal .paid "750.00" 999).payload =
    .ok (some (750, .egp)) by decide +kernel
  exact := show paidWebhookPayloadProblem plainPlatform (heldSignal .paid "750.00" 999).payload
    sampleAttempt = none by decide +kernel
  inTime := by decide
  transaction := ⟨by decide, fun _ t h ↦ nomatch (show none = some t from h)⟩
  sound := by
    have hcollected : (collectionOf sampleOffice heldAttempt).collected = ∅ :=
      Set.eq_empty_iff_forall_notMem.mpr fun _ ⟨t, h, _⟩ ↦ nomatch (show none = some t from h)
    have hinvoiced : (collectionOf sampleOffice heldAttempt).invoiced = ∅ :=
      Set.eq_empty_iff_forall_notMem.mpr fun _ ⟨p, h, _⟩ ↦ nomatch (show none = some p from h)
    refine ⟨fun _ ↦ ⟨hcollected, hinvoiced⟩, ?_, fun hne ↦ ?_⟩
    · exact hinvoiced ▸ Set.subsingleton_empty
    · exact absurd (hcollected ▸ hne) Set.not_nonempty_empty
  freshTransaction := rfl
  freshPayment := ⟨rfl, fun _ e h ↦ nomatch (show none = some e from h)⟩
  freshEntry := rfl

/-- The meeting is moved a hundred seconds back. -/
def sampleMove : RescheduleCalendarAppointment :=
  { actor := sampleSecretary, appointmentId := sampleMeeting
    startsAt := "1970-01-01T00:03:20.000Z", now := 500, refusedAt := 500 }

end KmtLegal
