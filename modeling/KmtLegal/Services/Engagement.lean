import KmtLegal.Relational.Run
import KmtLegal.Services.ServiceRequest

/-!
# What a service request promises

The client is billed for the quote she has accepted, once.  An engagement is what that comes to for
one request: quotes replace one another until one of them is accepted with an invoice, and after
that neither the quote nor the invoice changes.  Every action on a request is a step of its
engagement or leaves it alone.
-/

namespace KmtLegal

open Relational

/-! ## Engagements -/

/-- Where the client and the office are. -/
structure Engagement where
  quote : Option ServiceQuote
  quoteVersion : ℕ
  acceptedQuoteVersion : Option ℕ
  paymentId : Option Uuid

def ServiceRequest.engagement (row : ServiceRequest) : Engagement where
  quote := row.quote
  quoteVersion := row.quoteVersion
  acceptedQuoteVersion := row.acceptedQuoteVersion
  paymentId := row.paymentId

/-- The request is worked on, or done. -/
def ServiceRequestStatus.isEngaged (s : ServiceRequestStatus) : Bool :=
  s ∈ [.inProgress, .ready, .completed]

def ServiceRequestStatus.isClosed (s : ServiceRequestStatus) : Bool :=
  s ∈ [.completed, .cancelled]

/-! ## What a successful action does -/

/-- What an action that succeeds does to the request and to the invoices. -/
inductive ServiceOutcome (P : Platform) (call : ActOnServiceRequest) (row : ServiceRequest)
    (payments : Table Uuid Payment) (row' : ServiceRequest) (payments' : Table Uuid Payment) : Prop
  /-- The engagement stays, and work neither begins nor ends before a quote was accepted. -/
  | kept (hengagement : row'.engagement = row.engagement) (hpayments : payments' = payments)
      (hstatus : row'.status.isEngaged → row.status.isEngaged)
      (hquote : ∀ quote, call.action ≠ .quote quote)
  | quoted (quote : ServiceQuote) (haction : call.action = .quote quote)
      (hopen : row.paymentId = none) (hpayments : payments' = payments)
      (hengagement : row'.engagement =
        { row.engagement with quote := some quote, quoteVersion := row.quoteVersion + 1 })
      (hstatus : row'.status = .awaitingAcceptance)
  | accepted (quote : ServiceQuote) (amount : Decimal)
      (haction : call.action = .accept row.quoteVersion) (hown : call.isOwn row)
      (hstatus : row.status = .awaitingAcceptance) (hopen : row.paymentId = none)
      (hquote : row.quote = some quote) (hamount : P.decimal quote.amount = .finite amount)
      (hfresh : payments.lookup call.newPaymentId = none)
      (hpayments : payments' =
        payments.insert call.newPaymentId (servicePayment call row quote amount))
      (hengagement : row'.engagement =
        { row.engagement with
          acceptedQuoteVersion := some row.quoteVersion
          paymentId := some call.newPaymentId })

section

variable {P : Platform} {db : Database} {call : ActOnServiceRequest} {row : ServiceRequest}
  {effect : ServiceEffect}

/-- A message is written into its thread only. -/
theorem postServiceMessage_frame {db' : Database} {threadId : Uuid} {body : String}
    (h : postServiceMessage db call row threadId body = .ok db') :
    db' = { db with
      conversationMessages := db'.conversationMessages
      conversationThreads := db'.conversationThreads } := by
  simp only [postServiceMessage, bind_eq_ok, throwIf_eq_ok, pure_eq_ok] at h
  obtain ⟨_, -, _, -, rfl⟩ := h
  rfl

theorem openServiceThread_frame {db' : Database} {threadId : Option Uuid}
    (h : openServiceThread db call row = .ok (db', threadId)) :
    db' = { db with conversationThreads := db'.conversationThreads } := by
  unfold openServiceThread at h
  split at h
  · cases h
    rfl
  · simp only [bind_eq_ok, pure_eq_ok, Prod.mk.injEq] at h
    obtain ⟨_, -, rfl, -⟩ := h
    rfl

/-- Nobody gets to the work, or to its end, but from the work. -/
theorem transition_engaged {status : ServiceTransition} {body : String}
    (h : transitionService db call row status body = .ok effect) :
    effect.db = db ∧ (∀ r, effect.change r = { r with status := status.status }) ∧
      (status.status.isEngaged → row.status.isEngaged) := by
  have hfrom : ∀ s : ServiceRequestStatus, status ∈ staffTransitions s → status.status.isEngaged →
      s.isEngaged := by
    intro s
    cases s <;> cases status <;> decide
  have hown : ownTransition row status body → status.status.isEngaged → row.status.isEngaged := by
    intro hown
    cases status with
    | inProgress => rw [(of_decide_eq_true hown).1]; decide
    | completed => rw [of_decide_eq_true hown]; decide
    | ready => cases hown
    | cancelled | needsInformation => nofun
  unfold transitionService at h
  split at h
  · simp only [bind_eq_ok, throwIf_eq_ok, pure_eq_ok] at h
    obtain ⟨_, howns, rfl⟩ := h
    exact ⟨rfl, fun _ ↦ rfl, hown (by simpa using howns)⟩
  · simp only [bind_eq_ok, throwIf_eq_ok, pure_eq_ok] at h
    obtain ⟨_, -, _, hstaff, _, -, rfl⟩ := h
    exact ⟨rfl, fun _ ↦ rfl, hfrom row.status (by simpa using hstaff)⟩

/-- The other rows of the requests are left to the action's own update. -/
theorem serviceEffect_ok (h : serviceEffect P db call row = .ok effect) :
    effect.db.serviceRequests = db.serviceRequests ∧
      ServiceOutcome P call row db.payments (effect.change row) effect.db.payments := by
  unfold serviceEffect at h
  split at h <;> rename_i haction
  · simp only [saveIntake, bind_eq_ok, throwIf_eq_ok, pure_eq_ok] at h
    obtain ⟨_, -, _, -, _, -, _, -, _, -, rfl⟩ := h
    exact ⟨rfl, .kept rfl rfl id (by simp [haction])⟩
  · simp only [submitService, bind_eq_ok, throwIf_eq_ok, pure_eq_ok, Prod.exists] at h
    obtain ⟨_, -, _, -, db', threadId, hthread, rfl⟩ := h
    have hframe := openServiceThread_frame hthread
    exact ⟨by rw [hframe], .kept rfl (by rw [hframe]) (fun h ↦ by cases h) (by simp [haction])⟩
  · simp only [assignService, bind_eq_ok, throwIf_eq_ok, pure_eq_ok] at h
    obtain ⟨_, -, _, -, rfl⟩ := h
    exact ⟨rfl, .kept rfl rfl id (by simp [haction])⟩
  · rename_i quote
    simp only [quoteService, bind_eq_ok, throwIf_eq_ok, pure_eq_ok, not_or, Option.isSome_iff_ne_none,
      not_not] at h
    obtain ⟨_, ⟨-, -, -, hopen⟩, rfl⟩ := h
    exact ⟨rfl, .quoted quote haction hopen rfl rfl rfl⟩
  · rename_i quoteVersion
    simp only [acceptService, bind_eq_ok, throwIf_eq_ok, orThrow_eq_ok, not_or, ne_eq, not_not,
      Option.isSome_iff_ne_none] at h
    obtain ⟨_, ⟨hown, hstatus, hversion, hopen⟩, quote, hquote, h⟩ := h
    split at h
    · rename_i amount hamount
      simp only [bind_eq_ok, pure_eq_ok, Database.createPayment_eq_ok] at h
      obtain ⟨_, ⟨-, hfresh, rfl⟩, rfl⟩ := h
      subst hversion
      exact ⟨rfl, .accepted quote amount haction (by simpa using hown) hstatus hopen hquote hamount
        hfresh rfl rfl⟩
    · cases h
    · cases h
  · simp only [messageService, bind_eq_ok, throwIf_eq_ok] at h
    obtain ⟨_, -, _, -, h⟩ := h
    split at h
    · simp only [bind_eq_ok, pure_eq_ok] at h
      obtain ⟨db', hmessage, rfl⟩ := h
      have hframe := postServiceMessage_frame hmessage
      exact ⟨by rw [hframe], .kept rfl (by rw [hframe]) id (by simp [haction])⟩
    · cases h
      exact ⟨rfl, .kept rfl rfl id (by simp [haction])⟩
  · obtain ⟨hdb, hchange, hengaged⟩ := transition_engaged h
    rw [hdb, hchange]
    exact ⟨rfl, .kept rfl rfl hengaged (by simp [haction])⟩

/-- The revision is no part of the engagement. -/
theorem ServiceOutcome.withRevision {payments payments' : Table Uuid Payment} {row' : ServiceRequest}
    (h : ServiceOutcome P call row payments row' payments') (n : ℕ) :
    ServiceOutcome P call row payments { row' with revision := n } payments' := by
  cases h with
  | kept hengagement hpayments hstatus hquote =>
    exact .kept hengagement hpayments hstatus hquote
  | quoted quote haction hopen hpayments hengagement hstatus =>
    exact .quoted quote haction hopen hpayments hengagement hstatus
  | accepted quote amount haction hown hstatus hopen hquote hamount hfresh hpayments hengagement =>
    exact .accepted quote amount haction hown hstatus hopen hquote hamount hfresh hpayments
      hengagement

/-- What a call that succeeded tells, and what it did. -/
theorem actOnServiceRequest_ok {db' : Database} (h : actOnServiceRequest P db call = .ok db') :
    ∃ row row', db.serviceRequests.lookup call.id = some row ∧ row.revision = call.revision ∧
      ¬row.status.isClosed ∧ db'.serviceRequests.lookup call.id = some row' ∧
      row'.revision = row.revision + 1 ∧
      (∀ id ≠ call.id, db'.serviceRequests.lookup id = db.serviceRequests.lookup id) ∧
      ServiceOutcome P call row db.payments row' db'.payments := by
  simp only [actOnServiceRequest, bind_eq_ok, throwIf_eq_ok, orThrow_eq_ok, pure_eq_ok, ne_eq,
    not_not] at h
  obtain ⟨_, -, row, hrow, _, hrevision, _, hopen, effect, heffect, _, -, rfl⟩ := h
  have hrow : db.serviceRequests.lookup call.id = some row := (Option.filter_eq_some_iff.mp hrow).1
  obtain ⟨hrequests, houtcome⟩ := serviceEffect_ok heffect
  refine ⟨row, { effect.change row with revision := row.revision + 1 }, hrow, hrevision, ?_, ?_, rfl,
    fun id hid ↦ ?_, houtcome.withRevision _⟩
  · exact fun hclosed ↦ hopen (of_decide_eq_true hclosed)
  · rw [hrequests, Table.lookup_update_self, hrow]
    rfl
  · rw [hrequests]
    exact Table.lookup_update_of_ne _ _ hid

end

/-! ## Promises -/

/-- One call; if it is refused the transaction is rolled back. -/
def serveServiceRequest (P : Platform) (db : Database) (call : ActOnServiceRequest) : Database :=
  commit (actOnServiceRequest P db call) db

/-- The owner accepts the quote she has seen, and its invoice is written under `paymentId`. -/
def AcceptedQuote (P : Platform) (db db' : Database) (call : ActOnServiceRequest)
    (row : ServiceRequest) (paymentId : Uuid) : Prop :=
  call.isOwn row ∧ call.action = .accept row.quoteVersion ∧ row.status = .awaitingAcceptance ∧
    db.payments.lookup paymentId = none ∧ ∃ quote payment, row.quote = some quote ∧
      P.decimal quote.amount = .finite payment.amount ∧ payment.currency = quote.currency ∧
      payment.clientId = row.clientId ∧ db'.payments = db.payments.insert paymentId payment

/-- What holds of one call, whatever it asks for. -/
structure StepPromise (P : Platform) (db : Database) (call : ActOnServiceRequest) : Prop where
  refused : ∀ e, actOnServiceRequest P db call = .error e → serveServiceRequest P db call = db
  stale : ∀ row, db.serviceRequests.lookup call.id = some row →
    row.revision ≠ call.revision ∨ row.status.isClosed → serveServiceRequest P db call = db
  revision : ∀ db', actOnServiceRequest P db call = .ok db' →
    ∃ row row', db.serviceRequests.lookup call.id = some row ∧
      (serveServiceRequest P db call).serviceRequests.lookup call.id = some row' ∧
      row.revision = call.revision ∧ row'.revision = row.revision + 1
  /-- An invoice is written for an accepted quote only, and linked to its request. -/
  payments : (serveServiceRequest P db call).payments = db.payments ∨
    ∃ row row' paymentId, db.serviceRequests.lookup call.id = some row ∧
      (serveServiceRequest P db call).serviceRequests.lookup call.id = some row' ∧
      row.paymentId = none ∧ row'.paymentId = some paymentId ∧
      AcceptedQuote P db (serveServiceRequest P db call) call row paymentId
  linked : ∀ id row row' paymentId, db.serviceRequests.lookup id = some row →
    (serveServiceRequest P db call).serviceRequests.lookup id = some row' →
    row.paymentId = none → row'.paymentId = some paymentId →
    id = call.id ∧ AcceptedQuote P db (serveServiceRequest P db call) call row paymentId
  /-- What was accepted stays. -/
  fixed : ∀ id row paymentId, db.serviceRequests.lookup id = some row →
    row.paymentId = some paymentId →
    ∃ row', (serveServiceRequest P db call).serviceRequests.lookup id = some row' ∧
      row'.engagement = row.engagement ∧
      ∀ payment, db.payments.lookup paymentId = some payment →
        (serveServiceRequest P db call).payments.lookup paymentId = some payment

/-- What holds of a request at any time. -/
structure RowPromise (P : Platform) (payments : Table Uuid Payment) (row : ServiceRequest) :
    Prop where
  /-- There is work only after a quote was accepted. -/
  engaged : row.status.isEngaged → row.paymentId.isSome
  /-- The invoice is that of the quote. -/
  billed : ∀ paymentId, row.paymentId = some paymentId →
    row.acceptedQuoteVersion = some row.quoteVersion ∧ ∃ quote payment, row.quote = some quote ∧
      payments.lookup paymentId = some payment ∧
      P.decimal quote.amount = .finite payment.amount ∧ payment.currency = quote.currency

section

variable {P : Platform} {db : Database} {call : ActOnServiceRequest} {row row' : ServiceRequest}
  {payments payments' : Table Uuid Payment}

/-- No action takes an invoice away or changes it. -/
theorem ServiceOutcome.payment (h : ServiceOutcome P call row payments row' payments')
    {paymentId : Uuid} {payment : Payment} (hp : payments.lookup paymentId = some payment) :
    payments'.lookup paymentId = some payment := by
  cases h with
  | kept _ hpayments => rw [hpayments, hp]
  | quoted _ _ _ hpayments => rw [hpayments, hp]
  | accepted _ _ _ _ _ _ _ _ hfresh hpayments =>
    have hne : paymentId ≠ call.newPaymentId := by
      rintro rfl
      rw [hfresh] at hp
      cases hp
    rw [hpayments, Table.lookup_insert, if_neg hne, hp]

/-- A request with an invoice has its engagement for good. -/
theorem ServiceOutcome.engagement_eq (h : ServiceOutcome P call row payments row' payments')
    (hlinked : row.paymentId ≠ none) : row'.engagement = row.engagement := by
  cases h with
  | kept hengagement => exact hengagement
  | quoted _ _ hopen => exact absurd hopen hlinked
  | accepted _ _ _ _ _ hopen => exact absurd hopen hlinked

theorem RowPromise.step (h : RowPromise P payments row)
    (houtcome : ServiceOutcome P call row payments row' payments') :
    RowPromise P payments' row' := by
  cases houtcome with
  | kept hengagement hpayments hstatus =>
    obtain ⟨hquote, hversion, haccepted, hpayment⟩ := Engagement.mk.inj hengagement
    rw [hpayments]
    refine ⟨fun hengaged ↦ ?_, fun paymentId hlinked ↦ ?_⟩
    · rw [hpayment]
      exact h.engaged (hstatus hengaged)
    · rw [hpayment] at hlinked
      rw [haccepted, hversion, hquote]
      exact h.billed paymentId hlinked
  | quoted quote _ hopen _ hengagement hstatus =>
    obtain ⟨-, -, -, hpayment⟩ := Engagement.mk.inj hengagement
    refine ⟨fun hengaged ↦ ?_, fun paymentId hlinked ↦ ?_⟩
    · rw [hstatus] at hengaged
      cases hengaged
    · rw [hpayment, ServiceRequest.engagement, hopen] at hlinked
      cases hlinked
  | accepted quote amount _ _ _ _ hquote hamount hfresh hpayments hengagement =>
    obtain ⟨hquote', hversion', haccepted', hpayment'⟩ := Engagement.mk.inj hengagement
    refine ⟨fun _ ↦ ?_, fun paymentId hlinked ↦ ?_⟩
    · rw [hpayment']
      rfl
    · rw [hpayment'] at hlinked
      obtain rfl := Option.some.inj hlinked
      rw [haccepted', hversion', hquote', hpayments]
      exact ⟨rfl, quote, servicePayment call row quote amount, hquote,
        by rw [Table.lookup_insert, if_pos rfl], hamount, rfl⟩

theorem stepPromise (P : Platform) (db : Database) (call : ActOnServiceRequest) :
    StepPromise P db call := by
  cases hact : actOnServiceRequest P db call with
  | error e =>
    have hsame : serveServiceRequest P db call = db := by
      rw [serveServiceRequest, hact, commit_error]
    refine ⟨fun _ _ ↦ hsame, fun _ _ _ ↦ hsame, fun _ h ↦ ?_, .inl (by rw [hsame]), ?_, ?_⟩
    · cases hact.symm.trans h
    · intro id row row' paymentId hrow hrow' hopen hlinked
      rw [hsame, hrow] at hrow'
      rw [← Option.some.inj hrow', hopen] at hlinked
      cases hlinked
    · exact fun id row _ hrow _ ↦ ⟨row, by rw [hsame, hrow], rfl, fun _ hp ↦ by rw [hsame, hp]⟩
  | ok db' =>
    have hnew : serveServiceRequest P db call = db' := by
      rw [serveServiceRequest, hact, commit_ok]
    obtain ⟨row, row', hrow, hcurrent, hopen, hrow', hrevision, hothers, houtcome⟩ :=
      actOnServiceRequest_ok hact
    have haccepted : ∀ paymentId, row.paymentId = none → row'.paymentId = some paymentId →
        AcceptedQuote P db db' call row paymentId := by
      intro paymentId hnone hlinked
      cases houtcome with
      | kept hengagement =>
        rw [(Engagement.mk.inj hengagement).2.2.2, hnone] at hlinked
        cases hlinked
      | quoted _ _ _ _ hengagement =>
        rw [(Engagement.mk.inj hengagement).2.2.2, ServiceRequest.engagement, hnone] at hlinked
        cases hlinked
      | accepted quote amount haction hown hstatus _ hquote hamount hfresh hpayments hengagement =>
        rw [(Engagement.mk.inj hengagement).2.2.2] at hlinked
        obtain rfl := Option.some.inj hlinked
        exact ⟨hown, haction, hstatus, hfresh, quote, servicePayment call row quote amount, hquote,
          hamount, rfl, rfl, hpayments⟩
    refine ⟨fun _ h ↦ ?_, fun r hr hrefused ↦ ?_, fun _ _ ↦ ?_, ?_, ?_, ?_⟩
    · cases hact.symm.trans h
    · rw [hrow] at hr
      obtain rfl := Option.some.inj hr
      rcases hrefused with hstale | hclosed
      · exact absurd hcurrent hstale
      · exact absurd hclosed hopen
    · exact ⟨row, row', hrow, by rw [hnew, hrow'], hcurrent, hrevision⟩
    · rw [hnew]
      cases houtcome with
      | kept _ hpayments => exact .inl hpayments
      | quoted _ _ _ hpayments => exact .inl hpayments
      | accepted _ _ _ _ _ hnone _ _ _ _ hengagement =>
        have hlinked := (Engagement.mk.inj hengagement).2.2.2
        exact .inr ⟨row, row', call.newPaymentId, hrow, hrow', hnone, hlinked,
          haccepted _ hnone hlinked⟩
    · intro id r r' paymentId hr hr' hnone hlinked
      rw [hnew] at hr' ⊢
      by_cases hid : id = call.id
      · subst hid
        rw [hrow] at hr
        rw [hrow'] at hr'
        obtain rfl := Option.some.inj hr
        obtain rfl := Option.some.inj hr'
        exact ⟨rfl, haccepted paymentId hnone hlinked⟩
      · rw [hothers id hid, hr] at hr'
        rw [← Option.some.inj hr', hnone] at hlinked
        cases hlinked
    · intro id r paymentId hr hlinked
      rw [hnew]
      refine ⟨if id = call.id then row' else r, ?_, ?_, fun payment hp ↦ houtcome.payment hp⟩
      · split_ifs with hid
        · rw [hid, hrow']
        · rw [hothers id hid, hr]
      · split_ifs with hid
        · subst hid
          rw [hrow] at hr
          obtain rfl := Option.some.inj hr
          exact houtcome.engagement_eq (by rw [hlinked]; nofun)
        · rfl

/-- A quote that was made for the request. -/
def isQuoteOf (P : Platform) (id : Uuid) (db : Database) (call : ActOnServiceRequest) : Bool :=
  call.id = id ∧ (call.action matches .quote _) ∧ (actOnServiceRequest P db call).isOk

/-- The version of the quote of a request. -/
def quoteVersionOf (id : Uuid) (db : Database) : ℕ :=
  ((db.serviceRequests.lookup id).map ServiceRequest.quoteVersion).getD 0

theorem quoteVersionOf_step (id : Uuid) (db : Database) (call : ActOnServiceRequest) :
    quoteVersionOf id (serveServiceRequest P db call) =
      quoteVersionOf id db + (isQuoteOf P id db call).toNat := by
  unfold isQuoteOf quoteVersionOf
  cases hact : actOnServiceRequest P db call with
  | error e => simp [serveServiceRequest, hact, Except.isOk, Except.toBool]
  | ok db' =>
    rw [serveServiceRequest, hact, commit_ok]
    obtain ⟨row, row', hrow, -, -, hrow', -, hothers, houtcome⟩ := actOnServiceRequest_ok hact
    by_cases hid : call.id = id
    · subst hid
      rw [hrow, hrow']
      cases houtcome with
      | kept hengagement _ _ hquote =>
        have hversion := (Engagement.mk.inj hengagement).2.1
        cases haction : call.action with
        | quote quote => exact absurd haction (hquote quote)
        | _ => simp [hversion]
      | quoted _ haction _ _ hengagement =>
        have hversion := (Engagement.mk.inj hengagement).2.1
        simp [hversion, haction, Except.isOk, Except.toBool]
      | accepted _ _ haction _ _ _ _ _ _ _ hengagement =>
        have hversion : row'.quoteVersion = row.quoteVersion := (Engagement.mk.inj hengagement).2.1
        simp [hversion, haction]
    · rw [hothers id (Ne.symm hid)]
      simp [hid]

/-- Every call keeps the promises of a request. -/
theorem rowPromise_step {id : Uuid}
    (h : ∃ row, db.serviceRequests.lookup id = some row ∧ RowPromise P db.payments row) :
    ∃ row, (serveServiceRequest P db call).serviceRequests.lookup id = some row ∧
      RowPromise P (serveServiceRequest P db call).payments row := by
  obtain ⟨r, hr, hpromise⟩ := h
  cases hact : actOnServiceRequest P db call with
  | error e =>
    rw [serveServiceRequest, hact, commit_error]
    exact ⟨r, hr, hpromise⟩
  | ok db' =>
    rw [serveServiceRequest, hact, commit_ok]
    obtain ⟨row, row', hrow, -, -, hrow', -, hothers, houtcome⟩ := actOnServiceRequest_ok hact
    by_cases hid : id = call.id
    · subst hid
      rw [hrow] at hr
      obtain rfl := Option.some.inj hr
      exact ⟨row', hrow', hpromise.step houtcome⟩
    · refine ⟨r, by rw [hothers id hid, hr], hpromise.engaged, fun paymentId hlinked ↦ ?_⟩
      obtain ⟨hversion, quote, payment, hquote, hp, hamount, hcurrency⟩ :=
        hpromise.billed paymentId hlinked
      exact ⟨hversion, quote, payment, hquote, houtcome.payment hp, hamount, hcurrency⟩

/-- From a draft without invoice, whatever calls are made: every call keeps its promises, and so does
the request; the version of its quote counts the quotes. -/
theorem service_promises {id : Uuid} (hrow : db.serviceRequests.lookup id = some row)
    (hdraft : row.status = .draft) (hopen : row.paymentId = none) (l : List ActOnServiceRequest) :
    AllSteps (serveServiceRequest P) (StepPromise P) db l ∧
      ∃ row', (run (serveServiceRequest P) db l).serviceRequests.lookup id = some row' ∧
        RowPromise P (run (serveServiceRequest P) db l).payments row' ∧
        row'.quoteVersion =
          row.quoteVersion + stepCount (serveServiceRequest P) (isQuoteOf P id) db l := by
  have hstart : RowPromise P db.payments row := by
    refine ⟨fun hengaged ↦ ?_, fun _ hlinked ↦ ?_⟩
    · rw [hdraft] at hengaged
      cases hengaged
    · rw [hopen] at hlinked
      cases hlinked
  refine ⟨allSteps_of_invariant (J := fun _ ↦ True) (fun _ _ _ ↦ trivial)
    (fun db call _ ↦ stepPromise P db call) trivial l, ?_⟩
  obtain ⟨row', hrow', hpromise⟩ := run_invariant
    (I := fun db : Database ↦ ∃ row, db.serviceRequests.lookup id = some row ∧ RowPromise P db.payments row)
    (fun _ _ ↦ rowPromise_step) ⟨row, hrow, hstart⟩ l
  have hversion := run_measure (quoteVersionOf_step (P := P) id) db l
  unfold quoteVersionOf at hversion
  rw [hrow, hrow'] at hversion
  exact ⟨row', hrow', hpromise, hversion⟩

end

/-! ### From a draft to an invoice -/

def sampleServiceRequest : ServiceRequest where
  reference := "CONTRACT-1"
  clientId := "client"
  kind := .contractDraft
  locale := "en"
  intake := { title := "Lease", purpose := "A lease for an office" }
  idempotencyKey := "key"

def sampleServices : Database where
  clients := (∅ : Table Uuid Client).insert "client"
    { userId := some "user", fullName := "Client", phone := "+201000000000" }
  serviceRequests := (∅ : Table Uuid ServiceRequest).insert "request" sampleServiceRequest

/-- The call with revision `n` of the client or of the office. -/
def sampleServiceCall (client : Bool) (n : ℕ) (action : ServiceAction) : ActOnServiceRequest where
  actor := if client then { id := "user", roleName := "Client", clientId := some "client" }
    else { id := "staff", roleName := "Office Admin" }
  id := "request"
  revision := n
  action
  now := 0
  newPaymentId := "payment"
  invoiceId := "invoice"
  newThreadId := "thread"
  newMessageId := "message"
  newEventId := "event" ++ toString n

/-- The client submits her request and accepts the quote of the office. -/
def sampleServiceCalls : List ActOnServiceRequest :=
  [sampleServiceCall true 0 .submit,
    sampleServiceCall false 1 (.quote ⟨"250.00", .egp, "Drafting of the lease", 7⟩),
    sampleServiceCall true 2 (.accept 1)]

theorem service_promises_sampleServices :
    AllSteps (serveServiceRequest plainPlatform) (StepPromise plainPlatform) sampleServices
        sampleServiceCalls ∧
      ∃ row', (run (serveServiceRequest plainPlatform) sampleServices
          sampleServiceCalls).serviceRequests.lookup "request" = some row' ∧
        RowPromise plainPlatform (run (serveServiceRequest plainPlatform) sampleServices
          sampleServiceCalls).payments row' ∧
        row'.quoteVersion = 0 + stepCount (serveServiceRequest plainPlatform)
          (isQuoteOf plainPlatform "request") sampleServices sampleServiceCalls :=
  service_promises (show sampleServices.serviceRequests.lookup "request" =
    some sampleServiceRequest by decide +kernel) rfl rfl sampleServiceCalls

/-- The invoice is there. -/
example : ((run (serveServiceRequest plainPlatform) sampleServices
    sampleServiceCalls).payments.lookup "payment").map Payment.amount = some 250 := by
  decide +kernel

end KmtLegal
