import KmtLegal.Payments.Collection

/-!
# The record of a transaction

Every application of a webhook event records a transaction: the one the event is linked to, the one
stored under the provider's id, or a new one.  This file follows the rows: which one an event is
linked to when it is processed again, and what is left of a collection when other signals about it
arrive.
-/

namespace KmtLegal

open Relational

/-- The transaction an event is linked to. -/
def transactionOfEvent (db : Database) (event : String × String) : Option Uuid :=
  (db.paymentWebhookEvents.lookup event).bind PaymentWebhookEvent.transactionId

/-! ## The routes of the upsert -/

/-- The routes of `upsertPaymentTransaction`, with what each has looked up. -/
inductive TransactionRoute (db : Database) (event : String × String) (newId : Uuid)
    (input : PaymentTransaction) : Database → Uuid → PaymentTransaction → Prop
  /-- The linked transaction stays as it is. -/
  | linked {id : Uuid} {t : PaymentTransaction} (hlink : transactionOfEvent db event = some id)
      (hlookup : db.paymentTransactions.lookup id = some t) :
      TransactionRoute db event newId input db id t
  /-- The transaction of the provider's id stays as it is. -/
  | kept {id : Uuid} {t : PaymentTransaction}
      (hlinked : linkedTransaction db event input = .ok none)
      (hprovider : transactionOfProvider db input = some (id, t)) :
      TransactionRoute db event newId input db id t
  | merged {id : Uuid} {t : PaymentTransaction}
      (hlinked : linkedTransaction db event input = .ok none)
      (hprovider : transactionOfProvider db input = some (id, t))
      (hchange : preserveTransactionState t.status input.status t.paidAt = false) :
      TransactionRoute db event newId input
        { db with paymentTransactions := db.paymentTransactions.update id fun t ↦ t.merge input }
        id (t.merge input)
  | created (hlinked : linkedTransaction db event input = .ok none)
      (hprovider : transactionOfProvider db input = none)
      (hclash : input.providerTransactionId.isSome → db.paymentTransactions.any (fun _ t ↦
        t.provider = input.provider ∧
          t.providerTransactionId = input.providerTransactionId) = false)
      (hfree : db.paymentTransactions.lookup newId = none) :
      TransactionRoute db event newId input
        { db with paymentTransactions := db.paymentTransactions.insert newId input } newId input

section

variable {db db' : Database} {event : String × String} {newId id : Uuid}
  {input t : PaymentTransaction}

theorem linkedTransaction_eq_some {linked : Uuid × PaymentTransaction}
    (h : linkedTransaction db event input = .ok (some linked)) :
    transactionOfEvent db event = some linked.1 ∧
      db.paymentTransactions.lookup linked.1 = some linked.2 := by
  unfold linkedTransaction at h
  split at h
  · cases h
  · rename_i id hlink
    simp only [bind_eq_ok, orThrow_eq_ok, throwIf_eq_ok, pure_eq_ok] at h
    obtain ⟨t, ht, _, -, hr⟩ := h
    split at hr
    · cases hr
      exact ⟨hlink, ht⟩
    · cases hr

/-- A linked transaction is passed over only if the signal changes it. -/
theorem preserve_of_linkedTransaction (h : linkedTransaction db event input = .ok none)
    (hlink : transactionOfEvent db event = some id) :
    ∃ t, db.paymentTransactions.lookup id = some t ∧ t.attemptId = input.attemptId ∧
      preserveTransactionState t.status input.status t.paidAt = false := by
  unfold linkedTransaction at h
  rw [show (db.paymentWebhookEvents.lookup event).bind PaymentWebhookEvent.transactionId = some id
    from hlink] at h
  simp only [bind_eq_ok, orThrow_eq_ok, throwIf_eq_ok, pure_eq_ok, not_not] at h
  obtain ⟨t, ht, _, hattempt, hr⟩ := h
  refine ⟨t, ht, hattempt, ?_⟩
  split at hr
  · cases hr
  · rename_i hpreserve
    exact Bool.not_eq_true _ ▸ hpreserve

theorem upsertPaymentTransaction_route
    (h : upsertPaymentTransaction db event newId input = .ok (db', id, t)) :
    TransactionRoute db event newId input db' id t := by
  simp only [upsertPaymentTransaction, bind_eq_ok] at h
  obtain ⟨linked, hlinked, h⟩ := h
  cases linked with
  | some linked =>
    cases h
    obtain ⟨hlink, hlookup⟩ := linkedTransaction_eq_some hlinked
    exact .linked hlink hlookup
  | none =>
    dsimp only at h
    split at h
    · rename_i hprovider
      simp only [bind_eq_ok, throwIf_eq_ok] at h
      obtain ⟨_, -, h⟩ := h
      split at h
      · cases h
        exact .kept hlinked hprovider
      · rename_i hchange
        cases h
        exact .merged hlinked hprovider (by simpa using hchange)
    · rename_i hprovider
      simp only [bind_eq_ok, Database.createPaymentTransaction_eq_ok] at h
      obtain ⟨_, ⟨hclash, hfree, rfl⟩, h⟩ := h
      cases h
      exact .created hlinked hprovider hclash hfree

/-- A row changes only by a merge under the provider's id. -/
theorem TransactionRoute.lookup_cases (h : TransactionRoute db event newId input db' id t) {i : Uuid}
    {c : PaymentTransaction} (hc : db.paymentTransactions.lookup i = some c) :
    db'.paymentTransactions.lookup i = some c ∨
      linkedTransaction db event input = .ok none ∧ transactionOfProvider db input = some (i, c) ∧
        preserveTransactionState c.status input.status c.paidAt = false ∧
        db'.paymentTransactions.lookup i = some (c.merge input) := by
  cases h with
  | linked => exact .inl hc
  | kept => exact .inl hc
  | @merged id t hlinked hprovider hchange =>
    by_cases hi : i = id
    · subst hi
      have ht := transactionOfProvider_lookup hprovider
      rw [hc] at ht
      cases ht
      exact .inr ⟨hlinked, hprovider, hchange, by simp [hc]⟩
    · exact .inl (by simp [hi, hc])
  | created _ _ _ hfree =>
    refine .inl ?_
    have hi : i ≠ newId := by
      rintro rfl
      rw [hfree] at hc
      cases hc
    simp [hi, hc]

end

/-! ## Collections -/

/-- Collected transactions keep everything but their status, as the provider and as the office
calls it. -/
def CollectionsKept (db db' : Database) : Prop :=
  ∀ id c, db.paymentTransactions.lookup id = some c → c.paidAt.isSome →
    ∃ rawStatus status, db'.paymentTransactions.lookup id = some { c with rawStatus, status }

theorem CollectionsKept.of_eq {db db' : Database}
    (h : db'.paymentTransactions = db.paymentTransactions) : CollectionsKept db db' :=
  fun _ c hc _ ↦ ⟨c.rawStatus, c.status, h ▸ hc⟩

theorem CollectionsKept.trans {db db' db'' : Database} (h : CollectionsKept db db')
    (h' : CollectionsKept db' db'') : CollectionsKept db db'' := by
  intro id c hc hpaid
  obtain ⟨rawStatus, status, hc'⟩ := h id c hc hpaid
  obtain ⟨rawStatus', status', hc''⟩ := h' id _ hc' hpaid
  exact ⟨rawStatus', status', hc''⟩

/-- If the request is about to change the row of a collection, it reports the money the row
states. -/
def ReportsCollectedMoney (P : Platform) (db : Database) (request : PaymentRequest) : Prop :=
  ∀ db₀ w attempt money id c, appliedWebhook P db request = some (db₀, w) →
    Accepted P db₀ w attempt money →
    linkedTransaction db₀ w.event (payloadTransaction w attempt money) = .ok none →
    transactionOfProvider db₀ (payloadTransaction w attempt money) = some (id, c) →
    c.paidAt.isSome →
    preserveTransactionState c.status (payloadTransaction w attempt money).status c.paidAt = false →
    (payloadTransaction w attempt money).amount = c.amount ∧
      (payloadTransaction w attempt money).currency = c.currency

theorem TransactionRoute.collectionsKept {db db' : Database} {event : String × String}
    {newId id : Uuid} {input t : PaymentTransaction}
    (h : TransactionRoute db event newId input db' id t)
    (hmoney : ∀ i c, linkedTransaction db event input = .ok none →
      transactionOfProvider db input = some (i, c) → c.paidAt.isSome →
      preserveTransactionState c.status input.status c.paidAt = false →
      input.amount = c.amount ∧ input.currency = c.currency) : CollectionsKept db db' := by
  intro i c hc hpaid
  rcases h.lookup_cases hc with hsame | ⟨hlinked, hprovider, hchange, hmerged⟩
  · exact ⟨c.rawStatus, c.status, hsame⟩
  · obtain ⟨hamount, hcurrency⟩ := hmoney i c hlinked hprovider hpaid hchange
    obtain ⟨paidAt, hpaidAt⟩ := Option.isSome_iff_exists.mp hpaid
    refine ⟨input.rawStatus, input.status, hmerged.trans ?_⟩
    rw [PaymentTransaction.merge, hamount, hcurrency, hpaidAt]
    rfl

theorem paymentStep_collectionsKept {P : Platform} {db : Database} {request : PaymentRequest}
    (h : ReportsCollectedMoney P db request) : CollectionsKept db (paymentStep P db request) := by
  have houtcome := paymentStep_outcome P db request
  generalize paymentStep P db request = db' at houtcome ⊢
  cases houtcome with
  | events => exact .of_eq rfl
  | expired => exact .of_eq rfl
  | applied events w _ happlied hok =>
    obtain ⟨-, rfl, -⟩ | ⟨attempt, money, db₁, transactionId, transaction, haccepted, hupsert,
      hsignal⟩ := applyWebhookPaymentState_eq_ok.mp hok
    · exact .of_eq rfl
    · have hrecorded := (upsertPaymentTransaction_route hupsert).collectionsKept
        fun i c ↦ h _ w attempt money i c happlied haccepted
      refine .trans (fun i c hc ↦ hrecorded i c hc) (.of_eq ?_)
      exact (applyPaymentSignal_eq_ok hsignal).transactions

/-! ### Evaluating a condition on what is applied -/

/-- A check of the payment transaction a request leads to. -/
def checkApplied (P : Platform) (check : Database → WebhookApplication → PaymentTransaction → Bool)
    (db : Database) (request : PaymentRequest) : Bool :=
  match appliedWebhook P db request with
  | none => true
  | some (db₀, w) =>
    match db₀.findAttempt w.payload.attemptId, providerReportedMoney P w.payload with
    | some attempt, .ok money => check db₀ w (payloadTransaction w attempt money)
    | _, _ => true

theorem of_checkApplied {P : Platform}
    {check : Database → WebhookApplication → PaymentTransaction → Bool} {db db₀ : Database}
    {request : PaymentRequest} {w : WebhookApplication} {attempt : AttemptWithRelations}
    {money : Option (Decimal × Currency)} (h : checkApplied P check db request)
    (happlied : appliedWebhook P db request = some (db₀, w))
    (haccepted : Accepted P db₀ w attempt money) :
    check db₀ w (payloadTransaction w attempt money) := by
  simpa only [checkApplied, happlied, haccepted.found, haccepted.money] using h

/-- The event of a refund for the payment of `newBooking`. -/
def refundEvent : String × String := ("paytabs", "TST2606500002")

/-- A payment of 750 that is refunded, as its provider reports it, with an amount. -/
def refundedBooking (amount : String) : Database :=
  { newBooking .paid with
    paymentWebhookEvents := (newBooking .paid).paymentWebhookEvents.insert refundEvent
      { attemptId := some heldAttempt, signatureStatus := .verified, processingStatus := .pending
        payloadHash := "h'"
        normalizedPayload := some (storedNormalizedPayload (heldSignal .refunded amount 2000).payload) } }

def replayRefund : PaymentRequest :=
  .replay ⟨⟨"u", "Office Admin", none, none⟩, refundEvent, ⟨2000, 2000, 2000, 2000, 2000⟩,
    ⟨"t'", "i'", "e'"⟩⟩

/-- Linked events stay linked to the same transaction. -/
def LinksKept (db db' : Database) : Prop :=
  ∀ event id, transactionOfEvent db event = some id → transactionOfEvent db' event = some id

theorem LinksKept.refl (db : Database) : LinksKept db db := fun _ _ h ↦ h

theorem LinksKept.trans {db db' db'' : Database} (h : LinksKept db db')
    (h' : LinksKept db' db'') : LinksKept db db'' :=
  fun event id hlink ↦ h' event id (h event id hlink)

theorem transactionOfEvent_updateEvent {db : Database} {key : String × String}
    {f : PaymentWebhookEvent → PaymentWebhookEvent}
    (hf : ∀ e, (f e).transactionId = e.transactionId) (event : String × String) :
    transactionOfEvent (db.updateEvent key f) event = transactionOfEvent db event := by
  rw [transactionOfEvent, Database.updateEvent]
  by_cases h : event = key
  · subst h
    rw [Table.lookup_update_self, transactionOfEvent]
    cases db.paymentWebhookEvents.lookup event with
    | none => rfl
    | some e => exact hf e
  · rw [Table.lookup_update_of_ne _ _ h, transactionOfEvent]

theorem LinksKept.updateEvent {db : Database} {key : String × String}
    {f : PaymentWebhookEvent → PaymentWebhookEvent}
    (hf : ∀ e, (f e).transactionId = e.transactionId) : LinksKept db (db.updateEvent key f) :=
  fun event _ hlink ↦ (transactionOfEvent_updateEvent hf event).trans hlink

/-- A new event has no transaction. -/
theorem LinksKept.insertEvent {db : Database} {key : String × String}
    (hnew : db.paymentWebhookEvents.lookup key = none) (row : PaymentWebhookEvent) :
    LinksKept db { db with paymentWebhookEvents := db.paymentWebhookEvents.insert key row } := by
  intro other id hlink
  have hne : other ≠ key := by
    rintro rfl
    rw [transactionOfEvent, hnew] at hlink
    cases hlink
  rwa [transactionOfEvent, Table.lookup_insert, if_neg hne]

theorem planWebhook_linksKept (P : Platform) (db : Database) (delivery : WebhookDelivery) :
    LinksKept db (planWebhook P db delivery).database := by
  rcases planWebhook_database P db delivery with h | ⟨key, row, -, hnew, -, h⟩
  · rw [h]
    exact .refl db
  · rw [h]
    exact .insertEvent hnew row

theorem planReplay_linksKept (db : Database) (replay : WebhookReplay) :
    LinksKept db (planReplay db replay).database := by
  simp only [planReplay]
  split
  · exact .refl db
  · split
    · exact .refl db
    · split_ifs
      · exact .refl db
      · exact .refl db
      · split <;> exact .updateEvent fun _ ↦ rfl

/-- What a signal means for the attempt has no part in the links. -/
theorem SignalOutcome.transactionOfEvent_eq {P : Platform} {db db' : Database}
    {w : WebhookApplication} {attempt : AttemptWithRelations}
    {money : Option (Decimal × Currency)} {transactionId : Uuid} {transaction : PaymentTransaction}
    (h : SignalOutcome P db w attempt money transactionId transaction db')
    (event : String × String) : transactionOfEvent db' event = transactionOfEvent db event := by
  obtain ⟨errorCode, hevents⟩ := h.events_eq
  have hfinish : transactionOfEvent (finishEvent db w errorCode) event = transactionOfEvent db event := by
    rw [finishEvent]
    refine transactionOfEvent_updateEvent ?_ event
    exact fun _ ↦ rfl
  rwa [transactionOfEvent, hevents]

/-- No two rows have the same provider's id: a unique index. -/
def UniqueProviderIds (db : Database) : Prop :=
  ∀ i j t t', db.paymentTransactions.lookup i = some t → db.paymentTransactions.lookup j = some t' →
    t.provider = t'.provider → t.providerTransactionId = t'.providerTransactionId →
    t.providerTransactionId.isSome → i = j

/-- If the request processes an event that is linked already, the linked transaction is to stay as
it is, or is the one the provider's id names. -/
def NamesLinkedTransaction (P : Platform) (db : Database) (request : PaymentRequest) : Prop :=
  ∀ db₀ w attempt money id t, appliedWebhook P db request = some (db₀, w) →
    Accepted P db₀ w attempt money → transactionOfEvent db₀ w.event = some id →
    db₀.paymentTransactions.lookup id = some t → t.attemptId = attempt.id →
    preserveTransactionState t.status (payloadTransaction w attempt money).status t.paidAt ∨
      t.provider = (payloadTransaction w attempt money).provider ∧
        t.providerTransactionId = (payloadTransaction w attempt money).providerTransactionId ∧
        t.providerTransactionId.isSome

theorem transactionOfProvider_spec {db : Database} {input t : PaymentTransaction} {id : Uuid}
    (h : transactionOfProvider db input = some (id, t)) :
    t.provider = input.provider ∧ t.providerTransactionId = input.providerTransactionId ∧
      t.providerTransactionId.isSome := by
  unfold transactionOfProvider at h
  split at h
  · cases h
  · rename_i hid
    split_ifs at h
    obtain ⟨hprovider, hsame⟩ := of_decide_eq_true (Table.findFirst_eq_some h).2
    rw [hid, hsame]
    exact ⟨hprovider, rfl, rfl⟩

namespace TransactionRoute

variable {db db' : Database} {event : String × String} {newId id : Uuid}
  {input t : PaymentTransaction}

theorem events_eq (h : TransactionRoute db event newId input db' id t) :
    db'.paymentWebhookEvents = db.paymentWebhookEvents := by
  cases h <;> rfl

theorem uniqueProviderIds (h : TransactionRoute db event newId input db' id t)
    (hunique : UniqueProviderIds db) : UniqueProviderIds db' := by
  cases h with
  | linked => exact hunique
  | kept => exact hunique
  | @merged id t =>
    have hrow (i : Uuid) (c : PaymentTransaction)
        (hc : (db.paymentTransactions.update id fun t ↦ t.merge input).lookup i = some c) :
        ∃ c₀, db.paymentTransactions.lookup i = some c₀ ∧ c.provider = c₀.provider ∧
          c.providerTransactionId = c₀.providerTransactionId := by
      by_cases hi : i = id
      · rw [hi, Table.lookup_update_self] at hc
        obtain ⟨c₀, hc₀, rfl⟩ := Option.map_eq_some_iff.mp hc
        exact ⟨c₀, hi ▸ hc₀, rfl, rfl⟩
      · rw [Table.lookup_update_of_ne _ _ hi] at hc
        exact ⟨c, hc, rfl, rfl⟩
    intro i j c c' hc hc' hprovider hid hsome
    obtain ⟨c₀, hc₀, hp, ht⟩ := hrow i c hc
    obtain ⟨c₀', hc₀', hp', ht'⟩ := hrow j c' hc'
    exact hunique i j c₀ c₀' hc₀ hc₀' (hp ▸ hp' ▸ hprovider) (ht ▸ ht' ▸ hid) (ht ▸ hsome)
  | created _ _ hclash =>
    have hother (i : Uuid) (c : PaymentTransaction) (hc : db.paymentTransactions.lookup i = some c)
        (hprovider : c.provider = input.provider)
        (hid : c.providerTransactionId = input.providerTransactionId)
        (hsome : input.providerTransactionId.isSome) : False :=
      Table.any_eq_false.mp (hclash hsome) i c hc (decide_eq_true ⟨hprovider, hid⟩)
    intro i j c c' hc hc' hprovider hid hsome
    rw [Table.lookup_insert] at hc hc'
    split_ifs at hc hc' with hi hj hj
    · rw [hi, hj]
    · cases hc
      exact (hother j c' hc' hprovider.symm hid.symm hsome).elim
    · cases hc'
      exact (hother i c hc hprovider hid (hid ▸ hsome)).elim
    · exact hunique i j c c' hc hc' hprovider hid hsome

/-- A linked event that is processed again finds the transaction it is linked to. -/
theorem id_eq (h : TransactionRoute db event newId input db' id t)
    (hunique : UniqueProviderIds db) {i : Uuid} (hlink : transactionOfEvent db event = some i)
    (hnames : ∀ c, db.paymentTransactions.lookup i = some c → c.attemptId = input.attemptId →
      preserveTransactionState c.status input.status c.paidAt ∨
        c.provider = input.provider ∧ c.providerTransactionId = input.providerTransactionId ∧
          c.providerTransactionId.isSome) : id = i := by
  have hnamed (hlinked : linkedTransaction db event input = .ok none) :
      ∃ c, db.paymentTransactions.lookup i = some c ∧ c.provider = input.provider ∧
        c.providerTransactionId = input.providerTransactionId ∧
        c.providerTransactionId.isSome := by
    obtain ⟨c, hc, hattempt, hchange⟩ := preserve_of_linkedTransaction hlinked hlink
    refine ⟨c, hc, (hnames c hc hattempt).resolve_left ?_⟩
    rw [hchange]
    exact Bool.false_ne_true
  cases h with
  | linked hlink' => exact Option.some.inj (hlink'.symm.trans hlink)
  | kept hlinked hprovider | merged hlinked hprovider =>
    obtain ⟨c, hc, hp, hid, hsome⟩ := hnamed hlinked
    obtain ⟨hp', hid', hsome'⟩ := transactionOfProvider_spec hprovider
    exact hunique _ i _ c (transactionOfProvider_lookup hprovider) hc (hp'.trans hp.symm)
      (hid'.trans hid.symm) hsome'
  | created hlinked _ hclash =>
    obtain ⟨c, hc, hp, hid, hsome⟩ := hnamed hlinked
    exact absurd (decide_eq_true ⟨hp, hid⟩)
      (Table.any_eq_false.mp (hclash (hid ▸ hsome)) i c hc)

end TransactionRoute

theorem applyWebhookPaymentState_links {P : Platform} {db db' : Database} {w : WebhookApplication}
    (h : applyWebhookPaymentState P db w = .ok db') (hunique : UniqueProviderIds db)
    (hnames : ∀ attempt money id t, Accepted P db w attempt money →
      transactionOfEvent db w.event = some id → db.paymentTransactions.lookup id = some t →
      t.attemptId = attempt.id →
      preserveTransactionState t.status (payloadTransaction w attempt money).status t.paidAt ∨
        t.provider = (payloadTransaction w attempt money).provider ∧
          t.providerTransactionId = (payloadTransaction w attempt money).providerTransactionId ∧
          t.providerTransactionId.isSome) : LinksKept db db' := by
  obtain ⟨-, rfl, -⟩ | ⟨attempt, money, db₁, transactionId, transaction, haccepted, hupsert,
    hsignal⟩ := applyWebhookPaymentState_eq_ok.mp h
  · exact .refl _
  · have hroute := upsertPaymentTransaction_route hupsert
    intro event id hlink
    rw [(applyPaymentSignal_eq_ok hsignal).transactionOfEvent_eq event, transactionOfEvent,
      linkEvent, Database.updateEvent, Table.lookup_update, hroute.events_eq]
    by_cases hevent : event = w.event
    · subst hevent
      have hsame := hroute.id_eq hunique hlink fun c ↦ hnames attempt money id c haccepted hlink
      obtain ⟨e, he, -⟩ := Option.bind_eq_some_iff.mp hlink
      simp [he, hsame]
    · rw [if_neg hevent]
      exact hlink

theorem applyWebhookPaymentState_unique {P : Platform} {db db' : Database} {w : WebhookApplication}
    (h : applyWebhookPaymentState P db w = .ok db') (hunique : UniqueProviderIds db) :
    UniqueProviderIds db' := by
  obtain ⟨-, rfl, -⟩ | ⟨attempt, money, db₁, transactionId, transaction, haccepted, hupsert,
    hsignal⟩ := applyWebhookPaymentState_eq_ok.mp h
  · exact hunique
  · have hrows := (upsertPaymentTransaction_route hupsert).uniqueProviderIds hunique
    rw [UniqueProviderIds, (applyPaymentSignal_eq_ok hsignal).transactions]
    exact hrows

theorem paymentStep_unique {P : Platform} {db : Database} (h : UniqueProviderIds db)
    (request : PaymentRequest) : UniqueProviderIds (paymentStep P db request) :=
  paymentStep_preserves (fun _ _ h ↦ h) (fun _ _ _ h hok ↦ applyWebhookPaymentState_unique hok h)
    (fun _ _ _ h ↦ h) h request

theorem appliedWebhook_transactions {P : Platform} {db db₀ : Database} {request : PaymentRequest}
    {w : WebhookApplication} (h : appliedWebhook P db request = some (db₀, w)) :
    db₀.paymentTransactions = db.paymentTransactions := by
  unfold appliedWebhook at h
  split at h
  · rename_i delivery
    obtain ⟨events, answer, hplan⟩ | ⟨events, w', hplan⟩ := planWebhook_setEvents P db delivery
    all_goals
      rw [hplan] at h
      cases h
    rfl
  · rename_i replay
    obtain ⟨events, answer, hplan⟩ | ⟨events, w', hplan⟩ := planReplay_setEvents db replay
    all_goals
      rw [hplan] at h
      cases h
    rfl
  · cases h

theorem paymentStep_linksKept {P : Platform} {db : Database} {request : PaymentRequest}
    (hunique : UniqueProviderIds db) (h : NamesLinkedTransaction P db request) :
    LinksKept db (paymentStep P db request) := by
  have happly {db₀ db₁ : Database} {w : WebhookApplication}
      (happlied : appliedWebhook P db request = some (db₀, w))
      (hok : applyWebhookPaymentState P db₀ w = .ok db₁) : LinksKept db₀ db₁ := by
    refine applyWebhookPaymentState_links hok ?_ fun attempt money id t ↦
      h db₀ w attempt money id t happlied
    rw [UniqueProviderIds, appliedWebhook_transactions happlied]
    exact hunique
  have hplanned : LinksKept db (plannedDatabase P db request) := by
    cases request with
    | webhook delivery => exact planWebhook_linksKept P db delivery
    | replay replay => exact planReplay_linksKept db replay
    | expire now attemptId limit =>
      simp only [plannedDatabase, paymentStep, servePayment, expireOpenConsultationPaymentAttempts]
      split_ifs <;> exact .refl db
  refine paymentStep_cases hplanned ?_ ?_
  · exact fun _ _ happlied hok ↦ hplanned.trans (happly happlied hok)
  · exact fun _ _ _ _ ↦ hplanned.trans (.updateEvent fun _ ↦ rfl)

/-- The transactions an event is linked to in the states of a run. -/
def linkedEver (P : Platform) (db : Database) (requests : List PaymentRequest)
    (event : String × String) : Set Uuid :=
  {id | ∃ before after, requests = before ++ after ∧
    transactionOfEvent (run (paymentStep P) db before) event = some id}

/-- An event of `newBooking` without a transaction id of its provider. -/
def unnamedBooking (status : ProviderPaymentStatus) : Database :=
  { newBooking status with
    paymentWebhookEvents := AList.singleton heldEvent
      { attemptId := some heldAttempt, signatureStatus := .verified, processingStatus := .pending
        payloadHash := "h"
        normalizedPayload := some (storedNormalizedPayload
          { (heldSignal status "750.00" 999).payload with providerTransactionId := none }) } }

/-- The second replay of that event. -/
def replayAgain : PaymentRequest :=
  .replay ⟨⟨"u", "Office Admin", none, none⟩, heldEvent, ⟨999, 999, 999, 999, 999⟩,
    ⟨"t'", "i'", "e'"⟩⟩

end KmtLegal
