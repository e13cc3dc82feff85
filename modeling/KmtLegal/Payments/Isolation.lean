import KmtLegal.Relational.Run
import KmtLegal.Payments.Webhook

/-!
# Unsigned traffic has no influence

Two databases that differ in one webhook event at most cannot be told apart by requests about
other events: every transaction reads the events only under its own key.  A delivery nobody signed
leaves one event behind, under a key no signed delivery has, so whatever is served later is served
as if it had never arrived.
-/

namespace KmtLegal

open Relational Js

/-! ## Databases that differ in one event -/

/-- The same database, but for the webhook event under `key`. -/
def SameBut (key : String × String) (db db' : Database) : Prop :=
  ∃ events, db' = db.setEvents events ∧
    ∀ k ≠ key, events.lookup k = db.paymentWebhookEvents.lookup k

namespace SameBut

variable {key : String × String} {db db' db'' : Database}

theorem refl (db : Database) : SameBut key db db := ⟨db.paymentWebhookEvents, rfl, fun _ _ ↦ rfl⟩

theorem symm (h : SameBut key db db') : SameBut key db' db := by
  obtain ⟨events, rfl, h⟩ := h
  exact ⟨db.paymentWebhookEvents, rfl, fun k hk ↦ (h k hk).symm⟩

theorem trans (h : SameBut key db db') (h' : SameBut key db' db'') : SameBut key db db'' := by
  obtain ⟨events, rfl, h⟩ := h
  obtain ⟨events', rfl, h'⟩ := h'
  exact ⟨events', rfl, fun k hk ↦ (h' k hk).trans (h k hk)⟩

theorem updateAttempt (h : SameBut key db db') (id : Uuid) (f : PaymentAttempt → PaymentAttempt) :
    SameBut key (db.updateAttempt id f) (db'.updateAttempt id f) := by
  obtain ⟨events, rfl, h⟩ := h
  exact ⟨events, rfl, h⟩

/-- The same update of an event. -/
theorem updateEvent (h : SameBut key db db') (event : String × String)
    (f : PaymentWebhookEvent → PaymentWebhookEvent) :
    SameBut key (db.updateEvent event f) (db'.updateEvent event f) := by
  obtain ⟨events, rfl, h⟩ := h
  refine ⟨events.update event f, rfl, fun k hk ↦ ?_⟩
  simp [Database.updateEvent, h k hk]

end SameBut

/-! ## The payment transaction -/

section

variable {key : String × String} {db db' : Database}

theorem upsertPaymentTransaction_sameBut (h : SameBut key db db') {event : String × String}
    (hkey : event ≠ key) (newId : Uuid) (input : PaymentTransaction) :
    Related (fun r r' ↦ SameBut key r.1 r'.1 ∧ r.2 = r'.2)
      (upsertPaymentTransaction db event newId input)
      (upsertPaymentTransaction db' event newId input) := by
  obtain ⟨events, rfl, hevents⟩ := h
  have hlinked : linkedTransaction (db.setEvents events) event input =
      linkedTransaction db event input := by
    unfold linkedTransaction
    rw [show (db.setEvents events).paymentWebhookEvents.lookup event = _ from hevents event hkey]
    rfl
  have hsame : ∀ transactions, SameBut key { db with paymentTransactions := transactions }
      { db.setEvents events with paymentTransactions := transactions } :=
    fun transactions ↦ ⟨events, rfl, hevents⟩
  unfold upsertPaymentTransaction
  rw [hlinked]
  refine .bind_same _ fun linked ↦ ?_
  cases linked with
  | some linked => exact .ok ⟨⟨events, rfl, hevents⟩, rfl⟩
  | none =>
    have hprovider : transactionOfProvider (db.setEvents events) input =
        transactionOfProvider db input := rfl
    simp only [hprovider]
    cases transactionOfProvider db input with
    | some found =>
      refine .bind_same _ fun _ ↦ ?_
      split_ifs
      · exact .ok ⟨⟨events, rfl, hevents⟩, rfl⟩
      · exact .ok ⟨hsame _, rfl⟩
    | none =>
      refine .bind (R := SameBut key) ?_ fun d d' hd ↦ .ok ⟨hd, rfl⟩
      unfold Database.createPaymentTransaction
      exact .bind_same _ fun _ ↦ .bind_same _ fun transactions ↦ .ok (hsame transactions)

theorem confirmPaidAttempt_sameBut (h : SameBut key db db') (clock : WebhookClock)
    (fresh : FreshIds) (attempt : AttemptWithRelations) (id : Uuid) (t : PaymentTransaction) :
    Related (SameBut key) (confirmPaidAttempt db clock fresh attempt id t)
      (confirmPaidAttempt db' clock fresh attempt id t) := by
  unfold confirmPaidAttempt
  split_ifs
  · exact .ok h
  · cases paidAttemptWebhookConfirmationBlocker attempt.row.status attempt.row.expiresAt
      attempt.appointment.status attempt.consultationRequest.status clock.confirmAt with
    | some blocker => exact .error _
    | none =>
      obtain ⟨events, rfl, hevents⟩ := h
      refine .bind (R := SameBut key) ?_ fun d d' hd ↦ .bind (R := SameBut key) ?_
        fun d d' hd ↦ .ok ?_
      · unfold Database.createPayment
        exact .bind_same _ fun _ ↦ .bind_same _ fun payments ↦ .ok ⟨events, rfl, hevents⟩
      · obtain ⟨events, rfl, hevents⟩ := hd
        unfold recordTrustedInvoiceSettlement Database.createPaymentEntry
        exact .bind_same _ fun _ ↦ .bind_same _ fun _ ↦ .bind_same _ fun entries ↦
          .ok ⟨events, rfl, hevents⟩
      · obtain ⟨events, rfl, hevents⟩ := hd
        exact ⟨events, rfl, hevents⟩

theorem releaseFailedAttempt_sameBut (h : SameBut key db db') (attempt : AttemptWithRelations)
    (status : PaymentAttemptStatus) (code : String) :
    SameBut key (releaseFailedAttempt db attempt status code)
      (releaseFailedAttempt db' attempt status code) := by
  unfold releaseFailedAttempt
  split_ifs
  · obtain ⟨events, rfl, hevents⟩ := h
    exact ⟨events, rfl, hevents⟩
  · exact h

theorem reviewCollection_sameBut (h : SameBut key db db') (attempt : AttemptWithRelations)
    (problem : Option PayloadProblem) :
    SameBut key (reviewCollection db attempt problem) (reviewCollection db' attempt problem) := by
  cases problem with
  | some problem => exact (releaseFailedAttempt_sameBut h _ _ _).updateAttempt _ _
  | none => exact (releaseFailedAttempt_sameBut h _ _ _).updateAttempt _ _

theorem applyPaymentSignal_sameBut (P : Platform) (h : SameBut key db db') (w : WebhookApplication)
    (attempt : AttemptWithRelations) (money : Option (Decimal × Currency)) (id : Uuid)
    (t : PaymentTransaction) :
    Related (SameBut key) (applyPaymentSignal P db w attempt money id t)
      (applyPaymentSignal P db' w attempt money id t) := by
  have hadditional : additionalCollection db' w attempt money id =
      additionalCollection db w attempt money id := by
    obtain ⟨events, rfl, -⟩ := h
    rfl
  have hfinish : ∀ {d d' : Database} (code : Option String), SameBut key d d' →
      SameBut key (finishEvent d w code) (finishEvent d' w code) := fun _ hd ↦ hd.updateEvent _ _
  unfold applyPaymentSignal
  rw [hadditional]
  dsimp only
  split_ifs
  · exact .ok (hfinish _ (reviewCollection_sameBut h _ _))
  · split
    · exact .bind (confirmPaidAttempt_sameBut h _ _ _ _ _) fun d d' hd ↦ .ok (hfinish _ hd)
    · refine .ok (hfinish _ ?_)
      unfold updateOpenAttemptStatus
      split_ifs
      · exact h.updateAttempt _ _
      · exact h
    · split_ifs
      · refine .ok (hfinish _ ?_)
        obtain ⟨events, rfl, hevents⟩ := h
        unfold recordReversal
        cases attempt.payment with
        | none => exact ⟨events, rfl, hevents⟩
        | some p => exact ⟨events, rfl, hevents⟩
      · exact .ok (hfinish _ (releaseFailedAttempt_sameBut h _ _ _))

/-- A payment transaction for another event cannot tell the databases apart. -/
theorem applyWebhookPaymentState_sameBut (P : Platform) (h : SameBut key db db')
    {w : WebhookApplication} (hkey : w.event ≠ key) :
    Related (SameBut key) (applyWebhookPaymentState P db w) (applyWebhookPaymentState P db' w) := by
  have hlookup : db'.paymentWebhookEvents.lookup w.event =
      db.paymentWebhookEvents.lookup w.event := by
    obtain ⟨events, rfl, hevents⟩ := h
    exact hevents w.event hkey
  have hfind : ∀ id, db'.findAttempt id = db.findAttempt id := by
    obtain ⟨events, rfl, -⟩ := h
    exact fun _ ↦ rfl
  unfold applyWebhookPaymentState
  rw [hlookup]
  refine .bind_same _ fun attemptId ↦ .bind_same _ fun event ↦ ?_
  split_ifs
  · exact .ok h
  · rw [hfind]
    refine .bind_same _ fun _ ↦ .bind_same _ fun attempt ↦ .bind_same _ fun _ ↦
      .bind_same _ fun _ ↦ .bind_same _ fun money ↦ ?_
    refine .bind (upsertPaymentTransaction_sameBut h hkey _ _) ?_
    rintro ⟨d, id, t⟩ ⟨d', _, _⟩ ⟨hd, heq⟩
    cases heq
    exact applyPaymentSignal_sameBut P (hd.updateEvent _ _) _ _ _ _ _

end

/-! ## Deliveries, replays and expiry -/

/-- Two handlers decided alike on databases that differ in one event, and will not touch it. -/
inductive PlansAgree {α : Type} (key : String × String) : WebhookPlan α → WebhookPlan α → Prop
  | done {db db' : Database} (h : SameBut key db db') (answer : Except Failure α) :
      PlansAgree key (.done db answer) (.done db' answer)
  | apply {db db' : Database} (h : SameBut key db db') {w : WebhookApplication}
      (hkey : w.event ≠ key) : PlansAgree key (.apply db w) (.apply db' w)

section

variable {key : String × String} {db db' : Database}

theorem upsertWebhookEvent_sameBut (h : SameBut key db db') {event : String × String}
    (hkey : event ≠ key) (row : PaymentWebhookEvent) :
    Related (fun r r' ↦ SameBut key r.1 r'.1 ∧ r.2 = r'.2)
      (upsertWebhookEvent db event row) (upsertWebhookEvent db' event row) := by
  obtain ⟨events, rfl, hevents⟩ := h
  unfold upsertWebhookEvent
  rw [show (db.setEvents events).paymentWebhookEvents.lookup event = _ from hevents event hkey]
  cases db.paymentWebhookEvents.lookup event with
  | some existing => exact .ok ⟨⟨events, rfl, hevents⟩, rfl⟩
  | none =>
    refine .bind_same _ fun _ ↦ .ok ⟨⟨events.insert event row, rfl, fun k hk ↦ ?_⟩, rfl⟩
    simp [hevents k hk]

/-- The trace of an unsigned delivery: it always succeeds and changes one event at most. -/
theorem upsertWebhookEvent_invalid (db : Database) (event : String × String) (read : ReadWebhook) :
    ∃ db' row, upsertWebhookEvent db event (invalidEvent read) = .ok (db', row) ∧
      SameBut event db db' := by
  unfold upsertWebhookEvent
  cases db.paymentWebhookEvents.lookup event with
  | some existing => exact ⟨db, existing, rfl, .refl db⟩
  | none =>
    refine ⟨_, _, rfl, db.paymentWebhookEvents.insert event (invalidEvent read), rfl, fun k hk ↦ ?_⟩
    simp [hk]

theorem planVerifiedEvent_sameBut (P : Platform) (h : SameBut key db db')
    (delivery : WebhookDelivery) {read : ReadWebhook}
    (hkey : (delivery.request.provider.text, read.eventId) ≠ key)
    (payload : NormalizedWebhookPayload) :
    PlansAgree key (planVerifiedEvent P db delivery read payload)
      (planVerifiedEvent P db' delivery read payload) := by
  have hevent := upsertWebhookEvent_sameBut h hkey (verifiedEvent P read payload)
  simp only [planVerifiedEvent]
  generalize upsertWebhookEvent db _ _ = stored, upsertWebhookEvent db' _ _ = stored' at hevent ⊢
  rcases hevent with e | @⟨⟨d, event⟩, ⟨d', _⟩, ⟨hd, heq⟩⟩
  · exact .done h _
  · cases heq
    dsimp only
    split_ifs
    · exact .done hd _
    · exact .apply hd hkey

theorem planVerifiedWebhook_sameBut (P : Platform) (h : SameBut key db db')
    (delivery : WebhookDelivery) {read : ReadWebhook}
    (hkey : (delivery.request.provider.text, read.eventId) ≠ key) :
    PlansAgree key (planVerifiedWebhook P db delivery read)
      (planVerifiedWebhook P db' delivery read) := by
  have hbind : bindOrder db' delivery.request.provider = bindOrder db delivery.request.provider := by
    obtain ⟨events, rfl, -⟩ := h
    rfl
  have hlookup : db'.paymentWebhookEvents.lookup (delivery.request.provider.text, read.eventId) =
      db.paymentWebhookEvents.lookup (delivery.request.provider.text, read.eventId) := by
    obtain ⟨events, rfl, hevents⟩ := h
    exact hevents _ hkey
  simp only [planVerifiedWebhook, hbind, hlookup]
  split
  · exact .done h _
  · split
    · exact planVerifiedEvent_sameBut P h delivery hkey _
    · split_ifs
      · exact .done h _
      · exact .done h _
      · exact planVerifiedEvent_sameBut P h delivery hkey _

/-- A delivery that is verified under another key, or not verified at all. -/
theorem planWebhook_sameBut (P : Platform) (h : SameBut key db db') (delivery : WebhookDelivery)
    (hkey : ∀ read, readWebhook P delivery.request = .ok read → read.verified →
      (delivery.request.provider.text, read.eventId) ≠ key) :
    PlansAgree key (planWebhook P db delivery) (planWebhook P db' delivery) := by
  unfold planWebhook
  cases hread : readWebhook P delivery.request with
  | error e => exact .done h _
  | ok read =>
    dsimp only
    split_ifs with hverified
    · exact planVerifiedWebhook_sameBut P h delivery (hkey read hread hverified)
    · obtain ⟨d, row, hd, hsame⟩ :=
        upsertWebhookEvent_invalid db (invalidEventKey P delivery.request) read
      obtain ⟨d', row', hd', hsame'⟩ :=
        upsertWebhookEvent_invalid db' (invalidEventKey P delivery.request) read
      rw [hd, hd']
      refine .done ?_ _
      -- the trace may be the very event the databases differ in, or one they agree on
      by_cases htrace : invalidEventKey P delivery.request = key
      · rw [htrace] at hsame hsame'
        exact hsame.symm.trans (h.trans hsame')
      · have hrelated := upsertWebhookEvent_sameBut h htrace (invalidEvent read)
        rw [hd, hd'] at hrelated
        cases hrelated with
        | ok hr => exact hr.1

theorem planReplay_sameBut (h : SameBut key db db') (replay : WebhookReplay)
    (hkey : replay.event ≠ key) :
    PlansAgree key (planReplay db replay) (planReplay db' replay) := by
  have hlookup : db'.paymentWebhookEvents.lookup replay.event =
      db.paymentWebhookEvents.lookup replay.event := by
    obtain ⟨events, rfl, hevents⟩ := h
    exact hevents _ hkey
  simp only [planReplay, hlookup]
  split
  · exact .done h _
  · split
    · exact .done h _
    · split_ifs
      · exact .done h _
      · exact .done h _
      · split
        · exact .done (h.updateEvent _ _) _
        · exact .apply (h.updateEvent _ _) hkey

theorem expire_sameBut (h : SameBut key db db') (now : Time) (attemptId : Option Uuid)
    (limit : Option ℕ) :
    SameBut key (expireOpenConsultationPaymentAttempts db now attemptId limit).1
        (expireOpenConsultationPaymentAttempts db' now attemptId limit).1 ∧
      (expireOpenConsultationPaymentAttempts db now attemptId limit).2 =
        (expireOpenConsultationPaymentAttempts db' now attemptId limit).2 := by
  obtain ⟨events, rfl, hevents⟩ := h
  have hbatch : ∀ n, expiryCandidates (db.setEvents events) now attemptId n =
      expiryCandidates db now attemptId n := fun _ ↦ rfl
  simp only [expireOpenConsultationPaymentAttempts, hbatch]
  split_ifs
  · exact ⟨⟨events, rfl, hevents⟩, rfl⟩
  · exact ⟨⟨events, rfl, hevents⟩, rfl⟩

/-- A request that has nothing to do with the event under `key`: what it verifies and what it
replays has another key. -/
def Avoids (P : Platform) (key : String × String) : PaymentRequest → Prop
  | .webhook delivery => ∀ read, readWebhook P delivery.request = .ok read → read.verified →
      (delivery.request.provider.text, read.eventId) ≠ key
  | .replay replay => replay.event ≠ key
  | .expire _ _ _ => True

/-- Such a request is served alike. -/
theorem servePayment_sameBut (P : Platform) (h : SameBut key db db') {request : PaymentRequest}
    (havoids : Avoids P key request) :
    SameBut key (servePayment P db request).1 (servePayment P db' request).1 ∧
      (servePayment P db request).2 = (servePayment P db' request).2 := by
  cases request with
  | webhook delivery =>
    have hplan := planWebhook_sameBut P h delivery havoids
    simp only [servePayment, handlePaymentWebhook]
    generalize planWebhook P db delivery = plan, planWebhook P db' delivery = plan' at hplan ⊢
    cases hplan with
    | done hd answer => exact ⟨hd, rfl⟩
    | @apply d d' hd w hkey =>
      have happly := applyWebhookPaymentState_sameBut P hd hkey
      dsimp only
      generalize applyWebhookPaymentState P d w = r, applyWebhookPaymentState P d' w = r' at happly ⊢
      cases happly with
      | error e => exact ⟨hd.updateEvent _ _, rfl⟩
      | ok hd' => exact ⟨hd', rfl⟩
  | replay replay =>
    have hplan := planReplay_sameBut h replay havoids
    simp only [servePayment, replayAdminPaymentWebhookEvent]
    generalize planReplay db replay = plan, planReplay db' replay = plan' at hplan ⊢
    cases hplan with
    | done hd answer => exact ⟨hd, rfl⟩
    | @apply d d' hd w hkey =>
      have happly := applyWebhookPaymentState_sameBut P hd hkey
      dsimp only
      generalize applyWebhookPaymentState P d w = r, applyWebhookPaymentState P d' w = r' at happly ⊢
      cases happly with
      | error e => exact ⟨hd, rfl⟩
      | ok hd' => exact ⟨hd', rfl⟩
  | expire now attemptId limit =>
    obtain ⟨hd, hcount⟩ := expire_sameBut h now attemptId limit
    exact ⟨hd, congrArg PaymentResponse.expired hcount⟩

end

/-! ## The theorem -/

/-- An unsigned delivery leaves at most its trace. -/
theorem handlePaymentWebhook_unverified (P : Platform) (db : Database) {u : WebhookDelivery}
    (hu : ¬Verifies P u.request) :
    SameBut (invalidEventKey P u.request) db (handlePaymentWebhook P db u).1 := by
  unfold handlePaymentWebhook planWebhook
  cases hread : readWebhook P u.request with
  | error e => exact .refl db
  | ok read =>
    have hverified : ¬read.verified := fun h ↦ hu ⟨read, hread, h⟩
    obtain ⟨d, row, hd, hsame⟩ := upsertWebhookEvent_invalid db (invalidEventKey P u.request) read
    simp only [hverified, Bool.false_eq_true, if_false, hd]
    exact hsame

/-- A signed Paymob payload whose order is bound to no attempt, or that claims another attempt
than the one its order is bound to. -/
def OrderMismatch (P : Platform) (db : Database) (request : WebhookRequest) : Prop :=
  request.provider = .paymob ∧ ∃ read payload, readWebhook P request = .ok read ∧ read.verified ∧
    normalizeProviderWebhookPayload P read.body .paymob = .ok payload ∧
    ∀ id a, boundAttempt db .paymob payload = some (id, a) →
      payload.attemptId ≠ "" ∧ payload.attemptId ≠ id

/-- The provider signs no event id of an unsigned trace, and no administrator replays the event
under `key`. -/
def Genuine (P : Platform) (key : String × String) : PaymentRequest → Prop
  | .webhook delivery => ∀ read, readWebhook P delivery.request = .ok read → read.verified →
      ¬startsWith read.eventId "invalid:"
  | .replay replay => replay.event ≠ key
  | .expire _ _ _ => True

theorem Genuine.avoids {P : Platform} {u : WebhookRequest} {request : PaymentRequest}
    (h : Genuine P (invalidEventKey P u) request) : Avoids P (invalidEventKey P u) request := by
  cases request with
  | webhook delivery =>
    intro read hread hverified heq
    have hid : read.eventId = "invalid:" ++ P.sha256 u.rawBody := congrArg Prod.snd heq
    exact h read hread hverified (hid ▸ startsWith_append _ _)
  | replay replay => exact h
  | expire now attemptId limit => trivial

/-- Handling an unsigned delivery changes one `invalid:` event at most; whatever is served after
it is served as without it, with the same answers and the same database but for that event; and a
signed payload for the wrong order is refused without a trace. -/
theorem unsigned_has_no_influence (P : Platform) (db : Database) (u : WebhookDelivery)
    (hu : ¬Verifies P u.request) (later : List PaymentRequest)
    (hlater : ∀ request ∈ later, Genuine P (invalidEventKey P u.request) request) :
    startsWith (invalidEventKey P u.request).2 "invalid:" ∧
    SameBut (invalidEventKey P u.request) db (paymentStep P db (.webhook u)) ∧
    SameBut (invalidEventKey P u.request) (run (paymentStep P) db later)
      (run (paymentStep P) (paymentStep P db (.webhook u)) later) ∧
    responses (paymentStep P) (fun d r ↦ (servePayment P d r).2) db later =
      responses (paymentStep P) (fun d r ↦ (servePayment P d r).2)
        (paymentStep P db (.webhook u)) later ∧
    ∀ (s : Database) (d : WebhookDelivery), OrderMismatch P s d.request →
      servePayment P s (.webhook d) = (s, .webhook (.error (.conflict orderMismatch))) := by
  have htrace := handlePaymentWebhook_unverified P db hu
  have hstep : ∀ s t request, Avoids P (invalidEventKey P u.request) request →
      SameBut (invalidEventKey P u.request) s t →
      SameBut (invalidEventKey P u.request) (paymentStep P s request) (paymentStep P t request) :=
    fun s t request hr h ↦ (servePayment_sameBut P h hr).1
  have hrespond : ∀ s t request, Avoids P (invalidEventKey P u.request) request →
      SameBut (invalidEventKey P u.request) s t →
      (servePayment P s request).2 = (servePayment P t request).2 :=
    fun s t request hr h ↦ (servePayment_sameBut P h hr).2
  obtain ⟨hrun, hresponses⟩ := lockstep hstep hrespond htrace fun r hr ↦ (hlater r hr).avoids
  refine ⟨startsWith_append _ _, htrace, hrun, hresponses, ?_⟩
  rintro s d ⟨hprovider, read, payload, hread, hverified, hpayload, hbound⟩
  have hbind : bindOrder s .paymob payload = .error (.conflict orderMismatch) := by
    unfold bindOrder
    cases hattempt : boundAttempt s .paymob payload with
    | none => rfl
    | some found => exact if_pos (hbound found.1 found.2 hattempt)
  simp only [servePayment, handlePaymentWebhook, planWebhook, hread, hverified, if_true,
    planVerifiedWebhook, hprovider, hpayload, ok_bind, hbind]

/-- An empty body nobody signed. -/
def emptyDelivery : WebhookDelivery where
  request := { provider := .paytabs, rawBody := "{}" }
  clock := ⟨0, 0, 0, 0, 0⟩
  failedAt := 0
  fresh := ⟨"t", "i", "e"⟩

/-- A platform that knows the empty body and its hash. -/
def emptyBodyPlatform : Platform :=
  { plainPlatform with
    parseJson := fun rawBody ↦ if rawBody = "{}" then some (.obj []) else none
    sha256 := fun s ↦ if s = "{}" then
      "44136fa355b3678a1146ad16f7e8649e94fb4fc21fe77e8310c060f61caaff8a" else "" }

theorem emptyDelivery_not_verifies : ¬Verifies emptyBodyPlatform emptyDelivery.request := by
  rintro ⟨read, hread, hverified⟩
  have heq : readWebhook emptyBodyPlatform emptyDelivery.request = .ok
      ⟨.obj [], "44136fa355b3678a1146ad16f7e8649e94fb4fc21fe77e8310c060f61caaff8a",
        "44136fa355b3678a1146ad16f7e8649e94fb4fc21fe77e8310c060f61caaff8a",
        "44136fa355b3678a1146ad16f7e8649e94fb4fc21fe77e8310c060f61caaff8a", false⟩ := rfl
  rw [heq] at hread
  cases hread
  cases hverified

/-- An unsigned delivery, then the same again and an expiry run. -/
theorem unsigned_has_no_influence_twice :
    ¬Verifies emptyBodyPlatform emptyDelivery.request ∧
    responses (paymentStep emptyBodyPlatform) (fun d r ↦ (servePayment emptyBodyPlatform d r).2)
        heldBooking [.webhook emptyDelivery, .expire 1001 none none] =
      responses (paymentStep emptyBodyPlatform) (fun d r ↦ (servePayment emptyBodyPlatform d r).2)
        (paymentStep emptyBodyPlatform heldBooking (.webhook emptyDelivery))
        [.webhook emptyDelivery, .expire 1001 none none] := by
  refine ⟨emptyDelivery_not_verifies, (unsigned_has_no_influence emptyBodyPlatform heldBooking
    emptyDelivery emptyDelivery_not_verifies _ ?_).2.2.2.1⟩
  intro request hmem
  rcases List.mem_pair.mp hmem with rfl | rfl
  · exact fun read hread hverified ↦
      absurd ⟨read, hread, hverified⟩ emptyDelivery_not_verifies
  · trivial

end KmtLegal
