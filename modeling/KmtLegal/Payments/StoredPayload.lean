import KmtLegal.Payments.Webhook
import KmtLegal.Payments.WebhookEffects
import KmtLegal.Relational.Kept
import KmtLegal.Relational.Run

/-!
# Stored payloads

A verified delivery leaves its normalised payload in the event, and a replay reads it from there.  The
status is mapped a second time on the way back and missing fields get defaults, but what was stored is
what is read, however much later.
-/

namespace KmtLegal

open Relational Js

/-! ## Reading back -/

/-- A JSON column keeps which fields an object has, not their order. -/
def SameFields (fields fields' : List (String × Json)) : Prop :=
  ∀ key, Json.field fields key = Json.field fields' key

theorem parseStoredNormalizedPayload_congr {fields fields' : List (String × Json)}
    (h : SameFields fields fields') : parseStoredNormalizedPayload (some (.obj fields)) =
      parseStoredNormalizedPayload (some (.obj fields')) := by
  simp only [parseStoredNormalizedPayload, Json.asObject, Option.bind_some, Option.bind_eq_bind, h _]

/-- An object with the fields of a stored payload is read as the payload. -/
theorem parseStoredNormalizedPayload_of_sameFields {p : NormalizedWebhookPayload}
    (h : p.attemptId ≠ "") {fields stored : List (String × Json)} (hfields : SameFields fields stored)
    (hstored : storedNormalizedPayload p = .obj stored) :
    parseStoredNormalizedPayload (some (.obj fields)) = some p := by
  rw [parseStoredNormalizedPayload_congr hfields, ← hstored, parseStoredNormalizedPayload_stored h]

/-! ## Events after the delivery -/

/-- What a replay needs of an event is still there. -/
structure PaymentWebhookEvent.Keeps (event event' : PaymentWebhookEvent) : Prop where
  normalizedPayload : event'.normalizedPayload = event.normalizedPayload
  signatureStatus : event'.signatureStatus = event.signatureStatus
  linked : event.attemptId.isSome → event'.attemptId.isSome

namespace PaymentWebhookEvent.Keeps

variable {e e' e'' : PaymentWebhookEvent}

theorem refl (e : PaymentWebhookEvent) : e.Keeps e := ⟨rfl, rfl, id⟩

theorem trans (h : e.Keeps e') (h' : e'.Keeps e'') : e.Keeps e'' where
  normalizedPayload := h'.normalizedPayload.trans h.normalizedPayload
  signatureStatus := h'.signatureStatus.trans h.signatureStatus
  linked := fun hlinked ↦ h'.linked (h.linked hlinked)

end PaymentWebhookEvent.Keeps

/-- Every stored event keeps what a replay needs. -/
def EventsKept (db db' : Database) : Prop :=
  ∀ key e, db.paymentWebhookEvents.lookup key = some e →
    ∃ e', db'.paymentWebhookEvents.lookup key = some e' ∧ e.Keeps e'

namespace EventsKept

variable {db db' db'' : Database}

theorem of_eq (h : db'.paymentWebhookEvents = db.paymentWebhookEvents) : EventsKept db db' :=
  fun _ e he ↦ ⟨e, by rw [h, he], .refl e⟩

theorem refl (db : Database) : EventsKept db db := of_eq rfl

theorem trans (h : EventsKept db db') (h' : EventsKept db' db'') : EventsKept db db'' :=
  Table.RowsKept.trans (fun _ _ _ ↦ PaymentWebhookEvent.Keeps.trans) h h'

theorem updateEvent (db : Database) (key : String × String)
    {f : PaymentWebhookEvent → PaymentWebhookEvent} (hf : ∀ e : PaymentWebhookEvent, e.Keeps (f e)) :
    EventsKept db (db.updateEvent key f) :=
  Table.RowsKept.update PaymentWebhookEvent.Keeps.refl fun e _ ↦ hf e

theorem insertEvent {key : String × String} (hnew : db.paymentWebhookEvents.lookup key = none)
    (row : PaymentWebhookEvent) :
    EventsKept db { db with paymentWebhookEvents := db.paymentWebhookEvents.insert key row } :=
  Table.RowsKept.insert PaymentWebhookEvent.Keeps.refl hnew

end EventsKept

theorem planWebhook_eventsKept (P : Platform) (db : Database) (delivery : WebhookDelivery) :
    EventsKept db (planWebhook P db delivery).database := by
  rcases planWebhook_database P db delivery with h | ⟨key, row, -, hnew, -, h⟩
  · rw [h]
    exact .refl db
  · rw [h]
    exact .insertEvent hnew row

theorem planReplay_eventsKept (db : Database) (replay : WebhookReplay) :
    EventsKept db (planReplay db replay).database := by
  simp only [planReplay]
  split
  · exact .refl db
  · split
    · exact .refl db
    · split_ifs
      · exact .refl db
      · exact .refl db
      · split <;> exact .updateEvent _ _ fun _ ↦ ⟨rfl, rfl, id⟩

/-- A payment transaction settles its event and links it. -/
theorem applyWebhookPaymentState_eventsKept {P : Platform} {db db' : Database}
    {w : WebhookApplication} (h : applyWebhookPaymentState P db w = .ok db') :
    EventsKept db db' := by
  obtain rfl | ⟨attempt, money, db₁, transactionId, transaction, -, hrecorded, hsignal⟩ :=
    applyWebhookPaymentState_cases h
  · exact .refl _
  · obtain ⟨errorCode, hevents⟩ := hsignal.events_eq
    have hrow : EventsKept db db₁ := .of_eq (by rw [hrecorded.frame])
    have hlink : EventsKept db₁ (linkEvent db₁ w attempt.id transactionId) :=
      .updateEvent _ _ fun _ ↦ ⟨rfl, rfl, fun _ ↦ rfl⟩
    have hfinish (d : Database) : EventsKept d (finishEvent d w errorCode) :=
      .updateEvent _ _ fun _ ↦ ⟨rfl, rfl, id⟩
    exact (hrow.trans hlink).trans ((hfinish _).trans (.of_eq hevents))

/-- What follows the plan takes nothing from an event that a replay needs. -/
theorem plannedDatabase_eventsKept (P : Platform) (db : Database) (request : PaymentRequest) :
    EventsKept (plannedDatabase P db request) (paymentStep P db request) :=
  paymentStep_cases (.refl _) (fun _ _ _ hok ↦ applyWebhookPaymentState_eventsKept hok)
    fun _ _ _ _ ↦ .updateEvent _ _ fun _ ↦ ⟨rfl, rfl, id⟩

theorem paymentStep_eventsKept (P : Platform) (db : Database) (request : PaymentRequest) :
    EventsKept db (paymentStep P db request) := by
  refine EventsKept.trans ?_ (plannedDatabase_eventsKept P db request)
  cases request with
  | webhook delivery => exact planWebhook_eventsKept P db delivery
  | replay replay => exact planReplay_eventsKept db replay
  | expire now attemptId limit =>
    simp only [plannedDatabase, paymentStep, servePayment, expireOpenConsultationPaymentAttempts]
    split_ifs <;> exact .of_eq rfl

/-! ## Replays of a delivery -/

section

variable {P : Platform} {db db₁ : Database} {delivery : WebhookDelivery} {w : WebhookApplication}

theorem planVerifiedEvent_stored {read : ReadWebhook} {payload : NormalizedWebhookPayload}
    (h : planVerifiedEvent P db delivery read payload = .apply db₁ w)
    (hnew : db.paymentWebhookEvents.lookup w.event = none) :
    w.event.1 = w.provider.text ∧
      db₁.paymentWebhookEvents.lookup w.event = some (verifiedEvent P read w.payload) := by
  simp only [planVerifiedEvent] at h
  split at h
  · cases h
  · rename_i db' event hupsert
    split at h
    · cases h
    · cases h
      obtain ⟨-, hstored⟩ | ⟨-, rfl, -, rfl⟩ := upsertWebhookEvent_eq_ok.mp hupsert
      · rw [hnew] at hstored
        cases hstored
      · exact ⟨rfl, by rw [Table.lookup_insert, if_pos rfl]⟩

/-- A delivery that is applied under a new event has stored what is applied. -/
theorem planWebhook_stored (h : planWebhook P db delivery = .apply db₁ w)
    (hnew : db.paymentWebhookEvents.lookup w.event = none) :
    w.event.1 = w.provider.text ∧ ∃ read, db₁.paymentWebhookEvents.lookup w.event =
      some (verifiedEvent P read w.payload) := by
  have hevent (read : ReadWebhook) (payload : NormalizedWebhookPayload)
      (h : planVerifiedEvent P db delivery read payload = .apply db₁ w) :
      w.event.1 = w.provider.text ∧ ∃ read, db₁.paymentWebhookEvents.lookup w.event =
        some (verifiedEvent P read w.payload) := by
    obtain ⟨hprovider, hstored⟩ := planVerifiedEvent_stored h hnew
    exact ⟨hprovider, read, hstored⟩
  simp only [planWebhook] at h
  split at h
  · cases h
  · split at h
    · simp only [planVerifiedWebhook] at h
      split at h
      · cases h
      · split at h
        · exact hevent _ _ h
        · split_ifs at h
          exact hevent _ _ h
    · split at h <;> cases h

/-- A permitted replay of an event that keeps what the delivery stored applies the stored payload. -/
theorem planReplay_of_keeps {replay : WebhookReplay} {read : ReadWebhook} {e : PaymentWebhookEvent}
    {payload : NormalizedWebhookPayload} (hpayload : payload.attemptId ≠ "")
    (hstored : db.paymentWebhookEvents.lookup replay.event = some e)
    (hkeeps : (verifiedEvent P read payload).Keeps e) :
    (∀ db₂ w', planReplay db replay = .apply db₂ w' →
      w' = ⟨replay.event, replayProvider replay.event, payload, replay.clock, replay.fresh⟩) ∧
    (hasPermission replay.actor "finance.manage.any" → P.isUuid payload.attemptId →
      ∃ db₂ w', planReplay db replay = .apply db₂ w') := by
  have hread : parseStoredNormalizedPayload e.normalizedPayload = some payload := by
    rw [hkeeps.normalizedPayload]
    exact parseStoredNormalizedPayload_stored hpayload
  have hverified : e.signatureStatus = .verified := hkeeps.signatureStatus
  simp only [planReplay, hstored, hread, hverified, ne_eq, not_true_eq_false, if_false]
  constructor
  · intro db₂ w' h
    split_ifs at h
    cases h
    rfl
  · intro hactor huuid
    have hlinked : e.attemptId ≠ none := by
      rw [← Option.isSome_iff_ne_none]
      exact hkeeps.linked (by simp [verifiedEvent, eventAttemptId, huuid])
    rw [if_neg (not_not.mpr hactor), if_neg hlinked]
    exact ⟨_, _, rfl⟩

end

theorem replayProvider_of_text {event : String × String} {provider : PaymentProviderName}
    (h : event.1 = provider.text) : replayProvider event = provider := by
  rw [replayProvider, h]
  cases provider <;> rfl

/-- A stored payload is read back as it was normalised; and a replay of the event at any later time
applies what the delivery that stored it has applied. -/
theorem stored_payload_replays (P : Platform) :
    (∀ body provider p, normalizeProviderWebhookPayload P body provider = .ok p →
      p.attemptId ≠ "" → ∃ stored, storedNormalizedPayload p = .obj stored ∧
        ∀ fields, SameFields fields stored →
          parseStoredNormalizedPayload (some (.obj fields)) = some p) ∧
    ∀ db delivery db₁ w, planWebhook P db delivery = .apply db₁ w →
      db.paymentWebhookEvents.lookup w.event = none → w.payload.attemptId ≠ "" →
      ∀ requests replay, replay.event = w.event →
        let later := run (paymentStep P) (paymentStep P db (.webhook delivery)) requests
        (∀ db₂ w', planReplay later replay = .apply db₂ w' →
          w'.payload = w.payload ∧ w'.provider = w.provider ∧ w'.event = w.event) ∧
        (hasPermission replay.actor "finance.manage.any" → P.isUuid w.payload.attemptId →
          ∃ db₂ w', planReplay later replay = .apply db₂ w') := by
  refine ⟨fun body provider p _ hattempt ↦ ⟨_, rfl, fun fields hfields ↦
    parseStoredNormalizedPayload_of_sameFields hattempt hfields rfl⟩, ?_⟩
  intro db delivery db₁ w hplan hnew hattempt requests replay hreplay
  obtain ⟨hprovider, read, hstored⟩ := planWebhook_stored hplan hnew
  have hkept : EventsKept db₁
      (run (paymentStep P) (paymentStep P db (.webhook delivery)) requests) := by
    have hdelivered := plannedDatabase_eventsKept P db (.webhook delivery)
    rw [plannedDatabase, hplan] at hdelivered
    exact hdelivered.trans
      (run_related .refl (fun _ _ _ ↦ .trans) (paymentStep_eventsKept P) _ requests)
  obtain ⟨e, he, hkeeps⟩ := hkept w.event _ hstored
  rw [← hreplay] at he
  obtain ⟨happlied, happlies⟩ := planReplay_of_keeps hattempt he hkeeps
  refine ⟨fun db₂ w' h ↦ ?_, happlies⟩
  obtain rfl := happlied db₂ w' h
  exact ⟨rfl, by rw [hreplay, replayProvider_of_text hprovider], hreplay⟩

end KmtLegal
