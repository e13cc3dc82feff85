import KmtLegal.Payments.Webhook

/-!
# Failed replays

`replayAdminPaymentWebhookEvent` resets the event in a statement of its own, before the payment
transaction.  A delivery whose transaction fails records that in the event; a replay does not.
-/

namespace KmtLegal

open Relational Js

/-- After a call that has failed an event is failed with an error code, or it is as it was. -/
def PaymentWebhookEvent.IsHonest (before after : PaymentWebhookEvent) : Prop :=
  (after.processingStatus = .failed ∧ after.errorCode.isSome) ∨
    (after.processingStatus = before.processingStatus ∧ after.errorCode = before.errorCode)

/-- The replay ends with an error, or the stored payload of the event cannot be parsed. -/
def ReplayFails (P : Platform) (db : Database) (replay : WebhookReplay)
    (event : PaymentWebhookEvent) : Prop :=
  (∃ e, (replayAdminPaymentWebhookEvent P db replay).2 = .error e) ∨
    parseStoredNormalizedPayload event.normalizedPayload = none

/-- The status an event has while it is replayed. -/
def PaymentWebhookEvent.isReset (event : PaymentWebhookEvent) : Bool :=
  event.processingStatus = .pending ∧ event.errorCode = none

/-- The event of a replay, reset. -/
def PaymentWebhookEvent.reset (event : PaymentWebhookEvent) : PaymentWebhookEvent :=
  { event with replayCount := event.replayCount + 1, processingStatus := .pending, errorCode := none }

section

variable {P : Platform} {db : Database} {replay : WebhookReplay} {event : PaymentWebhookEvent}

/-- A replay that is refused has written nothing. -/
theorem replay_refused (hstored : db.paymentWebhookEvents.lookup replay.event = some event)
    (hrefused : event.attemptId = none ∨ event.signatureStatus ≠ .verified) :
    (replayAdminPaymentWebhookEvent P db replay).1 = db := by
  unfold replayAdminPaymentWebhookEvent planReplay
  by_cases hactor : hasPermission replay.actor "finance.manage.any"
  · simp only [hactor, not_true_eq_false, if_false, hstored]
    by_cases hlinked : event.attemptId = none
    · simp only [hlinked, if_true]
    · simp only [hlinked, if_false, if_pos (hrefused.resolve_left hlinked)]
  · simp only [if_pos hactor]

/-- A replay that fails after it was let through leaves the event reset. -/
theorem replay_reset (hactor : hasPermission replay.actor "finance.manage.any")
    (hstored : db.paymentWebhookEvents.lookup replay.event = some event)
    (hlinked : event.attemptId ≠ none) (hverified : event.signatureStatus = .verified)
    (hfails : ReplayFails P db replay event) :
    (replayAdminPaymentWebhookEvent P db replay).1.paymentWebhookEvents.lookup replay.event =
      some event.reset := by
  have hreset : (db.updateEvent replay.event PaymentWebhookEvent.reset).paymentWebhookEvents.lookup
      replay.event = some event.reset := by
    rw [Database.updateEvent, Table.lookup_update_self, hstored, Option.map_some]
  have hplan : planReplay db replay =
      (parseStoredNormalizedPayload event.normalizedPayload).elim
        (.done (db.updateEvent replay.event PaymentWebhookEvent.reset) (.ok replay.event))
        fun payload ↦ .apply (db.updateEvent replay.event PaymentWebhookEvent.reset)
          ⟨replay.event, replayProvider replay.event, payload, replay.clock, replay.fresh⟩ := by
    simp only [planReplay, hactor, not_true_eq_false, if_false, hstored, hlinked, hverified, ne_eq]
    cases parseStoredNormalizedPayload event.normalizedPayload <;> rfl
  unfold ReplayFails at hfails
  unfold replayAdminPaymentWebhookEvent at hfails ⊢
  rw [hplan] at hfails ⊢
  cases hpayload : parseStoredNormalizedPayload event.normalizedPayload with
  | none => exact hreset
  | some payload =>
    simp only [hpayload, Option.elim_some, reduceCtorEq, or_false] at hfails ⊢
    obtain ⟨e, he⟩ := hfails
    -- the transaction is rolled back, the reset is not
    split at he
    · cases he
    · exact hreset

end

/-- A replay by a permitted actor that fails leaves the event honest exactly if it is refused before
it touches the event, or the event was pending without an error code anyway. -/
theorem failed_replay_honest_iff (P : Platform) (db : Database) (replay : WebhookReplay)
    (event : PaymentWebhookEvent) (hactor : hasPermission replay.actor "finance.manage.any")
    (hstored : db.paymentWebhookEvents.lookup replay.event = some event)
    (hfails : ReplayFails P db replay event) :
    (∃ after, (replayAdminPaymentWebhookEvent P db replay).1.paymentWebhookEvents.lookup
        replay.event = some after ∧ event.IsHonest after) ↔
      event.attemptId = none ∨ event.signatureStatus ≠ .verified ∨ event.isReset := by
  by_cases hrefused : event.attemptId = none ∨ event.signatureStatus ≠ .verified
  · rw [replay_refused hstored hrefused]
    exact ⟨fun _ ↦ hrefused.elim .inl fun h ↦ .inr (.inl h),
      fun _ ↦ ⟨event, hstored, .inr ⟨rfl, rfl⟩⟩⟩
  · obtain ⟨hlinked, hverified⟩ := not_or.mp hrefused
    rw [replay_reset hactor hstored hlinked (not_not.mp hverified) hfails]
    have hhonest : event.IsHonest event.reset ↔ event.isReset := by
      constructor
      · rintro (⟨hstatus, -⟩ | ⟨hstatus, hcode⟩)
        · cases hstatus
        · exact decide_eq_true ⟨hstatus.symm, hcode.symm⟩
      · intro h
        obtain ⟨hstatus, hcode⟩ := of_decide_eq_true h
        exact .inr ⟨hstatus.symm, hcode.symm⟩
    constructor
    · rintro ⟨after, hafter, hafterHonest⟩
      obtain rfl := Option.some.inj hafter
      exact .inr (.inr (hhonest.mp hafterHonest))
    · rintro (h | h | h)
      · exact absurd h hlinked
      · exact absurd h hverified
      · exact ⟨event.reset, rfl, hhonest.mpr h⟩

/-! ## A paytabs event about a paymob attempt -/

/-- The attempt of `heldBooking` belongs to the other provider, and the event has failed for it. -/
def foreignEvent : PaymentWebhookEvent where
  attemptId := some heldAttempt
  signatureStatus := .verified
  processingStatus := .failed
  payloadHash := "h"
  errorCode := some "CONFLICT"
  normalizedPayload := some (storedNormalizedPayload (heldSignal .paid "750" 500).payload)

def foreignBooking : Database :=
  { heldBooking.updateAttempt heldAttempt fun a ↦ { a with provider := "paymob" } with
    paymentWebhookEvents := AList.singleton heldEvent foreignEvent }

def sampleReplay : WebhookReplay where
  actor := { id := "admin", roleName := "Super Admin" }
  event := heldEvent
  clock := ⟨500, 500, 500, 500, 500⟩
  fresh := ⟨"t", "i", "e"⟩

theorem sampleReplay_fails : ReplayFails plainPlatform foreignBooking sampleReplay foreignEvent :=
  .inl ⟨.conflict "Payment webhook provider does not match the original payment attempt provider.",
    by decide +kernel⟩

theorem failed_replay_honest_iff_foreign :
    (∃ after, (replayAdminPaymentWebhookEvent plainPlatform foreignBooking
        sampleReplay).1.paymentWebhookEvents.lookup heldEvent = some after ∧
        foreignEvent.IsHonest after) ↔
      foreignEvent.attemptId = none ∨ foreignEvent.signatureStatus ≠ .verified ∨
        foreignEvent.isReset :=
  failed_replay_honest_iff plainPlatform foreignBooking sampleReplay foreignEvent (by decide) rfl
    sampleReplay_fails

/-- The event that needed review is pending without an error code. -/
theorem replay_forgets_failure : ¬∀ (P : Platform) (db : Database) (replay : WebhookReplay)
    (event : PaymentWebhookEvent), hasPermission replay.actor "finance.manage.any" →
    db.paymentWebhookEvents.lookup replay.event = some event → ReplayFails P db replay event →
      ∃ after, (replayAdminPaymentWebhookEvent P db replay).1.paymentWebhookEvents.lookup
        replay.event = some after ∧ event.IsHonest after := by
  intro h
  obtain ⟨after, hafter, hhonest⟩ := h plainPlatform foreignBooking sampleReplay foreignEvent
    (by decide) rfl sampleReplay_fails
  rw [replay_reset (by decide) rfl (by decide) rfl sampleReplay_fails] at hafter
  obtain rfl := Option.some.inj hafter
  rcases hhonest with ⟨hstatus, -⟩ | ⟨hstatus, -⟩
  · cases hstatus
  · cases hstatus

end KmtLegal
