import KmtLegal.Payments.WebhookCases
import KmtLegal.Payments.Expiry

/-!
# What a webhook leaves alone

The frame of an applied webhook, table by table.  One attempt changes its status, failure code and
provider payment, one reserved appointment is scheduled or cancelled, one consultation that waits
for payment is scheduled or sent back to review; every other row and every other column of the
three tables is as before.
-/

namespace KmtLegal

open Relational Js

/-! ## Attempts -/

/-- The same booking: only the status, the failure code and the provider's payment may differ. -/
def PaymentAttempt.SameBooking (a a' : PaymentAttempt) : Prop :=
  a' = { a with
    status := a'.status
    failureCode := a'.failureCode
    providerPaymentId := a'.providerPaymentId }

namespace PaymentAttempt.SameBooking

variable {a b c : PaymentAttempt}

theorem refl (a : PaymentAttempt) : a.SameBooking a := by
  cases a
  rfl

theorem trans (h : a.SameBooking b) (h' : b.SameBooking c) : a.SameBooking c := by
  cases a; cases b; cases c
  simp only [SameBooking, PaymentAttempt.mk.injEq] at h h' ⊢
  simp_all

theorem expire (a : PaymentAttempt) : a.SameBooking a.expire := rfl

theorem appointmentId_eq (h : a.SameBooking b) : b.appointmentId = a.appointmentId := by rw [h]

theorem consultationRequestId_eq (h : a.SameBooking b) :
    b.consultationRequestId = a.consultationRequestId := by rw [h]

theorem money_eq (h : a.SameBooking b) : b.amount = a.amount ∧ b.currency = a.currency := by
  rw [h]; exact ⟨rfl, rfl⟩

end PaymentAttempt.SameBooking

/-! ## Reservations -/

/-- What payments do to an appointment: a reserved one is scheduled or cancelled. -/
inductive Appointment.PaymentStep : Appointment → Appointment → Prop
  | unchanged (p : Appointment) : PaymentStep p p
  | confirmed (p : Appointment) (notes : Option String) (hreserved : p.status = .reserved) :
      PaymentStep p { p with status := .scheduled, notes }
  | released (p : Appointment) (notes : Option String) (hreserved : p.status = .reserved) :
      PaymentStep p { p with status := .cancelled, notes }

/-- What payments do to a consultation: one that waits for payment is scheduled or reviewed. -/
inductive ConsultationRequest.PaymentStep : ConsultationRequest → ConsultationRequest → Prop
  | unchanged (c : ConsultationRequest) : PaymentStep c c
  | confirmed (c : ConsultationRequest) (hpending : c.status = .paymentPending) :
      PaymentStep c { c with status := .scheduled }
  | released (c : ConsultationRequest) (hpending : c.status = .paymentPending) :
      PaymentStep c { c with status := .reviewing }

/-- What payments do to the booking tables. -/
structure PaymentFrame (db db' : Database) : Prop where
  attempts : Table.RowsRelated PaymentAttempt.SameBooking db.paymentAttempts db'.paymentAttempts
  appointments : Table.RowsRelated Appointment.PaymentStep db.appointments db'.appointments
  consultations : Table.RowsRelated ConsultationRequest.PaymentStep db.consultationRequests
    db'.consultationRequests
  legalCases : db'.legalCases = db.legalCases

theorem PaymentFrame.refl (db : Database) : PaymentFrame db db where
  attempts := .refl .refl _
  appointments := .refl .unchanged _
  consultations := .refl .unchanged _
  legalCases := rfl

/-- Releasing an attempt rewrites the attempt, and its appointment and consultation if they still
wait for the payment. -/
theorem releaseFailedAttempt_frame (db : Database) (attempt : AttemptWithRelations)
    (status : PaymentAttemptStatus) (code : String) :
    PaymentFrame db (releaseFailedAttempt db attempt status code) := by
  unfold releaseFailedAttempt
  split_ifs with h
  · refine ⟨.update .refl fun a _ ↦ rfl, .update .unchanged fun p _ ↦ ?_,
      .update .unchanged fun c _ ↦ ?_, rfl⟩
    · by_cases hp : p.status = .reserved
      · rw [if_pos hp]
        exact .released p _ hp
      · rw [if_neg hp]
        exact .unchanged p
    · by_cases hc : c.status = .paymentPending
      · rw [if_pos hc]
        exact .released c hc
      · rw [if_neg hc]
        exact .unchanged c
  · exact .refl _

/-- A later write of the attempt alone keeps the frame. -/
theorem PaymentFrame.updateAttempt {db db' : Database} (h : PaymentFrame db db') (id : Uuid)
    {f : PaymentAttempt → PaymentAttempt} (hf : ∀ a : PaymentAttempt, a.SameBooking (f a)) :
    PaymentFrame db (db'.updateAttempt id f) :=
  { h with attempts := h.attempts.trans (fun _ _ _ ↦ .trans) (.update .refl fun a _ ↦ hf a) }

theorem reviewCollection_frame (db : Database) (attempt : AttemptWithRelations)
    (problem : Option PayloadProblem) :
    PaymentFrame db (reviewCollection db attempt problem) := by
  unfold reviewCollection
  cases problem with
  | some problem => exact (releaseFailedAttempt_frame _ _ _ _).updateAttempt _ fun a ↦ rfl
  | none => exact (releaseFailedAttempt_frame _ _ _ _).updateAttempt _ fun a ↦ rfl

theorem recordReversal_frame (db : Database) (w : WebhookApplication)
    (attempt : AttemptWithRelations) (transaction : PaymentTransaction) :
    PaymentFrame db (recordReversal db w attempt transaction) := by
  have h : PaymentFrame db (db.updateAttempt attempt.id fun a ↦
      { a with
        status := reversalStatus w transaction
        failureCode := some "PAYMENT_REVERSAL_REVIEW_REQUIRED" }) :=
    (PaymentFrame.refl db).updateAttempt _ fun a ↦ rfl
  unfold recordReversal
  cases attempt.payment with
  | none => exact h
  | some p => exact { h with }

theorem updateOpenAttemptStatus_frame (db : Database) (attempt : AttemptWithRelations)
    (status : ProviderPaymentStatus) :
    PaymentFrame db (updateOpenAttemptStatus db attempt status) := by
  unfold updateOpenAttemptStatus
  split_ifs
  · exact (PaymentFrame.refl db).updateAttempt _ fun a ↦ rfl
  · exact .refl _

/-- Confirming a reservation that is still held. -/
theorem confirmReservation_frame {db : Database} {attempt : AttemptWithRelations}
    (transaction : PaymentTransaction)
    (happ : db.appointments.lookup attempt.row.appointmentId = some attempt.appointment)
    (hcons : db.consultationRequests.lookup attempt.row.consultationRequestId =
      some attempt.consultationRequest)
    (hreserved : attempt.appointment.status = .reserved)
    (hpending : attempt.consultationRequest.status = .paymentPending) :
    PaymentFrame db (confirmReservation db attempt transaction) := by
  refine ⟨.update .refl fun a _ ↦ rfl, .update .unchanged fun p hp ↦ ?_,
    .update .unchanged fun c hc ↦ ?_, rfl⟩
  · rw [happ] at hp
    cases hp
    exact .confirmed _ _ hreserved
  · rw [hcons] at hc
    cases hc
    exact .confirmed _ hpending

/-- The frame of an applied webhook. -/
theorem applyWebhookPaymentState_frame {P : Platform} {db db' : Database} {w : WebhookApplication}
    (h : applyWebhookPaymentState P db w = .ok db') : PaymentFrame db db' := by
  obtain rfl | ⟨attempt, money, db₁, transactionId, transaction, haccepted, hrecorded, houtcome⟩ :=
    applyWebhookPaymentState_cases h
  · exact .refl _
  · obtain ⟨hid, hrow, happ, hcons, -⟩ := Database.findAttempt_eq_some.mp haccepted.found
    have hframe := hrecorded.frame
    generalize db₁.paymentTransactions = transactions at hframe
    subst hframe
    cases houtcome with
    | reviewed problem => exact { reviewCollection_frame _ attempt problem with }
    | alreadyPaid => exact { PaymentFrame.refl db with }
    | confirmed _ _ _ _ hreserved hpending =>
      exact { confirmReservation_frame transaction happ hcons hreserved hpending with }
    | reversed => exact { recordReversal_frame _ w attempt transaction with }
    | released => exact { releaseFailedAttempt_frame _ attempt _ _ with }
    | pending => exact { updateOpenAttemptStatus_frame _ attempt _ with }

/-! ## Events -/

theorem releaseFailedAttempt_events (db : Database) (attempt : AttemptWithRelations)
    (status : PaymentAttemptStatus) (code : String) :
    (releaseFailedAttempt db attempt status code).paymentWebhookEvents = db.paymentWebhookEvents := by
  unfold releaseFailedAttempt
  split_ifs <;> rfl

theorem reviewCollection_events (db : Database) (attempt : AttemptWithRelations)
    (problem : Option PayloadProblem) :
    (reviewCollection db attempt problem).paymentWebhookEvents = db.paymentWebhookEvents := by
  cases problem with
  | none => exact releaseFailedAttempt_events _ _ _ _
  | some problem => exact releaseFailedAttempt_events _ _ _ _

theorem finishEvent_events {db db' : Database} (w : WebhookApplication) (errorCode : Option String)
    (h : db'.paymentWebhookEvents = db.paymentWebhookEvents) :
    (finishEvent db' w errorCode).paymentWebhookEvents =
      (finishEvent db w errorCode).paymentWebhookEvents := by
  simp only [finishEvent, Database.updateEvent, h]

/-- Of the events a signal writes its own, once. -/
theorem SignalOutcome.events_eq {P : Platform} {db db' : Database} {w : WebhookApplication}
    {attempt : AttemptWithRelations} {money : Option (Decimal × Currency)} {transactionId : Uuid}
    {transaction : PaymentTransaction}
    (h : SignalOutcome P db w attempt money transactionId transaction db') :
    ∃ errorCode, db'.paymentWebhookEvents = (finishEvent db w errorCode).paymentWebhookEvents := by
  cases h with
  | reviewed problem => exact ⟨_, finishEvent_events w _ (reviewCollection_events db attempt problem)⟩
  | alreadyPaid => exact ⟨_, rfl⟩
  | confirmed => exact ⟨none, rfl⟩
  | reversed =>
    refine ⟨_, finishEvent_events w _ ?_⟩
    unfold recordReversal
    cases attempt.payment <;> rfl
  | released => exact ⟨_, finishEvent_events w _ (releaseFailedAttempt_events db attempt _ _)⟩
  | pending =>
    refine ⟨_, finishEvent_events w _ ?_⟩
    unfold updateOpenAttemptStatus
    split_ifs <;> rfl

/-- The frame of an expiry batch. -/
theorem expireBatch_paymentFrame (db : Database) (now : Time) (batch : List ExpiryCandidate) :
    PaymentFrame db (expireBatch db now batch) where
  attempts := .updateMany .refl fun _ a _ _ ↦ .expire a
  appointments := .updateMany .unchanged fun _ p _ h ↦ .released p _ (of_decide_eq_true h).2
  consultations := .updateMany .unchanged fun _ c _ h ↦ .released c (of_decide_eq_true h).2
  legalCases := rfl

end KmtLegal
