import KmtLegal.Payments.Collection
import KmtLegal.Admin.Calendar
import KmtLegal.Admin.ConsultationOutcome
import KmtLegal.Consultations.Checkout
import KmtLegal.Consultations.DirectBooking

/-!
# The office

Everything that writes appointments and consultations, as one system: the staff services, the
bookings of clients, the payments and the two jobs of the maintenance worker.  Each request is
atomic, and one that fails leaves the database as it was.
-/

namespace KmtLegal

open Relational

inductive OfficeRequest where
  | schedule (call : ScheduleConsultation)
  | assign (call : AssignConsultation)
  | review (call : ReviewConsultation)
  | reject (call : RejectConsultation)
  | convert (call : ConvertConsultation)
  | setOutcome (call : SetConsultationOutcome)
  | reopen (call : ReopenMissedConsultation)
  | createAppointment (call : CreateCalendarAppointment)
  | reschedule (call : RescheduleCalendarAppointment)
  | directBooking (call : MutateDirectBooking)
  | checkout (call : CreateCheckout)
  /-- A delivery, a replay or an expiry run of the payment service. -/
  | payment (request : PaymentRequest)
  /-- `expireOpenPaymentAttempts` of the worker. -/
  | workerExpire (now : Time) (batchSize maxBatches : ℕ)
  | reconcile (consultationId : Uuid) (now : Time) (source : MaintenanceSource)

/-- Serves one request. -/
def serveOffice (P : Platform) (A : Availability) (db : Database) :
    OfficeRequest → Except Failure Database
  | .schedule call => scheduleConsultation P A db call
  | .assign call => assignConsultation P db call
  | .review call => reviewConsultation P db call
  | .reject call => rejectConsultation P db call
  | .convert call => convertConsultationToCase P db call
  | .setOutcome call => setConsultationOutcome P db call
  | .reopen call => reopenMissedConsultation P db call
  | .createAppointment call => createAdminCalendarAppointment P db call
  | .reschedule call => rescheduleAdminCalendarAppointment P db call
  | .directBooking call => mutateDirectBooking A db call
  | .checkout call => createPublicConsultationCheckout P db call
  | .payment request => .ok (paymentStep P db request)
  | .workerExpire now batchSize maxBatches =>
    .ok (expireOpenPaymentAttempts now batchSize maxBatches db).1
  | .reconcile consultationId now source =>
    .ok (reconcileOneConsultation db consultationId now source).1

/-- The database after one request. -/
def officeStep (P : Platform) (A : Availability) (db : Database) (request : OfficeRequest) :
    Database :=
  commit (serveOffice P A db request) db

/-! ## Expiry by the worker -/

theorem Appointment.PaymentStep.trans {p q r : Appointment} (h : PaymentStep p q)
    (h' : PaymentStep q r) : PaymentStep p r := by
  cases h with
  | unchanged => exact h'
  | confirmed notes hreserved =>
    cases h' with
    | unchanged => exact .confirmed p notes hreserved
    | confirmed _ h => cases h
    | released _ h => cases h
  | released notes hreserved =>
    cases h' with
    | unchanged => exact .released p notes hreserved
    | confirmed _ h => cases h
    | released _ h => cases h

theorem ConsultationRequest.PaymentStep.trans {c d e : ConsultationRequest} (h : PaymentStep c d)
    (h' : PaymentStep d e) : PaymentStep c e := by
  cases h with
  | unchanged => exact h'
  | confirmed hpending =>
    cases h' with
    | unchanged => exact .confirmed c hpending
    | confirmed h => cases h
    | released h => cases h
  | released hpending =>
    cases h' with
    | unchanged => exact .released c hpending
    | confirmed h => cases h
    | released h => cases h

theorem PaymentFrame.trans {db db' db'' : Database} (h : PaymentFrame db db')
    (h' : PaymentFrame db' db'') : PaymentFrame db db'' where
  attempts := h.attempts.trans (fun _ _ _ ↦ .trans) h'.attempts
  appointments := h.appointments.trans (fun _ _ _ ↦ .trans) h'.appointments
  consultations := h.consultations.trans (fun _ _ _ ↦ .trans) h'.consultations
  legalCases := h'.legalCases.trans h.legalCases

theorem workerExpireBatch_paymentFrame (db : Database) (batch : List ExpiryCandidate) :
    PaymentFrame db (workerExpireBatch db batch) where
  attempts := .updateMany .refl fun _ a _ _ ↦ .expire a
  appointments := .updateMany .unchanged fun _ p _ h ↦ .released p _ (of_decide_eq_true h).2
  consultations := .updateMany .unchanged fun _ c _ h ↦ .released c (of_decide_eq_true h).2
  legalCases := rfl

/-- All rounds of the worker keep to the payment frame. -/
theorem expireOpenPaymentAttempts_frame (now : Time) (batchSize maxBatches : ℕ) (db : Database) :
    PaymentFrame db (expireOpenPaymentAttempts now batchSize maxBatches db).1 := by
  induction maxBatches generalizing db with
  | zero => exact .refl db
  | succ maxBatches ih =>
    have hround := workerExpireBatch_paymentFrame db (expiryCandidates db now none batchSize)
    simp only [expireOpenPaymentAttempts]
    split_ifs
    · exact .refl db
    · exact hround
    · exact hround.trans (ih _)

/-! ## An office to evaluate with -/

def sampleLawyer : Uuid := "7c9e6679-7425-40de-944b-e07fc1f90ae7"

def sampleConsultation : Uuid := "0b6f6d3c-2f0e-4a0e-9b59-5d1f0c3a2b11"

/-- The appointment that is held for the consultation. -/
def sampleReservation : Uuid := "1f2e3d4c-5b6a-4788-9900-aabbccddeeff"

/-- An appointment of the lawyer. -/
def sampleMeeting : Uuid := "2a1b0c9d-8e7f-4655-8443-322110ffeedd"

def sampleSecretary : Principal := ⟨"5d41402a-bc4b-4a76-b971-9d911017c592", "Secretary", none, none⟩

/-- A consultation that waits for payment, and a lawyer whose meeting begins when the reserved
time is over. -/
def sampleOffice : Database where
  paymentAttempts := AList.singleton heldAttempt
    { provider := "paytabs", status := .pending, clientId := "c"
      consultationRequestId := sampleConsultation, appointmentId := sampleReservation
      amount := 750, currency := .egp, startsAt := 90000, endsAt := 93600, expiresAt := 1000
      idempotencyKey := "k" }
  paymentWebhookEvents := AList.singleton heldEvent
    { signatureStatus := .verified, processingStatus := .pending, payloadHash := "h" }
  appointments := (AList.singleton sampleMeeting
      { clientId := "d", lawyerId := some sampleLawyer, title := "Meeting"
        type := .internalMeeting, mode := .office, startsAt := 93600, endsAt := 97200
        status := .scheduled }).insert sampleReservation
      { clientId := "c", consultationRequestId := some sampleConsultation, title := "Consultation"
        type := .consultation, mode := .office, startsAt := 90000, endsAt := 93600
        status := .reserved }
  consultationRequests := AList.singleton sampleConsultation
    { fullName := "Mona", phone := "01000000001", serviceCategory := "family"
      summary := "Custody of a child", preferredMode := .office, status := .paymentPending }
  users := AList.singleton sampleLawyer { status := .active, roleName := "Lawyer" }

/-- The reservation has no lawyer, the meeting is no consultation. -/
theorem sampleOffice_appointments {id : Uuid} {p : Appointment}
    (h : sampleOffice.appointments.lookup id = some p) :
    (id = sampleReservation ∧ p.lawyerId = none) ∨
      (id = sampleMeeting ∧ ∀ consultationId, ¬p.isPrimaryOf consultationId) := by
  rcases List.mem_cons.mp (Table.mem_rows.mpr h) with h | h
  · cases h
    exact .inl ⟨rfl, rfl⟩
  · cases List.mem_singleton.mp h
    exact .inr ⟨rfl, fun _ hprimary ↦ nomatch (of_decide_eq_true hprimary).1⟩

/-- Nothing is published. -/
def noTimes : Availability where
  offersRequested _ _ _ _ _ := false
  directSlots _ _ _ _ := []
  bookingCategory service _ := service

/-- The lawyer is assigned to the consultation. -/
def sampleAssign : AssignConsultation :=
  ⟨sampleSecretary, sampleConsultation, sampleLawyer, 500, 500⟩

end KmtLegal
