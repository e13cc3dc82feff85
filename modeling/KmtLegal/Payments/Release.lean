import KmtLegal.Payments.Collection

/-!
# Releasing a reservation

A reserved appointment blocks its time for everyone else, and the only thing that ends an unpaid
reservation by itself is the expiry of its attempt.  Expiry looks at open attempts only, so a
reservation can be released as long as whatever closes the attempt releases the appointment with
it.

One signal does not: a refund or a dispute that arrives before the payment closes the attempt and
leaves the appointment reserved.  `releasable_iff` says that nothing else does.
-/

namespace KmtLegal

open Relational Js

/-! ## Reservations that expire -/

/-- While its appointment is reserved the attempt is open, and expiry, once its time has run out,
cancels the appointment. -/
def Releasable (attemptId : Uuid) (db : Database) : Prop :=
  ∀ a p, db.paymentAttempts.lookup attemptId = some a →
    db.appointments.lookup a.appointmentId = some p → p.status = .reserved →
    a.status.isOpen ∧ ∀ now, a.expiresAt < now →
      -- an empty id would select every attempt
      attemptId ≠ "" → ∀ limit, ∃ p',
        (expireOpenConsultationPaymentAttempts db now (some attemptId) limit).1.appointments.lookup
          a.appointmentId = some p' ∧ p'.status = .cancelled

section

variable {db : Database} {attemptId : Uuid} {a : PaymentAttempt} {p : Appointment} {now : Time}

/-- The batch for one overdue attempt has that attempt. -/
theorem mem_expiryCandidates_self (ha : db.paymentAttempts.lookup attemptId = some a)
    (hexpirable : isExpirable now a) (hid : attemptId ≠ "") {limit : ℕ} (hlimit : limit ≠ 0) :
    ⟨attemptId, a.appointmentId, a.consultationRequestId⟩ ∈
      expiryCandidates db now (some attemptId) limit := by
  refine List.mem_map.mpr ⟨(attemptId, a), Table.mem_findMany_of_unique ha ?_ ?_ hlimit, rfl⟩
  · simp [hexpirable]
  · intro k' r' hk'
    simpa [hid] using (of_decide_eq_true hk').1

/-- Expiry releases the reservation of an open attempt whose time has run out. -/
theorem expire_releases (ha : db.paymentAttempts.lookup attemptId = some a)
    (hp : db.appointments.lookup a.appointmentId = some p) (hreserved : p.status = .reserved)
    (hopen : a.status.isOpen) (htime : a.expiresAt < now) (hid : attemptId ≠ "")
    (limit : Option ℕ) :
    ∃ p', (expireOpenConsultationPaymentAttempts db now (some attemptId) limit
      ).1.appointments.lookup a.appointmentId = some p' ∧ p'.status = .cancelled := by
  have hexpirable : isExpirable now a := decide_eq_true ⟨hopen, htime⟩
  have hlimit : min (max (limit.getD 100) 1) 500 ≠ 0 := by omega
  have hmem := mem_expiryCandidates_self ha hexpirable hid hlimit
  refine ⟨p.releaseExpired, ?_, rfl⟩
  rw [expireOpenConsultationPaymentAttempts, if_neg (List.ne_nil_of_mem hmem)]
  have hstill : a.appointmentId ∈ (stillExpirable db now (expiryCandidates db now (some attemptId)
      (min (max (limit.getD 100) 1) 500))).map fun e ↦ e.2.appointmentId :=
    List.mem_map.mpr ⟨(attemptId, a), mem_stillExpirable.mpr ⟨ha, ⟨_, hmem, rfl⟩, hexpirable⟩, rfl⟩
  simp only [expireBatch_lookup_appointment, hp, Option.map_some, hstill, hreserved, and_self,
    if_true]

/-- It is enough that the attempt is open. -/
theorem releasable_iff_isOpen :
    Releasable attemptId db ↔ ∀ a p, db.paymentAttempts.lookup attemptId = some a →
      db.appointments.lookup a.appointmentId = some p → p.status = .reserved → a.status.isOpen := by
  constructor
  · exact fun h a p ha hp hreserved ↦ (h a p ha hp hreserved).1
  · intro h a p ha hp hreserved
    have hopen := h a p ha hp hreserved
    exact ⟨hopen, fun now htime hid limit ↦
      expire_releases ha hp hreserved hopen htime hid limit⟩

end

/-! ## Early reversals -/

/-- A signal that is recorded as the reversal of a collection. -/
def IsReversal (w : WebhookApplication) (attempt : AttemptWithRelations) : Prop :=
  w.payload.status = .refunded ∨ w.payload.status = .disputed ∨
    (w.payload.status = .cancelled ∧ attempt.payment.isSome)

/-- The request does not bring an accepted reversal for the attempt while it is open and holds its
appointment. -/
def NoEarlyReversal (P : Platform) (attemptId : Uuid) (db : Database) (request : PaymentRequest) :
    Prop :=
  ∀ db₀ w attempt money, appliedWebhook P db request = some (db₀, w) →
    Accepted P db₀ w attempt money → attempt.id = attemptId → attempt.row.status.isOpen →
    attempt.appointment.status = .reserved → IsReversal w attempt →
    ∀ recorded, upsertPaymentTransaction db₀ w.event w.fresh.transaction
      (payloadTransaction w attempt money) ≠ .ok recorded

section

variable {P : Platform} {db db' : Database} {w : WebhookApplication}
  {attempt : AttemptWithRelations} {money : Option (Decimal × Currency)} {transactionId : Uuid}
  {transaction : PaymentTransaction}

/-- Releasing leaves no reserved appointment behind, if there was something to release. -/
theorem releaseFailedAttempt_appointment {p : Appointment} (hr : attempt.isReleasable)
    (hp : db.appointments.lookup attempt.row.appointmentId = some p)
    (status : PaymentAttemptStatus) (code : String) :
    ∃ p', (releaseFailedAttempt db attempt status code).appointments.lookup
      attempt.row.appointmentId = some p' ∧ p'.status ≠ .reserved := by
  rw [releaseFailedAttempt, if_pos hr]
  by_cases hreserved : p.status = .reserved
  · refine ⟨{ p with
      status := .cancelled
      notes := some ("Payment attempt ended with " ++ status.text ++ ".") }, ?_, nofun⟩
    simp [Database.updateAttempt, Database.updateAppointment, Database.updateConsultation, hp,
      hreserved]
  · refine ⟨p, ?_, hreserved⟩
    simp [Database.updateAttempt, Database.updateAppointment, Database.updateConsultation, hp,
      hreserved]

/-- Whatever is applied to an open attempt but a reversal leaves it open or gives its appointment
another status. -/
theorem SignalOutcome.open_or_released
    (h : SignalOutcome P db w attempt money transactionId transaction db')
    (hrow : db.paymentAttempts.lookup attempt.id = some attempt.row)
    (happ : db.appointments.lookup attempt.row.appointmentId = some attempt.appointment)
    (hopen : attempt.row.status.isOpen) (hreversal : ¬IsReversal w attempt) :
    (∃ a', db'.paymentAttempts.lookup attempt.id = some a' ∧ a'.status.isOpen) ∨
      ∃ p', db'.appointments.lookup attempt.row.appointmentId = some p' ∧
        p'.status ≠ .reserved := by
  cases h with
  | reviewed problem =>
    by_cases hr : attempt.isReleasable
    · right
      cases problem with
      | some problem => exact releaseFailedAttempt_appointment hr happ _ _
      | none => exact releaseFailedAttempt_appointment hr happ _ _
    · obtain ⟨a', ha', -, -, hkept⟩ := reviewCollection_lookup hrow problem
      exact .inl ⟨a', ha', by rw [hkept hr]; exact hopen⟩
  | alreadyPaid => exact .inl ⟨_, hrow, hopen⟩
  | confirmed =>
    refine .inr ⟨{ attempt.appointment with
      status := .scheduled, notes := some "Confirmed after trusted payment webhook." }, ?_, nofun⟩
    simp [finishEvent, Database.updateEvent, confirmReservation, Database.updateAttempt,
      Database.updateAppointment, Database.updateConsultation, happ]
  | reversed hstatus => exact absurd hstatus hreversal
  | released =>
    by_cases hr : attempt.isReleasable
    · exact .inr (releaseFailedAttempt_appointment hr happ _ _)
    · left
      refine ⟨attempt.row, ?_, hopen⟩
      have hlookup := releaseFailedAttempt_lookup hrow w.payload.status.attemptStatus
        (orElse w.payload.rawStatus w.payload.status.text)
      rw [if_neg hr] at hlookup
      exact hlookup
  | pending hstatus =>
    obtain ⟨a', ha', hopen', -⟩ := updateOpenAttemptStatus_lookup hrow hstatus
    exact .inl ⟨a', ha', hopen'.mpr hopen⟩

/-- A reversal leaves the appointment alone. -/
theorem recordReversal_appointments :
    (recordReversal db w attempt transaction).appointments = db.appointments := by
  unfold recordReversal
  cases attempt.payment <;> rfl

/-- A reversal is recorded whatever the attempt has come to. -/
theorem applyPaymentSignal_reversal (h : IsReversal w attempt) :
    applyPaymentSignal P db w attempt money transactionId transaction =
      .ok (finishEvent (recordReversal db w attempt transaction) w
        (some "PAYMENT_REVERSAL_REVIEW_REQUIRED")) := by
  rcases h with h | h | ⟨h, hpayment⟩
  · simp [applyPaymentSignal, paidPayloadProblem, lateCollection, additionalCollection, h]
  · simp [applyPaymentSignal, paidPayloadProblem, lateCollection, additionalCollection, h]
  · simp [applyPaymentSignal, paidPayloadProblem, lateCollection, additionalCollection, h, hpayment]

end

/-! ## Runs -/

/-- A request whose payment transaction succeeds leaves what the transaction returned. -/
theorem paymentStep_of_applied {P : Platform} {db db₀ db' : Database} {w : WebhookApplication}
    {request : PaymentRequest} (happlied : appliedWebhook P db request = some (db₀, w))
    (hok : applyWebhookPaymentState P db₀ w = .ok db') : paymentStep P db request = db' := by
  cases request with
  | webhook delivery =>
    simp only [appliedWebhook] at happlied
    simp only [paymentStep, servePayment, handlePaymentWebhook]
    cases hplan : planWebhook P db delivery with
    | done => simp [hplan] at happlied
    | apply d v =>
      simp only [hplan, Option.some.injEq, Prod.mk.injEq] at happlied
      obtain ⟨rfl, rfl⟩ := happlied
      simp only [hok]
  | replay replay =>
    simp only [appliedWebhook] at happlied
    simp only [paymentStep, servePayment, replayAdminPaymentWebhookEvent]
    cases hplan : planReplay db replay with
    | done => simp [hplan] at happlied
    | apply d v =>
      simp only [hplan, Option.some.injEq, Prod.mk.injEq] at happlied
      obtain ⟨rfl, rfl⟩ := happlied
      simp only [hok]
  | expire => cases happlied

section

variable {P : Platform} {db db' : Database} {attemptId : Uuid}

/-- A payment transaction that reverses no open attempt keeps its reservation releasable. -/
theorem applyWebhookPaymentState_releasable {w : WebhookApplication}
    (hok : applyWebhookPaymentState P db w = .ok db') (h : Releasable attemptId db)
    (hcondition : ∀ attempt money, Accepted P db w attempt money → attempt.id = attemptId →
      attempt.row.status.isOpen → attempt.appointment.status = .reserved → IsReversal w attempt →
      ∀ recorded, upsertPaymentTransaction db w.event w.fresh.transaction
        (payloadTransaction w attempt money) ≠ .ok recorded) :
    Releasable attemptId db' := by
  rw [releasable_iff_isOpen] at h ⊢
  intro a' p' ha' hp' hreserved'
  have hframe := applyWebhookPaymentState_frame hok
  obtain ⟨a, ha, hbooking⟩ := hframe.attempts.lookup' ha'
  rw [hbooking.appointmentId_eq] at hp'
  obtain ⟨p, hp, hstep⟩ := hframe.appointments.lookup' hp'
  -- no step of payments reserves an appointment
  have hreserved : p.status = .reserved := by
    cases hstep with
    | unchanged => exact hreserved'
    | confirmed => cases hreserved'
    | released => cases hreserved'
  have hopen := h a p ha hp hreserved
  obtain ⟨-, rfl, -⟩ | ⟨attempt, money, db₁, transactionId, transaction, haccepted, hupsert,
    hsignal⟩ := applyWebhookPaymentState_eq_ok.mp hok
  · rw [ha] at ha'
    cases ha'
    exact hopen
  have houtcome := applyPaymentSignal_eq_ok hsignal
  have hframe₁ := (upsertPaymentTransaction_eq_ok hupsert).frame
  have hattempts : db₁.paymentAttempts = db.paymentAttempts := by rw [hframe₁]
  have happointments : db₁.appointments = db.appointments := by rw [hframe₁]
  by_cases hsame : attemptId = attempt.id
  · subst hsame
    obtain ⟨hid, hrow, happ, -⟩ := Database.findAttempt_eq_some.mp haccepted.found
    rw [← hid, ha] at hrow
    cases hrow
    rw [hp] at happ
    cases happ
    have hreversal : ¬IsReversal w attempt := fun hreversal ↦
      hcondition attempt money haccepted rfl hopen hreserved hreversal _ hupsert
    obtain ⟨a'', ha'', hopen'⟩ | ⟨p'', hp'', hreleased⟩ := houtcome.open_or_released
      (hattempts ▸ ha) (happointments ▸ hp) hopen hreversal
    · rw [ha'] at ha''
      cases ha''
      exact hopen'
    · rw [hp'] at hp''
      cases hp''
      exact absurd hreserved' hreleased
  · rw [houtcome.otherAttempt hsame] at ha'
    simp only [linkEvent, Database.updateEvent, hattempts, ha] at ha'
    cases ha'
    exact hopen

/-- An expiry batch cancels what it closes. -/
theorem expireBatch_releasable (h : Releasable attemptId db) (now : Time)
    (batch : List ExpiryCandidate) : Releasable attemptId (expireBatch db now batch) := by
  rw [releasable_iff_isOpen] at h ⊢
  intro a' p' ha' hp' hreserved'
  obtain ⟨a, ha, -⟩ := (expireBatch_paymentFrame db now batch).attempts.lookup' ha'
  rw [expireBatch_lookup_attempt, ha, Option.map_some] at ha'
  by_cases hexpired : attemptId ∈ batch.map ExpiryCandidate.id ∧ isExpirable now a
  · rw [if_pos hexpired] at ha'
    obtain rfl := Option.some.inj ha'
    change (expireBatch db now batch).appointments.lookup a.appointmentId = some p' at hp'
    rw [expireBatch_lookup_appointment] at hp'
    obtain ⟨p, hp, rfl⟩ := Option.map_eq_some_iff.mp hp'
    have hstill : a.appointmentId ∈ (stillExpirable db now batch).map fun e ↦ e.2.appointmentId :=
      List.mem_map.mpr ⟨(attemptId, a), mem_stillExpirable.mpr
        ⟨ha, List.mem_map.mp hexpired.1, hexpired.2⟩, rfl⟩
    by_cases hreserved : p.status = .reserved
    · rw [if_pos ⟨hstill, hreserved⟩] at hreserved'
      cases hreserved'
    · rw [if_neg fun h ↦ hreserved h.2] at hreserved'
      exact absurd hreserved' hreserved
  · rw [if_neg hexpired] at ha'
    cases ha'
    obtain ⟨p, hp, hstep⟩ := (expireBatch_paymentFrame db now batch).appointments.lookup' hp'
    cases hstep with
    | unchanged => exact h a' p' ha hp hreserved'
    | confirmed => cases hreserved'
    | released => cases hreserved'

/-- Events have no part in it. -/
theorem Releasable.setEvents (h : Releasable attemptId db)
    (events : Table (String × String) PaymentWebhookEvent) :
    Releasable attemptId (db.setEvents events) :=
  releasable_iff_isOpen.mpr fun a p ha hp hreserved ↦ (h a p ha hp hreserved).1

/-- One request keeps the reservation releasable exactly if it is no early reversal. -/
theorem paymentStep_releasable_iff (h : Releasable attemptId db) (request : PaymentRequest) :
    Releasable attemptId (paymentStep P db request) ↔ NoEarlyReversal P attemptId db request := by
  constructor
  · intro h' db₀ w attempt money happlied haccepted hid hopen hreserved hreversal
    rintro ⟨db₁, transactionId, transaction⟩ hupsert
    have hok : applyWebhookPaymentState P db₀ w = .ok _ :=
      applyWebhookPaymentState_eq_ok.mpr (.inr ⟨attempt, money, db₁, transactionId, transaction,
        haccepted, hupsert, applyPaymentSignal_reversal hreversal⟩)
    rw [paymentStep_of_applied happlied hok, releasable_iff_isOpen] at h'
    obtain ⟨hpayload, hrow, happ, -⟩ := Database.findAttempt_eq_some.mp haccepted.found
    have hframe := (upsertPaymentTransaction_eq_ok hupsert).frame
    have hattempts : db₁.paymentAttempts = db₀.paymentAttempts := by rw [hframe]
    have happointments : db₁.appointments = db₀.appointments := by rw [hframe]
    rw [← hpayload, ← hattempts] at hrow
    rw [← happointments] at happ
    have hclosed : ¬(reversalStatus w transaction).isOpen :=
      reversalStatus_not_isOpen (hreversal.imp_right (.imp_right And.left))
    subst hid
    have hlinked : (linkEvent db₁ w attempt.id transactionId).paymentAttempts.lookup attempt.id =
        some attempt.row := hrow
    refine hclosed (h' _ attempt.appointment (recordReversal_lookup hlinked w transaction) ?_
      hreserved)
    change (recordReversal _ w attempt transaction).appointments.lookup _ = _
    rw [recordReversal_appointments]
    exact happ
  · intro hcondition
    have houtcome := paymentStep_outcome P db request
    generalize paymentStep P db request = db' at houtcome ⊢
    cases houtcome with
    | events events => exact h.setEvents events
    | applied events w db₁ happlied hok =>
      exact applyWebhookPaymentState_releasable hok (h.setEvents events)
        fun attempt money ↦ hcondition _ w attempt money happlied
    | expired now _ _ _ batch => exact expireBatch_releasable h now batch

end

end KmtLegal
