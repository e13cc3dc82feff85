import KmtLegal.Payments.WebhookState

/-!
# Expiry of open attempts

Two batch jobs expire attempts whose time has run out: `expireOpenConsultationPaymentAttempts` of
the payment service and `expireOpenPaymentAttempts` of the maintenance worker.  Both first select
a batch and then write it in a transaction of its own, so each is modelled as a read and a write.
The two writes differ: the service asks again, row by row, whether the attempt is still open and
overdue, the worker does not.
-/

namespace KmtLegal

open Relational

/-! ## The read -/

/-- `status in (CREATED, PENDING)` and `expiresAt < now`. -/
def isExpirable (now : Time) (a : PaymentAttempt) : Bool := a.status.isOpen ∧ a.expiresAt < now

/-- The columns both jobs select. -/
structure ExpiryCandidate where
  id : Uuid
  appointmentId : Uuid
  consultationRequestId : Uuid
  deriving DecidableEq

/-- The batch: expirable attempts, earliest expiry first; with `attemptId` only that one. -/
def expiryCandidates (db : Database) (now : Time) (attemptId : Option Uuid) (limit : ℕ) :
    List ExpiryCandidate :=
  (db.paymentAttempts.findMany
    (fun id a ↦ (∀ i ∈ attemptId, i ≠ "" → id = i) ∧ isExpirable now a)
    (fun x y ↦ x.2.expiresAt ≤ y.2.expiresAt) limit).map fun e ↦
      ⟨e.1, e.2.appointmentId, e.2.consultationRequestId⟩

theorem mem_expiryCandidates {db : Database} {now : Time} {attemptId : Option Uuid} {limit : ℕ}
    {c : ExpiryCandidate} (h : c ∈ expiryCandidates db now attemptId limit) :
    ∃ a, db.paymentAttempts.lookup c.id = some a ∧ isExpirable now a ∧
      c.appointmentId = a.appointmentId ∧ c.consultationRequestId = a.consultationRequestId := by
  obtain ⟨⟨id, a⟩, hmem, rfl⟩ := List.mem_map.mp h
  obtain ⟨hlookup, hp⟩ := Table.mem_findMany hmem
  exact ⟨a, hlookup, (of_decide_eq_true hp).2, rfl, rfl⟩

/-! ## The writes -/

/-- `data: { status: "EXPIRED", failureCode: "ATTEMPT_EXPIRED" }`. -/
def PaymentAttempt.expire (a : PaymentAttempt) : PaymentAttempt :=
  { a with status := .expired, failureCode := some "ATTEMPT_EXPIRED" }

/-- The reservation of an expired attempt is cancelled. -/
def Appointment.releaseExpired (p : Appointment) : Appointment :=
  { p with
    status := .cancelled
    notes := some "Payment reservation expired before trusted payment confirmation." }

/-- The consultation of an expired attempt goes back to review. -/
def ConsultationRequest.backToReview (c : ConsultationRequest) : ConsultationRequest :=
  { c with status := .reviewing }

/-- The two updates behind the one of the attempts: only rows still reserved or pending. -/
def releaseReservations (db : Database) (appointmentIds consultationIds : List Uuid) : Database :=
  { db with
    appointments := db.appointments.updateMany
      (fun id p ↦ id ∈ appointmentIds ∧ p.status = .reserved) Appointment.releaseExpired
    consultationRequests := db.consultationRequests.updateMany
      (fun id c ↦ id ∈ consultationIds ∧ c.status = .paymentPending)
      ConsultationRequest.backToReview }

/-- The attempts of a batch that can still be expired, as the service's update returns them. -/
def stillExpirable (db : Database) (now : Time) (batch : List ExpiryCandidate) :
    List (Uuid × PaymentAttempt) :=
  db.paymentAttempts.select fun id a ↦ id ∈ batch.map ExpiryCandidate.id ∧ isExpirable now a

/-- The transaction of `expireOpenConsultationPaymentAttempts`. -/
def expireBatch (db : Database) (now : Time) (batch : List ExpiryCandidate) : Database :=
  let expired := stillExpirable db now batch
  releaseReservations
    { db with
      paymentAttempts := db.paymentAttempts.updateMany
        (fun id a ↦ id ∈ batch.map ExpiryCandidate.id ∧ isExpirable now a) PaymentAttempt.expire }
    (expired.map fun e ↦ e.2.appointmentId) (expired.map fun e ↦ e.2.consultationRequestId)

/-- The transaction of the worker's `expireOpenPaymentAttempts`. -/
def workerExpireBatch (db : Database) (batch : List ExpiryCandidate) : Database :=
  releaseReservations
    { db with
      paymentAttempts := db.paymentAttempts.updateMany
        (fun id _ ↦ id ∈ batch.map ExpiryCandidate.id) PaymentAttempt.expire }
    (batch.map ExpiryCandidate.appointmentId) (batch.map ExpiryCandidate.consultationRequestId)

theorem mem_stillExpirable {db : Database} {now : Time} {batch : List ExpiryCandidate} {id : Uuid}
    {a : PaymentAttempt} :
    (id, a) ∈ stillExpirable db now batch ↔
      db.paymentAttempts.lookup id = some a ∧ (∃ c ∈ batch, c.id = id) ∧ isExpirable now a := by
  simp [stillExpirable, Table.mem_select]

/-! ## The jobs -/

/-- `expireOpenConsultationPaymentAttempts(now, { attemptId, limit })`. -/
def expireOpenConsultationPaymentAttempts (db : Database) (now : Time)
    (attemptId : Option Uuid := none) (limit : Option ℕ := none) : Database × ℕ :=
  let batch := expiryCandidates db now attemptId (min (max (limit.getD 100) 1) 500)
  if batch = [] then (db, 0)
  else (expireBatch db now batch, (stillExpirable db now batch).length)

/-- `expireOpenPaymentAttempts(now)` of the worker, with at most `maxBatches` rounds. -/
def expireOpenPaymentAttempts (now : Time) (batchSize : ℕ) : ℕ → Database → Database × ℕ
  | 0, db => (db, 0)
  | maxBatches + 1, db =>
    let batch := expiryCandidates db now none batchSize
    if batch = [] then (db, 0)
    else
      let db' := workerExpireBatch db batch
      if batch.length < batchSize then (db', batch.length)
      else
        let (db'', expired) := expireOpenPaymentAttempts now batchSize maxBatches db'
        (db'', batch.length + expired)

/-! ## What a reader of one row sees -/

/-- Writing an empty batch changes nothing. -/
theorem expireBatch_nil (db : Database) (now : Time) : expireBatch db now [] = db := by
  simp [expireBatch, releaseReservations, stillExpirable, Table.select,
    Table.updateMany_eq_self]

section

variable (db : Database) (now : Time) (batch : List ExpiryCandidate)

theorem expireBatch_lookup_attempt (id : Uuid) :
    (expireBatch db now batch).paymentAttempts.lookup id =
      (db.paymentAttempts.lookup id).map fun a ↦
        if id ∈ batch.map ExpiryCandidate.id ∧ isExpirable now a then a.expire else a := by
  simp [expireBatch, releaseReservations]

theorem expireBatch_lookup_appointment (id : Uuid) :
    (expireBatch db now batch).appointments.lookup id =
      (db.appointments.lookup id).map fun p ↦
        if id ∈ (stillExpirable db now batch).map (fun e ↦ e.2.appointmentId) ∧
          p.status = .reserved then p.releaseExpired else p := by
  simp only [expireBatch, releaseReservations, Table.lookup_updateMany, decide_eq_true_eq]

theorem expireBatch_lookup_consultation (id : Uuid) :
    (expireBatch db now batch).consultationRequests.lookup id =
      (db.consultationRequests.lookup id).map fun c ↦
        if id ∈ (stillExpirable db now batch).map (fun e ↦ e.2.consultationRequestId) ∧
          c.status = .paymentPending then c.backToReview else c := by
  simp only [expireBatch, releaseReservations, Table.lookup_updateMany, decide_eq_true_eq]

end

end KmtLegal
