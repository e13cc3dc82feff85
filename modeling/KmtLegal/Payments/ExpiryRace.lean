import KmtLegal.Relational.Run
import KmtLegal.Payments.WebhookEffects

/-!
# Expiry against confirmation

A webhook may commit between the read of an expiry batch and its write.  The interleavings are
runs of three steps: a webhook transaction, the read of a batch by either job, and the write of a
batch that was read.  Reads and clocks are free, nothing is assumed about how the two processes
are scheduled.

The service's write leaves every paid booking alone, whatever its batch has become.  The worker's
write agrees with it exactly if its batch is still up to date, and a batch that is not up to date
is how a payment is overwritten.
-/

namespace KmtLegal

open Relational

/-! ## Interleavings -/

/-- Which of the two jobs selected a batch. -/
inductive ExpiryPath where
  | service | worker
  deriving DecidableEq

/-- A batch between its read and its write. -/
structure ExpirySelection where
  path : ExpiryPath
  now : Time
  batch : List ExpiryCandidate

/-- The transaction that writes the batch. -/
def ExpirySelection.write (selection : ExpirySelection) (db : Database) : Database :=
  match selection.path with
  | .service => expireBatch db selection.now selection.batch
  | .worker => workerExpireBatch db selection.batch

/-- The database and the batches the running jobs hold. -/
structure ExpiryState where
  db : Database
  selections : ℕ → Option ExpirySelection := fun _ ↦ none

inductive ExpiryStep where
  | webhook (w : WebhookApplication)
  | read (job : ℕ) (path : ExpiryPath) (now : Time) (attemptId : Option Uuid) (limit : ℕ)
  | write (job : ℕ)

/-- One step; only the service can be asked for a single attempt. -/
def expiryStep (P : Platform) (s : ExpiryState) : ExpiryStep → ExpiryState
  | .webhook w => { s with db := commit (applyWebhookPaymentState P s.db w) s.db }
  | .read job path now attemptId limit =>
    let attemptId := match path with
      | .service => attemptId
      | .worker => none
    let selection := ⟨path, now, expiryCandidates s.db now attemptId limit⟩
    { s with selections := Function.update s.selections job (some selection) }
  | .write job =>
    match s.selections job with
    | none => s
    | some selection =>
      { db := selection.write s.db, selections := Function.update s.selections job none }

/-! ## What a write should do -/

/-- Every paid attempt is as it was, and so are its appointment and its consultation if they are
scheduled. -/
def KeepsPaid (db db' : Database) : Prop :=
  ∀ id a, db.paymentAttempts.lookup id = some a → a.status = .paid →
    db'.paymentAttempts.lookup id = some a ∧
    (∀ p, db.appointments.lookup a.appointmentId = some p → p.status = .scheduled →
      db'.appointments.lookup a.appointmentId = some p) ∧
    ∀ c, db.consultationRequests.lookup a.consultationRequestId = some c → c.status = .scheduled →
      db'.consultationRequests.lookup a.consultationRequestId = some c

/-- The write of a batch keeps paid bookings and is the write of the service. -/
def WriteSafe (s : ExpiryState) : ExpiryStep → Prop
  | .write job => ∀ selection, s.selections job = some selection →
      KeepsPaid s.db (selection.write s.db) ∧
        selection.write s.db = expireBatch s.db selection.now selection.batch
  | _ => True

/-- A batch is up to date: each of its attempts can still be expired, or was expired in the
meantime and holds no reservation but one an expirable attempt of the batch holds as well. -/
structure UpToDate (db : Database) (now : Time) (batch : List ExpiryCandidate) : Prop where
  attempts : ∀ c ∈ batch, ∀ a, db.paymentAttempts.lookup c.id = some a →
    isExpirable now a ∨ (a.status = .expired ∧ a.failureCode = some "ATTEMPT_EXPIRED")
  appointments : ∀ c ∈ batch, ∀ p, db.appointments.lookup c.appointmentId = some p →
    p.status = .reserved → ∃ c' ∈ batch, c'.appointmentId = c.appointmentId ∧
      ∃ a, db.paymentAttempts.lookup c'.id = some a ∧ isExpirable now a
  consultations : ∀ c ∈ batch, ∀ r, db.consultationRequests.lookup c.consultationRequestId = some r →
    r.status = .paymentPending → ∃ c' ∈ batch, c'.consultationRequestId = c.consultationRequestId ∧
      ∃ a, db.paymentAttempts.lookup c'.id = some a ∧ isExpirable now a

/-- A write of the worker is taken with an up-to-date batch. -/
def UpToDateWrite (s : ExpiryState) : ExpiryStep → Prop
  | .write job => ∀ selection, s.selections job = some selection → selection.path = .worker →
      UpToDate s.db selection.now selection.batch
  | _ => True

/-! ## The service -/

theorem not_isExpirable_of_paid {now : Time} {a : PaymentAttempt} (h : a.status = .paid) :
    isExpirable now a = false := by
  simp [isExpirable, h, PaymentAttemptStatus.isOpen]

/-- The service's write keeps paid bookings, whatever was selected and whatever happened since. -/
theorem expireBatch_keepsPaid (db : Database) (now : Time) (batch : List ExpiryCandidate) :
    KeepsPaid db (expireBatch db now batch) := by
  intro id a ha hpaid
  refine ⟨?_, fun p hp hscheduled ↦ ?_, fun c hc hscheduled ↦ ?_⟩
  · simp [expireBatch_lookup_attempt, ha, not_isExpirable_of_paid hpaid]
  · simp [expireBatch_lookup_appointment, hp, hscheduled]
  · simp [expireBatch_lookup_consultation, hc, hscheduled]

/-! ## The worker -/

/-- The columns of a batch are those of the attempts it names. -/
def BatchMatches (db : Database) (batch : List ExpiryCandidate) : Prop :=
  ∀ c ∈ batch, ∃ a, db.paymentAttempts.lookup c.id = some a ∧
    c.appointmentId = a.appointmentId ∧ c.consultationRequestId = a.consultationRequestId

section

variable {db : Database} {now : Time} {batch : List ExpiryCandidate}

/-- What the service still expires, seen from the batch: `column` is a column of the batch that
agrees with `column'` of the attempts. -/
theorem mem_stillExpirable_column {column : ExpiryCandidate → Uuid} {column' : PaymentAttempt → Uuid}
    (hmatch : ∀ c ∈ batch, ∃ a, db.paymentAttempts.lookup c.id = some a ∧ column c = column' a)
    {id : Uuid} :
    id ∈ (stillExpirable db now batch).map (fun e ↦ column' e.2) ↔
      ∃ c ∈ batch, column c = id ∧
        ∃ a, db.paymentAttempts.lookup c.id = some a ∧ isExpirable now a := by
  simp only [List.mem_map, Prod.exists, mem_stillExpirable]
  constructor
  · rintro ⟨_, a, ⟨ha, ⟨c, hc, rfl⟩, hexp⟩, rfl⟩
    obtain ⟨a', ha', hcolumn⟩ := hmatch c hc
    rw [ha] at ha'
    cases ha'
    exact ⟨c, hc, hcolumn, a, ha, hexp⟩
  · rintro ⟨c, hc, rfl, a, ha, hexp⟩
    obtain ⟨a', ha', hcolumn⟩ := hmatch c hc
    rw [ha] at ha'
    cases ha'
    exact ⟨c.id, a, ⟨ha, ⟨c, hc, rfl⟩, hexp⟩, hcolumn.symm⟩

theorem mem_stillExpirable_appointments (hmatch : BatchMatches db batch) {id : Uuid} :
    id ∈ (stillExpirable db now batch).map (fun e ↦ e.2.appointmentId) ↔
      ∃ c ∈ batch, c.appointmentId = id ∧
        ∃ a, db.paymentAttempts.lookup c.id = some a ∧ isExpirable now a :=
  mem_stillExpirable_column fun c hc ↦ (hmatch c hc).imp fun _ h ↦ ⟨h.1, h.2.1⟩

theorem mem_stillExpirable_consultations (hmatch : BatchMatches db batch) {id : Uuid} :
    id ∈ (stillExpirable db now batch).map (fun e ↦ e.2.consultationRequestId) ↔
      ∃ c ∈ batch, c.consultationRequestId = id ∧
        ∃ a, db.paymentAttempts.lookup c.id = some a ∧ isExpirable now a :=
  mem_stillExpirable_column fun c hc ↦ (hmatch c hc).imp fun _ h ↦ ⟨h.1, h.2.2⟩

/-- With an up-to-date batch the worker writes what the service writes. -/
theorem workerExpireBatch_eq_of_upToDate (hmatch : BatchMatches db batch)
    (h : UpToDate db now batch) :
    workerExpireBatch db batch = expireBatch db now batch := by
  have hattempts : db.paymentAttempts.updateMany
        (fun id _ ↦ id ∈ batch.map ExpiryCandidate.id) PaymentAttempt.expire =
      db.paymentAttempts.updateMany (fun id a ↦ id ∈ batch.map ExpiryCandidate.id ∧
        isExpirable now a) PaymentAttempt.expire := by
    refine Table.updateMany_congr fun id a ha ↦ ?_
    by_cases hid : id ∈ batch.map ExpiryCandidate.id
    · obtain ⟨c, hc, rfl⟩ := List.mem_map.mp hid
      rcases h.attempts c hc a ha with hexp | ⟨hstatus, hcode⟩
      · simp [hexp]
      · simp [PaymentAttempt.expire, ← hstatus, ← hcode]
    · simp [hid]
  have happointments : db.appointments.updateMany
        (fun id p ↦ id ∈ batch.map ExpiryCandidate.appointmentId ∧ p.status = .reserved)
        Appointment.releaseExpired =
      db.appointments.updateMany (fun id p ↦
        id ∈ (stillExpirable db now batch).map (fun e ↦ e.2.appointmentId) ∧
          p.status = .reserved) Appointment.releaseExpired := by
    refine Table.updateMany_congr fun id p hp ↦ ?_
    by_cases hreserved : p.status = .reserved
    · have hiff : id ∈ batch.map ExpiryCandidate.appointmentId ↔
          id ∈ (stillExpirable db now batch).map fun e ↦ e.2.appointmentId := by
        rw [mem_stillExpirable_appointments hmatch]
        constructor
        · intro hid
          obtain ⟨c, hc, rfl⟩ := List.mem_map.mp hid
          exact h.appointments c hc p hp hreserved
        · rintro ⟨c, hc, rfl, -⟩
          exact List.mem_map_of_mem hc
      simp only [hiff]
    · simp [hreserved]
  have hconsultations : db.consultationRequests.updateMany
        (fun id c ↦ id ∈ batch.map ExpiryCandidate.consultationRequestId ∧
          c.status = .paymentPending) ConsultationRequest.backToReview =
      db.consultationRequests.updateMany (fun id c ↦
        id ∈ (stillExpirable db now batch).map (fun e ↦ e.2.consultationRequestId) ∧
          c.status = .paymentPending) ConsultationRequest.backToReview := by
    refine Table.updateMany_congr fun id r hr ↦ ?_
    by_cases hpending : r.status = .paymentPending
    · have hiff : id ∈ batch.map ExpiryCandidate.consultationRequestId ↔
          id ∈ (stillExpirable db now batch).map fun e ↦ e.2.consultationRequestId := by
        rw [mem_stillExpirable_consultations hmatch]
        constructor
        · intro hid
          obtain ⟨c, hc, rfl⟩ := List.mem_map.mp hid
          exact h.consultations c hc r hr hpending
        · rintro ⟨c, hc, rfl, -⟩
          exact List.mem_map_of_mem hc
      simp only [hiff]
    · simp [hpending]
  simp only [workerExpireBatch, expireBatch, releaseReservations, hattempts, happointments,
    hconsultations]

/-- If the two writes agree, the batch was up to date: at any other row they differ. -/
theorem upToDate_of_workerExpireBatch_eq (hmatch : BatchMatches db batch)
    (h : workerExpireBatch db batch = expireBatch db now batch) : UpToDate db now batch := by
  refine ⟨fun c hc a ha ↦ ?_, fun c hc p hp hreserved ↦ ?_, fun c hc r hr hpending ↦ ?_⟩
  · have hrow := congrArg (fun d ↦ d.paymentAttempts.lookup c.id) h
    have hmem : c.id ∈ batch.map ExpiryCandidate.id := List.mem_map_of_mem hc
    by_cases hexp : isExpirable now a
    · exact .inl hexp
    · simp only [workerExpireBatch, releaseReservations, Table.lookup_updateMany,
        expireBatch_lookup_attempt, ha, hmem, hexp, Option.map_some, decide_true, if_true,
        true_and, Bool.false_eq_true, if_false, Option.some.injEq] at hrow
      exact .inr ⟨by rw [← hrow]; rfl, by rw [← hrow]; rfl⟩
  · have hrow := congrArg (fun d ↦ d.appointments.lookup c.appointmentId) h
    have hmem : c.appointmentId ∈ batch.map ExpiryCandidate.appointmentId :=
      List.mem_map_of_mem hc
    rw [← mem_stillExpirable_appointments hmatch]
    by_contra hnot
    simp only [workerExpireBatch, releaseReservations, Table.lookup_updateMany,
      expireBatch_lookup_appointment, hp, hmem, hreserved, hnot, Option.map_some, and_self,
      decide_true, if_true, false_and, if_false, Option.some.injEq] at hrow
    rw [← hrow] at hreserved
    cases hreserved
  · have hrow := congrArg (fun d ↦ d.consultationRequests.lookup c.consultationRequestId) h
    have hmem : c.consultationRequestId ∈ batch.map ExpiryCandidate.consultationRequestId :=
      List.mem_map_of_mem hc
    rw [← mem_stillExpirable_consultations hmatch]
    by_contra hnot
    simp only [workerExpireBatch, releaseReservations, Table.lookup_updateMany,
      expireBatch_lookup_consultation, hr, hmem, hpending, hnot, Option.map_some, and_self,
      decide_true, if_true, false_and, if_false, Option.some.injEq] at hrow
    rw [← hrow] at hpending
    cases hpending

end

/-! ## Runs -/

/-- Every batch that is held names attempts of the database, with their columns. -/
def SelectionsMatch (s : ExpiryState) : Prop :=
  ∀ job selection, s.selections job = some selection → BatchMatches s.db selection.batch

/-- A batch keeps naming the same bookings while attempts only change their status. -/
theorem BatchMatches.of_sameBooking {db db' : Database} {batch : List ExpiryCandidate}
    (h : BatchMatches db batch)
    (hsame : Table.RowsRelated PaymentAttempt.SameBooking db.paymentAttempts db'.paymentAttempts) :
    BatchMatches db' batch := by
  intro c hc
  obtain ⟨a, ha, happ, hcons⟩ := h c hc
  obtain ⟨a', ha', hbooking⟩ := hsame.lookup ha
  exact ⟨a', ha', by rw [happ, hbooking.appointmentId_eq],
    by rw [hcons, hbooking.consultationRequestId_eq]⟩

/-- Either write changes the status and the failure code of attempts, nothing else about them. -/
theorem ExpirySelection.write_sameBooking (selection : ExpirySelection) (db : Database) :
    Table.RowsRelated PaymentAttempt.SameBooking db.paymentAttempts
      (selection.write db).paymentAttempts := by
  unfold ExpirySelection.write
  cases selection.path with
  | service => exact (expireBatch_paymentFrame db _ _).attempts
  | worker => exact .updateMany .refl fun _ a _ _ ↦ .expire a

theorem expiryStep_selectionsMatch (P : Platform) (s : ExpiryState) (i : ExpiryStep)
    (h : SelectionsMatch s) : SelectionsMatch (expiryStep P s i) := by
  cases i with
  | webhook w =>
    intro job selection hsel
    refine (h job selection hsel).of_sameBooking ?_
    exact commit_of (.refl .refl _) fun db' hok ↦ (applyWebhookPaymentState_frame hok).attempts
  | read job path now attemptId limit =>
    intro job' selection hsel
    by_cases hjob : job' = job
    · subst hjob
      simp only [expiryStep, Function.update_self, Option.some.injEq] at hsel
      subst hsel
      intro c hc
      obtain ⟨a, ha, -, happ, hcons⟩ := mem_expiryCandidates hc
      exact ⟨a, ha, happ, hcons⟩
    · refine h job' selection ?_
      simpa [expiryStep, hjob] using hsel
  | write job =>
    intro job' selection' hsel
    unfold expiryStep at hsel ⊢
    cases hheld : s.selections job with
    | none =>
      simp only [hheld] at hsel ⊢
      exact h job' selection' hsel
    | some selection =>
      simp only [hheld] at hsel ⊢
      by_cases hjob : job' = job
      · simp [hjob] at hsel
      · rw [Function.update_of_ne hjob] at hsel
        exact (h job' selection' hsel).of_sameBooking (selection.write_sameBooking s.db)

/-- One write is safe exactly if it is the service's or its batch is up to date. -/
theorem writeSafe_iff {s : ExpiryState} (hmatch : SelectionsMatch s) (i : ExpiryStep) :
    WriteSafe s i ↔ UpToDateWrite s i := by
  cases i with
  | webhook w => exact Iff.rfl
  | read job path now attemptId limit => exact Iff.rfl
  | write job =>
    simp only [WriteSafe, UpToDateWrite]
    refine forall_congr' fun selection ↦ forall_congr' fun hheld ↦ ?_
    have hbatch := hmatch job selection hheld
    cases hpath : selection.path with
    | service =>
      simp only [ExpirySelection.write, hpath, reduceCtorEq, false_implies, iff_true, and_true]
      exact expireBatch_keepsPaid s.db selection.now selection.batch
    | worker =>
      simp only [ExpirySelection.write, hpath, true_implies]
      constructor
      · rintro ⟨-, heq⟩
        exact upToDate_of_workerExpireBatch_eq hbatch heq
      · intro hup
        have heq := workerExpireBatch_eq_of_upToDate hbatch hup
        exact ⟨heq ▸ expireBatch_keepsPaid s.db selection.now selection.batch, heq⟩

/-- In every interleaving, the writes keep paid bookings and agree with the service's exactly if
every batch the worker writes is up to date at that moment. -/
theorem expiry_keepsPaid_iff (P : Platform) (db : Database) (l : List ExpiryStep) :
    AllSteps (expiryStep P) WriteSafe { db } l ↔ AllSteps (expiryStep P) UpToDateWrite { db } l :=
  allSteps_congr (expiryStep_selectionsMatch P) (fun _ i h ↦ writeSafe_iff h i) nofun

/-! ## The jobs are runs -/

/-- The service's job is a read followed by a write. -/
theorem expireOpenConsultationPaymentAttempts_eq_run (P : Platform) (s : ExpiryState) (job : ℕ)
    (now : Time) (attemptId : Option Uuid) (limit : Option ℕ) :
    (expireOpenConsultationPaymentAttempts s.db now attemptId limit).1 =
      (run (expiryStep P) s [.read job .service now attemptId (min (max (limit.getD 100) 1) 500),
        .write job]).db := by
  simp only [expireOpenConsultationPaymentAttempts, run_cons, run_nil, expiryStep,
    Function.update_self, ExpirySelection.write]
  split_ifs with hempty
  · rw [hempty, expireBatch_nil]
  · rfl

/-- The reads and writes of `n` rounds of the worker. -/
def workerRounds (job : ℕ) (now : Time) (batchSize : ℕ) : ℕ → List ExpiryStep
  | 0 => []
  | n + 1 => .read job .worker now none batchSize :: .write job :: workerRounds job now batchSize n

/-- The worker's job is a run of some rounds, as many as it has batches for. -/
theorem expireOpenPaymentAttempts_eq_run (P : Platform) (job : ℕ) (now : Time) (batchSize : ℕ)
    (maxBatches : ℕ) (s : ExpiryState) :
    ∃ n ≤ maxBatches, (expireOpenPaymentAttempts now batchSize maxBatches s.db).1 =
      (run (expiryStep P) s (workerRounds job now batchSize n)).db := by
  induction maxBatches generalizing s with
  | zero => exact ⟨0, le_rfl, rfl⟩
  | succ maxBatches ih =>
    have hround : ∀ n, run (expiryStep P) s (workerRounds job now batchSize (n + 1)) =
        run (expiryStep P) (expiryStep P (expiryStep P s (.read job .worker now none batchSize))
          (.write job)) (workerRounds job now batchSize n) := fun n ↦ rfl
    have hwrite : (expiryStep P (expiryStep P s (.read job .worker now none batchSize))
        (.write job)).db =
          workerExpireBatch s.db (expiryCandidates s.db now none batchSize) := by
      simp only [expiryStep, Function.update_self, ExpirySelection.write]
    rw [expireOpenPaymentAttempts]
    split_ifs with hempty hlast
    · exact ⟨0, Nat.zero_le _, rfl⟩
    · exact ⟨1, by omega, by rw [hround]; exact hwrite.symm⟩
    · obtain ⟨n, hn, hrun⟩ := ih (expiryStep P (expiryStep P s
        (.read job .worker now none batchSize)) (.write job))
      rw [hwrite] at hrun
      exact ⟨n + 1, by omega, by rw [hround, ← hrun]⟩

/-! ## The race -/

/-- The worker selects an overdue attempt, the payment commits, the worker writes. -/
def raceRun : List ExpiryStep :=
  [.read 0 .worker 1001 none 100, .webhook (heldSignal .paid "750.00" 999), .write 0]

/-- The worker overwrites a collected payment. -/
theorem worker_overwrites_paid :
    ¬∀ (P : Platform) (db : Database) (l : List ExpiryStep),
      AllSteps (expiryStep P) WriteSafe { db } l := by
  intro h
  obtain ⟨-, -, hwrite, -⟩ := h plainPlatform heldBooking raceRun
  obtain ⟨hkeeps, -⟩ := hwrite ⟨.worker, 1001, [⟨heldAttempt, "p", "r"⟩]⟩ rfl
  obtain ⟨hsame, -⟩ := hkeeps heldAttempt
    { provider := "paytabs", status := .paid, clientId := "c", consultationRequestId := "r"
      appointmentId := "p", amount := 750, currency := .egp, startsAt := 90000, endsAt := 93600
      expiresAt := 1000, idempotencyKey := "k", providerPaymentId := some "TST2606500001" }
    (by decide +kernel) rfl
  exact absurd hsame (by decide +kernel)

end KmtLegal
