import KmtLegal.Admin.ConsultationReview

/-!
# Recording and reopening outcomes

The two staff services of `consultation-outcome-service.ts`, and the worker of
`consultation-outcome-maintenance.mjs` that settles what nobody recorded: a consultation whose
primary appointment is over, or whose appointment or workflow ended without an outcome.
-/

namespace KmtLegal

open Relational Js Scheduling

/-- `assertOutcomeManagementPermission(actor)`. -/
def assertOutcomeManagementPermission (actor : Principal) : Except Failure Unit :=
  throwIf (¬canManageConsultationOutcome actor) (.permissionDenied
    "Consultation outcome management requires consultation review and appointment management permissions.")

/-! ## Recording -/

/-- A call of `setConsultationOutcome`. -/
structure SetConsultationOutcome where
  actor : Principal
  consultationId : String
  status : FinalConsultationOutcome
  expectedOutcomeVersion : ℕ
  reasonCode : String
  note : Option String := none
  now : Time

/-- `isConvertedLegacyWithoutPrimary`: converted before there were primary appointments. -/
def isConvertedLegacy (db : Database) (consultationId : Uuid) (c : ConsultationRequest) : Bool :=
  c.status = .converted ∧ (db.convertedCase consultationId).isSome ∧
    ((c.outcomeStatus = .awaitingResult ∧
      c.outcomeReasonCode = some "BACKFILL_CONVERTED_WITHOUT_PRIMARY") ∨ c.outcomeStatus.isFinal)

/-- An outcome can be recorded when the primary appointment is over; `currentIsFinal` tells a
correction. -/
def assertOutcomeReady (db : Database) (call : SetConsultationOutcome) (consultationId : Uuid)
    (c : ConsultationRequest) : Except Failure Unit := do
  match getPrimaryConsultationAppointment db consultationId with
  | some (_, p) => throwIf (call.now < p.endsAt) consultationOutcomeNotReadyError
  | none => throwIf (¬isConvertedLegacy db consultationId c) consultationOutcomeNotReadyError
  throwIf (c.outcomeStatus ≠ .awaitingResult ∧ ¬c.outcomeStatus.isFinal)
    consultationOutcomeNotReadyError
  throwIf (c.outcomeStatus = call.status.status)
    (.of 400 .validationError "Choose a different final consultation outcome.")
  if c.outcomeStatus.isFinal then
    throwIf (call.reasonCode ∉ correctionOutcomeReasonCodes)
      (.of 400 .validationError "A categorized correction reason is required.")
  else
    throwIf (call.reasonCode ∉ initialOutcomeReasonCodes)
      (.of 400 .validationError "A categorized consultation outcome reason is required.")

/-- What `setConsultationOutcome` writes into the consultation. -/
def SetConsultationOutcome.write (call : SetConsultationOutcome) (c : ConsultationRequest) :
    ConsultationRequest :=
  { c with
    outcomeStatus := call.status.status
    outcomeAt := some call.now
    outcomeById := some call.actor.id
    outcomeReasonCode := some call.reasonCode
    outcomeNote := orNull call.note
    outcomeVersion := c.outcomeVersion + 1 }

/-- `setConsultationOutcome({ actor, consultationId, body })`. -/
def setConsultationOutcome (P : Platform) (db : Database) (call : SetConsultationOutcome) :
    Except Failure Database := do
  assertOutcomeManagementPermission call.actor
  let consultationId ← P.parseUuid call.consultationId "Consultation id is invalid."
  let c ← findConsultation db consultationId
  throwIf (c.outcomeVersion ≠ call.expectedOutcomeVersion) consultationStateChangedError
  throwIf (c.outcomeStatus = .missed) consultationReopenRequiredError
  assertOutcomeReady db call consultationId c
  let primary := getPrimaryConsultationAppointment db consultationId
  let db ← db.updateConsultationIf consultationId
    (fun c' ↦ c'.outcomeStatus = c.outcomeStatus ∧ c'.outcomeVersion = call.expectedOutcomeVersion)
    call.write
  let status ← orThrow call.status.status.appointmentStatus consultationOutcomeNotReadyError
  return db.updatePrimary primary fun p ↦ { p with status }

/-! ## Reopening -/

/-- A call of `reopenMissedConsultation`. -/
structure ReopenMissedConsultation where
  actor : Principal
  consultationId : String
  assignedLawyerId : Uuid
  startsAt : Time
  durationMinutes : DurationMinutes 240
  mode : ConsultationMode
  location : Option String := none
  reasonCode : {code : String // code ∈ reopenOutcomeReasonCodes}
  note : Option String := none
  expectedOutcomeVersion : ℕ
  now : Time

def ReopenMissedConsultation.endsAt (call : ReopenMissedConsultation) : Time :=
  appointmentEndAt call.startsAt call.durationMinutes

/-- What `reopenMissedConsultation` writes into the consultation. -/
def ReopenMissedConsultation.write (call : ReopenMissedConsultation) (c : ConsultationRequest) :
    ConsultationRequest :=
  { c.markReviewed call.now call.actor with
    assignedLawyerId := some call.assignedLawyerId
    outcomeStatus := .pending
    outcomeAt := some call.now
    outcomeById := some call.actor.id
    outcomeReasonCode := some call.reasonCode
    outcomeNote := orNull call.note
    outcomeVersion := c.outcomeVersion + 1 }

/-- What `reopenMissedConsultation` writes into the primary appointment. -/
def ReopenMissedConsultation.move (call : ReopenMissedConsultation) (p : Appointment) :
    Appointment :=
  { p with
    lawyerId := some call.assignedLawyerId
    startsAt := call.startsAt
    endsAt := call.endsAt
    mode := call.mode.appointmentMode
    location := orNull call.location
    status := .rescheduled }

/-- `reopenMissedConsultation({ actor, consultationId, body })`. -/
def reopenMissedConsultation (P : Platform) (db : Database) (call : ReopenMissedConsultation) :
    Except Failure Database := do
  assertOutcomeManagementPermission call.actor
  let consultationId ← P.parseUuid call.consultationId "Consultation id is invalid."
  throwIf (call.startsAt ≤ call.now)
    (.of 400 .validationError "The reopened consultation must start in the future.")
  let c ← findConsultation db consultationId
  throwIf (c.outcomeVersion ≠ call.expectedOutcomeVersion) consultationStateChangedError
  throwIf (c.outcomeStatus ≠ .missed) consultationReopenRequiredError
  throwIf (c.status ∈ [.rejected, .converted]) consultationStateChangedError
  let (primaryId, primary) ← orThrow (getPrimaryConsultationAppointment db consultationId)
    consultationOutcomeNotReadyError
  let conflictClientId := c.clientId.getD primary.clientId
  assertAssignableLawyer db call.assignedLawyerId
  assertNoAppointmentConflict db
    { startsAt := call.startsAt, endsAt := call.endsAt, scope := .lawyer call.assignedLawyerId
      excludeAppointmentId := some primaryId }
  assertNoAppointmentConflict db
    { startsAt := call.startsAt, endsAt := call.endsAt, scope := .client conflictClientId
      excludeAppointmentId := some primaryId }
  let db ← db.updateConsultationIf consultationId
    (fun c' ↦ c'.outcomeStatus = .missed ∧ c'.outcomeVersion = call.expectedOutcomeVersion)
    call.write
  let db := db.updateAppointment primaryId call.move
  db.updateClient conflictClientId fun client ↦
    { client with assignedLawyerId := some call.assignedLawyerId, updatedAt := call.now }

/-! ## Maintenance -/

/-- Who runs the maintenance: the worker, or a reconciliation of old rows. -/
inductive MaintenanceSource where
  | worker | reconciliation
  deriving DecidableEq

/-- What is to become of a consultation without an outcome. -/
structure HistoricalDecision where
  status : ConsultationOutcomeStatus
  reasonCode : String
  appointmentStatus : Option AppointmentStatus := none
  deriving DecidableEq

inductive HistoricalOutcome where
  | unchanged
  | skipped (reason : String)
  | decided (decision : HistoricalDecision)
  deriving DecidableEq

/-- `TERMINAL_APPOINTMENT_OUTCOMES`. -/
def terminalOutcome : AppointmentStatus → Option HistoricalDecision
  | .completed =>
    some { status := .successful, reasonCode := "BACKFILL_APPOINTMENT_COMPLETED" }
  | .noShow => some { status := .noShow, reasonCode := "BACKFILL_APPOINTMENT_NO_SHOW" }
  | .cancelled => some { status := .cancelled, reasonCode := "BACKFILL_APPOINTMENT_CANCELLED" }
  | .reserved | .scheduled | .rescheduled => none

/-- The outcome of a consultation whose appointment is over. -/
def endedOutcome (source : MaintenanceSource) (reviewedOrAssigned : Bool) : HistoricalDecision :=
  match source, reviewedOrAssigned with
  | .worker, true =>
    { status := .awaitingResult, reasonCode := "AUTO_ENDED_ASSIGNED_OR_REVIEWED" }
  | .worker, false => { status := .missed, reasonCode := "AUTO_ENDED_UNASSIGNED_UNREVIEWED" }
  | .reconciliation, true =>
    { status := .awaitingResult, reasonCode := "BACKFILL_ENDED_ASSIGNED_OR_REVIEWED" }
  | .reconciliation, false =>
    { status := .missed, reasonCode := "BACKFILL_ENDED_UNASSIGNED_UNREVIEWED" }

/-- `determineHistoricalOutcome(row, now, source)`. -/
def determineHistoricalOutcome (c : ConsultationRequest) (primary : Option Appointment) (now : Time)
    (source : MaintenanceSource) : HistoricalOutcome :=
  if c.outcomeStatus ≠ .pending then .unchanged
  else if c.status = .rejected then
    .decided
      { status := .cancelled
        reasonCode := "BACKFILL_CONSULTATION_REJECTED"
        appointmentStatus := if primary.isSome then some .cancelled else none }
  else
    match primary with
    | none =>
      if c.status = .converted then
        .decided { status := .awaitingResult, reasonCode := "BACKFILL_CONVERTED_WITHOUT_PRIMARY" }
      else .skipped "MISSING_PRIMARY_APPOINTMENT"
    | some p =>
      match terminalOutcome p.status with
      | some decision => .decided decision
      | none =>
        if now < p.endsAt then .unchanged
        else .decided
          (endedOutcome source (c.assignedLawyerId.isSome ∨ c.secretaryReviewedAt.isSome))

/-- What the maintenance writes into the consultation. -/
def HistoricalDecision.write (decision : HistoricalDecision) (now : Time)
    (c : ConsultationRequest) : ConsultationRequest :=
  { c with
    outcomeStatus := decision.status
    outcomeAt := some now
    outcomeById := none
    outcomeReasonCode := some decision.reasonCode
    outcomeNote := none
    outcomeVersion := c.outcomeVersion + 1 }

/-- What became of one row. -/
inductive Reconciliation where
  | nothing
  | lostRace
  | transitioned (status : ConsultationOutcomeStatus)
  deriving DecidableEq

/-- The appointment of a decided consultation, which follows if the decision says so. -/
def followPrimary (db : Database) (primary : Option (Uuid × Appointment))
    (decision : HistoricalDecision) : Database :=
  match decision.appointmentStatus with
  | none => db
  | some status =>
    if primary.any fun e ↦ e.2.status ≠ status then
      db.updatePrimary primary fun p ↦ { p with status }
    else db

/-- `reconcileOneConsultation({ row, now, source })`. -/
def reconcileOneConsultation (db : Database) (consultationId : Uuid) (now : Time)
    (source : MaintenanceSource) : Database × Reconciliation :=
  match db.consultationRequests.lookup consultationId with
  | none => (db, .nothing)
  | some c =>
    let primary := getPrimaryConsultationAppointment db consultationId
    match determineHistoricalOutcome c (primary.map Prod.snd) now source with
    | .unchanged => (db, .nothing)
    | .skipped _ => (db, .nothing)
    | .decided decision =>
      match db.updateConsultationIf consultationId (fun c' ↦ c'.outcomeStatus = .pending ∧
          c'.outcomeVersion = c.outcomeVersion ∧ c'.assignedLawyerId = c.assignedLawyerId ∧
          c'.secretaryReviewedAt = c.secretaryReviewedAt) (decision.write now) with
      | .error _ => (db, .lostRace)
      | .ok db => (followPrimary db primary decision, .transitioned decision.status)

/-! ## What a call that succeeded did -/

section

variable {P : Platform} {db db' : Database}

/-- An outcome is recorded where one was awaited or recorded before, and the primary appointment
gets the status that stands for it. -/
theorem setConsultationOutcome_ok {call : SetConsultationOutcome}
    (h : setConsultationOutcome P db call = .ok db') :
    ∃ c status, db.consultationRequests.lookup call.consultationId = some c ∧
      c.outcomeStatus ≠ .missed ∧ call.status.status.appointmentStatus = some status ∧
      db' = { db with
        appointments := db.appointments.updateFound
          (getPrimaryConsultationAppointment db call.consultationId) fun p ↦ { p with status }
        consultationRequests := db.consultationRequests.update call.consultationId call.write } := by
  simp only [setConsultationOutcome, findConsultation, bind_eq_ok, throwIf_eq_ok, orThrow_eq_ok,
    Platform.parseUuid_eq_ok, Database.updateConsultationIf_eq_ok, pure_eq_ok] at h
  obtain ⟨_, -, _, ⟨-, rfl⟩, c, hc, _, -, _, hmissed, _, -, _, ⟨-, rfl⟩, status, hstatus, rfl⟩ := h
  exact ⟨c, status, hc, hmissed, hstatus, rfl⟩

/-- A reopened consultation was missed, and its primary appointment moves to a time that fits its
new lawyer. -/
theorem reopenMissedConsultation_ok {call : ReopenMissedConsultation}
    (h : reopenMissedConsultation P db call = .ok db') :
    ∃ c id p, db.consultationRequests.lookup call.consultationId = some c ∧
      c.outcomeStatus = .missed ∧
      getPrimaryConsultationAppointment db call.consultationId = some (id, p) ∧
      (lawyerCalendar db).Fits id ⟨some call.assignedLawyerId, call.startsAt, call.endsAt⟩ ∧
      db' = { db with
        clients := db'.clients
        appointments := db.appointments.update id call.move
        consultationRequests := db.consultationRequests.update call.consultationId call.write } := by
  simp only [reopenMissedConsultation, findConsultation, bind_eq_ok, throwIf_eq_ok, orThrow_eq_ok,
    Platform.parseUuid_eq_ok, Database.updateConsultationIf_eq_ok, Database.updateClient_eq_ok,
    Prod.exists, Decidable.not_not] at h
  obtain ⟨_, -, _, ⟨-, rfl⟩, _, -, c, hc, _, -, _, hmissed, _, -, id, p, hprimary, _, -, _, hlawyer,
    _, -, _, ⟨-, rfl⟩, -, rfl⟩ := h
  exact ⟨c, id, p, hc, hmissed, hprimary,
    fits_of_assertNoAppointmentConflict hlawyer (fun i hi ↦ (Option.some.inj hi).symm), rfl⟩

/-- The outcome of an appointment that is closed is the one its status stands for. -/
theorem terminalOutcome_eq_some {s : AppointmentStatus} {decision : HistoricalDecision}
    (h : terminalOutcome s = some decision) :
    decision.appointmentStatus = none ∧ decision.status.appointmentStatus = some s := by
  cases s <;> cases h <;> exact ⟨rfl, rfl⟩

/-- The outcome of an appointment that is over is not final. -/
theorem endedOutcome_open (source : MaintenanceSource) (reviewedOrAssigned : Bool) :
    (endedOutcome source reviewedOrAssigned).appointmentStatus = none ∧
      ¬(endedOutcome source reviewedOrAssigned).status.isFinal := by
  cases source <;> cases reviewedOrAssigned <;> decide

/-- A decision is only made about a pending consultation, and an outcome that is final matches the
appointment, or the decision sets its status. -/
theorem determineHistoricalOutcome_decided {c : ConsultationRequest} {primary : Option Appointment}
    {now : Time} {source : MaintenanceSource} {decision : HistoricalDecision}
    (h : determineHistoricalOutcome c primary now source = .decided decision) :
    c.outcomeStatus = .pending ∧
      (decision.appointmentStatus = none ∨
        decision.appointmentStatus = decision.status.appointmentStatus) ∧
      ∀ p ∈ primary, decision.status.isFinal →
        decision.appointmentStatus.getD p.status ∈ decision.status.appointmentStatus := by
  unfold determineHistoricalOutcome at h
  by_cases hpending : c.outcomeStatus = .pending
  swap
  · rw [if_pos hpending] at h
    cases h
  refine ⟨hpending, ?_⟩
  rw [if_neg (not_not_intro hpending)] at h
  by_cases hrejected : c.status = .rejected
  · rw [if_pos hrejected] at h
    obtain rfl := HistoricalOutcome.decided.inj h
    cases primary with
    | none => exact ⟨.inl rfl, fun p hp ↦ absurd hp (Option.not_mem_none p)⟩
    | some p => exact ⟨.inr rfl, fun _ _ _ ↦ rfl⟩
  rw [if_neg hrejected] at h
  cases primary with
  | none =>
    refine ⟨.inl ?_, fun p hp ↦ absurd hp (Option.not_mem_none p)⟩
    by_cases hconverted : c.status = .converted
    · rw [if_pos hconverted] at h
      obtain rfl := HistoricalOutcome.decided.inj h
      rfl
    · rw [if_neg hconverted] at h
      cases h
  | some p =>
    cases hterminal : terminalOutcome p.status with
    | some terminal =>
      simp only [hterminal, HistoricalOutcome.decided.injEq] at h
      subst h
      obtain ⟨hstatus, houtcome⟩ := terminalOutcome_eq_some hterminal
      refine ⟨.inl hstatus, fun p' hp' _ ↦ ?_⟩
      obtain rfl := Option.some.inj hp'
      rw [hstatus, houtcome]
      rfl
    | none =>
      simp only [hterminal] at h
      split_ifs at h
      obtain rfl := HistoricalOutcome.decided.inj h
      exact ⟨.inl (endedOutcome_open _ _).1,
        fun _ _ hfinal ↦ absurd hfinal (endedOutcome_open _ _).2⟩

/-- The appointment that follows a decision has the status of the decision, if it names one. -/
theorem followPrimary_eq {primary : Option (Uuid × Appointment)} {decision : HistoricalDecision}
    (h : ∀ e ∈ primary, db.appointments.lookup e.1 = some e.2) :
    followPrimary db primary decision =
      db.updatePrimary primary fun p ↦
        { p with status := decision.appointmentStatus.getD p.status } := by
  have hself : ∀ {f : Appointment → Appointment},
      (∀ e ∈ primary, f e.2 = e.2) → db = db.updatePrimary primary f := by
    intro f hf
    cases primary with
    | none => rfl
    | some e =>
      have hsame : db.appointments.update e.1 f = db.appointments := by
        refine Table.updateMany_eq_self fun i p hp hi ↦ ?_
        obtain rfl := of_decide_eq_true hi
        obtain rfl : e.2 = p := Option.some.inj ((h e rfl).symm.trans hp)
        exact hf e rfl
      rw [Database.updatePrimary, Table.updateFound_some, hsame]
  unfold followPrimary
  cases hstatus : decision.appointmentStatus with
  | none => exact hself fun _ _ ↦ rfl
  | some status =>
    simp only
    split_ifs with hdiffers
    · rfl
    · refine hself fun e he ↦ ?_
      have hsame : e.2.status = status := by
        by_contra hne
        exact hdiffers ((Option.any_eq_true ..).mpr ⟨e, he, decide_eq_true hne⟩)
      rw [Option.getD_some, ← hsame]

/-- The maintenance leaves a consultation alone, or decides it. -/
theorem reconcileOneConsultation_cases (db : Database) (consultationId : Uuid) (now : Time)
    (source : MaintenanceSource) :
    (reconcileOneConsultation db consultationId now source).1 = db ∨
      ∃ c decision, db.consultationRequests.lookup consultationId = some c ∧
        determineHistoricalOutcome c
          ((getPrimaryConsultationAppointment db consultationId).map Prod.snd) now source =
            .decided decision ∧
        (reconcileOneConsultation db consultationId now source).1 =
          followPrimary (db.updateConsultation consultationId (decision.write now))
            (getPrimaryConsultationAppointment db consultationId) decision := by
  unfold reconcileOneConsultation
  cases hc : db.consultationRequests.lookup consultationId with
  | none => exact .inl rfl
  | some c =>
    simp only
    cases hdecision : determineHistoricalOutcome c
      ((getPrimaryConsultationAppointment db consultationId).map Prod.snd) now source with
    | unchanged => exact .inl rfl
    | skipped => exact .inl rfl
    | decided decision =>
      simp only
      cases hupdate : db.updateConsultationIf consultationId _ (decision.write now) with
      | error e => exact .inl rfl
      | ok db' =>
        obtain ⟨-, rfl⟩ := Database.updateConsultationIf_eq_ok.mp hupdate
        exact .inr ⟨c, decision, rfl, hdecision, rfl⟩

end

end KmtLegal
