import KmtLegal.Admin.ConsultationOutcome

/-!
# The lists of consultations

`consultationOutcomeViewWhere` selects the rows of each list the staff work from, and
`consultationOperationalTiming` marks a row as overdue; the maintenance worker has a query of its
own for the pending consultations it decides.  A pending consultation that is on neither of the two
lists for pending ones is one the worker picks up.
-/

namespace KmtLegal

open Relational

/-- `CONSULTATION_OUTCOME_VIEWS`. -/
inductive ConsultationOutcomeView where
  | current | overdueUnbooked | awaitingResult | missed | successful | noShow | cancelled | all
  deriving DecidableEq

/-- `CONSULTATION_OVERDUE_UNBOOKED_MS`. -/
def consultationOverdueUnbookedMs : ℤ := 72 * 60 * 60 * 1000

/-- `appointments: { some: { ...PRIMARY_CONSULTATION_APPOINTMENT_WHERE, ...p } }`. -/
def somePrimary (db : Database) (consultationId : Uuid) (p : Appointment → Bool) : Bool :=
  db.appointments.any fun _ a ↦ a.isPrimaryOf consultationId && p a

/-- `consultationOutcomeViewWhere(view, asOf)`. -/
def consultationOutcomeViewWhere (view : ConsultationOutcomeView) (asOf : Time) (db : Database)
    (consultationId : Uuid) (c : ConsultationRequest) : Bool :=
  match view with
  | .current =>
    c.outcomeStatus = .pending ∧
      ((somePrimary db consultationId (fun a ↦ asOf < a.endsAt) ∧
        ¬somePrimary db consultationId fun a ↦ a.endsAt ≤ asOf) ∨
      (¬somePrimary db consultationId (fun _ ↦ true) ∧ c.status.isActiveUnbooked ∧
        asOf - consultationOverdueUnbookedMs < c.createdAt))
  | .overdueUnbooked =>
    c.outcomeStatus = .pending ∧ c.status.isActiveUnbooked ∧
      c.createdAt ≤ asOf - consultationOverdueUnbookedMs ∧
      ¬somePrimary db consultationId fun _ ↦ true
  | .awaitingResult => c.outcomeStatus = .awaitingResult
  | .missed => c.outcomeStatus = .missed
  | .successful => c.outcomeStatus = .successful
  | .noShow => c.outcomeStatus = .noShow
  | .cancelled => c.outcomeStatus = .cancelled
  | .all => true

/-- What `consultationOperationalTiming` reports. -/
structure OperationalTiming where
  isOverdueUnbooked : Bool
  overdueAt : Option Time
  deriving DecidableEq

/-- `consultationOperationalTiming(input, asOf)`. -/
def consultationOperationalTiming (createdAt : Time) (status : ConsultationStatus)
    (outcomeStatus : ConsultationOutcomeStatus) (hasPrimaryAppointment : Bool) (asOf : Time) :
    OperationalTiming :=
  if hasPrimaryAppointment ∨ outcomeStatus ≠ .pending ∨ ¬status.isActiveUnbooked then
    { isOverdueUnbooked := false, overdueAt := none }
  else
    let overdueAt := createdAt + consultationOverdueUnbookedMs
    { isOverdueUnbooked := overdueAt ≤ asOf, overdueAt := some overdueAt }

/-- The query of `reconcileConsultationOutcomes`, once the rows of `scannedIds` are done. -/
def reconcileConsultationsWhere (scannedIds : List Uuid) (now : Time) (db : Database)
    (consultationId : Uuid) (c : ConsultationRequest) : Bool :=
  c.outcomeStatus = .pending ∧ consultationId ∉ scannedIds ∧
    (c.status = .rejected ∨
      (c.status = .converted ∧ ¬somePrimary db consultationId fun _ ↦ true) ∨
      somePrimary db consultationId (fun a ↦ a.status ∈ [.completed, .noShow, .cancelled]) ∨
      somePrimary db consultationId fun a ↦ a.endsAt ≤ now)

/-! ## The primary appointment -/

/-- No two appointments are primary for the consultation. -/
def OnePrimary (db : Database) (consultationId : Uuid) : Prop :=
  ∀ k a k' a', db.appointments.lookup k = some a → db.appointments.lookup k' = some a' →
    a.isPrimaryOf consultationId → a'.isPrimaryOf consultationId → k = k'

section

variable {db : Database} {consultationId : Uuid}

theorem somePrimary_iff {p : Appointment → Bool} :
    somePrimary db consultationId p ↔
      ∃ k a, db.appointments.lookup k = some a ∧ a.isPrimaryOf consultationId ∧ p a := by
  simp only [somePrimary, Table.any_iff, Bool.and_eq_true]

theorem getPrimary_isSome :
    (getPrimaryConsultationAppointment db consultationId).isSome =
      somePrimary db consultationId fun _ ↦ true := by
  rw [Bool.eq_iff_iff, somePrimary_iff]
  cases hget : getPrimaryConsultationAppointment db consultationId with
  | none =>
    refine ⟨fun h ↦ absurd h Bool.false_ne_true, ?_⟩
    rintro ⟨k, a, ha, hprimary, -⟩
    exact absurd hprimary (getPrimary_eq_none.mp hget k a ha)
  | some e =>
    obtain ⟨ha, hprimary⟩ := getPrimary_eq_some hget
    exact ⟨fun _ ↦ ⟨e.1, e.2, ha, hprimary, rfl⟩, fun _ ↦ rfl⟩

/-- What some primary appointment satisfies, the only one does. -/
theorem somePrimary_of_one (hone : OnePrimary db consultationId) {p : Appointment → Bool}
    {e : Uuid × Appointment} (he : getPrimaryConsultationAppointment db consultationId = some e) :
    somePrimary db consultationId p = p e.2 := by
  obtain ⟨hstored, hprimary⟩ := getPrimary_eq_some he
  rw [Bool.eq_iff_iff, somePrimary_iff]
  constructor
  · rintro ⟨k, a, ha, hprimary', hp⟩
    obtain rfl := hone _ _ _ _ hstored ha hprimary hprimary'
    rw [hstored] at ha
    cases ha
    exact hp
  · intro hp
    exact ⟨e.1, e.2, hstored, hprimary, hp⟩

end

/-! ## The lists -/

/-- The outcome of the rows of a list; `all` has rows of any. -/
def ConsultationOutcomeView.outcome : ConsultationOutcomeView → Option ConsultationOutcomeStatus
  | current | overdueUnbooked => some .pending
  | awaitingResult => some .awaitingResult
  | missed => some .missed
  | successful => some .successful
  | noShow => some .noShow
  | cancelled => some .cancelled
  | all => none

section

variable {db : Database} {consultationId : Uuid} {c : ConsultationRequest} {asOf : Time}

theorem view_outcome {view : ConsultationOutcomeView} {outcome : ConsultationOutcomeStatus}
    (hview : view.outcome = some outcome)
    (h : consultationOutcomeViewWhere view asOf db consultationId c) : c.outcomeStatus = outcome := by
  cases view <;> cases hview <;>
    simp only [consultationOutcomeViewWhere, decide_eq_true_eq] at h <;>
    first | exact h | exact h.1

/-- A row without an outcome is on one list of pending consultations at most. -/
theorem not_current_of_overdueUnbooked
    (h : consultationOutcomeViewWhere .overdueUnbooked asOf db consultationId c) :
    ¬consultationOutcomeViewWhere .current asOf db consultationId c := by
  simp only [consultationOutcomeViewWhere, decide_eq_true_eq] at h ⊢
  obtain ⟨-, -, hcreated, hnone⟩ := h
  rintro ⟨-, ⟨hfuture, -⟩ | ⟨-, -, hrecent⟩⟩
  · obtain ⟨k, a, ha, hprimary, -⟩ := somePrimary_iff.mp hfuture
    exact hnone (somePrimary_iff.mpr ⟨k, a, ha, hprimary, rfl⟩)
  · exact absurd hcreated (not_le.mpr hrecent)

theorem view_unique {view view' : ConsultationOutcomeView} (hall : view ≠ .all) (hall' : view' ≠ .all)
    (h : consultationOutcomeViewWhere view asOf db consultationId c)
    (h' : consultationOutcomeViewWhere view' asOf db consultationId c) : view = view' := by
  have houtcome : view.outcome = view'.outcome := by
    obtain ⟨outcome, hview⟩ : ∃ outcome, view.outcome = some outcome := by
      cases view <;> first | exact absurd rfl hall | exact ⟨_, rfl⟩
    obtain ⟨outcome', hview'⟩ : ∃ outcome, view'.outcome = some outcome := by
      cases view' <;> first | exact absurd rfl hall' | exact ⟨_, rfl⟩
    rw [hview, hview', ← view_outcome hview h, ← view_outcome hview' h']
  cases view <;> cases view' <;> first
    | rfl
    | exact absurd h' (not_current_of_overdueUnbooked h)
    | exact absurd h (not_current_of_overdueUnbooked h')
    | cases houtcome

/-- The list and the mark of a row agree. -/
theorem overdueUnbooked_iff_timing :
    consultationOutcomeViewWhere .overdueUnbooked asOf db consultationId c ↔
      (consultationOperationalTiming c.createdAt c.status c.outcomeStatus
        (getPrimaryConsultationAppointment db consultationId).isSome asOf).isOverdueUnbooked := by
  rw [getPrimary_isSome]
  unfold consultationOperationalTiming
  simp only [consultationOutcomeViewWhere, decide_eq_true_eq]
  split_ifs with hno
  · refine ⟨?_, fun h ↦ by cases h⟩
    rintro ⟨hpending, hactive, -, hnone⟩
    obtain hsome | hdecided | hinactive := hno
    · exact absurd hsome hnone
    · exact absurd hpending hdecided
    · exact absurd hactive hinactive
  · simp only [not_or, not_not] at hno
    obtain ⟨hnone, hpending, hactive⟩ := hno
    simp only [decide_eq_true_eq]
    constructor
    · rintro ⟨-, -, hcreated, -⟩
      exact le_sub_iff_add_le.mp hcreated
    · intro hcreated
      exact ⟨hpending, hactive, le_sub_iff_add_le.mpr hcreated, hnone⟩

theorem ConsultationStatus.closed_of_not_active {s : ConsultationStatus}
    (h : ¬s.isActiveUnbooked) : s = .rejected ∨ s = .converted := by
  cases s <;> first | exact .inl rfl | exact .inr rfl | exact absurd (by decide) h

/-- A pending row on neither list has a decision coming: it is rejected, or converted without an
appointment, or its appointment is over. -/
theorem pending_off_lists (hone : OnePrimary db consultationId) (hpending : c.outcomeStatus = .pending)
    (hcurrent : ¬consultationOutcomeViewWhere .current asOf db consultationId c)
    (hoverdue : ¬consultationOutcomeViewWhere .overdueUnbooked asOf db consultationId c) :
    c.status = .rejected ∨
      (c.status = .converted ∧ getPrimaryConsultationAppointment db consultationId = none) ∨
      ∃ e, getPrimaryConsultationAppointment db consultationId = some e ∧ e.2.endsAt ≤ asOf := by
  simp only [consultationOutcomeViewWhere, decide_eq_true_eq, not_and, not_or, not_not] at hcurrent hoverdue
  obtain ⟨hbooked, hrecent⟩ := hcurrent hpending
  have hsome := @getPrimary_isSome db consultationId
  cases hget : getPrimaryConsultationAppointment db consultationId with
  | none =>
    rw [hget, Option.isSome_none] at hsome
    have hnone : ¬somePrimary db consultationId fun _ ↦ true := by rw [← hsome]; exact Bool.false_ne_true
    have hinactive : ¬c.status.isActiveUnbooked := by
      intro hactive
      have hlate := hrecent hnone hactive
      exact hnone (hoverdue hpending hactive (not_lt.mp hlate))
    obtain hrejected | hconverted := ConsultationStatus.closed_of_not_active hinactive
    · exact .inl hrejected
    · exact .inr (.inl ⟨hconverted, rfl⟩)
  | some e =>
    rw [somePrimary_of_one hone hget, somePrimary_of_one hone hget] at hbooked
    simp only [decide_eq_true_eq] at hbooked
    refine .inr (.inr ⟨e, rfl, ?_⟩)
    by_contra hfuture
    exact hfuture (hbooked (not_le.mp hfuture))

end

/-- A decision of the worker is an outcome. -/
theorem endedOutcome_ne_pending (source : MaintenanceSource) (reviewedOrAssigned : Bool) :
    (endedOutcome source reviewedOrAssigned).status ≠ .pending := by
  cases source <;> cases reviewedOrAssigned <;> exact nofun

theorem terminalOutcome_ne_pending {s : AppointmentStatus} {decision : HistoricalDecision}
    (h : terminalOutcome s = some decision) : decision.status ≠ .pending := by
  cases s <;> cases h <;> exact nofun

/-- What the worker decides about a pending consultation in one of the three situations. -/
theorem determineHistoricalOutcome_closes {c : ConsultationRequest} {primary : Option Appointment}
    {now : Time} (source : MaintenanceSource) (hpending : c.outcomeStatus = .pending)
    (h : c.status = .rejected ∨ (c.status = .converted ∧ primary = none) ∨
      ∃ a, primary = some a ∧ a.endsAt ≤ now) :
    ∃ decision, determineHistoricalOutcome c primary now source = .decided decision ∧
      decision.status ≠ .pending := by
  unfold determineHistoricalOutcome
  rw [if_neg (not_not_intro hpending)]
  by_cases hrejected : c.status = .rejected
  · rw [if_pos hrejected]
    exact ⟨_, rfl, nofun⟩
  rw [if_neg hrejected]
  obtain hr | ⟨hconverted, rfl⟩ | ⟨a, rfl, hended⟩ := h
  · exact absurd hr hrejected
  · simp only [hconverted, if_true]
    exact ⟨_, rfl, nofun⟩
  · simp only
    cases hterminal : terminalOutcome a.status with
    | some decision => exact ⟨decision, rfl, terminalOutcome_ne_pending hterminal⟩
    | none =>
      simp only [not_lt.mpr hended, if_false]
      exact ⟨_, rfl, endedOutcome_ne_pending _ _⟩

/-- A row is on one list at most, on the list of overdue ones exactly when it is marked so, and if
it is pending and on no list for pending consultations then the worker's query selects it, unless
it has just been scanned, and the worker's decision is an outcome. -/
theorem nothing_pending_lost {db : Database} {consultationId : Uuid}
    (hone : OnePrimary db consultationId) (c : ConsultationRequest) (asOf : Time) :
    (∀ view view' : ConsultationOutcomeView, view ≠ .all → view' ≠ .all →
      consultationOutcomeViewWhere view asOf db consultationId c →
      consultationOutcomeViewWhere view' asOf db consultationId c → view = view') ∧
    (consultationOutcomeViewWhere .overdueUnbooked asOf db consultationId c ↔
      (consultationOperationalTiming c.createdAt c.status c.outcomeStatus
        (getPrimaryConsultationAppointment db consultationId).isSome asOf).isOverdueUnbooked) ∧
    (c.outcomeStatus = .pending →
      ¬consultationOutcomeViewWhere .current asOf db consultationId c →
      ¬consultationOutcomeViewWhere .overdueUnbooked asOf db consultationId c →
      (∀ scannedIds, reconcileConsultationsWhere scannedIds asOf db consultationId c ↔
        consultationId ∉ scannedIds) ∧
      ∀ source, ∃ decision, determineHistoricalOutcome c
        ((getPrimaryConsultationAppointment db consultationId).map Prod.snd) asOf source =
          .decided decision ∧ decision.status ≠ .pending) := by
  refine ⟨fun _ _ ↦ view_unique, overdueUnbooked_iff_timing, fun hpending hcurrent hoverdue ↦ ?_⟩
  have hcases := pending_off_lists hone hpending hcurrent hoverdue
  constructor
  · intro scannedIds
    simp only [reconcileConsultationsWhere, decide_eq_true_eq]
    refine ⟨fun h ↦ h.2.1, fun hscanned ↦ ⟨hpending, hscanned, ?_⟩⟩
    obtain hrejected | ⟨hconverted, hnone⟩ | ⟨e, he, hended⟩ := hcases
    · exact .inl hrejected
    · refine .inr (.inl ⟨hconverted, ?_⟩)
      rw [← getPrimary_isSome, hnone]
      exact Bool.false_ne_true
    · refine .inr (.inr (.inr ?_))
      rw [somePrimary_of_one hone he]
      exact decide_eq_true hended
  · intro source
    apply determineHistoricalOutcome_closes source hpending
    obtain hrejected | ⟨hconverted, hnone⟩ | ⟨e, he, hended⟩ := hcases
    · exact .inl hrejected
    · exact .inr (.inl ⟨hconverted, by rw [hnone]; rfl⟩)
    · exact .inr (.inr ⟨e.2, by rw [he]; rfl, hended⟩)

/-- A consultation three days old that has just been rejected. -/
theorem nothing_pending_lost_rejected :
    ∃ decision, determineHistoricalOutcome
      { fullName := "Client", phone := "01000000001", serviceCategory := "Family"
        summary := "Advice", preferredMode := .office, status := .rejected }
      ((getPrimaryConsultationAppointment {} "r").map Prod.snd) 259200000 .worker =
        .decided decision ∧ decision.status ≠ .pending :=
  have hone : OnePrimary {} "r" := fun _ _ _ _ h ↦ by cases h
  ((nothing_pending_lost hone _ 259200000).2.2 rfl (by decide) (by decide)).2 .worker

end KmtLegal
