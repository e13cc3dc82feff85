import KmtLegal.Relational.Run
import KmtLegal.Office

/-!
# The history of an outcome

A consultation and its primary appointment tell the same story: there is one primary appointment at
most, and once the consultation has a final outcome the appointment has the status that stands for
it.  `Lifecycle` is that story for one consultation.  It has four kinds of transitions, and what is
to be shown about a whole history follows from them alone: soundness, a version that grows by one
with every change of the outcome, and that only a reopening ends a missed consultation.

Every request of the office, about this consultation or another, is a transition of the lifecycle.
-/

namespace KmtLegal

open Relational

/-! ## The abstract machine -/

/-- The outcome of a consultation with its version, and the statuses of its primary appointments
under their keys `κ`. -/
structure Lifecycle (κ : Type) where
  outcome : ConsultationOutcomeStatus
  version : ℕ
  primary : κ → AppointmentStatus → Prop

namespace Lifecycle

variable {κ : Type} {l l' : Lifecycle κ} {reopening : Prop}

/-- There is one primary appointment at most, and its status stands for a final outcome. -/
structure Sound (l : Lifecycle κ) : Prop where
  single : ∀ ⦃i j s t⦄, l.primary i s → l.primary j t → i = j
  closed : ∀ ⦃i s⦄, l.primary i s → l.outcome.isFinal → l.outcome.appointmentStatus = some s

/-- The transitions; `reopening` tells whether the request is one to reopen this consultation. -/
inductive Step (reopening : Prop) (l l' : Lifecycle κ) : Prop
  /-- The outcome stays, and under a final outcome only appointments that are still open change. -/
  | kept (houtcome : l'.outcome = l.outcome) (hversion : l.version ≤ l'.version)
      (hprimary : ∀ i s', l'.primary i s' →
        ∃ s, l.primary i s ∧ (l.outcome.isFinal → s' = s ∨ s.isActive))
  /-- A pending consultation gets its primary appointment. -/
  | booked (hpending : l.outcome = .pending) (houtcome : l'.outcome = .pending)
      (hversion : l.version ≤ l'.version) (k : κ) (hprimary : ∀ i s', l'.primary i s' → i = k)
  /-- An outcome is recorded, and the primary appointment follows. -/
  | decided (hmissed : l.outcome ≠ .missed) (hversion : l'.version = l.version + 1)
      (hprimary : ∀ i s', l'.primary i s' → (∃ s, l.primary i s) ∧
        (l'.outcome.isFinal → l'.outcome.appointmentStatus = some s'))
  /-- A missed consultation is reopened. -/
  | reopened (hreopening : reopening) (hmissed : l.outcome = .missed)
      (houtcome : l'.outcome = .pending) (hversion : l'.version = l.version + 1)
      (hprimary : ∀ i s', l'.primary i s' → ∃ s, l.primary i s)

theorem Sound.single_of (h : Sound l) (hsub : ∀ i s', l'.primary i s' → ∃ s, l.primary i s)
    ⦃i j : κ⦄ ⦃s t : AppointmentStatus⦄ (hi : l'.primary i s) (hj : l'.primary j t) : i = j := by
  obtain ⟨s₀, hs₀⟩ := hsub i s hi
  obtain ⟨t₀, ht₀⟩ := hsub j t hj
  exact h.single hs₀ ht₀

/-- Every transition keeps a sound lifecycle sound. -/
theorem Sound.step (h : Sound l) (hstep : Step reopening l l') : Sound l' := by
  cases hstep with
  | kept houtcome _ hprimary =>
    refine ⟨h.single_of fun i s' hs' ↦ (hprimary i s' hs').imp fun s hs ↦ hs.1, ?_⟩
    intro i s' hs' hfinal
    rw [houtcome] at hfinal ⊢
    obtain ⟨s, hs, hchange⟩ := hprimary i s' hs'
    have hclosed := h.closed hs hfinal
    rcases hchange hfinal with rfl | hactive
    · exact hclosed
    · rw [ConsultationOutcomeStatus.isActive_of_appointmentStatus hclosed] at hactive
      cases hactive
  | booked _ houtcome _ k hprimary =>
    refine ⟨fun i j s t hi hj ↦ (hprimary i s hi).trans (hprimary j t hj).symm, ?_⟩
    intro i s' _ hfinal
    rw [houtcome] at hfinal
    exact absurd hfinal (by decide)
  | decided _ _ hprimary =>
    exact ⟨h.single_of fun i s' hs' ↦ (hprimary i s' hs').1, fun i s' hs' ↦ (hprimary i s' hs').2⟩
  | reopened _ _ houtcome _ hprimary =>
    refine ⟨h.single_of hprimary, ?_⟩
    intro i s' _ hfinal
    rw [houtcome] at hfinal
    exact absurd hfinal (by decide)

/-- No transition decreases the version. -/
theorem Step.version_le (h : Step reopening l l') : l.version ≤ l'.version := by
  cases h with
  | kept _ hversion => exact hversion
  | booked _ _ hversion => exact hversion
  | decided _ hversion => omega
  | reopened _ _ _ hversion => omega

/-- A changed outcome has the next version. -/
theorem Step.version_of_ne (h : Step reopening l l') (hne : l'.outcome ≠ l.outcome) :
    l'.version = l.version + 1 := by
  cases h with
  | kept houtcome => exact absurd houtcome hne
  | booked hpending houtcome => exact absurd (houtcome.trans hpending.symm) hne
  | decided _ hversion => exact hversion
  | reopened _ _ _ hversion => exact hversion

/-- Only a reopening ends a missed consultation, and it becomes pending. -/
theorem Step.of_missed (h : Step reopening l l') (hmissed : l.outcome = .missed)
    (hne : l'.outcome ≠ .missed) : reopening ∧ l'.outcome = .pending := by
  cases h with
  | kept houtcome => exact absurd (houtcome.trans hmissed) hne
  | booked hpending => rw [hmissed] at hpending; cases hpending
  | decided hopen => exact absurd hmissed hopen
  | reopened hreopening _ houtcome => exact ⟨hreopening, houtcome⟩

end Lifecycle

/-! ## The lifecycle of a consultation -/

/-- The lifecycle of a consultation, as the tables have it. -/
def lifecycleOf (db : Database) (id : Uuid) (c : ConsultationRequest) : Lifecycle Uuid where
  outcome := c.outcomeStatus
  version := c.outcomeVersion
  primary i s := ∃ p, db.appointments.lookup i = some p ∧ p.isPrimaryOf id ∧ p.status = s

/-- What happened to a consultation with a sound lifecycle is a transition. -/
def Follows (reopening : Prop) (id : Uuid) (db db' : Database) : Prop :=
  ∀ c, db.consultationRequests.lookup id = some c → (lifecycleOf db id c).Sound →
    ∃ c', db'.consultationRequests.lookup id = some c' ∧
      (lifecycleOf db id c).Step reopening (lifecycleOf db' id c')

/-- The consultation has the outcome it had. -/
def KeepsOutcome (id : Uuid) (db db' : Database) : Prop :=
  ∀ c, db.consultationRequests.lookup id = some c →
    ∃ c', db'.consultationRequests.lookup id = some c' ∧ c'.outcomeStatus = c.outcomeStatus ∧
      c.outcomeVersion ≤ c'.outcomeVersion

/-- There is no new primary appointment, and only open ones have changed. -/
def KeepsPrimaries (id : Uuid) (db db' : Database) : Prop :=
  ∀ i p', db'.appointments.lookup i = some p' → p'.isPrimaryOf id →
    ∃ p, db.appointments.lookup i = some p ∧ p.isPrimaryOf id ∧
      (p'.status = p.status ∨ p.status.isActive)

section

variable {reopening : Prop} {db db' : Database} {id k : Uuid}

theorem follows_of_kept (houtcome : KeepsOutcome id db db') (hprimaries : KeepsPrimaries id db db') :
    Follows reopening id db db' := by
  intro c hc _
  obtain ⟨c', hc', hsame, hversion⟩ := houtcome c hc
  refine ⟨c', hc', .kept hsame hversion ?_⟩
  rintro i _ ⟨p', hp', hprimary', rfl⟩
  obtain ⟨p, hp, hprimary, hstatus⟩ := hprimaries i p' hp' hprimary'
  exact ⟨p.status, ⟨p, hp, hprimary, rfl⟩, fun _ ↦ hstatus⟩

theorem Follows.refl (db : Database) : Follows reopening id db db :=
  follows_of_kept (fun c hc ↦ ⟨c, hc, rfl, le_rfl⟩) fun _ p hp hprimary ↦ ⟨p, hp, hprimary, .inl rfl⟩

/-! ### Writes of consultations -/

theorem keepsOutcome_of_eq (h : db'.consultationRequests = db.consultationRequests) :
    KeepsOutcome id db db' := fun c hc ↦ ⟨c, h ▸ hc, rfl, le_rfl⟩

theorem keepsOutcome_of_update {f : ConsultationRequest → ConsultationRequest}
    (h : db'.consultationRequests = db.consultationRequests.update k f)
    (hf : ∀ c, (f c).outcomeStatus = c.outcomeStatus ∧ c.outcomeVersion ≤ (f c).outcomeVersion) :
    KeepsOutcome id db db' := by
  intro c hc
  rw [h, Table.lookup_update, hc]
  by_cases hid : id = k
  · exact ⟨f c, if_pos hid, hf c⟩
  · exact ⟨c, if_neg hid, rfl, le_rfl⟩

theorem keepsOutcome_of_update_ne {f : ConsultationRequest → ConsultationRequest} (hne : id ≠ k)
    (h : db'.consultationRequests = db.consultationRequests.update k f) : KeepsOutcome id db db' :=
  fun c hc ↦ ⟨c, by rw [h, Table.lookup_update_of_ne _ _ hne, hc], rfl, le_rfl⟩

theorem keepsOutcome_of_insert {c₀ : ConsultationRequest} (hne : id ≠ k)
    (h : db'.consultationRequests = AList.insert k c₀ db.consultationRequests) :
    KeepsOutcome id db db' :=
  fun c hc ↦ ⟨c, by rw [h, Table.lookup_insert, if_neg hne, hc], rfl, le_rfl⟩

/-! ### Writes of appointments -/

theorem keepsPrimaries_of_eq (h : db'.appointments = db.appointments) : KeepsPrimaries id db db' :=
  fun _ p hp hprimary ↦ ⟨p, h ▸ hp, hprimary, .inl rfl⟩

theorem keepsPrimaries_of_insert {p₀ : Appointment} (hp₀ : ¬p₀.isPrimaryOf id)
    (h : db'.appointments = AList.insert k p₀ db.appointments) : KeepsPrimaries id db db' := by
  intro i p' hp' hprimary
  rw [h, Table.lookup_insert] at hp'
  by_cases hi : i = k
  · rw [if_pos hi] at hp'
    cases hp'
    exact absurd hprimary hp₀
  · rw [if_neg hi] at hp'
    exact ⟨p', hp', hprimary, .inl rfl⟩

theorem keepsPrimaries_of_update {f : Appointment → Appointment}
    (h : db'.appointments = db.appointments.update k f)
    (hf : ∀ p, db.appointments.lookup k = some p → (f p).isPrimaryOf id →
      p.isPrimaryOf id ∧ ((f p).status = p.status ∨ p.status.isActive)) :
    KeepsPrimaries id db db' := by
  intro i p' hp' hprimary
  rw [h, Table.lookup_update] at hp'
  by_cases hi : i = k
  · rw [if_pos hi] at hp'
    obtain ⟨p, hp, rfl⟩ := Option.map_eq_some_iff.mp hp'
    exact ⟨p, hp, hf p (hi ▸ hp) hprimary⟩
  · rw [if_neg hi] at hp'
    exact ⟨p', hp', hprimary, .inl rfl⟩

theorem keepsPrimaries_of_updateFound {found : Option (Uuid × Appointment)}
    {f : Appointment → Appointment} (h : db'.appointments = db.appointments.updateFound found f)
    (hf : ∀ i p, db.appointments.lookup i = some p → (f p).isPrimaryOf id → i ∈ found.map Prod.fst →
      p.isPrimaryOf id ∧ ((f p).status = p.status ∨ p.status.isActive)) :
    KeepsPrimaries id db db' := by
  cases found with
  | none => exact keepsPrimaries_of_eq h
  | some e => exact keepsPrimaries_of_update h fun p hp hprimary ↦ hf e.1 p hp hprimary rfl

/-! ### Writes of one consultation with its primary appointment -/

/-- An appointment is a primary one of one consultation. -/
theorem Appointment.isPrimaryOf_unique {p : Appointment} (h : p.isPrimaryOf id)
    (h' : p.isPrimaryOf k) : id = k := by
  have hid := (of_decide_eq_true h).1
  rw [(of_decide_eq_true h').1] at hid
  exact (Option.some.inj hid).symm

variable {found : Option (Uuid × Appointment)} {f : ConsultationRequest → ConsultationRequest}
  {g : Appointment → Appointment}

/-- A write of another consultation and its primary appointment. -/
theorem follows_of_other (hne : id ≠ k)
    (happointments : db'.appointments = db.appointments.updateFound found g)
    (hconsultations : db'.consultationRequests = db.consultationRequests.update k f)
    (hfound : ∀ e ∈ found, db.appointments.lookup e.1 = some e.2 ∧ e.2.isPrimaryOf k)
    (hg : ∀ p, (g p).isPrimaryOf id → p.isPrimaryOf id) :
    Follows reopening id db db' := by
  refine follows_of_kept (keepsOutcome_of_update_ne hne hconsultations)
    (keepsPrimaries_of_updateFound happointments fun i p hp hprimary hi ↦ ?_)
  obtain ⟨⟨i', q⟩, he, rfl⟩ := Option.mem_map.mp hi
  obtain ⟨hq, hk⟩ := hfound _ he
  have hsame : q = p := Option.some.inj (hq.symm.trans hp)
  rw [hsame] at hk
  exact absurd (Appointment.isPrimaryOf_unique (hg p hprimary) hk) hne

/-- The primary appointments after a write of the one that was found. -/
theorem primary_of_updateFound {c : ConsultationRequest} (hsound : (lifecycleOf db k c).Sound)
    (happointments : db'.appointments = db.appointments.updateFound found g)
    (hfound : ∀ e ∈ found, db.appointments.lookup e.1 = some e.2 ∧ e.2.isPrimaryOf k)
    (hnone : found = none → ∀ i p, db.appointments.lookup i = some p → ¬p.isPrimaryOf k) {i : Uuid}
    {p' : Appointment} (hp' : db'.appointments.lookup i = some p') (hprimary : p'.isPrimaryOf k) :
    ∃ p, found = some (i, p) ∧ p' = g p ∧ db.appointments.lookup i = some p ∧ p.isPrimaryOf k := by
  cases found with
  | none =>
    rw [happointments] at hp'
    exact absurd hprimary (hnone rfl i p' hp')
  | some e =>
    obtain ⟨j, q⟩ := e
    obtain ⟨hq, hqprimary⟩ := hfound _ rfl
    rw [happointments, Table.updateFound_some, Table.lookup_update] at hp'
    by_cases hi : i = j
    · subst hi
      rw [if_pos rfl, hq, Option.map_some] at hp'
      cases hp'
      exact ⟨q, rfl, rfl, hq, hqprimary⟩
    · rw [if_neg hi] at hp'
      exact absurd (hsound.single ⟨p', hp', hprimary, rfl⟩ ⟨q, hq, hqprimary, rfl⟩) hi

/-- An outcome is recorded for a consultation that was not missed, and its primary appointment gets
the status that stands for it. -/
theorem follows_of_decided {c₀ : ConsultationRequest}
    (happointments : db'.appointments = db.appointments.updateFound found g)
    (hconsultations : db'.consultationRequests = db.consultationRequests.update k f)
    (hc₀ : db.consultationRequests.lookup k = some c₀) (hmissed : c₀.outcomeStatus ≠ .missed)
    (hversion : (f c₀).outcomeVersion = c₀.outcomeVersion + 1)
    (hfound : ∀ e ∈ found, db.appointments.lookup e.1 = some e.2 ∧ e.2.isPrimaryOf k)
    (hnone : found = none → ∀ i p, db.appointments.lookup i = some p → ¬p.isPrimaryOf k)
    (hg : ∀ id p, (g p).isPrimaryOf id → p.isPrimaryOf id)
    (hstatus : ∀ e ∈ found, (f c₀).outcomeStatus.isFinal →
      (f c₀).outcomeStatus.appointmentStatus = some (g e.2).status) :
    Follows reopening id db db' := by
  by_cases hid : id = k
  · subst hid
    intro c hc hsound
    rw [hc₀] at hc
    cases hc
    refine ⟨f c₀, by rw [hconsultations, Table.lookup_update_self, hc₀, Option.map_some],
      .decided hmissed hversion ?_⟩
    rintro i _ ⟨p', hp', hprimary', rfl⟩
    obtain ⟨p, hp, rfl, hlookup, hprimary⟩ :=
      primary_of_updateFound hsound happointments hfound hnone hp' hprimary'
    exact ⟨⟨p.status, p, hlookup, hprimary, rfl⟩, hstatus _ hp⟩
  · exact follows_of_other hid happointments hconsultations hfound (hg id)

/-- What the services read as the primary appointment is the primary appointment. -/
theorem getPrimary_found (e : Uuid × Appointment)
    (he : e ∈ getPrimaryConsultationAppointment db k) :
    db.appointments.lookup e.1 = some e.2 ∧ e.2.isPrimaryOf k :=
  getPrimary_eq_some he

end

/-! ## The services -/

section

variable {P : Platform} {A : Availability} {db db' : Database} {reopening : Prop}

theorem scheduleConsultation_follows {call : ScheduleConsultation} (id : Uuid)
    (h : scheduleConsultation P A db call = .ok db') : Follows reopening id db db' := by
  obtain ⟨c₀, clientId, hc₀, hpending, hnone, -, -, hdb⟩ := scheduleConsultation_ok h
  have happointments := congrArg Database.appointments hdb
  have hconsultations := congrArg Database.consultationRequests hdb
  by_cases hid : id = call.consultationId
  · subst hid
    intro c hc _
    rw [hc₀] at hc
    cases hc
    refine ⟨call.write clientId c₀,
      by rw [hconsultations, Table.lookup_update_self, hc₀, Option.map_some],
      .booked hpending hpending (Nat.le_succ _) call.newAppointmentId ?_⟩
    rintro i _ ⟨p', hp', hprimary, rfl⟩
    by_contra hi
    rw [happointments, Table.lookup_insert, if_neg hi] at hp'
    exact getPrimary_eq_none.mp hnone i p' hp' hprimary
  · refine follows_of_kept (keepsOutcome_of_update_ne hid hconsultations)
      (keepsPrimaries_of_insert (fun hprimary ↦ hid ?_) happointments)
    exact (Option.some.inj (of_decide_eq_true hprimary).1).symm

theorem assignConsultation_follows {call : AssignConsultation} (id : Uuid)
    (h : assignConsultation P db call = .ok db') : Follows reopening id db db' := by
  obtain ⟨c, -, -, -, -, hdb⟩ := assignConsultation_ok h
  refine follows_of_kept
    (keepsOutcome_of_update (congrArg Database.consultationRequests hdb) fun c ↦ ?_)
    (keepsPrimaries_of_updateFound (congrArg Database.appointments hdb)
      fun _ _ _ hprimary _ ↦ ⟨hprimary, .inl rfl⟩)
  simp only [AssignConsultation.write]
  split_ifs <;> exact ⟨rfl, le_rfl⟩

theorem reviewConsultation_follows {call : ReviewConsultation} (id : Uuid)
    (h : reviewConsultation P db call = .ok db') : Follows reopening id db db' := by
  obtain ⟨c, -, -, rfl⟩ := reviewConsultation_ok h
  exact follows_of_kept (keepsOutcome_of_update rfl fun c ↦ ⟨rfl, le_rfl⟩)
    (keepsPrimaries_of_eq rfl)

theorem rejectConsultation_follows {call : RejectConsultation} (id : Uuid)
    (h : rejectConsultation P db call = .ok db') : Follows reopening id db db' := by
  obtain ⟨c, hc, hallows, hdb⟩ := rejectConsultation_ok h
  refine follows_of_decided (congrArg Database.appointments hdb)
    (congrArg Database.consultationRequests hdb) hc ?_ rfl getPrimary_found getPrimary_eq_none.mp
    (fun _ _ hprimary ↦ hprimary) fun _ _ _ ↦ rfl
  intro hmissed
  rw [hmissed] at hallows
  exact absurd hallows (by decide)

/-- A conversion keeps the outcome, and the follow-up appointment belongs to the case. -/
theorem convertConsultationToCase_follows {call : ConvertConsultation} (id : Uuid)
    (h : convertConsultationToCase P db call = .ok db') : Follows reopening id db db' := by
  obtain ⟨c, clientId, lawyerId, -, -, happointments, hdb⟩ := convertConsultationToCase_ok h
  refine follows_of_kept
    (keepsOutcome_of_update (congrArg Database.consultationRequests hdb) fun c ↦ ⟨rfl, le_rfl⟩) ?_
  rcases happointments with hsame | ⟨startsAt, -, -, hinsert⟩
  · exact keepsPrimaries_of_eq hsame
  · refine keepsPrimaries_of_insert (fun hprimary ↦ ?_) hinsert
    have hcase := (of_decide_eq_true (of_decide_eq_true hprimary).2).2
    cases hcase

theorem setConsultationOutcome_follows {call : SetConsultationOutcome} (id : Uuid)
    (h : setConsultationOutcome P db call = .ok db') : Follows reopening id db db' := by
  obtain ⟨c, status, hc, hmissed, hstatus, hdb⟩ := setConsultationOutcome_ok h
  exact follows_of_decided (congrArg Database.appointments hdb)
    (congrArg Database.consultationRequests hdb) hc hmissed rfl getPrimary_found
    getPrimary_eq_none.mp (fun _ _ hprimary ↦ hprimary) fun _ _ _ ↦ hstatus

theorem reopenMissedConsultation_follows {call : ReopenMissedConsultation} (id : Uuid)
    (hreopening : call.consultationId = id → reopening)
    (h : reopenMissedConsultation P db call = .ok db') : Follows reopening id db db' := by
  obtain ⟨c₀, i₀, p₀, hc₀, hmissed, hprimary₀, -, hdb⟩ := reopenMissedConsultation_ok h
  have hconsultations := congrArg Database.consultationRequests hdb
  have happointments : db'.appointments = db.appointments.updateFound
      (getPrimaryConsultationAppointment db call.consultationId) call.move := by
    rw [hprimary₀]
    exact congrArg Database.appointments hdb
  by_cases hid : id = call.consultationId
  · subst hid
    intro c hc hsound
    rw [hc₀] at hc
    cases hc
    refine ⟨call.write c₀,
      by rw [hconsultations, Table.lookup_update_self, hc₀, Option.map_some],
      .reopened (hreopening rfl) hmissed rfl rfl ?_⟩
    rintro i _ ⟨p', hp', hprimary', rfl⟩
    obtain ⟨p, -, -, hlookup, hprimary⟩ := primary_of_updateFound hsound happointments
      getPrimary_found getPrimary_eq_none.mp hp' hprimary'
    exact ⟨p.status, p, hlookup, hprimary, rfl⟩
  · exact follows_of_other hid happointments hconsultations getPrimary_found
      fun _ hprimary ↦ hprimary

/-- An appointment of a case is no primary one. -/
theorem createAdminCalendarAppointment_follows {call : CreateCalendarAppointment} (id : Uuid)
    (h : createAdminCalendarAppointment P db call = .ok db') : Follows reopening id db db' := by
  obtain ⟨legalCase, startsAt, -, -, rfl⟩ := createAdminCalendarAppointment_ok h
  refine follows_of_kept (keepsOutcome_of_eq rfl)
    (keepsPrimaries_of_insert (fun hprimary ↦ ?_) rfl)
  have hconsultation := (of_decide_eq_true hprimary).1
  cases hconsultation

/-- Only an open appointment is moved. -/
theorem rescheduleAdminCalendarAppointment_follows {call : RescheduleCalendarAppointment} (id : Uuid)
    (h : rescheduleAdminCalendarAppointment P db call = .ok db') : Follows reopening id db db' := by
  obtain ⟨p₀, startsAt, hp₀, hopen, -, -, rfl⟩ := rescheduleAdminCalendarAppointment_ok h
  refine follows_of_kept (keepsOutcome_of_eq rfl)
    (keepsPrimaries_of_update rfl fun p hp hprimary ↦ ⟨hprimary, .inr ?_⟩)
  rw [hp₀] at hp
  cases hp
  cases hstatus : p₀.status <;> first | rfl | exact absurd (by rw [hstatus]; decide) hopen

theorem mutateDirectBooking_follows {call : MutateDirectBooking} (id : Uuid)
    (h : mutateDirectBooking A db call = .ok db') : Follows reopening id db db' := by
  cases mutateDirectBooking_ok h with
  | replayed happointments hconsultations =>
    exact follows_of_kept (keepsOutcome_of_eq hconsultations) (keepsPrimaries_of_eq happointments)
  | cancelled k c i p hc hpending hp hprimary happointments hconsultations =>
    rw [← Table.updateFound_some _ i p] at happointments
    refine follows_of_decided happointments hconsultations hc ?_ rfl ?_ nofun
      (fun _ _ hprimary ↦ hprimary) fun _ _ _ ↦ rfl
    · rw [hpending]
      nofun
    · rintro _ ⟨⟩
      exact ⟨hp, hprimary⟩
  | moved k c₀ i p slot hc₀ hpending hp hprimary _ happointments hconsultations =>
    have hfound : ∀ e ∈ some (i, p), db.appointments.lookup e.1 = some e.2 ∧ e.2.isPrimaryOf k := by
      rintro _ ⟨⟩
      exact ⟨hp, hprimary⟩
    rw [← Table.updateFound_some _ i p] at happointments
    by_cases hid : id = k
    · subst hid
      intro c hc hsound
      rw [hc₀] at hc
      cases hc
      refine ⟨slot.write c₀,
        by rw [hconsultations, Table.lookup_update_self, hc₀, Option.map_some],
        .kept rfl (Nat.le_succ _) ?_⟩
      rintro j _ ⟨q', hq', hprimary', rfl⟩
      obtain ⟨q, -, -, hlookup, hq⟩ :=
        primary_of_updateFound hsound happointments hfound nofun hq' hprimary'
      refine ⟨q.status, ⟨q, hlookup, hq, rfl⟩, fun hfinal ↦ ?_⟩
      change c₀.outcomeStatus.isFinal at hfinal
      rw [hpending] at hfinal
      exact absurd hfinal (by decide)
    · exact follows_of_other hid happointments hconsultations hfound fun _ hprimary ↦ hprimary
  | created c₀ hfresh happointments hconsultations =>
    intro c hc hsound
    -- the new consultation is another one
    have hne : id ≠ call.newConsultationId := by
      rintro rfl
      rw [hfresh] at hc
      cases hc
    refine follows_of_kept (keepsOutcome_of_insert hne hconsultations) ?_ c hc hsound
    rcases happointments with hsame | ⟨p, hp, -, -, hinsert⟩
    · exact keepsPrimaries_of_eq hsame
    · refine keepsPrimaries_of_insert (fun hprimary ↦ hne ?_) hinsert
      have hid := (of_decide_eq_true hprimary).1
      rw [hp] at hid
      exact (Option.some.inj hid).symm

theorem createPublicConsultationCheckout_follows {call : CreateCheckout} (id : Uuid)
    (h : createPublicConsultationCheckout P db call = .ok db') : Follows reopening id db db' := by
  obtain ⟨clientId, hfresh, -, hdb⟩ := createPublicConsultationCheckout_ok h
  intro c hc hsound
  have hne : id ≠ call.newConsultationId := by
    rintro rfl
    rw [hfresh] at hc
    cases hc
  refine follows_of_kept (keepsOutcome_of_insert hne (congrArg Database.consultationRequests hdb))
    (keepsPrimaries_of_insert (fun hprimary ↦ hne ?_) (congrArg Database.appointments hdb))
    c hc hsound
  exact (Option.some.inj (of_decide_eq_true hprimary).1).symm

/-- Payments know nothing of outcomes, and they change reserved appointments only. -/
theorem PaymentFrame.follows (h : PaymentFrame db db') (id : Uuid) :
    Follows reopening id db db' := by
  refine follows_of_kept (fun c hc ↦ ?_) fun i p' hp' hprimary ↦ ?_
  · obtain ⟨c', hc', hstep⟩ := h.consultations.lookup hc
    refine ⟨c', hc', ?_⟩
    cases hstep <;> exact ⟨rfl, le_rfl⟩
  · obtain ⟨p, hp, hstep⟩ := h.appointments.lookup' hp'
    cases hstep with
    | unchanged => exact ⟨p', hp, hprimary, .inl rfl⟩
    | confirmed notes hreserved => exact ⟨p, hp, hprimary, .inr (by rw [hreserved]; rfl)⟩
    | released notes hreserved => exact ⟨p, hp, hprimary, .inr (by rw [hreserved]; rfl)⟩

theorem reconcileOneConsultation_follows (db : Database) (consultationId : Uuid) (now : Time)
    (source : MaintenanceSource) (id : Uuid) :
    Follows reopening id db (reconcileOneConsultation db consultationId now source).1 := by
  rcases reconcileOneConsultation_cases db consultationId now source with
    hsame | ⟨c, decision, hc, hdecided, hdb⟩
  · rw [hsame]
    exact .refl db
  obtain ⟨hpending, -, hfinal⟩ := determineHistoricalOutcome_decided hdecided
  have hstored : ∀ e ∈ getPrimaryConsultationAppointment db consultationId,
      (db.updateConsultation consultationId (decision.write now)).appointments.lookup e.1 =
        some e.2 := fun e he ↦ (getPrimary_found e he).1
  rw [hdb, followPrimary_eq hstored]
  refine follows_of_decided rfl rfl hc ?_ rfl getPrimary_found getPrimary_eq_none.mp
    (fun _ _ hprimary ↦ hprimary) fun e he houtcome ↦ ?_
  · rw [hpending]
    nofun
  · exact hfinal e.2 (Option.mem_map.mpr ⟨e, he, rfl⟩) houtcome

/-! ## Runs -/

/-- A request to reopen the consultation. -/
def OfficeRequest.reopens (id : Uuid) : OfficeRequest → Prop
  | .reopen call => call.consultationId = id
  | _ => False

/-- Whatever is asked of the office is a transition of every lifecycle. -/
theorem officeStep_follows (P : Platform) (A : Availability) (db : Database)
    (request : OfficeRequest) (id : Uuid) :
    Follows (request.reopens id) id db (officeStep P A db request) := by
  refine commit_of (P := Follows (request.reopens id) id db) (.refl db) fun db' h ↦ ?_
  cases request with
  | schedule call => exact scheduleConsultation_follows id h
  | assign call => exact assignConsultation_follows id h
  | review call => exact reviewConsultation_follows id h
  | reject call => exact rejectConsultation_follows id h
  | convert call => exact convertConsultationToCase_follows id h
  | setOutcome call => exact setConsultationOutcome_follows id h
  | reopen call => exact reopenMissedConsultation_follows id (fun hid ↦ hid) h
  | createAppointment call => exact createAdminCalendarAppointment_follows id h
  | reschedule call => exact rescheduleAdminCalendarAppointment_follows id h
  | directBooking call => exact mutateDirectBooking_follows id h
  | checkout call => exact createPublicConsultationCheckout_follows id h
  | payment request =>
    cases h
    exact (paymentStep_frame P db request).follows id
  | workerExpire now batchSize maxBatches =>
    cases h
    exact (expireOpenPaymentAttempts_frame now batchSize maxBatches db).follows id
  | reconcile consultationId now source =>
    cases h
    exact reconcileOneConsultation_follows db consultationId now source id

/-- The consultation is stored and its lifecycle is sound. -/
def SoundConsultation (id : Uuid) (db : Database) : Prop :=
  ∃ c, db.consultationRequests.lookup id = some c ∧ (lifecycleOf db id c).Sound

theorem SoundConsultation.step {id : Uuid} (h : SoundConsultation id db)
    (request : OfficeRequest) : SoundConsultation id (officeStep P A db request) := by
  obtain ⟨c, hc, hsound⟩ := h
  obtain ⟨c', hc', hstep⟩ := officeStep_follows P A db request id c hc hsound
  exact ⟨c', hc', hsound.step hstep⟩

/-- Along every run from a pending consultation with one primary appointment at most: there is one
at most; under a final outcome it has the matching status; and the next request increases the
version by one if it changes the outcome, never decreases it, and ends a missed consultation only by
reopening it. -/
theorem outcome_history (P : Platform) (A : Availability) {id : Uuid} {c : ConsultationRequest}
    (hc : db.consultationRequests.lookup id = some c) (hpending : c.outcomeStatus = .pending)
    (hsingle : ∀ i j p q, db.appointments.lookup i = some p → db.appointments.lookup j = some q →
      p.isPrimaryOf id → q.isPrimaryOf id → i = j)
    (l : List OfficeRequest) :
    ∃ c₁, (run (officeStep P A) db l).consultationRequests.lookup id = some c₁ ∧
      (∀ i j p q, (run (officeStep P A) db l).appointments.lookup i = some p →
        (run (officeStep P A) db l).appointments.lookup j = some q →
        p.isPrimaryOf id → q.isPrimaryOf id → i = j) ∧
      (∀ i p, (run (officeStep P A) db l).appointments.lookup i = some p → p.isPrimaryOf id →
        (c₁.outcomeStatus = .successful → p.status = .completed) ∧
        (c₁.outcomeStatus = .noShow → p.status = .noShow) ∧
        (c₁.outcomeStatus = .cancelled → p.status = .cancelled)) ∧
      ∀ request, ∃ c₂,
        (officeStep P A (run (officeStep P A) db l) request).consultationRequests.lookup id =
          some c₂ ∧
        (c₂.outcomeStatus ≠ c₁.outcomeStatus → c₂.outcomeVersion = c₁.outcomeVersion + 1) ∧
        c₁.outcomeVersion ≤ c₂.outcomeVersion ∧
        (c₁.outcomeStatus = .missed → c₂.outcomeStatus ≠ .missed →
          request.reopens id ∧ c₂.outcomeStatus = .pending) := by
  have hsound : SoundConsultation id db := by
    refine ⟨c, hc, ?_, fun i s _ hfinal ↦ ?_⟩
    · rintro i j _ _ ⟨p, hp, hprimary, -⟩ ⟨q, hq, hprimary', -⟩
      exact hsingle i j p q hp hq hprimary hprimary'
    · change c.outcomeStatus.isFinal at hfinal
      rw [hpending] at hfinal
      exact absurd hfinal (by decide)
  have hrun : SoundConsultation id (run (officeStep P A) db l) :=
    run_invariant (fun _ request h ↦ h.step request) hsound l
  generalize run (officeStep P A) db l = db₁ at hrun ⊢
  obtain ⟨c₁, hc₁, hsound₁⟩ := hrun
  refine ⟨c₁, hc₁, fun i j p q hp hq hprimary hprimary' ↦ ?_, fun i p hp hprimary ↦ ?_,
    fun request ↦ ?_⟩
  · exact hsound₁.single ⟨p, hp, hprimary, rfl⟩ ⟨q, hq, hprimary', rfl⟩
  · have hclosed := hsound₁.closed ⟨p, hp, hprimary, rfl⟩
    simp only [lifecycleOf] at hclosed
    refine ⟨fun h ↦ ?_, fun h ↦ ?_, fun h ↦ ?_⟩ <;>
    · rw [h] at hclosed
      exact (Option.some.inj (hclosed rfl)).symm
  · obtain ⟨c₂, hc₂, hstep⟩ := officeStep_follows P A db₁ request id c₁ hc₁ hsound₁
    exact ⟨c₂, hc₂, hstep.version_of_ne, hstep.version_le, hstep.of_missed⟩

end

/-- The reservation expires, and the maintenance finds the consultation cancelled. -/
theorem outcome_history_sampleOffice :
    ∃ c₁, (run (officeStep plainPlatform noTimes) sampleOffice
        [.workerExpire 1001 10 10, .reconcile sampleConsultation 2000 .worker]
        ).consultationRequests.lookup sampleConsultation = some c₁ ∧
      c₁.outcomeStatus = .cancelled ∧ c₁.outcomeVersion = 1 ∧
      ∀ i p, (run (officeStep plainPlatform noTimes) sampleOffice
        [.workerExpire 1001 10 10, .reconcile sampleConsultation 2000 .worker]
        ).appointments.lookup i = some p → p.isPrimaryOf sampleConsultation →
        p.status = .cancelled := by
  obtain ⟨c₁, hc₁, -, hclosed, -⟩ := outcome_history plainPlatform noTimes
    (show sampleOffice.consultationRequests.lookup sampleConsultation = some _ from rfl) rfl
    (fun i j p q hp hq hprimary hprimary' ↦ by
      rcases sampleOffice_appointments hp with ⟨rfl, -⟩ | ⟨-, hnone⟩
      · rcases sampleOffice_appointments hq with ⟨rfl, -⟩ | ⟨-, hnone⟩
        · rfl
        · exact absurd hprimary' (hnone _)
      · exact absurd hprimary (hnone _))
    [.workerExpire 1001 10 10, .reconcile sampleConsultation 2000 .worker]
  have hlast : ((run (officeStep plainPlatform noTimes) sampleOffice
      [.workerExpire 1001 10 10, .reconcile sampleConsultation 2000 .worker]
      ).consultationRequests.lookup sampleConsultation).map
        (fun c ↦ (c.outcomeStatus, c.outcomeVersion)) = some (.cancelled, 1) := by
    decide +kernel
  rw [hc₁, Option.map_some, Option.some_inj, Prod.mk.injEq] at hlast
  exact ⟨c₁, hc₁, hlast.1, hlast.2, fun i p hp hprimary ↦ (hclosed i p hp hprimary).2.2 hlast.1⟩

end KmtLegal
