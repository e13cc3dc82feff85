import KmtLegal.Admin.Dashboard

/-!
# Figures and the lists they open

A figure of the dashboard and the list behind its link are counted by predicates that were written
twice.  They agree for all figures but two: the link to the appointments of today carries instants
where the calendar reads dates, and the consultations that wait for a review are listed only while
their time has not passed.
-/

namespace KmtLegal

open Relational Js Scheduling

/-! ## Counting the same rows -/

section

variable {κ ρ ε : Type} {t : Table κ ρ} {p q : κ → ρ → Bool}

theorem ok_length_congr (h : ∀ k r, p k r = q k r) :
    (.ok (t.select p).length : Except ε ℕ) = .ok (t.select q).length := by
  rw [show p = q from funext fun k ↦ funext fun r ↦ h k r]

/-- A clause and a stronger one select equally many rows exactly if they agree on every row. -/
theorem length_select_eq_iff [DecidableEq κ] (h : ∀ k r, q k r → p k r) :
    (t.select p).length = (t.select q).length ↔
      ∀ k r, t.lookup k = some r → p k r → q k r := by
  have hsub : t.select q = (t.select p).filter fun e ↦ q e.1 e.2 := by
    rw [Table.select, Table.select, List.filter_filter]
    apply List.filter_congr
    intro e _
    cases hq : q e.1 e.2 with
    | false => rfl
    | true => exact (h e.1 e.2 hq).symm
  rw [hsub, eq_comm, List.length_filter_eq_length_iff]
  constructor
  · intro hall k r hr hp
    exact hall (k, r) (Table.mem_select.mpr ⟨hr, hp⟩)
  · rintro hall ⟨k, r⟩ hmem
    obtain ⟨hr, hp⟩ := Table.mem_select.mp hmem
    exact hall k r hr hp

end

section

variable {P : Platform} {Z : Zone} {found : String → Uuid → Bool} {s : OfficeStore}
  {actor : Principal} {now : Time}

/-! ## The links that open what they count -/

/-- A link opens the rows its figure counts. -/
def OpensItsFigure (P : Platform) (Z : Zone) (found : String → Uuid → Bool) (s : OfficeStore)
    (actor : Principal) (now : Time) (key : DashboardMetricKey) : Prop :=
  linkTotal P Z found s actor now (key.href Z now) = key.load Z s actor now

theorem opens_tasksOverdue : OpensItsFigure P Z found s actor now .tasksOverdue := by
  have hlist : listAdminTasks P found s actor (DashboardMetricKey.tasksOverdue.href Z now).query
      now = (do
        let isListed ← taskListWhere found s actor now ⟨none, .overdue, none, none, none, none⟩
        return s.tasks.select isListed) := rfl
  change (listAdminTasks P found s actor _ now).map List.length = loadTasks s actor now
  rw [hlist, taskListWhere, loadTasks]
  cases taskScopeWhereForPrincipal actor with
  | error e => rfl
  | ok isInScope =>
    apply ok_length_congr
    intro id task
    simp

/-- The lists of consultations by an outcome have no filter of their own. -/
theorem opens_outcome {key : DashboardMetricKey} {view : ConsultationOutcomeView}
    (hpage : (key.href Z now).page = .consultations)
    (hquery : adminConsultationListQuerySchema P (key.href Z now).query =
      some ⟨view, none, none, none, false, none⟩)
    (hload : key.load Z s actor now = loadConsultationOutcomeCount s actor now view) :
    OpensItsFigure P Z found s actor now key := by
  rw [OpensItsFigure, linkTotal, hpage, hload]
  simp only [listAdminConsultations, hquery, listBaseWhere, loadConsultationOutcomeCount]
  cases consultationScopeWhereForPrincipal actor with
  | error e => rfl
  | ok isInScope =>
    apply ok_length_congr
    intro id c
    simp

theorem opens_contactsNew (h : canReadAdminContactMessages actor) :
    OpensItsFigure P Z found s actor now .contactsNew := by
  have hlist : listAdminContactMessages found s actor
      (DashboardMetricKey.contactsNew.href Z now).query = (do
        throwIf (!canReadAdminContactMessages actor)
          (.permissionDenied "Contact message read permission is required.")
        return s.contactMessages.select
          (contactMessageListWhere found ⟨none, some .new, none⟩)) := rfl
  change (listAdminContactMessages found s actor _).map List.length = loadContacts s
  rw [hlist, throwIf_of_not (by rw [h]; decide)]
  apply ok_length_congr
  intro id message
  simp [contactMessageListWhere]

theorem opens_documentsUnderReview :
    OpensItsFigure P Z found s actor now .documentsUnderReview := by
  have hlist : listAdminDocuments P found s actor
      (DashboardMetricKey.documentsUnderReview.href Z now).query = (do
        let isListed ← documentListWhere found s actor ⟨none, some .underReview, none, none, none,
          none⟩
        return s.db.documents.select isListed) := rfl
  change (listAdminDocuments P found s actor _).map List.length = loadDocuments s actor
  rw [hlist, documentListWhere, loadDocuments]
  cases documentScopeWhereForPrincipal actor with
  | error e => rfl
  | ok isInScope =>
    apply ok_length_congr
    intro id document
    simp

theorem opens_casesActive : OpensItsFigure P Z found s actor now .casesActive := by
  have hlist : listAdminCases P found s actor (DashboardMetricKey.casesActive.href Z now).query =
      (do
        let isListed ← caseListWhere found actor ⟨none, some .active, none, none, none, none⟩
        return s.db.legalCases.select isListed) := rfl
  change (listAdminCases P found s actor _).map List.length = loadCases s actor
  rw [hlist, caseListWhere, loadCases]
  cases caseScopeWhereForPrincipal actor with
  | error e => rfl
  | ok isInScope =>
    apply ok_length_congr
    intro id c
    simp

theorem opens_clientsActive : OpensItsFigure P Z found s actor now .clientsActive := by
  have hlist : listAdminClients P found s actor
      (DashboardMetricKey.clientsActive.href Z now).query = (do
        let isListed ← clientListWhere found actor ⟨none, some .active, none, none⟩
        return s.db.clients.select isListed) := rfl
  change (listAdminClients P found s actor _).map List.length = loadClients s actor
  rw [hlist, clientListWhere, loadClients]
  cases clientScopeWhereForPrincipal actor with
  | error e => rfl
  | ok isInScope =>
    apply ok_length_congr
    intro id c
    simp

/-! ## The appointments of today -/

theorem trim_isoText_ne (t : ℤ) : trim (isoText t) ≠ "" := by
  intro h
  have hmem : 'Z' ∈ (trim (isoText t)).toList := mem_trim_concat rfl
  rw [h] at hmem
  cases hmem

/-- The calendar takes no instant for a date. -/
theorem calendarWindow_of_not_date (Z : Zone) (stop : Option DateText) (now : ℤ) :
    calendarWindow Z (some none) stop now =
      .error (.of 400 .validationError "from is invalid.") :=
  rfl

/-- A query from an instant on is refused. -/
theorem calendar_refuses {query : Query} {t : ℤ} (hquery : query.value "from" = some (isoText t))
    (rows : List (Uuid × Appointment)) :
    listAdminCalendarAppointments P Z s actor query now ≠ .ok rows := by
  intro h
  simp only [listAdminCalendarAppointments, bind_eq_ok, parseWithSchema, orThrow_eq_ok] at h
  obtain ⟨filters, hfilters, isListed, hlisted, -⟩ := h
  have hstart : filters.startText = some (trim (isoText t)) := by
    simp only [adminCalendarQuerySchema, Query.optionalText, hquery, Option.bind_eq_bind,
      Option.bind_eq_some_iff] at hfilters
    obtain ⟨startText, hstart, _, -, _, -, _, -, _, -, _, -, _, -, _, -, hreturn⟩ := hfilters
    cases hreturn
    split_ifs at hstart
    rw [← Option.some.inj hstart]
    simp [orNull, trim_isoText_ne]
  simp only [calendarWhere, bind_eq_ok, hstart, Option.map_some, dateFields_trim_isoText,
    calendarWindow_of_not_date] at hlisted
  obtain ⟨_, -, _, hwindow, -⟩ := hlisted
  cases hwindow

/-- The figure of today's appointments leads nowhere. -/
theorem appointments_refused (total : ℕ) :
    linkTotal P Z found s actor now (appointmentHref Z now) ≠ .ok total := by
  intro h
  rw [linkTotal, show (appointmentHref Z now).page = .calendar from rfl] at h
  obtain ⟨rows, hrows, -⟩ := map_eq_ok.mp h
  have hstart : (appointmentHref Z now).query.value "from" =
      some (isoText (cairoDayRange Z now).1) := by
    simp [Query.value, appointmentHref]
  exact calendar_refuses hstart rows hrows

/-! ## The consultations that wait for a review -/

/-- A consultation whose appointment is over, or that has waited for one too long. -/
def isPastReview (db : Database) (now : Time) (id : Uuid) (c : ConsultationRequest) : Bool :=
  somePrimary db id (fun a ↦ a.endsAt ≤ now) ∨
    (¬somePrimary db id (fun _ ↦ true) ∧ c.createdAt ≤ now - consultationOverdueUnbookedMs)

theorem somePrimary_split (db : Database) (now : Time) (id : Uuid) :
    somePrimary db id (fun _ ↦ true) ↔
      somePrimary db id (fun a ↦ now < a.endsAt) ∨ somePrimary db id fun a ↦ a.endsAt ≤ now := by
  simp only [somePrimary_iff, decide_eq_true_eq]
  constructor
  · rintro ⟨k, a, ha, hprimary, -⟩
    rcases lt_or_ge now a.endsAt with hlt | hle
    · exact .inl ⟨k, a, ha, hprimary, hlt⟩
    · exact .inr ⟨k, a, ha, hprimary, hle⟩
  · rintro (⟨k, a, ha, hprimary, -⟩ | ⟨k, a, ha, hprimary, -⟩)
    · exact ⟨k, a, ha, hprimary, trivial⟩
    · exact ⟨k, a, ha, hprimary, trivial⟩

/-- An unreviewed consultation is current exactly if it is not past its review. -/
theorem current_iff_not_past {db : Database} {id : Uuid} {c : ConsultationRequest}
    (hunreviewed : isUnreviewed c) (hpending : c.outcomeStatus = .pending) :
    consultationOutcomeViewWhere .current now db id c ↔ ¬isPastReview db now id c := by
  obtain ⟨hscheduled, -⟩ := of_decide_eq_true hunreviewed
  have hactive : c.status.isActiveUnbooked := by
    rw [hscheduled]
    rfl
  have hsplit := somePrimary_split db now id
  simp only [consultationOutcomeViewWhere, isPastReview, decide_eq_true_eq, hpending, hactive,
    true_and]
  rw [← not_le]
  tauto

/-- No consultation the actor may review waits past its review. -/
def NothingPastReview (s : OfficeStore) (actor : Principal) (now : Time) : Prop :=
  ∀ id c, s.db.consultationRequests.lookup id = some c → canReviewConsultation actor c →
    isUnreviewed c → c.outcomeStatus = .pending → ¬isPastReview s.db now id c


theorem canReview_iff {isInScope : ConsultationRequest → Bool}
    (h : consultationScopeWhereForPrincipal actor = .ok isInScope) (c : ConsultationRequest) :
    isInScope c = canReviewConsultation actor c :=
  Bool.eq_iff_iff.mpr (consultationsAgree actor c isInScope h)

/-- The rows the dashboard counts and those that are listed differ by the past ones. -/
theorem unreviewed_length_iff {isInScope : ConsultationRequest → Bool}
    (h : consultationScopeWhereForPrincipal actor = .ok isInScope) :
    (s.db.consultationRequests.select fun _ c ↦
        isInScope c ∧ isUnreviewed c ∧ c.outcomeStatus = .pending).length =
      (s.db.consultationRequests.select (unreviewedConsultationWhere s now isInScope)).length ↔
        NothingPastReview s actor now := by
  rw [length_select_eq_iff]
  · constructor
    · intro hall id c hc hreview hunreviewed hpending
      have hlisted := hall id c hc
        (decide_eq_true ⟨(canReview_iff h c).trans hreview, hunreviewed, hpending⟩)
      exact (current_iff_not_past hunreviewed hpending).mp (of_decide_eq_true hlisted).2.2
    · intro hnone id c hc hcounted
      obtain ⟨hscope, hunreviewed, hpending⟩ := of_decide_eq_true hcounted
      have hpast := hnone id c hc ((canReview_iff h c).symm.trans hscope) hunreviewed hpending
      exact decide_eq_true
        ⟨hscope, hunreviewed, (current_iff_not_past hunreviewed hpending).mpr hpast⟩
  · intro id c hlisted
    obtain ⟨hscope, hunreviewed, hcurrent⟩ := of_decide_eq_true hlisted
    have hpending : c.outcomeStatus = .pending := view_outcome rfl hcurrent
    exact decide_eq_true ⟨hscope, hunreviewed, hpending⟩

/-- The list behind the figure, in the scope of the actor. -/
theorem linkTotal_unreviewed {isInScope : ConsultationRequest → Bool}
    (h : consultationScopeWhereForPrincipal actor = .ok isInScope) :
    linkTotal P Z found s actor now (DashboardMetricKey.consultationsUnreviewed.href Z now) =
      .ok (s.db.consultationRequests.select
        (unreviewedConsultationWhere s now isInScope)).length := by
  have hlist : listAdminConsultations P found s actor
      (DashboardMetricKey.consultationsUnreviewed.href Z now).query now = (do
        let isListed ← listBaseWhere found actor
          ⟨.current, none, some .scheduled, none, true, none⟩
        return s.db.consultationRequests.select fun id c ↦
          isListed id c ∧ consultationOutcomeViewWhere .current now s.db id c) := rfl
  change (listAdminConsultations P found s actor _ now).map List.length = _
  rw [hlist, listBaseWhere, h]
  apply ok_length_congr
  intro id c
  simp only [unreviewedConsultationWhere, isUnreviewed, Option.all_none, Option.all_some,
    Bool.decide_and, Bool.decide_eq_true, decide_true, Bool.and_true, forall_const, true_and]
  grind

/-- What the notifications count is what the list has. -/
theorem consultationReviewCount_eq_ok {isInScope : ConsultationRequest → Bool}
    (h : consultationScopeWhereForPrincipal actor = .ok isInScope) {count : ℕ} :
    consultationReviewCount s actor now = .ok count ↔ hasPermission actor "notification.read.self" ∧
      (s.db.consultationRequests.select (unreviewedConsultationWhere s now isInScope)).length =
        count := by
  have hscope : consultationReviewScope actor = some isInScope := by
    unfold consultationScopeWhereForPrincipal at h
    unfold consultationReviewScope
    split_ifs at h ⊢
    · cases h
      rfl
    · cases h
      rfl
  simp only [consultationReviewCount, bind_eq_ok, throwIf_eq_ok, pure_eq_ok, hscope,
    Option.elim_some]
  simp

/-! ## Every figure that is shown is ready -/

/-- A scope is refused only to an actor without either permission. -/
theorem scope_ok {α : Type} {a b : Prop} [Decidable a] [Decidable b] {p q : α} {e : Failure}
    (h : a ∨ b) :
    ∃ isInScope, (if a then .ok p else if b then .ok q else .error e : Except Failure α) =
      .ok isInScope := by
  split_ifs with ha hb
  · exact ⟨p, rfl⟩
  · exact ⟨q, rfl⟩
  · exact absurd h (not_or.mpr ⟨ha, hb⟩)

/-- A figure with two permissions is shown to whoever has one of them. -/
theorem isPermitted_iff {key : DashboardMetricKey} {a b : String}
    (hpermissions : key.permissions = [a, b]) (hkey : key ∉ DashboardMetricKey.outcomes) :
    key.isPermitted actor ↔ hasPermission actor a ∨ hasPermission actor b := by
  rw [DashboardMetricKey.isPermitted, if_neg hkey, hpermissions]
  simp

theorem unreviewed_scope
    (h : DashboardMetricKey.consultationsUnreviewed.isPermitted actor) :
    ∃ isInScope, consultationScopeWhereForPrincipal actor = .ok isInScope :=
  scope_ok ((isPermitted_iff rfl (by decide)).mp h)

theorem load_ok {key : DashboardMetricKey} (h : key.isPermitted actor) :
    ∃ total, key.load Z s actor now = .ok total := by
  cases key with
  | appointmentsToday =>
    obtain ⟨isInScope, hscope⟩ : ∃ p, appointmentScopeWhereForPrincipal actor = .ok p :=
      scope_ok (((isPermitted_iff rfl (by decide)).mp h).imp_right .inl)
    rw [DashboardMetricKey.load, loadAppointments, hscope]
    exact ⟨_, rfl⟩
  | tasksOverdue =>
    obtain ⟨isInScope, hscope⟩ : ∃ p, taskScopeWhereForPrincipal actor = .ok p := by
      apply scope_ok
      obtain ⟨permission, hpermission, hheld⟩ := List.any_eq_true.mp h
      simp only [DashboardMetricKey.permissions, List.mem_cons, List.not_mem_nil,
        or_false] at hpermission
      rcases hpermission with rfl | rfl | rfl
      · exact .inl hheld
      · exact .inr (.inr hheld)
      · exact .inr (.inl hheld)
    rw [DashboardMetricKey.load, loadTasks, hscope]
    exact ⟨_, rfl⟩
  | consultationsUnreviewed =>
    obtain ⟨isInScope, hscope⟩ := unreviewed_scope h
    rw [DashboardMetricKey.load, loadConsultations, hscope]
    exact ⟨_, rfl⟩
  | consultationsOverdueUnbooked | consultationsAwaitingResult | consultationsMissed =>
    obtain ⟨-, hany, -⟩ := of_decide_eq_true h
    simp only [DashboardMetricKey.load, loadConsultationOutcomeCount,
      consultationScopeWhereForPrincipal, if_pos hany]
    exact ⟨_, rfl⟩
  | contactsNew => exact ⟨_, rfl⟩
  | documentsUnderReview =>
    obtain ⟨isInScope, hscope⟩ : ∃ p, documentScopeWhereForPrincipal actor = .ok p :=
      scope_ok ((isPermitted_iff rfl (by decide)).mp h)
    rw [DashboardMetricKey.load, loadDocuments, hscope]
    exact ⟨_, rfl⟩
  | casesActive =>
    obtain ⟨isInScope, hscope⟩ : ∃ p, caseScopeWhereForPrincipal actor = .ok p :=
      scope_ok ((isPermitted_iff rfl (by decide)).mp h)
    rw [DashboardMetricKey.load, loadCases, hscope]
    exact ⟨_, rfl⟩
  | clientsActive =>
    obtain ⟨isInScope, hscope⟩ : ∃ p, clientScopeWhereForPrincipal actor = .ok p :=
      scope_ok ((isPermitted_iff rfl (by decide)).mp h)
    rw [DashboardMetricKey.load, loadClients, hscope]
    exact ⟨_, rfl⟩

/-- All links but two open what their figures count. -/
theorem opens_of_ne {key : DashboardMetricKey} (h : key.isPermitted actor)
    (hcalendar : key ≠ .appointmentsToday) (hreview : key ≠ .consultationsUnreviewed) :
    OpensItsFigure P Z found s actor now key := by
  cases key with
  | appointmentsToday => exact absurd rfl hcalendar
  | tasksOverdue => exact opens_tasksOverdue
  | consultationsUnreviewed => exact absurd rfl hreview
  | consultationsOverdueUnbooked => exact opens_outcome rfl rfl rfl
  | consultationsAwaitingResult => exact opens_outcome rfl rfl rfl
  | consultationsMissed => exact opens_outcome rfl rfl rfl
  | contactsNew =>
    exact opens_contactsNew (decide_eq_true ((isPermitted_iff rfl (by decide)).mp h))
  | documentsUnderReview => exact opens_documentsUnderReview
  | casesActive => exact opens_casesActive
  | clientsActive => exact opens_clientsActive

/-! ## The figures of the office -/

/-- Each figure is the total of the list its link opens, and that of the unreviewed consultations
is the count of the notifications, where the actor may read these. -/
structure FiguresAgree (P : Platform) (Z : Zone) (found : String → Uuid → Bool) (s : OfficeStore)
    (actor : Principal) (now : Time) : Prop where
  links : ∀ metric ∈ getAdminDashboard Z s actor now, ∃ total, metric.value = some total ∧
    linkTotal P Z found s actor now metric.href = .ok total
  notifications : ∀ metric ∈ getAdminDashboard Z s actor now,
    metric.key = .consultationsUnreviewed →
      ∀ count, consultationReviewCount s actor now = .ok count → metric.value = some count

theorem mem_getAdminDashboard {metric : DashboardMetric} :
    metric ∈ getAdminDashboard Z s actor now ↔
      ∃ key : DashboardMetricKey, key.isPermitted actor ∧ key.metric Z s actor now = metric := by
  have hall : ∀ key, key ∈ DashboardMetricKey.all := by
    intro key
    cases key <;> decide
  simp [getAdminDashboard, hall]

theorem metric_value {key : DashboardMetricKey} {total : ℕ}
    (h : key.load Z s actor now = .ok total) : (key.metric Z s actor now).value = some total := by
  rw [DashboardMetricKey.metric, h]
  rfl

/-- Whoever may review a consultation is shown the figure. -/
theorem unreviewed_permitted {c : ConsultationRequest} (h : canReviewConsultation actor c) :
    DashboardMetricKey.consultationsUnreviewed.isPermitted actor :=
  (isPermitted_iff rfl (by decide)).mpr ((of_decide_eq_true h).imp_right And.left)

theorem loadConsultations_eq {isInScope : ConsultationRequest → Bool}
    (h : consultationScopeWhereForPrincipal actor = .ok isInScope) :
    DashboardMetricKey.consultationsUnreviewed.load Z s actor now =
      .ok (s.db.consultationRequests.select fun _ c ↦
        isInScope c ∧ isUnreviewed c ∧ c.outcomeStatus = .pending).length := by
  rw [DashboardMetricKey.load, loadConsultations, h]
  rfl

/-- The figures agree with the lists exactly if the actor is not shown the appointments of today
and no consultation waits past its review. -/
theorem figuresAgree_iff (P : Platform) (Z : Zone) (found : String → Uuid → Bool) (s : OfficeStore)
    (actor : Principal) (now : Time) :
    FiguresAgree P Z found s actor now ↔
      DashboardMetricKey.appointmentsToday.isPermitted actor = false ∧
        NothingPastReview s actor now := by
  constructor
  · intro h
    constructor
    · rw [← Bool.not_eq_true]
      intro hshown
      obtain ⟨total, -, htotal⟩ := h.links _ (mem_getAdminDashboard.mpr ⟨_, hshown, rfl⟩)
      exact appointments_refused total htotal
    · intro id c hc hreview
      have hshown := unreviewed_permitted hreview
      obtain ⟨isInScope, hscope⟩ := unreviewed_scope hshown
      obtain ⟨total, hvalue, htotal⟩ := h.links _ (mem_getAdminDashboard.mpr ⟨_, hshown, rfl⟩)
      rw [metric_value (loadConsultations_eq hscope)] at hvalue
      have hlisted := (linkTotal_unreviewed hscope).symm.trans htotal
      have hsame := (Option.some.inj hvalue).trans (Except.ok.inj hlisted).symm
      exact (unreviewed_length_iff hscope).mp hsame id c hc hreview
  · rintro ⟨hhidden, hnone⟩
    constructor
    · intro metric hmetric
      obtain ⟨key, hshown, rfl⟩ := mem_getAdminDashboard.mp hmetric
      obtain ⟨total, hload⟩ : ∃ total, key.load Z s actor now = .ok total := load_ok hshown
      refine ⟨total, metric_value hload, ?_⟩
      rcases eq_or_ne key .consultationsUnreviewed with rfl | hreview
      · obtain ⟨isInScope, hscope⟩ := unreviewed_scope hshown
        have hcount := (loadConsultations_eq hscope).symm.trans hload
        rw [← hcount, (unreviewed_length_iff hscope).mpr hnone]
        exact linkTotal_unreviewed hscope
      · have hcalendar : key ≠ .appointmentsToday := by
          rintro rfl
          rw [hhidden] at hshown
          cases hshown
        exact (opens_of_ne hshown hcalendar hreview).trans hload
    · intro metric hmetric hkey count hcount
      obtain ⟨key, hshown, rfl⟩ := mem_getAdminDashboard.mp hmetric
      cases hkey
      obtain ⟨isInScope, hscope⟩ := unreviewed_scope hshown
      rw [metric_value (loadConsultations_eq hscope), (unreviewed_length_iff hscope).mpr hnone]
      rw [((consultationReviewCount_eq_ok hscope).mp hcount).2]

end

/-! ## A dashboard with appointments -/

/-- A secretary who manages appointments. -/
def calendarSecretary : Principal :=
  { id := "secretary", roleName := "Secretary", permissions := some ["appointment.manage.any"] }

/-- The link to the appointments of today is refused even where there are none. -/
theorem emptyOffice_disagrees :
    ¬ FiguresAgree plainPlatform ⟨fun _ ↦ 7200000⟩ (fun _ _ ↦ false) { documents := { db := {} } }
      calendarSecretary 0 := by
  intro h
  have hpermitted : DashboardMetricKey.appointmentsToday.isPermitted calendarSecretary := by
    decide
  obtain ⟨total, -, htotal⟩ := h.links _ (mem_getAdminDashboard.mpr ⟨_, hpermitted, rfl⟩)
  exact appointments_refused total htotal

end KmtLegal
