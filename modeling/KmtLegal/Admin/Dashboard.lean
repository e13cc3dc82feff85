import KmtLegal.Admin.OfficeLists

/-!
# The dashboard

`dashboard-service.ts`: the figures an actor is shown, each with the link to the list it counts.
-/

namespace KmtLegal

open Relational Js Scheduling

/-! ## The day in Cairo -/

section

variable (Z : Zone)

/-- `cairoDateOrdinal(date)`. -/
def cairoDateOrdinal (t : ℤ) : ℤ := dateUTC ⟨(WallTime.formatToParts Z t).date, 0, 0⟩

/-- The loop of `firstCairoInstant`. -/
def searchCairoInstant (ordinal low high : ℤ) : ℤ :=
  if low < high then
    let midpoint := (low + high) / 2
    if cairoDateOrdinal Z midpoint < ordinal then searchCairoInstant ordinal (midpoint + 1) high
    else searchCairoInstant ordinal low midpoint
  else low
termination_by (high - low).toNat

/-- `firstCairoInstant(localDateOrdinal)`. -/
def firstCairoInstant (ordinal : ℤ) : ℤ :=
  searchCairoInstant Z ordinal (ordinal - 18 * 60 * 60 * 1000) (ordinal + 18 * 60 * 60 * 1000)

/-- `cairoDayRange(reference)`. -/
def cairoDayRange (reference : ℤ) : ℤ × ℤ :=
  let localDate := cairoDateOrdinal Z reference
  (firstCairoInstant Z localDate, firstCairoInstant Z (localDate + dayLength))

end

/-! ## Links -/

inductive AdminListPage where
  | calendar | tasks | consultations | contactMessages | documents | cases | clients
  deriving DecidableEq

def AdminListPage.path : AdminListPage → String
  | calendar => "/admin/calendar"
  | tasks => "/admin/tasks"
  | consultations => "/admin/consultations"
  | contactMessages => "/admin/contact-messages"
  | documents => "/admin/documents"
  | cases => "/admin/cases"
  | clients => "/admin/clients"

structure Href where
  page : AdminListPage
  query : Query
  deriving DecidableEq

/-- The text of the link. -/
def Href.text (href : Href) : String :=
  href.page.path ++ "?" ++ "&".intercalate (href.query.map fun e ↦ e.1 ++ "=" ++ e.2)

/-! ## Figures -/

/-- `DASHBOARD_METRIC_KEYS`. -/
inductive DashboardMetricKey where
  | appointmentsToday | tasksOverdue | consultationsUnreviewed | consultationsOverdueUnbooked
  | consultationsAwaitingResult | consultationsMissed | contactsNew | documentsUnderReview
  | casesActive | clientsActive
  deriving DecidableEq

structure DashboardMetric where
  key : DashboardMetricKey
  href : Href
  /-- Nothing if its loader failed. -/
  value : Option ℕ
  deriving DecidableEq

/-- `ACTIVE_APPOINTMENT_STATUSES` of the dashboard. -/
def activeAppointmentStatuses : List AppointmentStatus := [.scheduled, .rescheduled]

section

variable (Z : Zone) (s : OfficeStore) (actor : Principal) (now : Time)

/-- `appointmentHref(context)`. -/
def appointmentHref : Href where
  page := .calendar
  query := [("from", isoText (cairoDayRange Z now).1), ("to", isoText (cairoDayRange Z now).2)]

/-- The count of `loadAppointments(context)`. -/
def loadAppointments : Except Failure ℕ := do
  let isInScope ← appointmentScopeWhereForPrincipal actor
  let (start, stop) := cairoDayRange Z now
  return (s.db.appointments.select fun _ a ↦ isInScope a (s.caseOf a) ∧
    (start ≤ a.startsAt ∧ a.startsAt < stop) ∧ a.status ∈ activeAppointmentStatuses).length

/-- The count of `loadTasks(context)`. -/
def loadTasks : Except Failure ℕ := do
  let isInScope ← taskScopeWhereForPrincipal actor
  return (s.tasks.select fun _ task ↦
    isInScope task (s.taskStore.caseOf task) ∧ isOverdue now task).length

/-- The count of `loadConsultations(context)`. -/
def loadConsultations : Except Failure ℕ := do
  let isInScope ← consultationScopeWhereForPrincipal actor
  return (s.db.consultationRequests.select fun _ c ↦
    isInScope c ∧ isUnreviewed c ∧ c.outcomeStatus = .pending).length

/-- `loadConsultationOutcomeCount(context, view)`. -/
def loadConsultationOutcomeCount (view : ConsultationOutcomeView) : Except Failure ℕ := do
  let isInScope ← consultationScopeWhereForPrincipal actor
  return (s.db.consultationRequests.select fun id c ↦
    isInScope c ∧ consultationOutcomeViewWhere view now s.db id c).length

/-- The count of `loadContacts(context)`. -/
def loadContacts : Except Failure ℕ :=
  .ok (s.contactMessages.select fun _ message ↦ message.status = .new).length

/-- The count of `loadDocuments(context)`. -/
def loadDocuments : Except Failure ℕ := do
  let isInScope ← documentScopeWhereForPrincipal actor
  return (s.db.documents.select fun id _ ↦
    s.documentRow isInScope (fun file ↦ file.status = .underReview) id).length

/-- The count of `loadCases(context)`. -/
def loadCases : Except Failure ℕ := do
  let isInScope ← caseScopeWhereForPrincipal actor
  return (s.db.legalCases.select fun _ c ↦ isInScope c ∧ c.status = .active).length

/-- The count of `loadClients(context)`. -/
def loadClients : Except Failure ℕ := do
  let isInScope ← clientScopeWhereForPrincipal actor
  return (s.db.clients.select fun _ c ↦ isInScope c ∧ c.status = .active).length

namespace DashboardMetricKey

/-- `DASHBOARD_METRIC_KEYS`, as a list. -/
def all : List DashboardMetricKey :=
  [appointmentsToday, tasksOverdue, consultationsUnreviewed, consultationsOverdueUnbooked,
    consultationsAwaitingResult, consultationsMissed, contactsNew, documentsUnderReview,
    casesActive, clientsActive]

/-- `spec.permissions`. -/
def permissions : DashboardMetricKey → List String
  | appointmentsToday => ["appointment.manage.any", "appointment.read.assigned"]
  | tasksOverdue => ["task.manage.any", "task.manage.assigned", "task.read.assigned"]
  | consultationsUnreviewed => ["consultation.review.any", "consultation.review.assigned"]
  | consultationsOverdueUnbooked | consultationsAwaitingResult | consultationsMissed =>
    ["consultation.review.any", "appointment.manage.any"]
  | contactsNew => ["contact.read.any", "contact.manage.any"]
  | documentsUnderReview => ["document.manage.any", "document.read.assigned"]
  | casesActive => ["case.read.any", "case.read.assigned"]
  | clientsActive => ["client.read.any", "client.read.assigned"]

/-- The metrics of one outcome. -/
def outcomes : List DashboardMetricKey :=
  [consultationsOverdueUnbooked, consultationsAwaitingResult, consultationsMissed]

/-- `hasMetricPermissions(actor, spec)`. -/
def isPermitted (key : DashboardMetricKey) : Bool :=
  if key ∈ outcomes then canManageConsultationOutcome actor
  else key.permissions.any (hasPermission actor)

/-- `spec.href(context)`. -/
def href : DashboardMetricKey → Href
  | appointmentsToday => appointmentHref Z now
  | tasksOverdue =>
    ⟨.tasks, [("view", "overdue"), ("sortBy", "dueDate"), ("sortDirection", "asc")]⟩
  | consultationsUnreviewed =>
    ⟨.consultations, [("status", "SCHEDULED"), ("review", "unreviewed")]⟩
  | consultationsOverdueUnbooked => ⟨.consultations, [("view", "overdue_unbooked")]⟩
  | consultationsAwaitingResult => ⟨.consultations, [("view", "awaiting_result")]⟩
  | consultationsMissed => ⟨.consultations, [("view", "missed")]⟩
  | contactsNew =>
    ⟨.contactMessages, [("status", "NEW"), ("sortBy", "createdAt"), ("sortDirection", "asc")]⟩
  | documentsUnderReview =>
    ⟨.documents, [("status", "UNDER_REVIEW"), ("sortBy", "updatedAt"), ("sortDirection", "asc")]⟩
  | casesActive =>
    ⟨.cases, [("status", "ACTIVE"), ("sortBy", "updatedAt"), ("sortDirection", "desc")]⟩
  | clientsActive =>
    ⟨.clients, [("status", "ACTIVE"), ("sortBy", "createdAt"), ("sortDirection", "desc")]⟩

/-- `spec.load(context)`. -/
def load : DashboardMetricKey → Except Failure ℕ
  | appointmentsToday => loadAppointments Z s actor now
  | tasksOverdue => loadTasks s actor now
  | consultationsUnreviewed => loadConsultations s actor
  | consultationsOverdueUnbooked => loadConsultationOutcomeCount s actor now .overdueUnbooked
  | consultationsAwaitingResult => loadConsultationOutcomeCount s actor now .awaitingResult
  | consultationsMissed => loadConsultationOutcomeCount s actor now .missed
  | contactsNew => loadContacts s
  | documentsUnderReview => loadDocuments s actor
  | casesActive => loadCases s actor
  | clientsActive => loadClients s actor

/-- `dashboardMetric(spec, context, result)`, of what `guardedLoad` returns. -/
def metric (key : DashboardMetricKey) : DashboardMetric where
  key
  href := key.href Z now
  value := (key.load Z s actor now).toOption

end DashboardMetricKey

/-- The metrics of `getAdminDashboard(actor, { now })`, in the order of their keys. -/
def getAdminDashboard : List DashboardMetric :=
  (DashboardMetricKey.all.filter (DashboardMetricKey.isPermitted actor)).map
    (DashboardMetricKey.metric Z s actor now)

end

example : (DashboardMetricKey.tasksOverdue.href ⟨fun _ ↦ 0⟩ 0).text =
    "/admin/tasks?view=overdue&sortBy=dueDate&sortDirection=asc" := by
  decide

/-! ## What the links open -/

section

variable (P : Platform) (Z : Zone) (found : String → Uuid → Bool) (s : OfficeStore)
  (actor : Principal) (now : Time)

/-- The total of the list service behind a link, for the query of the link; of appointments, those
that are still to take place. -/
def linkTotal (href : Href) : Except Failure ℕ :=
  match href.page with
  | .calendar => (listAdminCalendarAppointments P Z s actor href.query now).map fun rows ↦
    (rows.filter fun e ↦ e.2.status ∈ activeAppointmentStatuses).length
  | .tasks => (listAdminTasks P found s actor href.query now).map List.length
  | .consultations => (listAdminConsultations P found s actor href.query now).map List.length
  | .contactMessages => (listAdminContactMessages found s actor href.query).map List.length
  | .documents => (listAdminDocuments P found s actor href.query).map List.length
  | .cases => (listAdminCases P found s actor href.query).map List.length
  | .clients => (listAdminClients P found s actor href.query).map List.length

end

end KmtLegal
