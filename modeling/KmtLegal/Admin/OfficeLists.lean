import KmtLegal.Admin.CalendarWindow
import KmtLegal.Admin.ListScopes
import KmtLegal.Admin.OutcomeViews
import KmtLegal.Js.IsoText

/-!
# The lists of the office

The services behind the pages of the office.  Each reads its query against a schema, joins the
scope of the actor with the filters, and answers with the rows; here a list is the rows of all its
pages, so that `total` is its length.  `found` says in which rows a text is found.
-/

namespace KmtLegal

open Relational Js Scheduling

/-! ## Queries -/

/-- The parameters of a link. -/
abbrev Query := List (String × String)

namespace Query

variable {α : Type} (query : Query) (key : String)

def value : Option String := query.lookup key

/-- `z.enum(values).optional().or(z.literal(""))`; an empty text filters nothing. -/
def optionalEnum (values : List (String × α)) : Option (Option α) :=
  match orNull (query.value key) with
  | none => some none
  | some text => (values.lookup text).map some

/-- `z.enum(values).default(fallback)`. -/
def enumOr (values : List (String × α)) (fallback : α) : Option α :=
  match query.value key with
  | none => some fallback
  | some text => values.lookup text

/-- `z.string().trim().max(most).optional().or(z.literal(""))`. -/
def optionalText (most : ℕ) : Option (Option String) :=
  let text := (query.value key).map trim
  if text.all fun text ↦ length text ≤ most then some (orNull text) else none

/-- `uuidSchema.optional().or(z.literal(""))`. -/
def optionalUuid (P : Platform) : Option (Option Uuid) :=
  let id := orNull (query.value key)
  if id.all P.isUuid then some id else none

/-- A field with a default that says how rows are ordered or shown. -/
def ordering (values : List String) : Option Unit :=
  if (query.value key).all (· ∈ values) then some () else none

end Query

/-- `parseWithSchema(schema, input, message)`. -/
def parseWithSchema {α : Type} (filters : Option α) (message : String) : Except Failure α :=
  orThrow filters (.validation message)

/-! ## The store -/

inductive ContactMessageStatus where
  | new | reviewed | archived
  deriving DecidableEq

structure ContactMessage where
  topic : String
  status : ContactMessageStatus := .new
  deriving DecidableEq

structure OfficeStore where
  documents : DocumentStore
  tasks : Table Uuid Task := ∅
  contactMessages : Table Uuid ContactMessage := ∅

namespace OfficeStore

variable (s : OfficeStore)

def db : Database := s.documents.db

def taskStore : TaskStore := { db := s.db, tasks := s.tasks }

end OfficeStore

section

variable (P : Platform) (Z : Zone) (found : String → Uuid → Bool) (s : OfficeStore)
  (actor : Principal) (query : Query) (now : Time)

/-! ## Appointments -/

/-- `adminCalendarQuerySchema`. -/
structure AdminCalendarQuery where
  startText : Option String
  stopText : Option String
  anchor : Option String
  status : Option AppointmentStatus
  mode : Option AppointmentMode
  lawyerId : Option Uuid
  clientId : Option Uuid
  caseId : Option Uuid

def appointmentStatusValues : List (String × AppointmentStatus) :=
  [("SCHEDULED", .scheduled), ("COMPLETED", .completed), ("CANCELLED", .cancelled),
    ("RESCHEDULED", .rescheduled), ("NO_SHOW", .noShow)]

def appointmentModeValues : List (String × AppointmentMode) :=
  [("OFFICE", .office), ("PHONE", .phone), ("ONLINE", .online), ("COURT", .court)]

def adminCalendarQuerySchema : Option AdminCalendarQuery := do
  let startText ← query.optionalText "from" 40
  let stopText ← query.optionalText "to" 40
  let anchor ← query.optionalText "anchor" 40
  let status ← query.optionalEnum "status" appointmentStatusValues
  let mode ← query.optionalEnum "mode" appointmentModeValues
  let lawyerId ← query.optionalUuid "lawyerId" P
  let clientId ← query.optionalUuid "clientId" P
  let caseId ← query.optionalUuid "caseId" P
  return { startText, stopText, anchor, status, mode, lawyerId, clientId, caseId }

/-- `appointmentScopeWhereForPrincipal(actor)`, of an appointment with its case. -/
def appointmentScopeWhereForPrincipal :
    Except Failure (Appointment → Option LegalCase → Bool) :=
  if hasPermission actor "appointment.manage.any" then .ok fun _ _ ↦ true
  else if hasPermission actor "appointment.read.assigned" ∨
      hasPermission actor "case.read.assigned" then
    .ok fun a case ↦ a.lawyerId = some actor.id ∨
      case.any fun c ↦ c.assignedLawyerId = actor.id ∧ c.deletedAt = none
  else .error (.permissionDenied "Appointment calendar permission is required.")

/-- The case of an appointment. -/
def OfficeStore.caseOf (a : Appointment) : Option LegalCase := a.caseId.bind s.db.legalCases.lookup

/-- `calendarWhere(actor, filters)`. -/
def calendarWhere (filters : AdminCalendarQuery) : Except Failure (Uuid → Appointment → Bool) := do
  let isInScope ← appointmentScopeWhereForPrincipal actor
  let (start, stop) ←
    calendarWindow Z (filters.startText.map dateFields) (filters.stopText.map dateFields) now
  let lawyerId := filters.lawyerId.filter fun _ ↦ hasPermission actor "appointment.manage.any"
  return fun _ a ↦ isInScope a (s.caseOf a) ∧ (start ≤ a.startsAt ∧ a.startsAt < stop) ∧
    filters.status.all (a.status = ·) ∧ filters.mode.all (a.mode = ·) ∧
    lawyerId.all (a.lawyerId = some ·) ∧ filters.clientId.all (a.clientId = ·) ∧
    filters.caseId.all (a.caseId = some ·)

/-- `listAdminCalendarAppointments({ actor, query })`. -/
def listAdminCalendarAppointments : Except Failure (List (Uuid × Appointment)) := do
  let filters ← parseWithSchema (adminCalendarQuerySchema P query) "Calendar query is invalid."
  let isListed ← calendarWhere Z s actor now filters
  return s.db.appointments.select isListed

/-! ## Tasks -/

inductive TaskView where
  | all | mine | overdue
  deriving DecidableEq

/-- `adminTaskListQuerySchema`. -/
structure AdminTaskListQuery where
  q : Option String
  view : TaskView
  status : Option TaskStatus
  priority : Option TaskPriority
  assignedToId : Option Uuid
  caseId : Option Uuid

def adminTaskStatusValues : List (String × TaskStatus) :=
  [("NEW", .new), ("IN_PROGRESS", .inProgress), ("REVIEW", .review), ("COMPLETED", .completed),
    ("OVERDUE", .overdue), ("ARCHIVED", .archived)]

def taskPriorityValues : List (String × TaskPriority) :=
  [("LOW", .low), ("NORMAL", .normal), ("HIGH", .high), ("URGENT", .urgent)]

def sortDirections : List String := ["asc", "desc"]

def adminTaskListQuerySchema : Option AdminTaskListQuery := do
  let q ← query.optionalText "q" 120
  let view ← query.enumOr "view" [("all", .all), ("mine", .mine), ("overdue", .overdue)] .all
  query.ordering "display" ["list", "board"]
  let status ← query.optionalEnum "status" adminTaskStatusValues
  let priority ← query.optionalEnum "priority" taskPriorityValues
  let assignedToId ← query.optionalUuid "assignedToId" P
  let caseId ← query.optionalUuid "caseId" P
  query.ordering "sortBy" ["dueDate", "updatedAt", "createdAt", "priority", "status"]
  query.ordering "sortDirection" sortDirections
  return { q, view, status, priority, assignedToId, caseId }

/-- `canListAdminCases(actor)`. -/
def canListAdminCases : Bool :=
  hasPermission actor "case.read.any" ∨ hasPermission actor "case.read.assigned"

/-- Due before the instant and not done. -/
def isOverdue (task : Task) : Bool :=
  task.dueDate.any (· < now) ∧ task.status ∉ [.completed, .archived]

/-- `taskListWhere(actor, filters)`. -/
def taskListWhere (filters : AdminTaskListQuery) : Except Failure (Uuid → Task → Bool) := do
  let isInScope ← taskScopeWhereForPrincipal actor
  let assignedToId := filters.assignedToId.filter fun _ ↦ hasPermission actor "task.manage.any"
  let caseId := filters.caseId.filter fun _ ↦ canListAdminCases actor
  return fun id task ↦ isInScope task (s.taskStore.caseOf task) ∧
    filters.status.all (task.status = ·) ∧ filters.priority.all (task.priority = ·) ∧
    assignedToId.all (task.assignedToId = ·) ∧ caseId.all (task.caseId = some ·) ∧
    (filters.view = .mine → task.assignedToId = actor.id) ∧
    (filters.view = .overdue → isOverdue now task) ∧ filters.q.all (found · id)

/-- `listAdminTasks({ actor, query })`. -/
def listAdminTasks : Except Failure (List (Uuid × Task)) := do
  let filters ← parseWithSchema (adminTaskListQuerySchema P query) "Task list query is invalid."
  let isListed ← taskListWhere found s actor now filters
  return s.tasks.select isListed

/-! ## Consultations -/

/-- `adminConsultationListQuerySchema`. -/
structure AdminConsultationListQuery where
  view : ConsultationOutcomeView
  q : Option String
  status : Option ConsultationStatus
  /-- Whether a lawyer is assigned. -/
  assigned : Option Bool
  unreviewed : Bool
  clientId : Option Uuid

def consultationOutcomeViewValues : List (String × ConsultationOutcomeView) :=
  [("current", .current), ("overdue_unbooked", .overdueUnbooked),
    ("awaiting_result", .awaitingResult), ("missed", .missed), ("successful", .successful),
    ("no_show", .noShow), ("cancelled", .cancelled), ("all", .all)]

def consultationStatusValues : List (String × ConsultationStatus) :=
  [("NEW", .new), ("REVIEWING", .reviewing), ("PAYMENT_PENDING", .paymentPending),
    ("SCHEDULED", .scheduled), ("REJECTED", .rejected), ("CONVERTED", .converted)]

def adminConsultationListQuerySchema : Option AdminConsultationListQuery := do
  let view ← query.enumOr "view" consultationOutcomeViewValues .current
  let q ← query.optionalText "q" 120
  let status ← query.optionalEnum "status" consultationStatusValues
  let assigned ← query.enumOr "assigned"
    [("", none), ("assigned", some true), ("unassigned", some false)] none
  let unreviewed ← query.enumOr "review" [("", false), ("unreviewed", true)] false
  let clientId ← query.optionalUuid "clientId" P
  if unreviewed ∧ view ∉ [.current, .overdueUnbooked] then none
  else some { view, q, status, assigned, unreviewed, clientId }

/-- Scheduled and not looked at by the secretary. -/
def isUnreviewed (c : ConsultationRequest) : Bool :=
  c.status = .scheduled ∧ c.secretaryReviewedAt = none

/-- `listBaseWhere(actor, filters)`. -/
def listBaseWhere (filters : AdminConsultationListQuery) :
    Except Failure (Uuid → ConsultationRequest → Bool) := do
  let isInScope ← consultationScopeWhereForPrincipal actor
  return fun id c ↦ isInScope c ∧ filters.status.all (c.status = ·) ∧
    filters.assigned.all (c.assignedLawyerId.isSome = ·) ∧
    filters.clientId.all (c.clientId = some ·) ∧ (filters.unreviewed → isUnreviewed c) ∧
    filters.q.all (found · id)

/-- `listAdminConsultations({ actor, query, asOf })`. -/
def listAdminConsultations : Except Failure (List (Uuid × ConsultationRequest)) := do
  let filters ← parseWithSchema (adminConsultationListQuerySchema P query)
    "Consultation list query is invalid."
  let isListed ← listBaseWhere found actor filters
  return s.db.consultationRequests.select fun id c ↦
    isListed id c ∧ consultationOutcomeViewWhere filters.view now s.db id c

/-- `consultationReviewScope(actor)`. -/
def consultationReviewScope : Option (ConsultationRequest → Bool) :=
  if hasPermission actor "consultation.review.any" then some fun _ ↦ true
  else if hasPermission actor "consultation.review.assigned" then
    some fun c ↦ c.assignedLawyerId = some actor.id
  else none

/-- `unreviewedConsultationWhere(actor, asOf)`, in a scope. -/
def unreviewedConsultationWhere (isInScope : ConsultationRequest → Bool) (id : Uuid)
    (c : ConsultationRequest) : Bool :=
  isInScope c ∧ isUnreviewed c ∧ consultationOutcomeViewWhere .current now s.db id c

/-- `consultationReviewCount` of `listAdminNotifications({ actor, asOf })`. -/
def consultationReviewCount : Except Failure ℕ := do
  throwIf (!hasPermission actor "notification.read.self")
    (.permissionDenied "Notification read permission is required.")
  return (consultationReviewScope actor).elim 0 fun isInScope ↦
    (s.db.consultationRequests.select (unreviewedConsultationWhere s now isInScope)).length

/-! ## Contact messages -/

/-- `adminContactMessageListQuerySchema`. -/
structure AdminContactMessageListQuery where
  q : Option String
  status : Option ContactMessageStatus
  topic : Option String

def contactTopics : List (String × String) :=
  ["consultation", "documents", "media", "other"].map fun topic ↦ (topic, topic)

def adminContactMessageListQuerySchema : Option AdminContactMessageListQuery := do
  let q ← query.optionalText "q" 120
  let status ← query.optionalEnum "status"
    [("NEW", .new), ("REVIEWED", .reviewed), ("ARCHIVED", .archived)]
  let topic ← query.optionalEnum "topic" contactTopics
  query.ordering "sortBy" ["createdAt", "status", "topic"]
  query.ordering "sortDirection" sortDirections
  return { q, status, topic }

/-- `canReadAdminContactMessages(actor)`. -/
def canReadAdminContactMessages : Bool :=
  hasPermission actor "contact.read.any" ∨ hasPermission actor "contact.manage.any"

/-- `contactMessageListWhere(filters)`. -/
def contactMessageListWhere (filters : AdminContactMessageListQuery) (id : Uuid)
    (message : ContactMessage) : Bool :=
  filters.status.all (message.status = ·) ∧ filters.topic.all (message.topic = ·) ∧
    filters.q.all (found · id)

/-- `listAdminContactMessages({ actor, query })`. -/
def listAdminContactMessages : Except Failure (List (Uuid × ContactMessage)) := do
  throwIf (!canReadAdminContactMessages actor)
    (.permissionDenied "Contact message read permission is required.")
  let filters ← parseWithSchema (adminContactMessageListQuerySchema query)
    "Contact message list query is invalid."
  return s.contactMessages.select (contactMessageListWhere found filters)

/-! ## Documents -/

/-- `adminDocumentListQuerySchema`. -/
structure AdminDocumentListQuery where
  q : Option String
  status : Option DocumentStatus
  category : Option DocumentCategory
  visibility : Option DocumentVisibility
  caseId : Option Uuid
  ownerClientId : Option Uuid

def documentStatusValues : List (String × DocumentStatus) :=
  [("NEW", .new), ("UNDER_REVIEW", .underReview), ("NEEDS_CLARIFICATION", .needsClarification),
    ("ACCEPTED", .accepted), ("REJECTED", .rejected), ("DELETED", .deleted)]

def documentCategoryValues : List (String × DocumentCategory) :=
  [("CONTRACT", .contract), ("COURT_FILE", .courtFile), ("IDENTITY", .identity),
    ("EVIDENCE", .evidence), ("PAYMENT", .payment), ("OTHER", .other)]

def documentVisibilityValues : List (String × DocumentVisibility) :=
  [("CLIENT_VISIBLE", .clientVisible), ("STAFF_ONLY", .staffOnly),
    ("INTERNAL_ONLY", .internalOnly)]

def adminDocumentListQuerySchema : Option AdminDocumentListQuery := do
  let q ← query.optionalText "q" 120
  let status ← query.optionalEnum "status" documentStatusValues
  let category ← query.optionalEnum "category" documentCategoryValues
  let visibility ← query.optionalEnum "visibility" documentVisibilityValues
  let caseId ← query.optionalUuid "caseId" P
  let ownerClientId ← query.optionalUuid "ownerClientId" P
  query.ordering "sortBy" ["createdAt", "updatedAt", "fileName", "status", "category"]
  query.ordering "sortDirection" sortDirections
  return { q, status, category, visibility, caseId, ownerClientId }

/-- The row of a document satisfies a clause on its relations and one on its other columns. -/
def OfficeStore.documentRow (isInScope : ReadableDocument → Bool) (p : DocumentFile → Bool)
    (id : Uuid) : Bool :=
  (s.documents.readable id).any isInScope ∧ (s.documents.documentFiles.lookup id).any p

/-- `documentListWhere(actor, filters)`. -/
def documentListWhere (filters : AdminDocumentListQuery) :
    Except Failure (Uuid → Document → Bool) := do
  let isInScope ← documentScopeWhereForPrincipal actor
  return fun id document ↦
    s.documentRow isInScope (fun file ↦ filters.status.all (file.status = ·) ∧
      filters.category.all (file.category = ·) ∧ filters.caseId.all (file.caseId = some ·) ∧
      filters.ownerClientId.all (file.ownerClientId = some ·)) id ∧
    filters.visibility.all (document.visibility = ·) ∧ filters.q.all (found · id)

/-- `listAdminDocuments({ actor, query })`. -/
def listAdminDocuments : Except Failure (List (Uuid × Document)) := do
  let filters ← parseWithSchema (adminDocumentListQuerySchema P query)
    "Document list query is invalid."
  let isListed ← documentListWhere found s actor filters
  return s.db.documents.select isListed

/-! ## Cases -/

/-- `adminCaseListQuerySchema`. -/
structure AdminCaseListQuery where
  q : Option String
  status : Option CaseStatus
  priority : Option CasePriority
  caseType : Option String
  assignedLawyerId : Option Uuid
  clientId : Option Uuid

def caseStatusValues : List (String × CaseStatus) :=
  [("NEW", .new), ("UNDER_REVIEW", .underReview), ("ACTIVE", .active),
    ("AWAITING_JUDGMENT", .awaitingJudgment), ("COMPLETED", .completed), ("CLOSED", .closed),
    ("ARCHIVED", .archived)]

def casePriorityValues : List (String × CasePriority) :=
  [("LOW", .low), ("NORMAL", .normal), ("HIGH", .high), ("URGENT", .urgent)]

def adminCaseListQuerySchema : Option AdminCaseListQuery := do
  let q ← query.optionalText "q" 120
  let status ← query.optionalEnum "status" caseStatusValues
  let priority ← query.optionalEnum "priority" casePriorityValues
  let caseType ← query.optionalText "caseType" 80
  let assignedLawyerId ← query.optionalUuid "assignedLawyerId" P
  let clientId ← query.optionalUuid "clientId" P
  query.ordering "sortBy"
    ["updatedAt", "createdAt", "nextSessionAt", "internalFileNumber", "status", "priority"]
  query.ordering "sortDirection" sortDirections
  return { q, status, priority, caseType, assignedLawyerId, clientId }

/-- `caseListWhere(actor, filters)`. -/
def caseListWhere (filters : AdminCaseListQuery) : Except Failure (Uuid → LegalCase → Bool) := do
  let isInScope ← caseScopeWhereForPrincipal actor
  let assignedLawyerId :=
    filters.assignedLawyerId.filter fun _ ↦ hasPermission actor "case.read.any"
  return fun id c ↦ isInScope c ∧ filters.status.all (c.status = ·) ∧
    filters.priority.all (c.priority = ·) ∧ filters.caseType.all (c.caseType = ·) ∧
    assignedLawyerId.all (c.assignedLawyerId = ·) ∧ filters.clientId.all (c.clientId = ·) ∧
    filters.q.all (found · id)

/-- `listAdminCases({ actor, query })`. -/
def listAdminCases : Except Failure (List (Uuid × LegalCase)) := do
  let filters ← parseWithSchema (adminCaseListQuerySchema P query) "Case list query is invalid."
  let isListed ← caseListWhere found actor filters
  return s.db.legalCases.select isListed

/-! ## Clients -/

/-- `adminClientListQuerySchema`. -/
structure AdminClientListQuery where
  q : Option String
  status : Option ClientStatus
  source : Option String
  assignedLawyerId : Option Uuid

def clientStatusValues : List (String × ClientStatus) :=
  [("LEAD", .lead), ("ACTIVE", .active), ("INACTIVE", .inactive), ("ARCHIVED", .archived),
    ("DELETED", .deleted)]

def adminClientListQuerySchema : Option AdminClientListQuery := do
  let q ← query.optionalText "q" 120
  let status ← query.optionalEnum "status" clientStatusValues
  let source ← query.optionalText "source" 80
  let assignedLawyerId ← query.optionalUuid "assignedLawyerId" P
  query.ordering "sortBy" ["createdAt", "updatedAt", "fullName", "status"]
  query.ordering "sortDirection" sortDirections
  return { q, status, source, assignedLawyerId }

/-- `clientScopeWhereForPrincipal(actor)`. -/
def clientScopeWhereForPrincipal : Except Failure (Client → Bool) :=
  if hasPermission actor "client.read.any" then .ok fun c ↦ c.deletedAt = none
  else if hasPermission actor "client.read.assigned" then
    .ok fun c ↦ c.deletedAt = none ∧ c.assignedLawyerId = some actor.id
  else .error (.permissionDenied "Client CRM read permission is required.")

/-- `clientListWhere(actor, filters)`. -/
def clientListWhere (filters : AdminClientListQuery) : Except Failure (Uuid → Client → Bool) := do
  let isInScope ← clientScopeWhereForPrincipal actor
  let assignedLawyerId :=
    filters.assignedLawyerId.filter fun _ ↦ hasPermission actor "client.read.any"
  return fun id c ↦ isInScope c ∧ filters.status.all (c.status = ·) ∧
    filters.source.all (c.source = some ·) ∧
    assignedLawyerId.all (c.assignedLawyerId = some ·) ∧ filters.q.all (found · id)

/-- `listAdminClients({ actor, query })`. -/
def listAdminClients : Except Failure (List (Uuid × Client)) := do
  let filters ← parseWithSchema (adminClientListQuerySchema P query) "Client list query is invalid."
  let isListed ← clientListWhere found actor filters
  return s.db.clients.select isListed

end

end KmtLegal
