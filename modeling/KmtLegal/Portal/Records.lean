import KmtLegal.Assistant.Dialogue
import KmtLegal.Conversations.Threads
import KmtLegal.Relational.Paging
import Mathlib.Data.Prod.Lex
import Mathlib.Data.String.Basic

/-!
# Account records

`listClientAssistantRecords` of `client-assistant-data.ts`: what the assistant shows a client of the
own account, five records at a time.  Each table is asked for six rows after the cursor, and the two
kinds of requests are merged.

The texts of a record are a column here: paging does not look at them.  A moment is its time in
milliseconds, which the ISO texts of the source compare like, and ids compare as texts.
-/

namespace KmtLegal

open Relational Js

/-! ## Records and cursors -/

def RecordKind.text : RecordKind → String
  | consultation => "CONSULTATION"
  | serviceRequest => "SERVICE_REQUEST"
  | case => "CASE"
  | hearing => "HEARING"
  | appointment => "APPOINTMENT"
  | document => "DOCUMENT"
  | payment => "PAYMENT"
  | conversation => "CONVERSATION"
  | profile => "PROFILE"

theorem RecordKind.text_injective : Function.Injective RecordKind.text := by
  intro a b h
  cases a <;> cases b <;> first | rfl | exact absurd h (by decide)

/-- The category of the records of one kind. -/
def RecordKind.category : RecordKind → FollowupCategory
  | consultation => .consultation
  | serviceRequest => .serviceRequest
  | case => .case
  | hearing => .hearing
  | appointment => .appointment
  | document => .document
  | payment => .payment
  | conversation => .conversation
  | profile => .profile

/-- `assistantCursor`; the moment is that of the record's last change. -/
structure RecordCursor extends RecordRef where
  updatedAt : Time
  deriving DecidableEq

/-- What the client reads of a record. -/
structure RecordTexts where
  reference : String := ""
  title : String := ""
  status : String := ""
  facts : List (String × String) := []
  deriving DecidableEq

structure ClientRecord extends RecordCursor, RecordTexts
  deriving DecidableEq

abbrev ClientRecordPage := Paging.Page ClientRecord RecordCursor

/-- `after(cursor, kind)`, of a row. -/
def after (cursor : Option RecordCursor) (kind : RecordKind) (id : Uuid) (updatedAt : Time) : Bool :=
  match cursor with
  | none => true
  | some cursor =>
    updatedAt < cursor.updatedAt ∨ (updatedAt = cursor.updatedAt ∧ id > cursor.id) ∨
      (kind.text > cursor.kind.text ∧ updatedAt = cursor.updatedAt ∧ id = cursor.id)

/-- The comparison `page` sorts with. -/
def ClientRecord.compare (a b : ClientRecord) : Ordering :=
  (Ord.compare b.updatedAt a.updatedAt).then
    ((Ord.compare a.id b.id).then (Ord.compare a.kind.text b.kind.text))

/-- `page(records)`. -/
def page (records : List ClientRecord) : ClientRecordPage :=
  let records := records.insertionSort fun a b ↦ a.compare b ≠ .gt
  let shown := records.take 5
  { records := shown
    hasMore := records.length > 5
    cursor := if records.length > 5 then shown.getLast?.map (·.toRecordCursor) else none }

/-! ## The tables of an account -/

/-- A hearing of a case. -/
structure CaseSession where
  caseId : Uuid
  deriving DecidableEq

/-- Whose document it is. -/
structure DocumentOwner where
  ownerClientId : Option Uuid := none
  caseId : Option Uuid := none
  deriving DecidableEq

/-- The database with what only the listing reads. -/
structure PortalStore where
  db : Database
  caseSessions : Table Uuid CaseSession := ∅
  documentOwner : Uuid → DocumentOwner := fun _ ↦ {}
  /-- The column of that name, of the rows that do not carry it. -/
  updatedAt : RecordKind → Uuid → Time := fun _ _ ↦ 0
  texts : RecordKind → Uuid → PublicLocale → RecordTexts := fun _ _ _ ↦ {}

/-- A table with the rows an account may see of it. -/
structure RecordSource where
  Row : Type
  table : Table Uuid Row
  updatedAt : Uuid → Row → Time
  own : Except Failure (Uuid → Row → Bool)

namespace PortalStore

variable (s : PortalStore) (actor : Principal)

/-- `ownConsultationRequestWhere(actor)`. -/
def ownConsultationRequestWhere : Except Failure (Uuid → ConsultationRequest → Bool) := do
  let clientId ← assertClientPortalAccess actor
  pure fun _ row ↦ row.clientId = some clientId ∧ (s.db.clients.lookup clientId).any fun c ↦
    c.userId = some actor.id ∧ c.deletedAt = none

/-- `ownCaseWhere(actor)`. -/
def ownCaseWhere : Except Failure (LegalCase → Bool) := do
  let clientId ← assertClientPortalAccess actor
  pure fun row ↦ row.clientId = clientId ∧ row.deletedAt = none

/-- `ownVisiblePortalAppointmentWhere(actor)`. -/
def ownVisiblePortalAppointmentWhere : Except Failure (Uuid → Appointment → Bool) := do
  let clientId ← assertClientPortalAccess actor
  pure fun _ row ↦ row.clientId = clientId ∧ row.type ≠ .internalMeeting ∧
    row.caseId.all fun caseId ↦ (s.db.legalCases.lookup caseId).any fun c ↦ c.deletedAt = none

/-- `clientVisibleDocumentWhere(actor.clientId)`. -/
def clientVisibleDocumentWhere (id : Uuid) (row : Document) : Bool :=
  let owner := s.documentOwner id
  row.deletedAt = none ∧ row.visibility = .clientVisible ∧ (owner.ownerClientId = actor.clientId ∨
    (owner.caseId.bind s.db.legalCases.lookup).any fun c ↦ some c.clientId = actor.clientId)

/-- `portalVisiblePaymentWhere(actor.clientId)`. -/
def portalVisiblePaymentWhere (row : Payment) : Bool :=
  some row.clientId = actor.clientId ∧ row.status ∈ [.issued, .pending, .paid, .overdue, .cancelled]

/-- `ownClientWhere(actor)`; the id of a reference replaces that of the account. -/
def ownClientWhere (ref : Option RecordRef) : Except Failure (Uuid → Client → Bool) := do
  let clientId ← assertClientPortalAccess actor
  pure fun id row ↦ id = (ref.map (·.id)).getD clientId ∧ row.userId = some actor.id

/-- What the listing asks for the records of a kind. -/
def source (ref : Option RecordRef) : RecordKind → RecordSource
  | .consultation =>
    { Row := ConsultationRequest
      table := s.db.consultationRequests
      updatedAt := fun id _ ↦ s.updatedAt .consultation id
      own := s.ownConsultationRequestWhere actor }
  | .serviceRequest =>
    { Row := ServiceRequest
      table := s.db.serviceRequests
      updatedAt := fun id _ ↦ s.updatedAt .serviceRequest id
      own := do
        let own ← serviceRequestWhere s.db actor
        pure fun _ row ↦ own row }
  | .case =>
    { Row := LegalCase
      table := s.db.legalCases
      updatedAt := fun id _ ↦ s.updatedAt .case id
      own := do
        let own ← ownCaseWhere actor
        pure fun _ row ↦ own row }
  | .appointment =>
    { Row := Appointment
      table := s.db.appointments
      updatedAt := fun id _ ↦ s.updatedAt .appointment id
      own := s.ownVisiblePortalAppointmentWhere actor }
  | .hearing =>
    { Row := CaseSession
      table := s.caseSessions
      updatedAt := fun id _ ↦ s.updatedAt .hearing id
      own := do
        let own ← ownCaseWhere actor
        pure fun _ row ↦ (s.db.legalCases.lookup row.caseId).any own }
  | .document =>
    { Row := Document
      table := s.db.documents
      updatedAt := fun id _ ↦ s.updatedAt .document id
      own := pure (s.clientVisibleDocumentWhere actor) }
  | .payment =>
    { Row := Payment
      table := s.db.payments
      updatedAt := fun id _ ↦ s.updatedAt .payment id
      own := pure fun _ row ↦ portalVisiblePaymentWhere actor row }
  | .conversation =>
    { Row := ConversationThread
      table := s.db.conversationThreads
      updatedAt := fun _ row ↦ row.updatedAt
      own := do
        throwIf (!canUseClientConversations actor)
          (.permissionDenied "Conversation access required.")
        pure fun _ row ↦ row.clientId = actor.clientId }
  | .profile =>
    { Row := Client
      table := s.db.clients
      updatedAt := fun _ row ↦ row.updatedAt
      own := ownClientWhere actor ref }

end PortalStore

/-! ## The listing -/

/-- A call of `listClientAssistantRecords`, without the cursor. -/
structure ListClientAssistantRecords where
  actor : Principal
  category : FollowupCategory
  locale : PublicLocale
  ref : Option RecordRef := none

namespace ListClientAssistantRecords

variable (call : ListClientAssistantRecords) (s : PortalStore)

/-- `include(kind)`. -/
def includes (kind : RecordKind) : Bool :=
  call.ref.all (·.kind = kind) ∧ (call.category = kind.category ∨
    (call.category = .requests ∧ kind ∈ [.consultation, .serviceRequest]))

/-- What becomes of a row. -/
def record (kind : RecordKind) {ρ : Type} (updatedAt : Uuid → ρ → Time) (e : Uuid × ρ) :
    ClientRecord :=
  { kind, id := e.1, updatedAt := updatedAt e.1 e.2, toRecordTexts := s.texts kind e.1 call.locale }

/-- The first six rows after the cursor, by `order`. -/
def findMany (cursor : Option RecordCursor) (kind : RecordKind) : Except Failure (List ClientRecord) := do
  let source := s.source call.actor call.ref kind
  let own ← source.own
  let rows := source.table.findMany
    (fun id row ↦ own id row ∧ after cursor kind id (source.updatedAt id row) ∧
      call.ref.all (·.id = id))
    (fun a b ↦ source.updatedAt b.1 b.2 < source.updatedAt a.1 a.2 ∨
      (source.updatedAt a.1 a.2 = source.updatedAt b.1 b.2 ∧ a.1 ≤ b.1)) 6
  return rows.map (call.record s kind source.updatedAt)

/-- The one row of the account itself. -/
def findProfile : Except Failure (List ClientRecord) := do
  let source := s.source call.actor call.ref .profile
  let own ← source.own
  return (source.table.findFirst own).toList.map (call.record s .profile source.updatedAt)

/-- The records of a kind, if they are asked for. -/
def find (cursor : Option RecordCursor) (kind : RecordKind) : Except Failure (List ClientRecord) :=
  if call.includes kind then
    if kind = .profile then call.findProfile s else call.findMany s cursor kind
  else pure []

/-- `listClientAssistantRecords(actor, category, locale, cursor, ref)`. -/
def run (cursor : Option RecordCursor) : Except Failure ClientRecordPage := do
  let _ ← assertActiveServiceClient s.db call.actor
  let consultations ← call.find s cursor .consultation
  let serviceRequests ← call.find s cursor .serviceRequest
  let cases ← call.find s cursor .case
  let appointments ← call.find s cursor .appointment
  let hearings ← call.find s cursor .hearing
  let documents ← call.find s cursor .document
  let payments ← call.find s cursor .payment
  let conversations ← call.find s cursor .conversation
  let profile ← call.find s cursor .profile
  return page (consultations ++ serviceRequests ++ cases ++ appointments ++ hearings ++ documents ++
    payments ++ conversations ++ profile)

end ListClientAssistantRecords

end KmtLegal
