import KmtLegal.Auth.Policy
import KmtLegal.Documents.UploadPolicy

/-!
# Stored documents

The columns of a document that the shared database does not have, the private files, and who may
read a document: `canReadDocument` on a row that was loaded, and the `where` clauses of the lists.
-/

namespace KmtLegal

open Relational Js

inductive DocumentCategory where
  | contract | courtFile | identity | evidence | payment | other
  deriving DecidableEq

inductive DocumentStatus where
  | new | underReview | needsClarification | accepted | rejected | deleted
  deriving DecidableEq

/-- The other columns of a document. -/
structure DocumentFile where
  ownerClientId : Option Uuid := none
  caseId : Option Uuid := none
  paymentId : Option Uuid := none
  uploadedById : Uuid
  fileName : Units
  fileKey : String
  fileType : String
  fileSize : ℕ
  category : DocumentCategory := .other
  status : DocumentStatus := .new
  deriving DecidableEq

structure DocumentStore where
  db : Database
  /-- By the id of the document. -/
  documentFiles : Table Uuid DocumentFile := ∅
  /-- The private files, by their keys. -/
  files : Table String (List UInt8) := ∅

/-! ## A document with what it refers to -/

/-- What `canReadDocument` and the scopes read of a document. -/
structure ReadableDocument where
  visibility : DocumentVisibility
  deletedAt : Option Time
  serviceRequest : Option ServiceRequest
  ownerClientId : Option Uuid
  ownerClient : Option Client
  case : Option LegalCase
  /-- The client of the case. -/
  caseClient : Option Client

/-- The document under an id, with its relations. -/
def DocumentStore.readable (s : DocumentStore) (documentId : Uuid) : Option ReadableDocument := do
  let document ← s.db.documents.lookup documentId
  let file ← s.documentFiles.lookup documentId
  let case := file.caseId.bind s.db.legalCases.lookup
  return {
    visibility := document.visibility
    deletedAt := document.deletedAt
    serviceRequest := document.serviceRequestId.bind s.db.serviceRequests.lookup
    ownerClientId := file.ownerClientId
    ownerClient := file.ownerClientId.bind s.db.clients.lookup
    case
    caseClient := case.bind fun c ↦ s.db.clients.lookup c.clientId }

section

variable (actor : Principal) (document : ReadableDocument)

/-- `document.ownerClient?.userId ?? document.case?.client?.userId ?? null`. -/
def ReadableDocument.ownerUserId : Option Uuid :=
  (document.ownerClient.bind Client.userId).orElse fun _ ↦ document.caseClient.bind Client.userId

/-- The branch of `canReadDocument` for the client the document belongs to. -/
def canReadOwnDocument : Bool :=
  hasPermission actor "document.read.own" ∧ document.ownerUserId = some actor.id ∧
    document.visibility = .clientVisible

/-- The branch of `canReadDocument` for the lawyer it is assigned to. -/
def canReadAssignedDocument : Bool :=
  hasPermission actor "document.read.assigned" &&
    match document.serviceRequest with
    | some request => decide (request.assignedLawyerId = some actor.id)
    | none =>
      decide (document.ownerClient.bind Client.assignedLawyerId = some actor.id) ||
        decide (document.case.map LegalCase.assignedLawyerId = some actor.id)

/-- `canReadDocument(actor, document)`. -/
def canReadDocument : Bool :=
  hasPermission actor "document.manage.any" || canReadOwnDocument actor document ||
    canReadAssignedDocument actor document

end

end KmtLegal
