import KmtLegal.Documents.Store
import KmtLegal.Services.ServiceRequest

/-!
# Uploading a document

`uploadDocument` checks the call against rows it reads without a lock, scans the file and writes it
to the private storage; only then does a transaction lock the service request, check it again, give
a delivery its version and create the row.  If the transaction fails the file is deleted.
-/

namespace KmtLegal

open Relational Js

/-! ## Calls -/

/-- What `documentUploadFieldsSchema` accepts. -/
structure DocumentUploadFields where
  ownerClientId : Option Uuid := none
  caseId : Option Uuid := none
  serviceRequestId : Option Uuid := none
  paymentId : Option Uuid := none
  delivery : Bool := false
  category : DocumentCategory := .other
  visibility : Option DocumentVisibility := none

/-- What the scanner finds; `skipped` where scanning is disabled. -/
inductive MalwareScan where
  | skipped | clean | infected | unavailable
  deriving DecidableEq

/-- A call of `uploadDocument`, with the environment, the scanner, the clock and the ids it draws. -/
structure UploadDocument where
  actor : Principal
  fields : DocumentUploadFields
  file : UploadCandidate
  env : UploadEnv := {}
  inflateRaw : InflateRaw := fun _ ↦ none
  scan : MalwareScan := .clean
  now : Time
  newFileId : Uuid
  newDocumentId : Uuid

/-! ## The checks before the transaction -/

section

variable (P : Platform) (s : DocumentStore) (call : UploadDocument)

/-- `hasPermission(actor, "document.manage.any")`. -/
def UploadDocument.isManager : Bool := hasPermission call.actor "document.manage.any"

/-- The invoice of payment evidence belongs to this client. -/
def uploadPaymentOwner : Except Failure (Option Uuid) :=
  match call.fields.paymentId with
  | none => .ok none
  | some paymentId => do
    throwIf (call.fields.serviceRequestId.isSome ∨ call.fields.caseId.isSome ∨ call.fields.delivery)
      (.of 400 .validationError "Payment evidence cannot be a delivery.")
    let payment ← orThrow ((s.db.payments.lookup paymentId).filter fun p ↦
      ((s.db.clients.lookup p.clientId).any fun c ↦ c.deletedAt = none ∧
        (call.isManager ∨ c.userId = some call.actor.id)) ∧
      (call.isManager ∨
        p.clientId = call.actor.clientId.getD "00000000-0000-0000-0000-000000000000"))
      (.notFound "Payment not found.")
    throwIf (payment.status = .draft ∨ ∃ owner ∈ call.fields.ownerClientId, owner ≠ payment.clientId)
      (.notFound "Payment not found.")
    return some payment.clientId

/-- `["COMPLETED", "CANCELLED"].includes(status)`. -/
def ServiceRequestStatus.takesNoUpload (status : ServiceRequestStatus) : Bool :=
  status ∈ [.completed, .cancelled]

/-- `assertDocumentUploadPermission(actor, fields)`. -/
def assertDocumentUploadPermission : Except Failure Unit :=
  if call.isManager then .ok ()
  else if hasPermission call.actor "document.upload.self" ∧ (orNull call.actor.clientId).isSome then
    throwIf (∃ owner ∈ call.fields.ownerClientId, some owner ≠ call.actor.clientId)
      (.permissionDenied "Cannot upload documents for another client.")
  else .error (.permissionDenied "Document upload permission is required.")

/-- `staff`, for a request with this lawyer. -/
def UploadDocument.isStaff (assignedLawyerId : Option Uuid) : Bool :=
  call.isManager ∨
    (hasPermission call.actor "case.update.assigned" ∧ assignedLawyerId = some call.actor.id)

/-- `serviceTarget`: the client of the service request the document is for. -/
def uploadServiceTarget : Except Failure (Option Uuid) :=
  match call.fields.serviceRequestId with
  | none => do
    assertDocumentUploadPermission call
    throwIf call.fields.delivery (.of 400 .validationError "A delivery needs a service request.")
    return none
  | some requestId => do
    let target ← orThrow ((s.db.serviceRequests.lookup requestId).filter fun r ↦
      !r.status.takesNoUpload) (.notFound "Request not found.")
    let own : Bool :=
      call.actor.roleName = "Client" ∧ call.actor.clientId = some target.clientId
    let _ ← if own then (assertActiveServiceClient s.db call.actor).map fun _ ↦ () else .ok ()
    let staff := call.isStaff target.assignedLawyerId
    throwIf ((!own ∧ !staff) ∨
        (call.fields.delivery ∧ (!staff ∨ target.status ≠ .inProgress)) ∨
        call.fields.caseId.isSome ∨
        ∃ owner ∈ call.fields.ownerClientId, owner ≠ target.clientId)
      (.permissionDenied "Request upload is not allowed.")
    return some target.clientId

/-- `assertMalwareScanSafe(bytes)`. -/
def assertMalwareScanSafe : Except Failure Unit :=
  match call.scan with
  | .skipped | .clean => .ok ()
  | .infected => .error (.of 422 .malwareDetected
      "The uploaded file failed the security scan and was rejected.")
  | .unavailable => .error (.of 503 .malwareScannerUnavailable
      "File security scanning is temporarily unavailable. Try again later.")

/-- The client of the actor, if she uploads for herself. -/
def UploadDocument.selfUpload : Option Uuid :=
  if hasPermission call.actor "document.upload.self" ∧ !call.isManager then
    orNull call.actor.clientId
  else none

/-- `assertDocumentUploadTargets(actor, fields, ownerClientId)`. -/
def assertDocumentUploadTargets (ownerClientId : Option Uuid) : Except Failure Unit := do
  if let some owner := ownerClientId then
    throwIf (!(s.db.clients.lookup owner).any fun c ↦ c.deletedAt = none)
      (.notFound "Document owner client was not found.")
    throwIf (∃ self ∈ call.selfUpload, owner ≠ self)
      (.permissionDenied "Cannot upload documents for another client.")
  if let some caseId := call.fields.caseId then
    let legalCase ← orThrow ((s.db.legalCases.lookup caseId).filter fun c ↦ c.deletedAt = none)
      (.notFound "Document case was not found.")
    throwIf (∃ self ∈ call.selfUpload, legalCase.clientId ≠ self)
      (.permissionDenied "Cannot upload documents to another client's case.")
    throwIf (∃ owner ∈ ownerClientId, owner ≠ legalCase.clientId)
      (.validation "Document owner client must match the selected case client.")

/-- `extensionForUpload(fileName, mimeType)`. -/
def extensionForUpload : String :=
  let allowed := allowedExtensionsByMime call.file.mimeType
  (allowed.find? fun e ↦ units e = getExtension call.file.fileName).getD (allowed.headD "bin")

/-- `generateDocumentFileKey(input)`. -/
def generateDocumentFileKey : String :=
  let date := String.ofList ((sliceTo (P.isoString call.now) 10).toList.map fun c ↦
    if c = '-' then '/' else c)
  "documents/" ++ date ++ "/" ++ call.newFileId ++ "." ++ extensionForUpload call

/-- What an upload takes from its checks to its transaction. -/
structure UploadTicket where
  ownerClientId : Option Uuid
  fileKey : String

/-- Everything before the file is saved. -/
def checkUpload : Except Failure UploadTicket := do
  let paymentOwner ← uploadPaymentOwner s call
  let serviceTarget ← uploadServiceTarget s call
  assertUploadAllowed P.lossyText call.inflateRaw (getUploadPolicy call.env) call.file
  assertMalwareScanSafe call
  let ownerClientId := (paymentOwner.orElse fun _ ↦ serviceTarget).orElse fun _ ↦
    call.selfUpload.orElse fun _ ↦ call.fields.ownerClientId
  assertDocumentUploadTargets s call ownerClientId
  return { ownerClientId, fileKey := generateDocumentFileKey P call }

/-- `savePrivateFile({ fileKey, bytes })`: no file is overwritten. -/
def savePrivateFile (ticket : UploadTicket) : Except Failure DocumentStore := do
  let files ← orThrow (s.files.create ticket.fileKey call.file.bytes) (.plain "EEXIST")
  return { s with files }

/-! ## The transaction -/

/-- The version of a document as a delivery of a request. -/
def Document.versionFor (requestId : Uuid) (d : Document) : Option ℕ :=
  if d.serviceRequestId = some requestId then d.deliveryVersion else none

/-- The versions of the deliveries of a request, in the order they were created. -/
def deliveryVersions (db : Database) (requestId : Uuid) : List ℕ :=
  (db.documents.rows.filterMap fun e ↦ e.2.versionFor requestId).reverse

/-- `_max.deliveryVersion ?? 0`. -/
def maxDeliveryVersion (db : Database) (requestId : Uuid) : ℕ :=
  (deliveryVersions db requestId).foldr max 0

/-- The store with one more document. -/
def DocumentStore.withDocument (s : DocumentStore) (id : Uuid) (row : Document)
    (file : DocumentFile) : DocumentStore :=
  { s with
    db := { s.db with documents := s.db.documents.insert id row }
    documentFiles := s.documentFiles.insert id file }

/-- `tx.document.create`. -/
def DocumentStore.createDocument (s : DocumentStore) (id : Uuid) (row : Document)
    (file : DocumentFile) : Except Failure DocumentStore := do
  throwIf (s.documentFiles.any fun _ f ↦ f.fileKey = file.fileKey) .uniqueConstraint
  throwIf (row.serviceRequestId.isSome ∧ row.deliveryVersion.isSome ∧ s.db.documents.any fun _ d ↦
    d.serviceRequestId = row.serviceRequestId ∧ d.deliveryVersion = row.deliveryVersion)
    .uniqueConstraint
  throwIf (s.db.documents.lookup id ≠ none) .uniqueConstraint
  return s.withDocument id row file

/-- The part of the transaction under the lock of the service request: the version of a delivery,
and the database with the next revision. -/
def uploadUnderLock (requestId : Uuid) : Except Failure (Option ℕ × Database) := do
  let current ← orThrow (s.db.serviceRequests.lookup requestId) .recordNotFound
  throwIf (current.status.takesNoUpload ∨
      (call.fields.delivery ∧ current.status ≠ .inProgress))
    (.conflict "The request changed during upload.")
  throwIf (!call.isManager ∧ call.actor.clientId ≠ some current.clientId ∧
      !(hasPermission call.actor "case.update.assigned" ∧
        current.assignedLawyerId = some call.actor.id))
    (.permissionDenied "Request assignment changed.")
  let deliveryVersion :=
    if call.fields.delivery then some (maxDeliveryVersion s.db requestId + 1) else none
  return (deliveryVersion, { s.db with
    serviceRequests := s.db.serviceRequests.update requestId fun r ↦
      { r with revision := r.revision + 1 } })

/-- The same for every upload. -/
def uploadVersion : Except Failure (Option ℕ × Database) :=
  match call.fields.serviceRequestId with
  | some requestId => uploadUnderLock s call requestId
  | none => .ok (none, s.db)

/-- The row an upload creates, without its file. -/
def uploadedDocument (ticket : UploadTicket) (deliveryVersion : Option ℕ) : Document where
  serviceRequestId := call.fields.serviceRequestId
  deliveryVersion
  visibility :=
    if call.fields.delivery then .clientVisible
    else call.fields.visibility.getD
      (if ticket.ownerClientId.isSome then .clientVisible else .staffOnly)

def uploadedFile (ticket : UploadTicket) : DocumentFile where
  ownerClientId := ticket.ownerClientId
  caseId := call.fields.caseId
  paymentId := call.fields.paymentId
  uploadedById := call.actor.id
  fileName := call.file.fileName
  fileKey := ticket.fileKey
  fileType := call.file.mimeType
  fileSize := call.file.sizeBytes
  category := if call.fields.paymentId.isSome then .payment else call.fields.category

/-- The transaction. -/
def createUploadedDocument (ticket : UploadTicket) : Except Failure DocumentStore := do
  let (deliveryVersion, db) ← uploadVersion s call
  { s with db }.createDocument call.newDocumentId
    (uploadedDocument call ticket deliveryVersion) (uploadedFile call ticket)

/-- `deletePrivateFileBestEffort({ fileKey })`. -/
def deletePrivateFile (fileKey : String) : DocumentStore :=
  { s with files := s.files.erase fileKey }

/-- The transaction, and what is left if it fails. -/
def commitUpload (ticket : UploadTicket) : DocumentStore :=
  match createUploadedDocument s call ticket with
  | .ok s' => s'
  | .error _ => deletePrivateFile s ticket.fileKey

/-- `uploadDocument(input)` with nothing in between. -/
def uploadDocument : Except Failure DocumentStore := do
  let ticket ← checkUpload P s call
  let s ← savePrivateFile s call ticket
  createUploadedDocument s call ticket

end

/-! ## What an upload did -/

section

variable {P : Platform} {s s' : DocumentStore} {call : UploadDocument} {ticket : UploadTicket}

theorem createDocument_eq_ok {id : Uuid} {row : Document} {file : DocumentFile}
    (h : s.createDocument id row file = .ok s') :
    s.db.documents.lookup id = none ∧ s.withDocument id row file = s' := by
  simp only [DocumentStore.createDocument, bind_eq_ok, throwIf_eq_ok, pure_eq_ok, ne_eq,
    not_not] at h
  obtain ⟨_, -, _, -, _, hnone, rfl⟩ := h
  exact ⟨hnone, rfl⟩

/-- What the part under the lock tells of the request, and what it did. -/
theorem uploadUnderLock_ok {requestId : Uuid} {version : Option ℕ} {db : Database}
    (h : uploadUnderLock s call requestId = .ok (version, db)) :
    ∃ row, s.db.serviceRequests.lookup requestId = some row ∧ row.status.takesNoUpload = false ∧
      (call.fields.delivery → row.status = .inProgress) ∧
      version = (if call.fields.delivery then some (maxDeliveryVersion s.db requestId + 1)
        else none) ∧
      db = { s.db with
        serviceRequests := s.db.serviceRequests.update requestId fun r ↦
          { r with revision := r.revision + 1 } } := by
  simp only [uploadUnderLock, bind_eq_ok, throwIf_eq_ok, orThrow_eq_ok, pure_eq_ok,
    Prod.mk.injEq, not_or, Bool.not_eq_true, not_and, ne_eq, not_not] at h
  obtain ⟨row, hrow, _, ⟨hopen, hprogress⟩, _, -, rfl, rfl⟩ := h
  exact ⟨row, hrow, hopen, hprogress, rfl, rfl⟩

theorem uploadVersion_documents {version : Option ℕ} {db : Database}
    (h : uploadVersion s call = .ok (version, db)) : db.documents = s.db.documents := by
  unfold uploadVersion at h
  split at h
  · obtain ⟨row, -, -, -, -, rfl⟩ := uploadUnderLock_ok h
    rfl
  · cases h
    rfl

/-- What a transaction that succeeded did. -/
theorem createUploadedDocument_ok (h : createUploadedDocument s call ticket = .ok s') :
    ∃ version db, uploadVersion s call = .ok (version, db) ∧
      s.db.documents.lookup call.newDocumentId = none ∧
      s' = { s with db }.withDocument call.newDocumentId (uploadedDocument call ticket version)
        (uploadedFile call ticket) := by
  simp only [createUploadedDocument, bind_eq_ok, Prod.exists] at h
  obtain ⟨version, db, hversion, hcreate⟩ := h
  obtain ⟨hnone, rfl⟩ := createDocument_eq_ok hcreate
  refine ⟨version, db, hversion, ?_, rfl⟩
  rw [← uploadVersion_documents hversion]
  exact hnone

theorem uploadDocument_ok (h : uploadDocument P s call = .ok s') :
    ∃ ticket s₁, checkUpload P s call = .ok ticket ∧
      createUploadedDocument s₁ call ticket = .ok s' := by
  simp only [uploadDocument, bind_eq_ok] at h
  obtain ⟨ticket, hcheck, s₁, -, hcreate⟩ := h
  exact ⟨ticket, s₁, hcheck, hcreate⟩

/-- Files that pass the checks have one of the five types. -/
theorem fileType_mem_of_checkUpload (h : checkUpload P s call = .ok ticket) :
    call.file.mimeType ∈ defaultAllowedUploadTypes := by
  simp only [checkUpload, bind_eq_ok] at h
  obtain ⟨_, -, _, -, _, hallowed, -⟩ := h
  exact mimeType_mem_of_allowed hallowed

end

/-- A manager uploads a small PDF file. -/
def pdfUpload (fileName : String) (fields : DocumentUploadFields) : UploadDocument where
  actor := { id := "manager", roleName := "Super Admin" }
  fields
  file := {
    fileName := units fileName
    mimeType := "application/pdf"
    sizeBytes := 6
    bytes := utf8 "%PDF-1" }
  now := 0
  newFileId := fileName
  newDocumentId := fileName

end KmtLegal
