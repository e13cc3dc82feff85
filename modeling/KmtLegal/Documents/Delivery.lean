import KmtLegal.Documents.Upload
import KmtLegal.Relational.Interleaving
import KmtLegal.Services.Engagement

/-!
# Deliveries

Uploads, the actions on a service request and the work of the office on stored documents, step by
step in any order.  `uploadDocument` is three steps of a process of its own: its checks, the write
of the file, and the transaction.
-/

namespace KmtLegal

open Relational Js

/-! ## The office's work on documents -/

/-- A call of `updateAdminDocument`. -/
structure UpdateAdminDocument where
  actor : Principal
  documentId : Uuid
  status : DocumentStatus
  category : DocumentCategory
  visibility : DocumentVisibility

/-- A call of `deleteAdminDocument`. -/
structure DeleteAdminDocument where
  actor : Principal
  documentId : Uuid
  now : Time

section

variable (s : DocumentStore)

/-- `findDocumentForAction(actor, documentId)`. -/
def findDocumentForAction (actor : Principal) (documentId : Uuid) : Except Failure Unit := do
  let document ← orThrow ((s.readable documentId).filter fun d ↦ d.deletedAt = none)
    (.notFound "Document was not found.")
  throwIf (!canReadDocument actor document)
    (.permissionDenied "Document is outside your permission scope.")

/-- `canManageAdminDocuments(actor)`. -/
def canManageAdminDocuments (actor : Principal) : Bool := hasPermission actor "document.manage.any"

/-- The rows of a document that is there and not deleted, rewritten. -/
def DocumentStore.updateDocument (documentId : Uuid) (f : Document → Document)
    (g : DocumentFile → DocumentFile) : Except Failure DocumentStore := do
  throwIf (!(s.db.documents.lookup documentId).any fun d ↦ d.deletedAt = none)
    (.notFound "Document was not found.")
  return { s with
    db := { s.db with documents := s.db.documents.update documentId f }
    documentFiles := s.documentFiles.update documentId g }

/-- `updateAdminDocument(input)`. -/
def updateAdminDocument (call : UpdateAdminDocument) : Except Failure DocumentStore := do
  throwIf (!canManageAdminDocuments call.actor)
    (.permissionDenied "Document management permission is required.")
  findDocumentForAction s call.actor call.documentId
  s.updateDocument call.documentId (fun d ↦ { d with visibility := call.visibility })
    fun f ↦ { f with status := call.status, category := call.category }

/-- `deleteAdminDocument(input)`. -/
def deleteAdminDocument (call : DeleteAdminDocument) : Except Failure DocumentStore := do
  throwIf (!canManageAdminDocuments call.actor)
    (.permissionDenied "Document management permission is required.")
  findDocumentForAction s call.actor call.documentId
  s.updateDocument call.documentId (fun d ↦ { d with deletedAt := some call.now })
    fun f ↦ { f with status := .deleted }

end

/-! ## Steps -/

/-- Where an upload is. -/
inductive UploadStage where
  | idle
  | checked (call : UploadDocument) (ticket : UploadTicket)
  | saved (call : UploadDocument) (ticket : UploadTicket)

inductive DocumentStep where
  | check (call : UploadDocument)
  | save
  | commit
  | act (call : ActOnServiceRequest)
  | update (call : UpdateAdminDocument)
  | delete (call : DeleteAdminDocument)

/-- The state after a transaction of the database. -/
def commitDb (s : DocumentStore) (result : Except Failure Database) : DocumentStore :=
  match result with
  | .ok db => { s with db }
  | .error _ => s

/-- The state after a transaction of the store. -/
def commitStore (s : DocumentStore) (result : Except Failure DocumentStore) : DocumentStore :=
  match result with
  | .ok s' => s'
  | .error _ => s

section

variable (P : Platform)

/-- One step of one process; an upload whose checks or whose write fail is over. -/
def documentStep (step : DocumentStep) (s : DocumentStore) (stage : UploadStage) :
    DocumentStore × UploadStage :=
  match step, stage with
  | .check call, .idle =>
    match checkUpload P s call with
    | .ok ticket => (s, .checked call ticket)
    | .error _ => (s, .idle)
  | .save, .checked call ticket =>
    match savePrivateFile s call ticket with
    | .ok s' => (s', .saved call ticket)
    | .error _ => (s, .idle)
  | .commit, .saved call ticket => (commitUpload s call ticket, .idle)
  | .act call, stage => (commitDb s (actOnServiceRequest P s.db call), stage)
  | .update call, stage => (commitStore s (updateAdminDocument s call), stage)
  | .delete call, stage => (commitStore s (deleteAdminDocument s call), stage)
  | _, stage => (s, stage)

variable {ω : Type} [DecidableEq ω]

/-- One step of the whole. -/
def stepDocuments : Processes ω DocumentStore UploadStage → ω × DocumentStep →
    Processes ω DocumentStore UploadStage :=
  interleave fun _ ↦ documentStep P

end

/-! ## What a step does -/

/-- What one step can do to the documents and the requests. -/
inductive DocumentChange (P : Platform) (s s' : DocumentStore) (step : DocumentStep) : Prop
  | kept (h : s'.db = s.db)
  | acted (call : ActOnServiceRequest) (h : actOnServiceRequest P s.db call = .ok s'.db)
  | uploaded (call : UploadDocument) (ticket : UploadTicket)
      (h : createUploadedDocument s call ticket = .ok s')
  | updated (call : UpdateAdminDocument) (hstep : step = .update call)
      (h : updateAdminDocument s call = .ok s')
  | deleted (call : DeleteAdminDocument) (hstep : step = .delete call)
      (h : deleteAdminDocument s call = .ok s')

section

variable {P : Platform} {s s' : DocumentStore} {ω : Type} [DecidableEq ω]

theorem commitDb_change {step : DocumentStep} {call : ActOnServiceRequest} :
    DocumentChange P s (commitDb s (actOnServiceRequest P s.db call)) step := by
  unfold commitDb
  split
  · rename_i db hact
    exact .acted call hact
  · exact .kept rfl

theorem documentStep_change (step : DocumentStep) (s : DocumentStore) (stage : UploadStage) :
    DocumentChange P s (documentStep P step s stage).1 step := by
  cases step with
  | check call =>
    cases stage with
    | idle =>
      unfold documentStep
      simp only
      split <;> exact .kept rfl
    | checked | saved => exact .kept rfl
  | save =>
    cases stage with
    | checked call ticket =>
      unfold documentStep
      simp only
      split
      · rename_i s' hsave
        simp only [savePrivateFile, bind_eq_ok, pure_eq_ok] at hsave
        obtain ⟨_, -, rfl⟩ := hsave
        exact .kept rfl
      · exact .kept rfl
    | idle | saved => exact .kept rfl
  | commit =>
    cases stage with
    | saved call ticket =>
      change DocumentChange P s (commitUpload s call ticket) .commit
      unfold commitUpload
      split
      · rename_i s' hcreate
        exact .uploaded call ticket hcreate
      · exact .kept rfl
    | idle | checked => exact .kept rfl
  | act call =>
    change DocumentChange P s (commitDb s (actOnServiceRequest P s.db call)) _
    exact commitDb_change
  | update call =>
    change DocumentChange P s (commitStore s (updateAdminDocument s call)) _
    unfold commitStore
    split
    · rename_i s' hupdate
      exact .updated call rfl hupdate
    · exact .kept rfl
  | delete call =>
    change DocumentChange P s (commitStore s (deleteAdminDocument s call)) _
    unfold commitStore
    split
    · rename_i s' hdelete
      exact .deleted call rfl hdelete
    · exact .kept rfl

theorem stepDocuments_change (s : Processes ω DocumentStore UploadStage) (i : ω × DocumentStep) :
    DocumentChange P s.store (stepDocuments P s i).store i.2 :=
  documentStep_change i.2 s.store (s.process i.1)

/-! ### Actions on a request -/

/-- Only the staff make a request ready, and only where a delivery is shown. -/
theorem transitionService_documents {db : Database} {call : ActOnServiceRequest}
    {row : ServiceRequest} {status : ServiceTransition} {body : String} {effect : ServiceEffect}
    (h : transitionService db call row status body = .ok effect) :
    effect.db.documents = db.documents ∧
      ((effect.change row).status = .ready → hasDelivery db call) := by
  have hown : ownTransition row .ready body = false := rfl
  unfold transitionService at h
  split at h
  · simp only [bind_eq_ok, throwIf_eq_ok, pure_eq_ok] at h
    obtain ⟨_, howns, rfl⟩ := h
    refine ⟨rfl, ?_⟩
    intro hready
    cases status with
    | ready => exact absurd howns (by rw [hown]; decide)
    | needsInformation | completed | cancelled | inProgress => cases hready
  · simp only [bind_eq_ok, throwIf_eq_ok, pure_eq_ok, not_and] at h
    obtain ⟨_, -, _, -, _, hdelivery, rfl⟩ := h
    refine ⟨rfl, ?_⟩
    intro hready
    cases status with
    | ready => simpa using hdelivery rfl
    | needsInformation | completed | cancelled | inProgress => cases hready

/-- No action touches a document, and none leads to `READY` but where a delivery is shown. -/
theorem serviceEffect_documents {db : Database} {call : ActOnServiceRequest} {row : ServiceRequest}
    {effect : ServiceEffect} (h : serviceEffect P db call row = .ok effect) :
    effect.db.documents = db.documents ∧
      ((effect.change row).status = .ready → row.status = .ready ∨ hasDelivery db call) := by
  unfold serviceEffect at h
  split at h
  · simp only [saveIntake, bind_eq_ok, pure_eq_ok] at h
    obtain ⟨_, -, _, -, _, -, _, -, _, -, rfl⟩ := h
    exact ⟨rfl, .inl⟩
  · simp only [submitService, bind_eq_ok, pure_eq_ok, Prod.exists] at h
    obtain ⟨_, -, _, -, db', threadId, hthread, rfl⟩ := h
    have hframe := openServiceThread_frame hthread
    exact ⟨by rw [hframe], fun h ↦ by cases h⟩
  · simp only [assignService, bind_eq_ok, pure_eq_ok] at h
    obtain ⟨_, -, _, -, rfl⟩ := h
    exact ⟨rfl, .inl⟩
  · simp only [quoteService, bind_eq_ok, pure_eq_ok] at h
    obtain ⟨_, -, rfl⟩ := h
    exact ⟨rfl, fun h ↦ by cases h⟩
  · simp only [acceptService, bind_eq_ok] at h
    obtain ⟨_, -, quote, -, h⟩ := h
    split at h
    · simp only [bind_eq_ok, pure_eq_ok, Database.createPayment_eq_ok] at h
      obtain ⟨_, ⟨-, -, rfl⟩, rfl⟩ := h
      exact ⟨rfl, fun h ↦ by cases h⟩
    · cases h
    · cases h
  · simp only [messageService, bind_eq_ok] at h
    obtain ⟨_, -, _, -, h⟩ := h
    split at h
    · simp only [bind_eq_ok, pure_eq_ok] at h
      obtain ⟨db', hmessage, rfl⟩ := h
      have hframe := postServiceMessage_frame hmessage
      exact ⟨by rw [hframe], .inl⟩
    · cases h
      exact ⟨rfl, .inl⟩
  · obtain ⟨hdocuments, hready⟩ := transitionService_documents h
    exact ⟨hdocuments, fun hstatus ↦ .inr (hready hstatus)⟩

/-- What an action that succeeded leaves of the documents, and of a request. -/
theorem actOnServiceRequest_documents {db db' : Database} {call : ActOnServiceRequest}
    (h : actOnServiceRequest P db call = .ok db') :
    db'.documents = db.documents ∧ ∀ row', db'.serviceRequests.lookup call.id = some row' →
      row'.status = .ready →
        (∃ row, db.serviceRequests.lookup call.id = some row ∧ row.status = .ready) ∨
          hasDelivery db call := by
  simp only [actOnServiceRequest, bind_eq_ok, throwIf_eq_ok, orThrow_eq_ok, pure_eq_ok] at h
  obtain ⟨_, -, row, hrow, _, -, _, -, effect, heffect, _, -, rfl⟩ := h
  have hrow : db.serviceRequests.lookup call.id = some row := (Option.filter_eq_some_iff.mp hrow).1
  obtain ⟨hdocuments, hready⟩ := serviceEffect_documents heffect
  refine ⟨hdocuments, fun row' hrow' hstatus ↦ ?_⟩
  rw [(serviceEffect_ok heffect).1, Table.lookup_update_self, hrow, Option.map_some,
    Option.some.injEq] at hrow'
  subst hrow'
  rcases hready hstatus with hbefore | hdelivery
  · exact .inl ⟨row, hrow, hbefore⟩
  · exact .inr hdelivery

/-! ### The office's work -/

/-- What a rewritten document was. -/
theorem updateDocument_ok {documentId : Uuid} {f : Document → Document}
    {g : DocumentFile → DocumentFile} (h : s.updateDocument documentId f g = .ok s') :
    (∃ d, s.db.documents.lookup documentId = some d ∧ d.deletedAt = none) ∧
      s'.db = { s.db with documents := s.db.documents.update documentId f } := by
  simp only [DocumentStore.updateDocument, bind_eq_ok, throwIf_eq_ok, pure_eq_ok,
    Bool.not_eq_true, Bool.not_eq_false', Option.any_eq_true] at h
  obtain ⟨_, ⟨d, hd, hopen⟩, rfl⟩ := h
  exact ⟨⟨d, hd, of_decide_eq_true hopen⟩, rfl⟩

theorem updateAdminDocument_ok {call : UpdateAdminDocument}
    (h : updateAdminDocument s call = .ok s') :
    (∃ d, s.db.documents.lookup call.documentId = some d ∧ d.deletedAt = none) ∧
      s'.db = { s.db with documents := s.db.documents.update call.documentId fun d ↦
        { d with visibility := call.visibility } } := by
  simp only [updateAdminDocument, bind_eq_ok] at h
  obtain ⟨_, -, _, -, h⟩ := h
  exact updateDocument_ok h

theorem deleteAdminDocument_ok {call : DeleteAdminDocument}
    (h : deleteAdminDocument s call = .ok s') :
    (∃ d, s.db.documents.lookup call.documentId = some d ∧ d.deletedAt = none) ∧
      s'.db = { s.db with documents := s.db.documents.update call.documentId fun d ↦
        { d with deletedAt := some call.now } } := by
  simp only [deleteAdminDocument, bind_eq_ok] at h
  obtain ⟨_, -, _, -, h⟩ := h
  exact updateDocument_ok h

end

end KmtLegal
