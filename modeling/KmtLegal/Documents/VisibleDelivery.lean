import KmtLegal.Documents.DeliveryVersions

/-!
# What a waiting client is shown

A request becomes `READY` only where a delivery is shown to the client.  The office can hide or
delete the delivery afterwards, whatever the state of the request; everything else keeps it there.
-/

namespace KmtLegal

open Relational Js

section

variable {P : Platform} {requestId : Uuid} {s s' : DocumentStore} {step : DocumentStep}

/-- The client is shown this delivery of the request. -/
def IsShown (requestId : Uuid) (d : Document) : Prop :=
  d.serviceRequestId = some requestId ∧ d.deletedAt = none ∧ d.deliveryVersion.isSome ∧
    d.visibility = .clientVisible

instance (requestId : Uuid) : DecidablePred (IsShown requestId) := fun _ ↦
  inferInstanceAs (Decidable (_ ∧ _ ∧ _ ∧ _))

/-- The request waits for the client's acceptance. -/
def IsReady (db : Database) (requestId : Uuid) : Prop :=
  ∃ row, db.serviceRequests.lookup requestId = some row ∧ row.status = .ready

/-- A request that waits for the client's acceptance shows a delivery. -/
def ReadyShows (db : Database) (requestId : Uuid) : Prop :=
  IsReady db requestId → ∃ k d, db.documents.lookup k = some d ∧ IsShown requestId d

/-- The document is the only delivery that is shown, and the client is waiting. -/
def IsLastShown (s : DocumentStore) (requestId documentId : Uuid) : Prop :=
  IsReady s.db requestId ∧
    (∃ d, s.db.documents.lookup documentId = some d ∧ IsShown requestId d) ∧
    ∀ k d, s.db.documents.lookup k = some d → IsShown requestId d → k = documentId

/-- The step hides or deletes the last delivery a waiting client is shown. -/
def Withdraws (requestId : Uuid) (s : DocumentStore) : DocumentStep → Prop
  | .update call => canManageAdminDocuments call.actor ∧
      findDocumentForAction s call.actor call.documentId = .ok () ∧
      call.visibility ≠ .clientVisible ∧ IsLastShown s requestId call.documentId
  | .delete call => canManageAdminDocuments call.actor ∧
      findDocumentForAction s call.actor call.documentId = .ok () ∧
      IsLastShown s requestId call.documentId
  | _ => False

/-! ## Steps -/

theorem hasDelivery_shown {db : Database} {call : ActOnServiceRequest} (h : hasDelivery db call) :
    ∃ k d, db.documents.lookup k = some d ∧ IsShown call.id d := by
  obtain ⟨k, d, hd, hshown⟩ := Table.any_iff.mp h
  exact ⟨k, d, hd, of_decide_eq_true hshown⟩

/-- Rewriting one document takes nothing away from a waiting client but the last delivery. -/
theorem ReadyShows.rewrite {documentId : Uuid} {f : Document → Document}
    (h : ReadyShows s.db requestId)
    (hdb : s'.db = { s.db with documents := s.db.documents.update documentId f })
    (hf : IsLastShown s requestId documentId → ∀ d, IsShown requestId d → IsShown requestId (f d)) :
    ReadyShows s'.db requestId := by
  rw [hdb]
  intro hready
  by_cases hother : ∃ k d, k ≠ documentId ∧ s.db.documents.lookup k = some d ∧ IsShown requestId d
  · obtain ⟨k, d, hne, hd, hshown⟩ := hother
    exact ⟨k, d, (Table.lookup_update_of_ne _ _ hne).trans hd, hshown⟩
  · have honly : ∀ k d, s.db.documents.lookup k = some d → IsShown requestId d → k = documentId := by
      intro k d hd hshown
      by_contra hne
      exact hother ⟨k, d, hne, hd, hshown⟩
    obtain ⟨k, d, hd, hshown⟩ := h hready
    obtain rfl := honly k d hd hshown
    refine ⟨k, f d, ?_, hf ⟨hready, ⟨d, hd, hshown⟩, honly⟩ d hshown⟩
    rw [Table.lookup_update_self, hd]
    rfl

/-- A document that is rewritten to one that is not shown is not there for the client. -/
theorem not_readyShows_rewrite {documentId : Uuid} {f : Document → Document}
    (hlast : IsLastShown s requestId documentId)
    (hdb : s'.db = { s.db with documents := s.db.documents.update documentId f })
    (hf : ∀ d, ¬IsShown requestId (f d)) : ¬ReadyShows s'.db requestId := by
  obtain ⟨hready, -, honly⟩ := hlast
  rw [hdb]
  intro h
  obtain ⟨k, d, hd, hshown⟩ := h hready
  have hd : (s.db.documents.update documentId f).lookup k = some d := hd
  rw [Table.lookup_update] at hd
  split_ifs at hd with hk
  · obtain ⟨d', -, rfl⟩ := Option.map_eq_some_iff.mp hd
    exact hf d' hshown
  · exact hk (honly k d hd hshown)

/-- The version an upload gets makes no request ready. -/
theorem isReady_of_uploadVersion {call : UploadDocument} {version : Option ℕ} {db : Database}
    (h : uploadVersion s call = .ok (version, db)) (hready : IsReady db requestId) :
    IsReady s.db requestId := by
  obtain ⟨row', hrow', hstatus⟩ := hready
  unfold uploadVersion at h
  split at h
  · obtain ⟨row, -, -, -, -, rfl⟩ := uploadUnderLock_ok h
    have hrow' : (s.db.serviceRequests.update _ _).lookup requestId = some row' := hrow'
    rw [Table.lookup_update] at hrow'
    split_ifs at hrow'
    · obtain ⟨row₀, hrow₀, rfl⟩ := Option.map_eq_some_iff.mp hrow'
      exact ⟨row₀, hrow₀, hstatus⟩
    · exact ⟨row', hrow', hstatus⟩
  · cases h
    exact ⟨row', hrow', hstatus⟩

/-- Everything but hiding and deleting the last delivery keeps it in sight. -/
theorem DocumentChange.readyShows (h : DocumentChange P s s' step)
    (hs : ReadyShows s.db requestId) (hstep : ¬Withdraws requestId s step) :
    ReadyShows s'.db requestId := by
  cases h with
  | kept h => rwa [h]
  | acted call h =>
    obtain ⟨hdocuments, hready⟩ := actOnServiceRequest_documents h
    obtain ⟨_, _, _, -, -, _, -, hothers, -⟩ := actOnServiceRequest_ok h
    rintro ⟨row', hrow', hstatus⟩
    rw [hdocuments]
    by_cases hid : requestId = call.id
    · subst hid
      rcases hready row' hrow' hstatus with hbefore | hdelivery
      · exact hs hbefore
      · exact hasDelivery_shown hdelivery
    · exact hs ⟨row', (hothers requestId hid).symm.trans hrow', hstatus⟩
  | uploaded call ticket h =>
    obtain ⟨version, db, hversion, hk, rfl⟩ := createUploadedDocument_ok h
    have hdocuments := uploadVersion_documents hversion
    intro hafter
    obtain ⟨k, d, hd, hshown⟩ := hs (isReady_of_uploadVersion hversion hafter)
    refine ⟨k, d, ?_, hshown⟩
    change (db.documents.insert call.newDocumentId _).lookup k = some d
    rw [hdocuments]
    exact Table.lookup_insert_of_some hk hd
  | updated call hcall h =>
    subst hcall
    refine hs.rewrite (updateAdminDocument_ok h).2 fun hlast d hshown ↦ ?_
    simp only [updateAdminDocument, bind_eq_ok, throwIf_eq_ok, Bool.not_eq_true,
      Bool.not_eq_false'] at h
    obtain ⟨_, hmanage, _, hfound, -⟩ := h
    have hvisible : call.visibility = .clientVisible := by
      by_contra hne
      exact hstep ⟨hmanage, hfound, hne, hlast⟩
    exact ⟨hshown.1, hshown.2.1, hshown.2.2.1, hvisible⟩
  | deleted call hcall h =>
    subst hcall
    refine hs.rewrite (deleteAdminDocument_ok h).2 fun hlast d hshown ↦ ?_
    simp only [deleteAdminDocument, bind_eq_ok, throwIf_eq_ok, Bool.not_eq_true,
      Bool.not_eq_false'] at h
    obtain ⟨_, hmanage, _, hfound, -⟩ := h
    exact absurd ⟨hmanage, hfound, hlast⟩ hstep

/-- A document that was found is rewritten. -/
theorem updateDocument_of_shown {documentId : Uuid} (h : IsLastShown s requestId documentId)
    (f : Document → Document) (g : DocumentFile → DocumentFile) :
    ∃ s', s.updateDocument documentId f g = .ok s' ∧
      s'.db = { s.db with documents := s.db.documents.update documentId f } := by
  obtain ⟨-, ⟨d, hd, hshown⟩, -⟩ := h
  cases hupdate : s.updateDocument documentId f g with
  | ok s' => exact ⟨s', rfl, (updateDocument_ok hupdate).2⟩
  | error e =>
    rw [DocumentStore.updateDocument, hd, Option.any_some, hshown.2.1] at hupdate
    cases hupdate

/-- The last delivery can be taken away. -/
theorem not_readyShows_of_withdraws {stage : UploadStage} (h : Withdraws requestId s step) :
    ¬ReadyShows (documentStep P step s stage).1.db requestId := by
  cases step with
  | update call =>
    obtain ⟨hmanage, hfound, hhides, hlast⟩ := h
    obtain ⟨s', hs', hdb⟩ := updateDocument_of_shown hlast
      (fun d ↦ { d with visibility := call.visibility })
      fun f ↦ { f with status := call.status, category := call.category }
    have hupdate : updateAdminDocument s call = .ok s' := by
      rw [updateAdminDocument, hmanage, hfound, ← hs']
      rfl
    change ¬ReadyShows (commitStore s (updateAdminDocument s call)).db requestId
    rw [hupdate]
    exact not_readyShows_rewrite hlast hdb fun d hshown ↦ hhides hshown.2.2.2
  | delete call =>
    obtain ⟨hmanage, hfound, hlast⟩ := h
    obtain ⟨s', hs', hdb⟩ := updateDocument_of_shown hlast
      (fun d ↦ { d with deletedAt := some call.now }) fun f ↦ { f with status := .deleted }
    have hdelete : deleteAdminDocument s call = .ok s' := by
      rw [deleteAdminDocument, hmanage, hfound, ← hs']
      rfl
    change ¬ReadyShows (commitStore s (deleteAdminDocument s call)).db requestId
    rw [hdelete]
    exact not_readyShows_rewrite hlast hdb fun d hshown ↦ absurd hshown.2.1 (Option.some_ne_none _)
  | check | save | commit | act => cases h

end

/-! ## Runs -/

section

variable {P : Platform} {ω : Type} [DecidableEq ω] {requestId : Uuid}
  {s : Processes ω DocumentStore UploadStage}

/-- From a draft on, a waiting client is shown a delivery in every state of a run exactly if no step
of the run takes the last one away. -/
theorem readyShows_iff
    (hdraft : ∃ row, s.store.db.serviceRequests.lookup requestId = some row ∧ row.status = .draft)
    (l : List (ω × DocumentStep)) :
    AllStates (stepDocuments P) (fun s ↦ ReadyShows s.store.db requestId) s l ↔
      AllSteps (stepDocuments P) (fun s i ↦ ¬Withdraws requestId s.store i.2) s l := by
  have hstart : ReadyShows s.store.db requestId := by
    obtain ⟨row, hrow, hstatus⟩ := hdraft
    rintro ⟨row', hrow', hready⟩
    rw [hrow, Option.some.injEq] at hrow'
    subst hrow'
    rw [hstatus] at hready
    cases hready
  refine allStates_iff_allSteps (J := fun _ ↦ True) (fun _ _ _ ↦ trivial) ?_ trivial hstart
  intro s i _ hs
  constructor
  · intro hafter hwithdraws
    exact not_readyShows_of_withdraws hwithdraws hafter
  · exact (stepDocuments_change s i).readyShows hs

end

/-! ## A request that is delivered -/

/-- A draft of a contract, and nothing uploaded. -/
def draftedRequest : DocumentStore where
  db := {
    users := (∅ : Table Uuid User).insert "mona" { status := .active, roleName := "Client" }
    clients := (∅ : Table Uuid Client).insert "client"
      { userId := some "mona", fullName := "Mona", phone := "+201001234567" }
    serviceRequests := (∅ : Table Uuid ServiceRequest).insert "request"
      { reference := "KMT-1"
        clientId := "client"
        kind := .contractDraft
        locale := "ar"
        intake := { title := "Lease", purpose := "A lease for the new shop" }
        idempotencyKey := "first" } }

def manager : Principal := { id := "manager", roleName := "Super Admin" }

def mona : Principal := { id := "mona", roleName := "Client", clientId := some "client" }

/-- An action on the request. -/
def actionOf (actor : Principal) (revision : ℕ) (action : ServiceAction) : DocumentStep :=
  .act {
    actor
    id := "request"
    revision
    action
    now := 0
    newPaymentId := "payment"
    invoiceId := "invoice"
    newThreadId := "thread"
    newMessageId := "message"
    newEventId := toString revision }

/-- From the draft to the delivery the client is asked to accept. -/
def deliveredRequest : List (ℕ × DocumentStep) :=
  [(0, actionOf mona 0 .submit),
    (0, actionOf manager 1 (.quote
      { amount := "1500.00", currency := .egp, scope := "Lease", durationDays := 7 })),
    (0, actionOf mona 2 (.accept 1)),
    (0, .check (pdfUpload "lease.pdf" { serviceRequestId := some "request", delivery := true })),
    (0, .save), (0, .commit),
    (0, actionOf manager 4 (.transition .ready ""))]

/-- The same, and then the office deletes it. -/
def withdrawnRequest : List (ℕ × DocumentStep) :=
  deliveredRequest ++ [(0, .delete { actor := manager, documentId := "lease.pdf", now := 1 })]

def deliveryDesk : Processes ℕ DocumentStore UploadStage where
  store := draftedRequest
  process := fun _ ↦ .idle

/-- After the office has deleted the delivery the client still waits, with nothing to see. -/
theorem deleted_delivery_not_shown :
    (∃ row, draftedRequest.db.serviceRequests.lookup "request" = some row ∧ row.status = .draft) ∧
      draftedRequest.db.documents = ∅ ∧
      ¬AllStates (stepDocuments plainPlatform) (fun s ↦ ReadyShows s.store.db "request")
        deliveryDesk withdrawnRequest := by
  refine ⟨⟨_, rfl, rfl⟩, rfl, fun h ↦ ?_⟩
  have hready : ((run (stepDocuments plainPlatform) deliveryDesk
      withdrawnRequest).store.db.serviceRequests.lookup "request").map ServiceRequest.status =
      some .ready := by decide +kernel
  have hnone : (run (stepDocuments plainPlatform) deliveryDesk
      withdrawnRequest).store.db.documents.any (fun _ d ↦ IsShown "request" d) = false := by
    decide +kernel
  obtain ⟨row, hrow, hstatus⟩ := Option.map_eq_some_iff.mp hready
  obtain ⟨k, d, hd, hshown⟩ := h.last ⟨row, hrow, hstatus⟩
  exact Table.any_eq_false.mp hnone k d hd (decide_eq_true hshown)

/-- While nothing is taken away she is shown the delivery. -/
theorem deliveredRequest_shown :
    AllStates (stepDocuments plainPlatform) (fun s ↦ ReadyShows s.store.db "request") deliveryDesk
      deliveredRequest :=
  (readyShows_iff ⟨_, rfl, rfl⟩ deliveredRequest).mpr ⟨id, id, id, id, id, id, id, trivial⟩

end KmtLegal
