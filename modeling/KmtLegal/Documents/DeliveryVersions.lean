import KmtLegal.Documents.Delivery
import KmtLegal.Relational.Kept

/-!
# The versions of the deliveries

The version of a delivery is one more than the greatest there is.  No document is ever removed, only
marked, so the versions of a request count its deliveries in the order they were made; and whoever
has seen the request before an upload has seen an older revision of it.
-/

namespace KmtLegal

open Relational Js

section

variable {db db' : Database} {requestId : Uuid}

/-! ## The list of versions -/

theorem deliveryVersions_congr (h : db'.documents = db.documents) (requestId : Uuid) :
    deliveryVersions db' requestId = deliveryVersions db requestId := by
  rw [deliveryVersions, deliveryVersions, h]

/-- A new document comes last. -/
theorem deliveryVersions_insert {k : Uuid} {d : Document} (hk : db.documents.lookup k = none)
    (h : db'.documents = db.documents.insert k d) :
    deliveryVersions db' requestId = deliveryVersions db requestId ++
      (d.versionFor requestId).toList := by
  have hrows : db'.documents.rows = (k, d) :: db.documents.rows := by
    rw [h, Table.rows, AList.entries_insert_of_notMem (AList.lookup_eq_none.mp hk)]
    rfl
  rw [deliveryVersions, deliveryVersions, hrows, List.filterMap_cons]
  cases d.versionFor requestId with
  | none => exact (List.append_nil _).symm
  | some n => exact List.reverse_cons

/-- The office's work changes no version. -/
theorem deliveryVersions_update {k : Uuid} {f : Document → Document}
    (hf : ∀ d, (f d).serviceRequestId = d.serviceRequestId ∧
      (f d).deliveryVersion = d.deliveryVersion)
    (h : db'.documents = db.documents.update k f) (requestId : Uuid) :
    deliveryVersions db' requestId = deliveryVersions db requestId := by
  rw [deliveryVersions, deliveryVersions, h, Table.rows, Table.rows, Table.update,
    Table.updateMany, List.map_map, List.filterMap_map, List.filterMap_map]
  congr 1
  apply List.filterMap_congr
  intro e _
  obtain ⟨hrequest, hversion⟩ := hf e.2
  simp only [Function.comp_apply, Document.versionFor]
  split_ifs <;> simp_all

/-- The versions are the numbers from one on. -/
def Gapless (db : Database) (requestId : Uuid) : Prop :=
  deliveryVersions db requestId = List.range' 1 (deliveryVersions db requestId).length

theorem foldr_max_range' (n : ℕ) : (List.range' 1 n).foldr max 0 = n := by
  induction n with
  | zero => rfl
  | succ n ih =>
    have hmax : ∀ (l : List ℕ) (m : ℕ), (l ++ [m]).foldr max 0 = max (l.foldr max 0) m := by
      intro l m
      induction l with
      | nil => simp
      | cons a l ih => simp only [List.cons_append, List.foldr_cons, ih, max_assoc]
    rw [List.range'_1_concat, hmax, ih]
    omega

/-- The next version of a request without gaps is one more than their number. -/
theorem Gapless.maxDeliveryVersion (h : Gapless db requestId) :
    maxDeliveryVersion db requestId = (deliveryVersions db requestId).length := by
  rw [KmtLegal.maxDeliveryVersion, h, foldr_max_range', List.length_range']

/-- A delivery with the next version, or a document without one, leaves no gap. -/
theorem Gapless.append (h : Gapless db requestId) {version : Option ℕ}
    (hversion : ∀ n ∈ version, n = KmtLegal.maxDeliveryVersion db requestId + 1)
    (h' : deliveryVersions db' requestId = deliveryVersions db requestId ++ version.toList) :
    Gapless db' requestId := by
  cases version with
  | none =>
    rw [Option.toList_none, List.append_nil] at h'
    rw [Gapless, h']
    exact h
  | some n =>
    have hn : n = (deliveryVersions db requestId).length + 1 := by
      rw [← h.maxDeliveryVersion]
      exact hversion n rfl
    rw [Gapless, h', Option.toList_some, List.length_append, List.length_singleton,
      List.range'_1_concat, hn, Nat.add_comm 1]
    exact congrArg (· ++ _) h

end

/-! ## Steps -/

section

variable {P : Platform} {s s' : DocumentStore} {step : DocumentStep} {requestId : Uuid}

/-- A document keeps the request it was made for, and its version. -/
def DocumentKept (d d' : Document) : Prop :=
  d'.serviceRequestId = d.serviceRequestId ∧ d'.deliveryVersion = d.deliveryVersion

theorem DocumentKept.refl (d : Document) : DocumentKept d d := ⟨rfl, rfl⟩

/-- Everything one step can do to the documents of a request. -/
inductive VersionChange (s s' : DocumentStore) (requestId : Uuid) : Prop
  /-- Documents are rewritten at most. -/
  | kept (hkept : Table.RowsKept DocumentKept s.db.documents s'.db.documents)
      (hnew : ∀ k d, s'.db.documents.lookup k = some d → s.db.documents.lookup k ≠ none)
      (hversions : deliveryVersions s'.db requestId = deliveryVersions s.db requestId)
  /-- A document is made, for this request or another. -/
  | made (k : Uuid) (d : Document) (hk : s.db.documents.lookup k = none)
      (hdocuments : s'.db.documents = s.db.documents.insert k d)
      (hrequest : d.serviceRequestId = some requestId →
        ∃ row, s.db.serviceRequests.lookup requestId = some row ∧
          row.status.takesNoUpload = false ∧ (d.deliveryVersion.isSome → row.status = .inProgress) ∧
          (∀ n ∈ d.deliveryVersion, n = maxDeliveryVersion s.db requestId + 1) ∧
          s'.db.serviceRequests.lookup requestId = some { row with revision := row.revision + 1 })

theorem versionChange_of_documents (h : s'.db.documents = s.db.documents) :
    VersionChange s s' requestId := by
  refine .kept ?_ (fun k d hd ↦ ?_) (deliveryVersions_congr h requestId)
  · rw [h]
    exact .refl DocumentKept.refl
  · rw [← h, hd]
    exact Option.some_ne_none d

theorem versionChange_of_update {k : Uuid} {f : Document → Document}
    (hf : ∀ d, DocumentKept d (f d)) (h : s'.db.documents = s.db.documents.update k f) :
    VersionChange s s' requestId := by
  refine .kept ?_ (fun k' d hd ↦ ?_) (deliveryVersions_update hf h requestId)
  · rw [h]
    exact .update DocumentKept.refl fun d _ ↦ hf d
  · rw [h, Table.lookup_update] at hd
    split_ifs at hd with hk
    · obtain ⟨d', hd', -⟩ := Option.map_eq_some_iff.mp hd
      rw [hd']
      exact Option.some_ne_none d'
    · rw [hd]
      exact Option.some_ne_none d

theorem DocumentChange.versions (h : DocumentChange P s s' step) (requestId : Uuid) :
    VersionChange s s' requestId := by
  cases h with
  | kept h => exact versionChange_of_documents (by rw [h])
  | acted call h => exact versionChange_of_documents (actOnServiceRequest_documents h).1
  | updated call _ h =>
    exact versionChange_of_update (f := fun d ↦ { d with visibility := call.visibility })
      (fun _ ↦ ⟨rfl, rfl⟩) (congrArg Database.documents (updateAdminDocument_ok h).2)
  | deleted call _ h =>
    exact versionChange_of_update (f := fun d ↦ { d with deletedAt := some call.now })
      (fun _ ↦ ⟨rfl, rfl⟩) (congrArg Database.documents (deleteAdminDocument_ok h).2)
  | uploaded call ticket h =>
    obtain ⟨version, db, hversion, hk, rfl⟩ := createUploadedDocument_ok h
    have hdocuments := uploadVersion_documents hversion
    refine .made call.newDocumentId (uploadedDocument call ticket version) hk
      (by rw [← hdocuments]; rfl) fun hrequest ↦ ?_
    have hrequest : call.fields.serviceRequestId = some requestId := hrequest
    rw [uploadVersion, hrequest] at hversion
    obtain ⟨row, hrow, hopen, hprogress, rfl, rfl⟩ := uploadUnderLock_ok hversion
    refine ⟨row, hrow, hopen, fun hdelivery ↦ ?_, fun n hn ↦ ?_, ?_⟩
    · apply hprogress
      by_contra hno
      simp [uploadedDocument, hno] at hdelivery
    · simp only [uploadedDocument] at hn
      split_ifs at hn
      · exact (Option.mem_some_iff.mp hn).symm
      · cases hn
    · change (s.db.serviceRequests.update requestId _).lookup requestId = _
      rw [Table.lookup_update_self, hrow]
      rfl

theorem DocumentChange.gapless (h : DocumentChange P s s' step) (hs : Gapless s.db requestId) :
    Gapless s'.db requestId := by
  cases h.versions requestId with
  | kept _ _ hversions =>
    rw [Gapless, hversions]
    exact hs
  | made k d hk hdocuments hrequest =>
    refine hs.append (fun n hn ↦ ?_) (deliveryVersions_insert hk hdocuments)
    unfold Document.versionFor at hn
    split_ifs at hn with hthis
    · obtain ⟨row, -, -, -, hnext, -⟩ := hrequest hthis
      exact hnext n hn
    · cases hn

theorem DocumentChange.documentsKept (h : DocumentChange P s s' step) :
    Table.RowsKept DocumentKept s.db.documents s'.db.documents := by
  cases h.versions "" with
  | kept hkept _ _ => exact hkept
  | made k d hk hdocuments _ =>
    rw [hdocuments]
    exact .insert DocumentKept.refl hk

/-- The revision of a request never decreases. -/
def RevisionLe (row row' : ServiceRequest) : Prop := row.revision ≤ row'.revision

theorem RevisionLe.refl (row : ServiceRequest) : RevisionLe row row := Nat.le_refl row.revision

theorem RevisionLe.trans (row row' row'' : ServiceRequest) (h : RevisionLe row row')
    (h' : RevisionLe row' row'') : RevisionLe row row'' := Nat.le_trans h h'

theorem DocumentChange.revisions (h : DocumentChange P s s' step) :
    Table.RowsKept RevisionLe s.db.serviceRequests s'.db.serviceRequests := by
  cases h with
  | kept h =>
    rw [h]
    exact .refl RevisionLe.refl
  | acted call h =>
    obtain ⟨row, row', hrow, -, -, hrow', hrevision, hothers, -⟩ := actOnServiceRequest_ok h
    intro id r hr
    by_cases hid : id = call.id
    · subst hid
      obtain rfl : row = r := Option.some.inj (hrow.symm.trans hr)
      exact ⟨row', hrow', by rw [RevisionLe, hrevision]; exact Nat.le_succ _⟩
    · exact ⟨r, (hothers id hid).trans hr, RevisionLe.refl r⟩
  | updated call _ h =>
    rw [(updateAdminDocument_ok h).2]
    exact .refl RevisionLe.refl
  | deleted call _ h =>
    rw [(deleteAdminDocument_ok h).2]
    exact .refl RevisionLe.refl
  | uploaded call ticket h =>
    obtain ⟨version, db, hversion, -, rfl⟩ := createUploadedDocument_ok h
    unfold uploadVersion at hversion
    split at hversion
    · obtain ⟨row, -, -, -, -, rfl⟩ := uploadUnderLock_ok hversion
      exact .update RevisionLe.refl fun r _ ↦ Nat.le_succ r.revision
    · cases hversion
      exact .refl RevisionLe.refl

/-- An action on an older revision is refused. -/
theorem actOnServiceRequest_stale {db : Database} {call : ActOnServiceRequest} {row : ServiceRequest}
    (hrow : db.serviceRequests.lookup call.id = some row) (h : call.revision < row.revision)
    (db' : Database) : actOnServiceRequest P db call ≠ .ok db' := by
  intro hok
  obtain ⟨row', -, hrow', hrevision, -⟩ := actOnServiceRequest_ok hok
  rw [hrow, Option.some.injEq] at hrow'
  subst hrow'
  omega

end

/-! ## Runs -/

section

variable (P : Platform) {ω : Type} [DecidableEq ω] (requestId : Uuid)

/-- Step `i` makes a document for the request. -/
def MakesDocument (s : Processes ω DocumentStore UploadStage) (i : ω × DocumentStep)
    (d : Document) : Prop :=
  d.serviceRequestId = some requestId ∧ ∃ k, s.store.db.documents.lookup k = none ∧
    (stepDocuments P s i).store.db.documents.lookup k = some d

/-- What a step must keep to: a document is made only for an open request, a delivery only while it
is worked on, and the revision counts it; and no document is lost. -/
def KeepsVersions (s : Processes ω DocumentStore UploadStage) (i : ω × DocumentStep) : Prop :=
  (∀ d, MakesDocument P requestId s i d →
    ∃ row row', s.store.db.serviceRequests.lookup requestId = some row ∧
      row.status ∉ [.completed, .cancelled] ∧
      (d.deliveryVersion.isSome → row.status = .inProgress) ∧
      (stepDocuments P s i).store.db.serviceRequests.lookup requestId = some row' ∧
      row'.revision = row.revision + 1) ∧
  Table.RowsKept DocumentKept s.store.db.documents (stepDocuments P s i).store.db.documents

/-- A transaction that fails leaves neither a row nor the file. -/
def FailsWithoutTrace (s : Processes ω DocumentStore UploadStage) (i : ω × DocumentStep) : Prop :=
  ∀ call ticket, i.2 = .commit → s.process i.1 = .saved call ticket →
    (∀ s', createUploadedDocument s.store call ticket ≠ .ok s') →
      (stepDocuments P s i).store.db = s.store.db ∧
      (stepDocuments P s i).store.documentFiles = s.store.documentFiles ∧
      (stepDocuments P s i).store.files.lookup ticket.fileKey = none

variable {P requestId} {s : Processes ω DocumentStore UploadStage} {i : ω × DocumentStep}

theorem keepsVersions : KeepsVersions P requestId s i := by
  have hchange := stepDocuments_change (P := P) s i
  refine ⟨?_, hchange.documentsKept⟩
  rintro d ⟨hd, k, hk, hk'⟩
  cases hchange.versions requestId with
  | kept _ hnew _ => exact absurd hk (hnew k d hk')
  | made k' d' _ hdocuments hrequest =>
    rw [hdocuments, Table.lookup_insert] at hk'
    split_ifs at hk'
    · cases hk'
      obtain ⟨row, hrow, hopen, hprogress, -, hrow'⟩ := hrequest hd
      exact ⟨row, _, hrow, of_decide_eq_false hopen, hprogress, hrow', rfl⟩
    · rw [hk] at hk'
      cases hk'

theorem failsWithoutTrace : FailsWithoutTrace P s i := by
  intro call ticket hstep hstage hfails
  have hstore : (stepDocuments P s i).store = commitUpload s.store call ticket := by
    rw [stepDocuments, interleave_store, hstage, hstep]
    rfl
  rw [hstore, commitUpload]
  split
  · rename_i s' hs'
    exact absurd hs' (hfails s')
  · exact ⟨rfl, rfl, AList.lookup_erase ..⟩

/-- From a request without documents on, in every run: the versions of its deliveries are the
numbers from one on in the order they were made, every step keeps to what it must, and an action
that has not seen a document of the request is refused. -/
theorem deliveries_gapless
    (h : ∀ k d, s.store.db.documents.lookup k = some d → d.serviceRequestId ≠ some requestId)
    (l : List (ω × DocumentStep)) :
    (∃ n, deliveryVersions (run (stepDocuments P) s l).store.db requestId = List.range' 1 n) ∧
      AllSteps (stepDocuments P) (KeepsVersions P requestId) s l ∧
      AllSteps (stepDocuments P) (FailsWithoutTrace P) s l ∧
      ∀ l₁ i l₂, l = l₁ ++ i :: l₂ → ∀ d, MakesDocument P requestId (run (stepDocuments P) s l₁) i d →
        ∀ row, (run (stepDocuments P) s l₁).store.db.serviceRequests.lookup requestId = some row →
          ∀ call : ActOnServiceRequest, call.id = requestId → call.revision ≤ row.revision →
            ∀ db', actOnServiceRequest P (run (stepDocuments P) s l).store.db call ≠ .ok db' := by
  refine ⟨⟨(deliveryVersions (run (stepDocuments P) s l).store.db requestId).length, ?_⟩,
    ?_, ?_, ?_⟩
  · have hnone : Gapless s.store.db requestId := by
      have hnil : deliveryVersions s.store.db requestId = [] := by
        rw [deliveryVersions, List.reverse_eq_nil_iff, List.filterMap_eq_nil_iff]
        rintro ⟨k, d⟩ hd
        exact if_neg (h k d (Table.mem_rows.mp hd))
      rw [Gapless, hnil]
      rfl
    exact run_invariant (I := fun s ↦ Gapless s.store.db requestId)
      (fun s i hs ↦ (stepDocuments_change s i).gapless hs) hnone l
  · exact allSteps_of_invariant (J := fun _ ↦ True) (fun _ _ _ ↦ trivial)
      (fun _ _ _ ↦ keepsVersions) trivial l
  · exact allSteps_of_invariant (J := fun _ ↦ True) (fun _ _ _ ↦ trivial)
      (fun _ _ _ ↦ failsWithoutTrace) trivial l
  · rintro l₁ i l₂ rfl d hmade row hrow call hid hrevision db'
    obtain ⟨row₁, row', hrow₁, -, -, hrow', hnext⟩ := keepsVersions.1 d hmade
    obtain rfl : row = row₁ := Option.some.inj (hrow.symm.trans hrow₁)
    -- revisions do not decrease after the upload
    have hlater : Table.RowsKept RevisionLe
        (stepDocuments P (run (stepDocuments P) s l₁) i).store.db.serviceRequests
        (run (stepDocuments P) s (l₁ ++ i :: l₂)).store.db.serviceRequests := by
      rw [run_append, run_cons]
      exact run_related
        (R := fun s s' ↦ Table.RowsKept RevisionLe s.store.db.serviceRequests
          s'.store.db.serviceRequests)
        (fun _ ↦ .refl RevisionLe.refl) (fun _ _ _ ↦ .trans RevisionLe.trans)
        (fun s i ↦ (stepDocuments_change s i).revisions) _ l₂
    obtain ⟨row'', hrow'', hle⟩ := hlater requestId row' hrow'
    subst hid
    refine actOnServiceRequest_stale hrow'' ?_ db'
    rw [RevisionLe] at hle
    omega

end

/-! ## Two uploads that meet -/

/-- A request the office works on. -/
def workedOn : DocumentStore where
  db := {
    clients := (∅ : Table Uuid Client).insert "client"
      { fullName := "Mona", phone := "+201001234567" }
    serviceRequests := (∅ : Table Uuid ServiceRequest).insert "request"
      { reference := "KMT-1"
        clientId := "client"
        kind := .contractDraft
        locale := "ar"
        status := .inProgress
        intake := {}
        idempotencyKey := "first" } }

def deliver (fileName : String) : UploadDocument :=
  pdfUpload fileName { serviceRequestId := some "request", delivery := true }

/-- Two deliveries, each checked and written before the other is stored. -/
def crossedUploads : List (ℕ × DocumentStep) :=
  [(0, .check (deliver "first.pdf")), (1, .check (deliver "second.pdf")), (1, .save), (0, .save),
    (0, .commit), (1, .commit)]

theorem crossedUploads_gapless :
    (deliveryVersions (run (stepDocuments plainPlatform)
        { store := workedOn, process := fun _ : ℕ ↦ .idle } crossedUploads).store.db
        "request").length = 2 ∧
      ∃ n, deliveryVersions (run (stepDocuments plainPlatform)
        { store := workedOn, process := fun _ : ℕ ↦ .idle } crossedUploads).store.db
        "request" = List.range' 1 n := by
  refine ⟨by decide +kernel, ?_⟩
  exact (deliveries_gapless (fun _ _ hd ↦ absurd hd (by simp [workedOn])) crossedUploads).1

end KmtLegal
