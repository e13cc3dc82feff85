import KmtLegal.Admin.Tasks
import KmtLegal.Documents.Store

/-!
# What is listed and what can be opened

For documents, tasks, cases and consultations there is a `where` clause that selects what a list
shows and a function that decides whether one row may be opened.  The two are compared here, row by
row.
-/

namespace KmtLegal

open Relational Js

/-! ## The clauses of the lists -/

section

variable (actor : Principal)

/-- `documentScopeWhereForPrincipal(actor)`; `serviceRequestId: null` is a document without a
request. -/
def documentScopeWhereForPrincipal : Except Failure (ReadableDocument → Bool) :=
  if hasPermission actor "document.manage.any" then .ok fun d ↦ d.deletedAt = none
  else if hasPermission actor "document.read.assigned" then
    .ok fun d ↦ d.deletedAt = none ∧
      ((d.serviceRequest.any fun r ↦ r.assignedLawyerId = some actor.id) ∨
        (d.serviceRequest = none ∧
          ((d.ownerClient.any fun c ↦ c.assignedLawyerId = some actor.id) ∨
            d.case.any fun c ↦ c.assignedLawyerId = actor.id)))
  else .error (.permissionDenied "Document read permission is required.")

/-- `consultationScopeWhereForPrincipal(actor)`. -/
def consultationScopeWhereForPrincipal : Except Failure (ConsultationRequest → Bool) :=
  if hasPermission actor "consultation.review.any" then .ok fun _ ↦ true
  else if hasPermission actor "consultation.review.assigned" then
    .ok fun c ↦ c.assignedLawyerId = some actor.id
  else .error (.permissionDenied "Consultation review permission is required.")

/-- `clientVisibleDocumentWhere(clientId)`. -/
def clientVisibleDocumentWhere (clientId : Uuid) (d : ReadableDocument) : Bool :=
  d.deletedAt = none ∧ d.visibility = .clientVisible ∧
    (d.ownerClientId = some clientId ∨ d.case.any fun c ↦ c.clientId = clientId)

end

/-! ## Agreement -/

/-- A document is listed exactly if it is there and may be opened otherwise than as one's own. -/
def DocumentsAgree (actor : Principal) (d : ReadableDocument) : Prop :=
  ∀ isListed, documentScopeWhereForPrincipal actor = .ok isListed →
    (isListed d ↔ d.deletedAt = none ∧ canReadDocument actor d ∧
      (canReadOwnDocument actor d → hasPermission actor "document.manage.any" ∨
        canReadAssignedDocument actor d))

/-- A task is listed exactly if it may be opened, and an edit of what is stored meets no conflict. -/
def TasksAgree (actor : Principal) (s : TaskStore) (taskId : Uuid) (task : Task) : Prop :=
  ∀ isListed, taskScopeWhereForPrincipal actor = .ok isListed →
    (isListed task (s.caseOf task) ↔ canReadAdminTask actor task (s.caseOf task)) ∧
    ∀ call : UpdateAdminTask, call.actor = actor → call.taskId = taskId →
      call.updatedAt = task.updatedAt → updateAdminTask s call ≠ .error taskChanged

/-- A case is listed exactly if it is there and may be opened otherwise than as one's own. -/
def CasesAgree (actor : Principal) (clientUserId : Option Uuid) (c : LegalCase) : Prop :=
  ∀ isListed, caseScopeWhereForPrincipal actor = .ok isListed →
    (isListed c ↔ c.deletedAt = none ∧ canReadAdminCase actor clientUserId c.assignedLawyerId ∧
      (hasPermission actor "case.read.own" ∧ clientUserId = some actor.id →
        hasPermission actor "case.read.any" ∨
          hasPermission actor "case.read.assigned" ∧ c.assignedLawyerId = actor.id))

/-- A consultation is listed exactly if it may be reviewed. -/
def ConsultationsAgree (actor : Principal) (c : ConsultationRequest) : Prop :=
  ∀ isListed, consultationScopeWhereForPrincipal actor = .ok isListed →
    (isListed c ↔ canReviewConsultation actor c)

/-- The account of a client: it has the permissions of the role, which is protected, and `clientId`
is the client with this user. -/
structure IsClientAccount (db : Database) (actor : Principal) (clientId : Uuid) : Prop where
  roleName : actor.roleName = "Client"
  permissions : actor.permissions.getD (permissionsForRole "Client") = permissionsForRole "Client"
  clientId_eq : actor.clientId = some clientId
  client : ∃ c, db.clients.lookup clientId = some c
  /-- `userId` is unique. -/
  userId : ∀ k c, db.clients.lookup k = some c → (c.userId = some actor.id ↔ k = clientId)

/-- A client is shown a document exactly if she may open it. -/
def ClientDocumentsAgree (s : DocumentStore) (actor : Principal) (documentId : Uuid) : Prop :=
  ∀ clientId d, IsClientAccount s.db actor clientId → s.readable documentId = some d →
    (∀ owner ∈ d.ownerClientId, ∀ c ∈ d.case, owner = c.clientId) →
    (clientVisibleDocumentWhere clientId d ↔ d.deletedAt = none ∧ canReadDocument actor d)

/-- The actor may open the task only as the lawyer of a case that is deleted. -/
def OnlyByDeletedCase (actor : Principal) (task : Task) (case : Option LegalCase) : Prop :=
  hasPermission actor "task.manage.any" = false ∧
    (hasPermission actor "task.read.assigned" ∨ hasPermission actor "task.manage.assigned") ∧
    task.assignedToId ≠ actor.id ∧
    ∃ c, case = some c ∧ c.assignedLawyerId = actor.id ∧ c.deletedAt ≠ none

section

variable {actor : Principal}

/-! ### Documents -/

theorem documentsAgree (actor : Principal) (d : ReadableDocument) : DocumentsAgree actor d := by
  intro isListed h
  unfold documentScopeWhereForPrincipal at h
  split_ifs at h with hany hassigned
  · cases h
    simp [canReadDocument, hany]
  · cases h
    have hread : canReadAssignedDocument actor d ↔
        ((d.serviceRequest.any fun r ↦ r.assignedLawyerId = some actor.id) ∨
        (d.serviceRequest = none ∧
          ((d.ownerClient.any fun c ↦ c.assignedLawyerId = some actor.id) ∨
            d.case.any fun c ↦ c.assignedLawyerId = actor.id))) := by
      unfold canReadAssignedDocument
      rw [hassigned, Bool.true_and]
      cases d.serviceRequest with
      | some request => simp
      | none => cases d.ownerClient <;> cases d.case <;> simp
    rw [decide_eq_true_eq, ← hread]
    simp only [canReadDocument, hany, Bool.false_or, Bool.or_eq_true, false_or,
      Bool.false_eq_true]
    tauto

/-! ### Cases -/

theorem casesAgree (actor : Principal) (clientUserId : Option Uuid) (c : LegalCase) :
    CasesAgree actor clientUserId c := by
  intro isListed h
  unfold caseScopeWhereForPrincipal at h
  split_ifs at h with hany hassigned
  · cases h
    simp [canReadAdminCase, canReadCase, hany]
  · cases h
    simp only [canReadAdminCase, canReadCase, hany, hassigned, decide_eq_true_eq, Bool.false_eq_true,
      false_or, or_true, true_and, Bool.decide_or, Bool.decide_and, Bool.or_eq_true,
      Bool.and_eq_true]
    tauto

/-! ### Consultations -/

theorem consultationsAgree (actor : Principal) (c : ConsultationRequest) :
    ConsultationsAgree actor c := by
  intro isListed h
  unfold consultationScopeWhereForPrincipal at h
  split_ifs at h with hany hassigned
  · cases h
    simp [canReviewConsultation, hany]
  · cases h
    simp [canReviewConsultation, hany, hassigned]

/-! ### Documents of a client -/

theorem IsClientAccount.hasPermission {db : Database} {clientId : Uuid}
    (h : IsClientAccount db actor clientId) (permission : String) :
    hasPermission actor permission = (permission ∈ permissionsForRole "Client" : Bool) := by
  have hstar : "*" ∉ permissionsForRole "Client" := by decide
  rw [KmtLegal.hasPermission, h.roleName, if_neg (by decide), h.permissions]
  simp [hstar]

/-- The client a document belongs to is the one whose user may read it. -/
theorem ownerUserId_eq_iff {s : DocumentStore} {documentId clientId : Uuid} {d : ReadableDocument}
    (h : IsClientAccount s.db actor clientId) (hd : s.readable documentId = some d)
    (hsame : ∀ owner ∈ d.ownerClientId, ∀ c ∈ d.case, owner = c.clientId) :
    d.ownerUserId = some actor.id ↔
      d.ownerClientId = some clientId ∨ ∃ c, d.case = some c ∧ c.clientId = clientId := by
  have huser : ∀ k, (s.db.clients.lookup k).bind Client.userId = some actor.id ↔ k = clientId := by
    intro k
    constructor
    · intro hk
      obtain ⟨c, hc, huser⟩ := Option.bind_eq_some_iff.mp hk
      exact (h.userId k c hc).mp huser
    · rintro rfl
      obtain ⟨c, hc⟩ := h.client
      rw [hc]
      exact (h.userId k c hc).mpr rfl
  simp only [DocumentStore.readable, Option.bind_eq_bind, Option.bind_eq_some_iff,
    Option.pure_def, Option.some.injEq] at hd
  obtain ⟨document, -, file, -, rfl⟩ := hd
  simp only [ReadableDocument.ownerUserId] at hsame ⊢
  cases howner : file.ownerClientId with
  | some owner =>
    cases hcase : file.caseId.bind s.db.legalCases.lookup with
    | some c =>
      obtain rfl := hsame owner howner c hcase
      simp only [Option.bind_some, Option.some.injEq, exists_eq_left', or_self]
      rw [← huser]
      cases (s.db.clients.lookup c.clientId).bind Client.userId <;> simp
    | none =>
      simp only [Option.bind_some, Option.bind_none, Option.some.injEq, reduceCtorEq, false_and,
        exists_false, or_false]
      rw [← huser]
      cases (s.db.clients.lookup owner).bind Client.userId <;> simp
  | none =>
    cases hcase : file.caseId.bind s.db.legalCases.lookup with
    | some c => simp [huser]
    | none => simp

theorem clientDocumentsAgree (s : DocumentStore) (actor : Principal) (documentId : Uuid) :
    ClientDocumentsAgree s actor documentId := by
  intro clientId d h hd hsame
  have hown := ownerUserId_eq_iff h hd hsame
  have hmanage : hasPermission actor "document.manage.any" = false := by
    rw [h.hasPermission]
    decide
  have hassigned : hasPermission actor "document.read.assigned" = false := by
    rw [h.hasPermission]
    decide
  have hread : hasPermission actor "document.read.own" = true := by
    rw [h.hasPermission]
    decide
  simp only [clientVisibleDocumentWhere, canReadDocument, canReadOwnDocument,
    canReadAssignedDocument, hmanage, hassigned, hread, hown, decide_eq_true_eq, Bool.false_or,
    Bool.false_and, Bool.or_false, true_and, Option.any_eq_true]
  tauto

/-! ### Tasks -/

theorem listed_task_iff {isListed : Task → Option LegalCase → Bool}
    (h : taskScopeWhereForPrincipal actor = .ok isListed) (task : Task) (case : Option LegalCase) :
    isListed task case ↔
      canReadAdminTask actor task case ∧ ¬OnlyByDeletedCase actor task case := by
  unfold taskScopeWhereForPrincipal at h
  split_ifs at h with hany hassigned
  · cases h
    simp [canReadAdminTask, OnlyByDeletedCase, hany]
  · cases h
    simp only [canReadAdminTask, OnlyByDeletedCase, isTaskLawyer, hany, hassigned, decide_eq_true_eq,
      Bool.false_eq_true, false_or, true_and, ne_eq, Option.any_eq_true,
      Option.map_eq_some_iff]
    constructor
    · rintro (hmine | ⟨c, rfl, hlawyer, hopen⟩)
      · exact ⟨.inl hmine, fun hno ↦ hno.1 hmine⟩
      · refine ⟨.inr ⟨c, rfl, hlawyer⟩, ?_⟩
        rintro ⟨-, c', hc', -, hdeleted⟩
        cases hc'
        exact hdeleted hopen
    · rintro ⟨hmine | ⟨c, rfl, hlawyer⟩, hno⟩
      · exact .inl hmine
      · by_cases hmine : task.assignedToId = actor.id
        · exact .inl hmine
        · refine .inr ⟨c, rfl, hlawyer, ?_⟩
          by_contra hdeleted
          exact hno ⟨hmine, c, rfl, hlawyer, hdeleted⟩

/-- An edit of what is stored, by an actor who is listed the task, is not answered with a
conflict. -/
theorem updateAdminTask_no_conflict {s : TaskStore} {call : UpdateAdminTask} {task : Task}
    {isListed : Task → Option LegalCase → Bool} (htask : s.tasks.lookup call.taskId = some task)
    (hscope : taskScopeWhereForPrincipal call.actor = .ok isListed)
    (hlisted : isListed task (s.caseOf task)) (hversion : call.updatedAt = task.updatedAt) :
    updateAdminTask s call ≠ .error taskChanged := by
  intro h
  have hraises : Raises IsNoConflict (updateAdminTask s call) := by
    refine .bind (raises_findTaskForAction _ _) fun existing _ ↦ .bind (.throwIf (by decide))
      fun _ _ ↦ .bind (raises_assertTaskCase existing) fun _ _ ↦
      .bind (raises_assertAssignableTaskUser _ _) fun _ _ ↦ ?_
    rw [claimTask_of_scope htask hscope hlisted hversion]
    exact .ok _
  exact hraises _ h rfl

theorem tasksAgree_iff {s : TaskStore} {taskId : Uuid} {task : Task}
    (htask : s.tasks.lookup taskId = some task) :
    TasksAgree actor s taskId task ↔ ¬OnlyByDeletedCase actor task (s.caseOf task) := by
  constructor
  · intro h hdeleted
    obtain ⟨hany, hassigned, -, c, hc, hlawyer, -⟩ := id hdeleted
    have hscope : ∃ isListed, taskScopeWhereForPrincipal actor = .ok isListed := by
      rw [taskScopeWhereForPrincipal, hany, if_neg (by decide), if_pos hassigned]
      exact ⟨_, rfl⟩
    obtain ⟨isListed, hscope⟩ := hscope
    have hread : canReadAdminTask actor task (s.caseOf task) := by
      refine decide_eq_true (.inr ⟨hassigned, decide_eq_true (.inr ?_)⟩)
      rw [hc]
      exact congrArg some hlawyer
    exact ((listed_task_iff hscope task _).mp ((h isListed hscope).1.mpr hread)).2 hdeleted
  · intro hopen isListed hscope
    have hlisted := listed_task_iff hscope task (s.caseOf task)
    constructor
    · rw [hlisted]
      exact and_iff_left hopen
    · rintro call rfl rfl hversion hconflict
      by_cases hread : canReadAdminTask call.actor task (s.caseOf task)
      · exact updateAdminTask_no_conflict htask hscope (hlisted.mpr ⟨hread, hopen⟩) hversion hconflict
      · -- a task that may not be read is not found
        have hfound : findTaskForAction s call.actor call.taskId =
            .error (.permissionDenied "Task is outside your permission scope.") := by
          rw [findTaskForAction, htask, orThrow_some, ok_bind, throwIf, if_pos (by simpa using hread)]
          rfl
        rw [updateAdminTask, hfound] at hconflict
        cases hconflict

/-- For every actor and all stored rows: whatever the lists show can be opened and the other way
round, exactly if the task is not one the actor may open only as the lawyer of a deleted case. -/
theorem lists_agree_iff (actor : Principal) {s : TaskStore} {taskId : Uuid} {task : Task}
    (htask : s.tasks.lookup taskId = some task) :
    (TasksAgree actor s taskId task ∧ (∀ d, DocumentsAgree actor d) ∧
        (∀ clientUserId c, CasesAgree actor clientUserId c) ∧ (∀ c, ConsultationsAgree actor c) ∧
        ∀ store documentId, ClientDocumentsAgree store actor documentId) ↔
      ¬OnlyByDeletedCase actor task (s.caseOf task) := by
  rw [tasksAgree_iff htask]
  exact and_iff_left ⟨documentsAgree actor, casesAgree actor, consultationsAgree actor,
    fun store documentId ↦ clientDocumentsAgree store actor documentId⟩

end

/-! ## The task of a deleted case -/

def caseLawyer : Principal := { id := "lawyer", roleName := "Lawyer" }

def hearingTask : Task where
  title := "Prepare the hearing"
  assignedToId := "colleague"
  caseId := some "case"
  createdById := "colleague"
  updatedAt := 5

/-- A task of a colleague in a case of the lawyer. -/
def taskOfCase (deletedAt : Option Time) : TaskStore where
  db := {
    users := (∅ : Table Uuid User).insert "lawyer" { status := .active, roleName := "Lawyer" }
    legalCases := (∅ : Table Uuid LegalCase).insert "case"
      { internalFileNumber := "KMT-2026-1"
        clientId := "client"
        assignedLawyerId := "lawyer"
        title := "Lease"
        caseType := "Civil"
        deletedAt } }
  tasks := (∅ : Table Uuid Task).insert "task" hearingTask

/-- The lawyer takes over the task as it is stored. -/
def takeOver : UpdateAdminTask where
  actor := caseLawyer
  taskId := "task"
  title := "Prepare the hearing"
  assignedToId := some "lawyer"
  caseId := some "case"
  updatedAt := 5
  now := 9

/-- After the case is deleted the lawyer can open the task, is not listed it, and however often the
form is loaded again the edit is answered with a conflict. -/
theorem deleted_case_task_disagrees :
    updateAdminTask (taskOfCase (some 7)) takeOver = .error taskChanged ∧
      ¬TasksAgree caseLawyer (taskOfCase (some 7)) "task" hearingTask := by
  have hconflict : updateAdminTask (taskOfCase (some 7)) takeOver = .error taskChanged := rfl
  refine ⟨hconflict, fun h ↦ ?_⟩
  exact (h _ rfl).2 takeOver rfl rfl rfl hconflict

/-- While the case is there, the lawyer can take it over. -/
theorem open_case_task_agrees :
    TasksAgree caseLawyer (taskOfCase none) "task" hearingTask :=
  ((lists_agree_iff caseLawyer (AList.lookup_insert _)).mpr (by
    rintro ⟨-, -, -, c, hc, -, hdeleted⟩
    cases hc
    exact hdeleted rfl)).1

end KmtLegal
