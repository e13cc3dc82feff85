import KmtLegal.Admin.Calendar

/-!
# Tasks

`updateAdminTask` of `task-document-service.ts` and the permissions around it.  Who may read a task
is written twice: `canReadAdminTask` on a task that was loaded, and `taskScopeWhereForPrincipal` for
the lists and for the row the update claims.
-/

namespace KmtLegal

open Relational Js

inductive TaskStatus where
  | new | inProgress | review | completed | overdue | archived
  deriving DecidableEq

inductive TaskPriority where
  | low | normal | high | urgent
  deriving DecidableEq

structure Task where
  title : String
  description : Option String := none
  status : TaskStatus := .new
  priority : TaskPriority := .normal
  assignedToId : Uuid
  caseId : Option Uuid := none
  dueDate : Option Time := none
  createdById : Uuid
  updatedAt : Time
  deriving DecidableEq

structure TaskStore where
  db : Database
  tasks : Table Uuid Task := ∅

/-! ## Permissions -/

section

variable (actor : Principal) (task : Task) (case : Option LegalCase)

/-- The lawyer of the task or of its case. -/
def isTaskLawyer : Bool :=
  task.assignedToId = actor.id ∨ case.map LegalCase.assignedLawyerId = some actor.id

/-- `canReadAdminTask(actor, task)`. -/
def canReadAdminTask : Bool :=
  hasPermission actor "task.manage.any" ∨
    ((hasPermission actor "task.read.assigned" ∨ hasPermission actor "task.manage.assigned") ∧
      isTaskLawyer actor task case)

/-- `canManageAdminTask(actor, task)`. -/
def canManageAdminTask : Bool :=
  hasPermission actor "task.manage.any" ∨
    (hasPermission actor "task.manage.assigned" ∧ isTaskLawyer actor task case)

/-- `taskScopeWhereForPrincipal(actor)`, of a task with its case. -/
def taskScopeWhereForPrincipal : Except Failure (Task → Option LegalCase → Bool) :=
  if hasPermission actor "task.manage.any" then .ok fun _ _ ↦ true
  else if hasPermission actor "task.read.assigned" ∨ hasPermission actor "task.manage.assigned" then
    .ok fun task case ↦ task.assignedToId = actor.id ∨
      case.any fun c ↦ c.assignedLawyerId = actor.id ∧ c.deletedAt = none
  else .error (.permissionDenied "Task read permission is required.")

/-- `caseScopeWhereForPrincipal(actor)`. -/
def caseScopeWhereForPrincipal : Except Failure (LegalCase → Bool) :=
  if hasPermission actor "case.read.any" then .ok fun c ↦ c.deletedAt = none
  else if hasPermission actor "case.read.assigned" then
    .ok fun c ↦ c.deletedAt = none ∧ c.assignedLawyerId = actor.id
  else .error (.permissionDenied "Case read permission is required.")

end

/-! ## Updating -/

/-- A call of `updateAdminTask`; empty ids and texts are none. -/
structure UpdateAdminTask where
  actor : Principal
  taskId : Uuid
  title : String
  description : Option String := none
  status : TaskStatus := .new
  priority : TaskPriority := .normal
  assignedToId : Option Uuid := none
  caseId : Option Uuid := none
  dueDate : Option Time := none
  updatedAt : Time
  now : Time

section

variable (s : TaskStore) (call : UpdateAdminTask)

/-- The case of a task. -/
def TaskStore.caseOf (task : Task) : Option LegalCase := task.caseId.bind s.db.legalCases.lookup

/-- `findTaskForAction(actor, taskId)`. -/
def findTaskForAction (actor : Principal) (taskId : Uuid) : Except Failure Task := do
  let task ← orThrow (s.tasks.lookup taskId) (.notFound "Task was not found.")
  throwIf (!canReadAdminTask actor task (s.caseOf task))
    (.permissionDenied "Task is outside your permission scope.")
  return task

/-- `assertCaseVisible(actor, caseId)`. -/
def assertCaseVisible (actor : Principal) (caseId : Uuid) : Except Failure Unit := do
  let isVisible ← caseScopeWhereForPrincipal actor
  throwIf (!(s.db.legalCases.lookup caseId).any isVisible) (.notFound "Case was not found.")

/-- `assertAssignableTaskUser(actor, assignedToId)`. -/
def assertAssignableTaskUser (actor : Principal) (assignedToId : Uuid) : Except Failure Unit := do
  throwIf (!hasPermission actor "task.manage.any" ∧ assignedToId ≠ actor.id)
    (.permissionDenied "Assigned task managers can assign tasks only to themselves.")
  throwIf (!(s.db.users.lookup assignedToId).any fun u ↦ u.status = .active ∧
      u.roleName ∈ ["Lawyer", "Secretary", "Office Admin", "Super Admin"])
    (.of 400 .validationError "Task assignee is invalid.")

/-- The case of the call, if it is not that of the task already, must be visible. -/
def assertTaskCase (existing : Task) : Except Failure Unit :=
  match call.caseId with
  | some caseId =>
    if some caseId = existing.caseId then .ok () else assertCaseVisible s call.actor caseId
  | none => .ok ()

/-- The version after an edit of the one that was seen. -/
def nextVersion (expected now : Time) : Time := max now (expected + 1)

/-- The task as the call leaves it. -/
def UpdateAdminTask.write (assignedToId : Uuid) (task : Task) : Task :=
  { task with
    title := call.title
    description := call.description
    status := call.status
    priority := call.priority
    assignedToId
    caseId := call.caseId
    dueDate := call.dueDate
    updatedAt := nextVersion call.updatedAt call.now }

/-- The answer where no row was claimed. -/
def taskChanged : Failure := .conflict "Task data changed after this form was loaded."

/-- `tx.task.updateMany`, under the scope of the actor and the version of the call. -/
def claimTask (assignedToId : Uuid) : Except Failure TaskStore := do
  let isInScope ← taskScopeWhereForPrincipal call.actor
  if (s.tasks.lookup call.taskId).any fun task ↦
      isInScope task (s.caseOf task) ∧ task.updatedAt = call.updatedAt then
    return { s with tasks := s.tasks.update call.taskId (call.write assignedToId) }
  else do
    let _ ← findTaskForAction s call.actor call.taskId
    .error taskChanged

/-- `updateAdminTask(input)`. -/
def updateAdminTask : Except Failure TaskStore := do
  let existing ← findTaskForAction s call.actor call.taskId
  throwIf (!canManageAdminTask call.actor existing (s.caseOf existing))
    (.permissionDenied "Task update permission is required.")
  assertTaskCase s call existing
  let assignedToId := call.assignedToId.getD existing.assignedToId
  assertAssignableTaskUser s call.actor assignedToId
  claimTask s call assignedToId

end

/-! ## What is thrown before the row is claimed -/

section

variable {s : TaskStore} {call : UpdateAdminTask}

/-- Not the answer to a version that is not stored. -/
def IsNoConflict (e : Failure) : Prop := e ≠ taskChanged

instance : DecidablePred IsNoConflict := fun e ↦ inferInstanceAs (Decidable (e ≠ taskChanged))

theorem raises_findTaskForAction (actor : Principal) (taskId : Uuid) :
    Raises IsNoConflict (findTaskForAction s actor taskId) :=
  .bind (.orThrow (by decide)) fun _ _ ↦ .bind (.throwIf (by decide)) fun _ _ ↦ .ok _

theorem raises_caseScopeWhere (actor : Principal) :
    Raises IsNoConflict (caseScopeWhereForPrincipal actor) := by
  unfold caseScopeWhereForPrincipal
  split_ifs
  · exact .ok _
  · exact .ok _
  · exact .error (by decide)

theorem raises_assertTaskCase (existing : Task) :
    Raises IsNoConflict (assertTaskCase s call existing) := by
  unfold assertTaskCase
  split
  · split_ifs
    · exact .ok ()
    · exact .bind (raises_caseScopeWhere _) fun _ _ ↦ .throwIf (by decide)
  · exact .ok ()

theorem raises_assertAssignableTaskUser (actor : Principal) (assignedToId : Uuid) :
    Raises IsNoConflict (assertAssignableTaskUser s actor assignedToId) :=
  .bind (.throwIf (by decide)) fun _ _ ↦ .throwIf (by decide)

/-- A row in the scope of the actor with the version of the call is claimed. -/
theorem claimTask_of_scope {task : Task} {isInScope : Task → Option LegalCase → Bool}
    (htask : s.tasks.lookup call.taskId = some task)
    (hscope : taskScopeWhereForPrincipal call.actor = .ok isInScope)
    (hin : isInScope task (s.caseOf task)) (hversion : call.updatedAt = task.updatedAt)
    (assignedToId : Uuid) : claimTask s call assignedToId =
      .ok { s with tasks := s.tasks.update call.taskId (call.write assignedToId) } := by
  rw [claimTask, hscope, ok_bind, if_pos]
  · rfl
  · rw [htask, Option.any_some]
    exact decide_eq_true ⟨hin, hversion.symm⟩

end

end KmtLegal
