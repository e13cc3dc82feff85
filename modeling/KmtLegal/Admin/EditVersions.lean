import Mathlib.Order.WithBot
import KmtLegal.Accounts.Coherence
import KmtLegal.Accounts.GovernanceHistory
import KmtLegal.Admin.Tasks
import KmtLegal.Relational.Versions

/-!
# Edits that name a version

`replaceRolePermissions`, `updateAdminUser`, `updateAdminUserPassword`, `updateAdminTask` and
`updateAdminSetting` for the profile of the office take the `updatedAt` of the form and claim the
row only if it is still stored.  Tasks and the profile get a version above it; roles and users get
the clock, which may still show the millisecond of the version.
-/

namespace KmtLegal

open Relational Js

/-! ## The profile of the office -/

/-- `officeProfileSettingSchema`. -/
structure OfficeProfile where
  firmName : String
  publicPhone : String
  publicEmail : String
  primaryLocale : PublicLocale
  deriving DecidableEq

/-- The row of `system_settings` under `office.profile`. -/
structure OfficeProfileSetting where
  value : OfficeProfile
  updatedById : Uuid
  updatedAt : Time
  deriving DecidableEq

structure OfficeRecords where
  accounts : Accounts := {}
  tasks : TaskStore := { db := {} }
  officeProfile : Option OfficeProfileSetting := none

/-- A call of `updateAdminSetting` with the key `office.profile`. -/
structure UpdateOfficeProfile where
  actor : Principal
  actorSessionId : String
  value : OfficeProfile
  updatedAt : Option Time
  now : Time

/-- `assertAdminSettingsManagePermission(actor)`. -/
def assertAdminSettingsManagePermission (actor : Principal) : Except Failure Unit :=
  throwIf (!hasPermission actor "settings.manage.any")
    (.permissionDenied "Settings management permission is required.")

/-- `liveSettingsActor(client, actor, actorSessionId, now)`. -/
def liveSettingsActor (acc : Accounts) (actor : Principal) (actorSessionId : Uuid) (now : Time) :
    Except Failure Principal := do
  let denied : Failure := .permissionDenied "An active settings-management session is required."
  let session ← orThrow ((acc.sessions.lookup actorSessionId).filter fun t ↦
    t.userId = actor.id ∧ t.status = .active ∧ t.revokedAt = none ∧ now < t.expiresAt) denied
  let (_, role) ← orThrow ((acc.userWithRole session.userId).filter fun (user, role) ↦
    isActiveAuthUser user role) denied
  let liveActor : Principal :=
    { id := session.userId, roleName := role.name
      permissions := some (permissionKeysForRole role) }
  assertAdminSettingsManagePermission liveActor
  return liveActor

/-- `nextOfficeProfileVersion(observedAt, now)`. -/
def nextOfficeProfileVersion (observedAt now : Time) : Time := nextVersion observedAt now

/-- The row a call leaves, if the one it has seen is stored. -/
def claimOfficeProfile (stored : Option OfficeProfileSetting) (call : UpdateOfficeProfile)
    (updatedById : Uuid) : Except Failure OfficeProfileSetting := do
  let changed : Failure := .conflict "Office profile changed after this form was loaded."
  throwIf (stored.map OfficeProfileSetting.updatedAt ≠ call.updatedAt) changed
  return {
    value := call.value
    updatedById
    updatedAt := call.updatedAt.elim call.now fun seen ↦ nextOfficeProfileVersion seen call.now }

/-- `updateAdminSetting(input)`; a second `create` is refused by the unique key. -/
def updateOfficeProfile (P : Platform) (s : OfficeRecords) (call : UpdateOfficeProfile) :
    Except Failure OfficeRecords := do
  assertAdminSettingsManagePermission call.actor
  let actorSessionId ← P.parseUuid call.actorSessionId "Session id is invalid."
  let liveActor ← liveSettingsActor s.accounts call.actor actorSessionId call.now
  let setting ← claimOfficeProfile s.officeProfile call liveActor.id
  return { s with officeProfile := some setting }

/-! ## Calls and records -/

inductive VersionedCall where
  | governance (call : GovernanceCall)
  | task (call : UpdateAdminTask)
  | profile (call : UpdateOfficeProfile)

inductive VersionedRecord where
  | role (id : Uuid)
  | user (id : Uuid)
  | task (id : Uuid)
  | officeProfile
  deriving DecidableEq

def VersionedCall.serve (P : Platform) (s : OfficeRecords) :
    VersionedCall → Except Failure OfficeRecords
  | governance call => (call.serve P s.accounts).map fun accounts ↦ { s with accounts }
  | task call => (updateAdminTask s.tasks call).map fun tasks ↦ { s with tasks }
  | profile call => updateOfficeProfile P s call

/-- One call; if it is refused nothing is written. -/
def editStep (P : Platform) (s : OfficeRecords) (call : VersionedCall) : OfficeRecords :=
  commit (call.serve P s) s

/-- The stored `updatedAt` of a record; `⊥` if there is no row. -/
def OfficeRecords.version (s : OfficeRecords) : VersionedRecord → WithBot Time
  | .role id => (s.accounts.roles.lookup id).map Role.updatedAt
  | .user id => (s.accounts.users.lookup id).map UserRecord.updatedAt
  | .task id => (s.tasks.tasks.lookup id).map Task.updatedAt
  | .officeProfile => s.officeProfile.map OfficeProfileSetting.updatedAt

/-- The record a call edits and the `updatedAt` it carries. -/
def VersionedCall.carried : VersionedCall → Option (VersionedRecord × WithBot Time)
  | governance (.createAdminUser _) => none
  | governance (.updateAdminUser call) => some (.user call.userId, call.updatedAt)
  | governance (.updateAdminUserPassword call) => some (.user call.userId, call.updatedAt)
  | governance (.replaceRolePermissions call) => some (.role call.roleId, call.updatedAt)
  | task call => some (.task call.taskId, call.updatedAt)
  | profile call => some (.officeProfile, call.updatedAt)

/-- The call succeeds as an edit of the version `v` of the record. -/
def EditAccepted (P : Platform) (record : VersionedRecord) (s : OfficeRecords)
    (call : VersionedCall) (v : WithBot Time) : Prop :=
  call.carried = some (record, v) ∧ ∃ s', call.serve P s = .ok s'

/-- The clock of a call that takes it as the new version. -/
def VersionedCall.clock : VersionedCall → Option Time
  | governance (.createAdminUser _) => none
  | governance (.updateAdminUser call) => some call.now
  | governance (.updateAdminUserPassword call) => some call.now
  | governance (.replaceRolePermissions call) => some call.now
  | task _ | profile _ => none

/-- A call on the record that takes the clock as its version comes later than the version it
carries, if that version is stored. -/
def LaterThanSeen (record : VersionedRecord) (s : OfficeRecords) (call : VersionedCall) : Prop :=
  ∀ now ∈ call.clock, call.carried = some (record, s.version record) → s.version record < now


/-! ## What an edit that succeeds has seen and leaves -/

section

variable {P : Platform}

theorem updateAdminUser_seen {acc acc' : Accounts} {call : UpdateAdminUser}
    (h : updateAdminUser P acc call = .ok acc') :
    ∃ existing, acc.users.lookup call.userId = some existing ∧
      existing.updatedAt = call.updatedAt := by
  simp only [updateAdminUser, bind_eq_ok, orThrow_eq_ok, throwIf_eq_ok, not_not, Prod.exists] at h
  obtain ⟨_, -, userId, huserId, _, -, _, -, existing, role, hexisting, _, -, _, -, _, -, _, hseen,
    -⟩ := h
  obtain ⟨-, rfl⟩ := Platform.parseUuid_eq_ok.mp huserId
  exact ⟨existing, (Accounts.userWithRole_eq_some.mp hexisting).1, hseen⟩

theorem updateAdminUserPassword_seen {acc acc' : Accounts} {call : UpdateAdminUserPassword}
    (h : updateAdminUserPassword P acc call = .ok acc') :
    ∃ existing, acc.users.lookup call.userId = some existing ∧
      existing.updatedAt = call.updatedAt := by
  simp only [updateAdminUserPassword, bind_eq_ok, orThrow_eq_ok, throwIf_eq_ok, not_not] at h
  obtain ⟨_, -, _, -, userId, huserId, existing, hexisting, _, -, _, -, _, hseen, -⟩ := h
  obtain ⟨-, rfl⟩ := Platform.parseUuid_eq_ok.mp huserId
  exact ⟨existing, hexisting, hseen⟩

theorem replaceRolePermissions_seen {acc acc' : Accounts} {call : ReplaceRolePermissions}
    (h : replaceRolePermissions P acc call = .ok acc') :
    ∃ role, acc.roles.lookup call.roleId = some role ∧ role.updatedAt = call.updatedAt := by
  simp only [replaceRolePermissions, bind_eq_ok, orThrow_eq_ok, throwIf_eq_ok, not_not] at h
  obtain ⟨_, -, roleId, hroleId, _, -, _, -, role, hrole, _, -, _, -, _, -, _, -, _, hseen, -⟩ := h
  obtain ⟨-, rfl⟩ := Platform.parseUuid_eq_ok.mp hroleId
  exact ⟨role, hrole, hseen⟩

theorem updateAdminTask_eq_ok {s s' : TaskStore} {call : UpdateAdminTask}
    (h : updateAdminTask s call = .ok s') :
    ∃ task assignedToId, s.tasks.lookup call.taskId = some task ∧
      task.updatedAt = call.updatedAt ∧
      s' = { s with tasks := s.tasks.update call.taskId (call.write assignedToId) } := by
  simp only [updateAdminTask, bind_eq_ok] at h
  obtain ⟨existing, -, _, -, _, -, _, -, hclaim⟩ := h
  obtain ⟨isInScope, -, hclaim⟩ := bind_eq_ok.mp hclaim
  split_ifs at hclaim with hrow
  · obtain ⟨task, htask, hscope⟩ := (Option.any_eq_true _ _).mp hrow
    exact ⟨task, _, htask, (of_decide_eq_true hscope).2, (pure_eq_ok.mp hclaim).symm⟩
  · obtain ⟨_, -, hclaim⟩ := bind_eq_ok.mp hclaim
    cases hclaim

theorem updateOfficeProfile_eq_ok {s s' : OfficeRecords} {call : UpdateOfficeProfile}
    (h : updateOfficeProfile P s call = .ok s') :
    s.officeProfile.map OfficeProfileSetting.updatedAt = call.updatedAt ∧
      ∃ updatedById, s' = { s with officeProfile := some {
        value := call.value
        updatedById
        updatedAt := call.updatedAt.elim call.now fun seen ↦
          nextOfficeProfileVersion seen call.now } } := by
  simp only [updateOfficeProfile, claimOfficeProfile, bind_eq_ok, throwIf_eq_ok, pure_eq_ok,
    not_not, ne_eq] at h
  obtain ⟨_, -, _, -, liveActor, -, _, ⟨_, hseen, rfl⟩, rfl⟩ := h
  exact ⟨hseen, liveActor.id, rfl⟩

/-- What a call that succeeds does to the versions: it leaves the clock or a later version than the
one it carries, which was stored, and no other record gets another version. -/
structure EditsVersion (s s' : OfficeRecords) (call : VersionedCall) (edited : VersionedRecord)
    (seen : WithBot Time) : Prop where
  seen_eq : seen = s.version edited
  written : (∃ now ∈ call.clock, s'.version edited = now) ∨
    call.clock = none ∧ seen < s'.version edited
  others : ∀ record, record ≠ edited → s'.version record = s.version record

theorem seen_lt_nextVersion (seen now : Time) : seen < nextVersion seen now :=
  lt_of_lt_of_le (Int.lt_succ seen) (le_max_right now _)

theorem EditsVersion.of_user {s : OfficeRecords} {accounts : Accounts} {userId : Uuid}
    {f : UserRecord → UserRecord} {existing : UserRecord} {call : VersionedCall} {now : Time}
    (hexisting : s.accounts.users.lookup userId = some existing)
    (husers : accounts.users = s.accounts.users.update userId f)
    (hroles : accounts.roles = s.accounts.roles) (hf : ∀ u, (f u).updatedAt = now)
    (hclock : call.clock = some now) :
    EditsVersion s { s with accounts } call (.user userId) (some existing.updatedAt) where
  seen_eq := by
    rw [OfficeRecords.version, hexisting]
    rfl
  written := by
    refine .inl ⟨now, hclock, ?_⟩
    simp only [OfficeRecords.version, husers, Table.lookup_update_self, hexisting, Option.map_some,
      hf]
    rfl
  others := by
    intro record hne
    cases record with
    | user id =>
      have hid : id ≠ userId := fun h ↦ hne (congrArg _ h)
      simp only [OfficeRecords.version, husers, Table.lookup_update_of_ne _ _ hid]
      rfl
    | role id =>
      simp only [OfficeRecords.version, hroles]
      rfl
    | task id => rfl
    | officeProfile => rfl

theorem EditsVersion.of_role {s : OfficeRecords} {call : ReplaceRolePermissions} {role : Role}
    (hrole : s.accounts.roles.lookup call.roleId = some role) :
    EditsVersion s
      { s with accounts := { s.accounts with
          roles := s.accounts.roles.update call.roleId fun r ↦
            { r with permissions := call.permissionKeys, updatedAt := call.now } } }
      (.governance (.replaceRolePermissions call)) (.role call.roleId) (some role.updatedAt) where
  seen_eq := by
    rw [OfficeRecords.version, hrole]
    rfl
  written := by
    refine .inl ⟨call.now, rfl, ?_⟩
    simp only [OfficeRecords.version, Table.lookup_update_self, hrole, Option.map_some]
    rfl
  others := by
    intro record hne
    cases record with
    | role id =>
      have hid : id ≠ call.roleId := fun h ↦ hne (congrArg _ h)
      simp only [OfficeRecords.version, Table.lookup_update_of_ne _ _ hid]
      rfl
    | user id => rfl
    | task id => rfl
    | officeProfile => rfl

theorem EditsVersion.of_task {s : OfficeRecords} {call : UpdateAdminTask} {task : Task}
    (htask : s.tasks.tasks.lookup call.taskId = some task) (assignedToId : Uuid)
    (hseen : task.updatedAt = call.updatedAt) :
    EditsVersion s
      { s with tasks := { s.tasks with
          tasks := s.tasks.tasks.update call.taskId (call.write assignedToId) } }
      (.task call) (.task call.taskId) (some call.updatedAt) where
  seen_eq := by
    rw [← hseen, OfficeRecords.version, htask]
    rfl
  written := by
    refine .inr ⟨rfl, ?_⟩
    simp only [OfficeRecords.version, Table.lookup_update_self, htask, Option.map_some]
    exact WithBot.coe_lt_coe.mpr (seen_lt_nextVersion _ _)
  others := by
    intro record hne
    cases record with
    | task id =>
      have hid : id ≠ call.taskId := fun h ↦ hne (congrArg _ h)
      simp only [OfficeRecords.version, Table.lookup_update_of_ne _ _ hid]
      rfl
    | user id => rfl
    | role id => rfl
    | officeProfile => rfl

/-- The versions after an edit. -/
theorem editsVersion {s s' : OfficeRecords} {call : VersionedCall} {edited : VersionedRecord}
    {seen : WithBot Time} (h : call.serve P s = .ok s')
    (hcarried : call.carried = some (edited, seen)) : EditsVersion s s' call edited seen := by
  cases call with
  | governance call =>
    obtain ⟨accounts, hserve, rfl⟩ := map_eq_ok.mp h
    cases call with
    | createAdminUser call => cases hcarried
    | updateAdminUser call =>
      cases hcarried
      obtain ⟨existing, hexisting, hseen⟩ := updateAdminUser_seen hserve
      obtain ⟨_, _, _, _, -, rfl⟩ := updateAdminUser_eq_ok hserve
      rw [← hseen]
      exact .of_user hexisting (UpdateAdminUser.write_users _ _) (UpdateAdminUser.write_roles _ _)
        (fun _ ↦ rfl) rfl
    | updateAdminUserPassword call =>
      cases hcarried
      obtain ⟨existing, hexisting, hseen⟩ := updateAdminUserPassword_seen hserve
      obtain rfl := updateAdminUserPassword_eq_ok hserve
      rw [← hseen]
      exact .of_user hexisting (UpdateAdminUserPassword.write_users _)
        (UpdateAdminUserPassword.write_roles _) (fun _ ↦ rfl) rfl
    | replaceRolePermissions call =>
      cases hcarried
      obtain ⟨role, hrole, hseen⟩ := replaceRolePermissions_seen hserve
      obtain ⟨-, rfl⟩ := replaceRolePermissions_eq_ok hserve
      rw [← hseen]
      exact .of_role hrole
  | task call =>
    obtain ⟨tasks, hserve, rfl⟩ := map_eq_ok.mp h
    cases hcarried
    obtain ⟨task, assignedToId, htask, hseen, rfl⟩ := updateAdminTask_eq_ok hserve
    exact .of_task htask assignedToId hseen
  | profile call =>
    cases hcarried
    obtain ⟨hseen, updatedById, rfl⟩ := updateOfficeProfile_eq_ok h
    refine ⟨hseen.symm, .inr ⟨rfl, ?_⟩, fun record hne ↦ ?_⟩
    · cases call.updatedAt with
      | none => exact WithBot.bot_lt_coe _
      | some seen => exact WithBot.coe_lt_coe.mpr (seen_lt_nextVersion _ _)
    · cases record with
      | officeProfile => exact absurd rfl hne
      | user id => rfl
      | role id => rfl
      | task id => rfl

/-- A new account lowers no version. -/
theorem version_le_of_create {s s' : OfficeRecords} {call : VersionedCall}
    (h : call.serve P s = .ok s') (hcarried : call.carried = none) (record : VersionedRecord) :
    s.version record ≤ s'.version record := by
  cases call with
  | governance call =>
    obtain ⟨accounts, hserve, rfl⟩ := map_eq_ok.mp h
    cases call with
    | createAdminUser call =>
      obtain ⟨hid, -, rfl⟩ := createAdminUser_eq_ok hserve
      cases record with
      | user id =>
        simp only [OfficeRecords.version, Table.lookup_insert]
        split_ifs with heq
        · subst heq
          rw [hid]
          exact bot_le
        · exact le_rfl
      | role id => exact le_rfl
      | task id => exact le_rfl
      | officeProfile => exact le_rfl
    | updateAdminUser call => cases hcarried
    | updateAdminUserPassword call => cases hcarried
    | replaceRolePermissions call => cases hcarried
  | task call => cases hcarried
  | profile call => cases hcarried

/-- While the clock is later than the versions that are edited, the edits of a record are under an
optimistic lock. -/
theorem optimisticLock (P : Platform) (record : VersionedRecord) :
    OptimisticLock (editStep P) (·.version record) (EditAccepted P record)
      (LaterThanSeen record) where
  seen := by
    rintro s call v ⟨hcarried, s', hserve⟩
    exact (editsVersion hserve hcarried).seen_eq
  rises := by
    rintro s call v hlater ⟨hcarried, s', hserve⟩
    have hedit := editsVersion hserve hcarried
    rw [editStep, hserve, commit_ok]
    rcases hedit.written with ⟨now, hnow, hwritten⟩ | ⟨-, hlt⟩
    · rw [hwritten]
      refine hlater now hnow ?_
      rw [hcarried, hedit.seen_eq]
    · rwa [hedit.seen_eq] at hlt
  keeps := by
    intro s call hno
    rw [editStep]
    cases hserve : call.serve P s with
    | error e => exact le_rfl
    | ok s' =>
      rw [commit_ok]
      cases hcarried : call.carried with
      | none => exact version_le_of_create hserve hcarried record
      | some edit =>
        obtain ⟨edited, v⟩ := edit
        refine ((editsVersion hserve hcarried).others record ?_).ge
        rintro rfl
        exact hno v ⟨hcarried, s', hserve⟩

end

/-! ## Whole runs -/

/-- What the lock promises of a run: of all calls that carry one version of the record at most one
is accepted, and what an accepted call leaves was never stored before. -/
structure EditedOnce (P : Platform) (record : VersionedRecord) (s : OfficeRecords)
    (l : List VersionedCall) : Prop where
  once : ∀ l₁ l₂ l₃ i j v, l = l₁ ++ i :: (l₂ ++ j :: l₃) →
    EditAccepted P record (run (editStep P) s l₁) i v →
    ¬EditAccepted P record (run (editStep P) s (l₁ ++ i :: l₂)) j v
  fresh : ∀ l₀ l₁ l₂ i v, l = l₁ ++ i :: l₂ → l₀ <+: l₁ →
    EditAccepted P record (run (editStep P) s l₁) i v →
    (run (editStep P) s l₀).version record < (run (editStep P) s (l₁ ++ [i])).version record

/-- An edit with a clock after the version it carries comes later, whatever is stored. -/
theorem laterThanSeen_of_lt {call : VersionedCall} {record : VersionedRecord} {s : OfficeRecords}
    (h : ∀ now ∈ call.clock, ∀ edit ∈ call.carried, edit.2 < (now : WithBot Time)) :
    LaterThanSeen record s call :=
  fun now hnow hcarried ↦ h now hnow _ hcarried

/-! ## Two edits in one millisecond -/

def secretaryRole : Uuid := "7a6b5c4d-3e2f-4a1b-8c0d-9e8f7a6b5c4d"

/-- One Super Admin, and the role of the secretaries as it was left at 5. -/
def secretaryOffice : OfficeRecords where
  accounts := {
    roles := (AList.singleton "super" { name := "Super Admin" }).insert secretaryRole
      { name := "Secretary", updatedAt := 5 }
    users := AList.singleton sampleSuperAdmin.id
      { email := "super@example.com", name := "Super", roleId := "super", status := .active } }

/-- An edit of the role as it was left at 5. -/
def editSecretary (permissionKeys : List String) (canonical : permissionKeys ⊆ allPermissions)
    (unique : permissionKeys.Nodup) (now : Time) : VersionedCall :=
  .governance (.replaceRolePermissions {
    actor := sampleSuperAdmin
    roleId := secretaryRole
    permissionKeys
    canonical
    unique
    updatedAt := 5
    now })

def grantCases (now : Time) : VersionedCall :=
  editSecretary ["case.read.any"] (by decide) (by decide) now

def grantNothing (now : Time) : VersionedCall :=
  editSecretary [] (by decide) (by decide) now

end KmtLegal
