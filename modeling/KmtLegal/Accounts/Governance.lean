import KmtLegal.Accounts.Store

/-!
# Governance of staff accounts

`createAdminUser`, `updateAdminUser` and `updateAdminUserPassword` of `governance-service.ts` and
`replaceRolePermissions` of `role-permission-service.ts`.  Each is one serializable transaction;
a call carries its body as the schema accepts it, the hash of the password, the id of the row it
may create and its clock.

An exact Super Admin may change every account; other user managers only accounts of the
operational roles whose permissions they have themselves.
-/

namespace KmtLegal

open Relational Js

/-! ## Roles and the permission ceiling -/

def editableOperationalRoleNames : List String :=
  ["Lawyer", "Secretary", "Office Admin", "Marketing Staff"]

def protectedRoleNames : List String := ["Guest", "Client", "Super Admin"]

def canonicalRoleNames : List String :=
  ["Guest", "Client", "Lawyer", "Secretary", "Office Admin", "Marketing Staff", "Super Admin"]

/-- `rolePermissionsWithinCeiling(actorPermissionKeys, candidatePermissionKeys)`. -/
def rolePermissionsWithinCeiling (actorPermissionKeys candidatePermissionKeys : List String) : Bool :=
  candidatePermissionKeys.all (· ∈ actorPermissionKeys)

/-- `delegatedCanTarget(actor, role)`. -/
def delegatedCanTarget (actor : Principal) (role : Role) : Bool :=
  role.status = .active ∧ role.name ∈ editableOperationalRoleNames ∧
    rolePermissionsWithinCeiling (actor.permissions.getD []) (permissionKeysForRole role)

/-- No other role is editable. -/
theorem notMem_editable {name : String} (h : name ∈ protectedRoleNames) :
    name ∉ editableOperationalRoleNames := by
  simp only [protectedRoleNames, List.mem_cons, List.not_mem_nil, or_false] at h
  rcases h with rfl | rfl | rfl <;> decide

/-! ## Permission to call -/

/-- `canManageAdminUsers(actor)`. -/
def canManageAdminUsers (actor : Principal) : Bool := hasPermission actor "user.manage.any"

/-- `canCreateAdminUsers(actor)` and `canChangeAdminUserPassword(actor)`. -/
def canCreateAdminUsers (actor : Principal) : Bool :=
  actor.roleName = "Super Admin" ∧ hasPermission actor "user.manage.any"

/-- `canManageRolePermissions(actor)`. -/
def canManageRolePermissions (actor : Principal) : Bool :=
  actor.roleName = "Super Admin" ∧ hasPermission actor "role.manage.any" ∧
    hasPermission actor "permission.manage.any"

def assertUserCreatePermission (actor : Principal) : Except Failure Unit :=
  throwIf (¬canCreateAdminUsers actor)
    (.permissionDenied "Only Super Admin can create user email accounts.")

def assertPasswordChangePermission (actor : Principal) : Except Failure Unit :=
  throwIf (¬canCreateAdminUsers actor)
    (.permissionDenied "Only Super Admin can change user passwords.")

/-- `assignableRole(client, roleId)`. -/
def assignableRole (acc : Accounts) (roleId : Uuid) : Except Failure Role := do
  let role ← orThrow (acc.roles.lookup roleId) (.validation "Role is invalid.")
  throwIf (role.status ≠ .active ∨ role.name = "Guest" ∨ role.name ∉ canonicalRoleNames)
    (.validation "Role is invalid.")
  pure role

/-- The active session of an active, exact Super Admin. -/
def superAdminSession (acc : Accounts) (actor : Principal) (actorSessionId : Uuid) (now : Time) :
    Option Role := do
  let session ← acc.sessions.lookup actorSessionId
  let (user, role) ← acc.userWithRole session.userId
  if session.userId = actor.id ∧ session.status = .active ∧ session.revokedAt = none ∧
      now < session.expiresAt ∧ acc.hasActiveRole "Super Admin" user then
    some role
  else none

/-- `liveSensitiveAdminActor(client, actor, actorSessionId, now)`. -/
def liveSensitiveAdminActor (acc : Accounts) (actor : Principal) (actorSessionId : Uuid)
    (now : Time) : Except Failure Principal := do
  let role ← orThrow (superAdminSession acc actor actorSessionId now)
    (.permissionDenied "An active exact Super Admin session is required.")
  pure { id := actor.id, roleName := role.name, permissions := some (permissionKeysForRole role) }

/-! ## Creating an account -/

/-- A call of `createAdminUser`. -/
structure CreateAdminUser where
  actor : Principal
  actorSessionId : String
  name : String
  email : String
  phone : Option String := none
  roleId : Uuid
  status : UserStatus := .active
  locale : PublicLocale := .ar
  passwordHash : String
  newUserId : Uuid
  now : Time

/-- The row it creates. -/
def CreateAdminUser.user (call : CreateAdminUser) : UserRecord where
  email := call.email
  name := call.name
  phone := orNull call.phone
  passwordHash := some call.passwordHash
  roleId := call.roleId
  status := call.status
  locale := call.locale
  updatedAt := call.now
  deletedAt := if call.status = .deleted then some call.now else none

def createAdminUser (P : Platform) (acc : Accounts) (call : CreateAdminUser) :
    Except Failure Accounts := do
  assertUserCreatePermission call.actor
  let actorSessionId ← P.parseUuid call.actorSessionId "Session id is invalid."
  let _ ← assignableRole acc call.roleId
  throwIf (acc.userOfEmail call.email).isSome (.conflict "A user with this email already exists.")
  -- the transaction checks again
  let liveActor ← liveSensitiveAdminActor acc call.actor actorSessionId call.now
  assertUserCreatePermission liveActor
  let _ ← assignableRole acc call.roleId
  throwIf (acc.userOfEmail call.email).isSome (.conflict "A user with this email already exists.")
  acc.createUser call.newUserId call.user

/-! ## Changing an account -/

/-- A call of `updateAdminUser`. -/
structure UpdateAdminUser where
  actor : Principal
  userId : String
  name : String
  phone : Option String := none
  roleId : Uuid
  status : UserStatus
  locale : PublicLocale
  updatedAt : Time
  now : Time

/-- The account of the actor as it is stored. -/
def liveUserManager (acc : Accounts) (actor : Principal) : Except Failure Principal := do
  let (user, role) ← orThrow (acc.userWithRole actor.id)
    (.permissionDenied "An active user manager account is required.")
  throwIf (¬isActiveAuthUser user role)
    (.permissionDenied "An active user manager account is required.")
  pure { id := actor.id, roleName := role.name, permissions := some (permissionKeysForRole role) }

namespace UpdateAdminUser

variable (call : UpdateAdminUser)

/-- `actorIsExactSuper`. -/
def ActorIsExactSuper (liveActor : Principal) : Prop :=
  call.actor.roleName = "Super Admin" ∧ liveActor.roleName = "Super Admin"

instance (liveActor : Principal) : Decidable (call.ActorIsExactSuper liveActor) :=
  inferInstanceAs (Decidable (_ ∧ _))

/-- `removesActiveSuper`. -/
def RemovesActiveSuper (existing : UserRecord) (role nextRole : Role) : Prop :=
  existing.status = .active ∧ existing.deletedAt = none ∧ role.name = "Super Admin" ∧
    (call.status ≠ .active ∨ nextRole.name ≠ "Super Admin")

instance (existing : UserRecord) (role nextRole : Role) :
    Decidable (call.RemovesActiveSuper existing role nextRole) :=
  inferInstanceAs (Decidable (_ ∧ _))

/-- The row it leaves. -/
def user (existing : UserRecord) : UserRecord :=
  { existing with
    name := call.name
    phone := orNull call.phone
    roleId := call.roleId
    status := call.status
    locale := call.locale
    deletedAt := if call.status = .deleted then some call.now else none
    updatedAt := call.now }

/-- `accessChanged`. -/
def AccessChanged (existing : UserRecord) : Prop :=
  existing.roleId ≠ call.roleId ∨ existing.status ≠ call.status ∨
    existing.deletedAt.isSome ≠ decide (call.status = .deleted)

instance (existing : UserRecord) : Decidable (call.AccessChanged existing) :=
  inferInstanceAs (Decidable (_ ∨ _))

/-- The role an account may be given. -/
def nextRole (acc : Accounts) (liveActor : Principal) : Except Failure Role := do
  let role ← assignableRole acc call.roleId
  throwIf (¬call.ActorIsExactSuper liveActor ∧ role.name ∈ protectedRoleNames)
    (.permissionDenied "Only Super Admin can assign a protected role.")
  throwIf (¬call.ActorIsExactSuper liveActor ∧ ¬delegatedCanTarget liveActor role)
    (.permissionDenied "The selected role exceeds your permission ceiling.")
  pure role

/-- An active Super Admin other than the user. -/
def otherActiveSuper (acc : Accounts) (userId : Uuid) : Bool :=
  acc.users.any fun id u ↦ id ≠ userId ∧ acc.hasActiveRole "Super Admin" u

end UpdateAdminUser

def updateAdminUser (P : Platform) (acc : Accounts) (call : UpdateAdminUser) :
    Except Failure Accounts := do
  throwIf (¬canManageAdminUsers call.actor)
    (.permissionDenied "User management permission is required.")
  let userId ← P.parseUuid call.userId "User id is invalid."
  let liveActor ← liveUserManager acc call.actor
  throwIf (¬hasPermission liveActor "user.manage.any")
    (.permissionDenied "User management permission is required.")
  let (existing, role) ← orThrow (acc.userWithRole userId) (.notFound "User was not found.")
  throwIf (¬call.ActorIsExactSuper liveActor ∧ ¬delegatedCanTarget liveActor role)
    (.notFound "User was not found.")
  let nextRole ← call.nextRole acc liveActor
  throwIf (call.RemovesActiveSuper existing role nextRole ∧
      ¬UpdateAdminUser.otherActiveSuper acc userId)
    (.conflict "The final active Super Admin account cannot be changed.")
  throwIf (existing.updatedAt ≠ call.updatedAt)
    (.conflict "User data changed after this form was loaded.")
  let updated := acc.updateUser userId call.user
  pure (if call.AccessChanged existing then updated.revokeSessions userId none call.now else updated)

/-! ## Setting a password -/

/-- A call of `updateAdminUserPassword`. -/
structure UpdateAdminUserPassword where
  actor : Principal
  actorSessionId : String
  userId : String
  passwordHash : String
  revokeSessions : Bool := true
  updatedAt : Time
  now : Time

def UpdateAdminUserPassword.user (call : UpdateAdminUserPassword) (existing : UserRecord) :
    UserRecord :=
  { existing with passwordHash := some call.passwordHash, updatedAt := call.now }

/-- The session of the actor stays open. -/
def UpdateAdminUserPassword.ownSession (call : UpdateAdminUserPassword) : Option Uuid :=
  if call.actor.id = call.userId then some call.actorSessionId else none

def updateAdminUserPassword (P : Platform) (acc : Accounts) (call : UpdateAdminUserPassword) :
    Except Failure Accounts := do
  assertPasswordChangePermission call.actor
  let actorSessionId ← P.parseUuid call.actorSessionId "Session id is invalid."
  let userId ← P.parseUuid call.userId "User id is invalid."
  let existing ← orThrow (acc.users.lookup userId) (.notFound "User was not found.")
  let liveActor ← liveSensitiveAdminActor acc call.actor actorSessionId call.now
  assertPasswordChangePermission liveActor
  throwIf (existing.updatedAt ≠ call.updatedAt)
    (.conflict "User data changed after this form was loaded.")
  let updated := acc.updateUser userId call.user
  pure (if call.revokeSessions then updated.revokeSessions userId call.ownSession call.now
    else updated)

/-! ## The permissions of a role -/

/-- A call of `replaceRolePermissions`.  The schema accepts canonical keys, each once. -/
structure ReplaceRolePermissions where
  actor : Principal
  roleId : String
  permissionKeys : List String
  canonical : permissionKeys ⊆ allPermissions
  unique : permissionKeys.Nodup
  updatedAt : Time
  now : Time

/-- `assertLiveExactSuperAdmin(client, actor)`. -/
def assertLiveExactSuperAdmin (acc : Accounts) (actor : Principal) : Except Failure Unit :=
  throwIf (¬(acc.users.lookup actor.id).any (acc.hasActiveRole "Super Admin"))
    (.permissionDenied "An active exact Super Admin account is required.")

def replaceRolePermissions (P : Platform) (acc : Accounts) (call : ReplaceRolePermissions) :
    Except Failure Accounts := do
  throwIf (¬canManageRolePermissions call.actor) (.permissionDenied
    "Exact Super Admin role and both role and permission management permissions are required.")
  let roleId ← P.parseUuid call.roleId "Role id is invalid."
  assertLiveExactSuperAdmin acc call.actor
  throwIf (¬acc.users.any fun _ u ↦ acc.hasActiveRole "Super Admin" u)
    (.conflict "No active Super Admin governance path remains.")
  let role ← orThrow (acc.roles.lookup roleId) (.notFound "Role was not found.")
  throwIf (role.name ∈ protectedRoleNames) (.conflict "Protected roles cannot be changed.")
  throwIf (role.name ∉ editableOperationalRoleNames)
    (.conflict "Only canonical operational roles can be changed.")
  throwIf (role.status ≠ .active) (.conflict "Inactive roles are read-only.")
  let permissions := acc.permissionKeys.filter (· ∈ call.permissionKeys)
  throwIf (permissions.length ≠ call.permissionKeys.length)
    (.validation "Permission keys must be canonical.")
  throwIf (role.updatedAt ≠ call.updatedAt)
    (.conflict "Role permissions changed after this form was loaded.")
  pure { acc with roles := acc.roles.update roleId fun r ↦
    { r with permissions := call.permissionKeys, updatedAt := call.now } }

/-! ## What a call that succeeds has checked and written -/

section

variable {P : Platform} {acc acc' : Accounts}

theorem assignableRole_eq_ok {roleId : Uuid} {role : Role} (h : assignableRole acc roleId = .ok role) :
    acc.roles.lookup roleId = some role ∧ role.status = .active := by
  simp only [assignableRole, bind_eq_ok, orThrow_eq_ok, throwIf_eq_ok, pure_eq_ok] at h
  obtain ⟨_, hrole, -, hok, rfl⟩ := h
  push Not at hok
  exact ⟨hrole, hok.1⟩

/-- A created account is new, and its role is active. -/
theorem createAdminUser_eq_ok {call : CreateAdminUser} (h : createAdminUser P acc call = .ok acc') :
    acc.users.lookup call.newUserId = none ∧
      (∃ role, acc.roles.lookup call.roleId = some role ∧ role.status = .active) ∧
      acc' = { acc with users := acc.users.insert call.newUserId call.user } := by
  unfold createAdminUser at h
  obtain ⟨_, -, h⟩ := bind_eq_ok.mp h
  obtain ⟨_, -, h⟩ := bind_eq_ok.mp h
  obtain ⟨role, hrole, h⟩ := bind_eq_ok.mp h
  obtain ⟨_, -, h⟩ := bind_eq_ok.mp h
  obtain ⟨_, -, h⟩ := bind_eq_ok.mp h
  obtain ⟨_, -, h⟩ := bind_eq_ok.mp h
  obtain ⟨_, -, h⟩ := bind_eq_ok.mp h
  obtain ⟨_, -, h⟩ := bind_eq_ok.mp h
  obtain ⟨-, hid, rfl⟩ := Accounts.createUser_eq_ok.mp h
  exact ⟨hid, ⟨role, assignableRole_eq_ok hrole⟩, rfl⟩

/-- What `updateAdminUser` has checked of an actor, a target and the roles. -/
structure UserUpdate (acc : Accounts) (call : UpdateAdminUser) (liveActor : Principal)
    (existing : UserRecord) (role nextRole : Role) : Prop where
  actor_live : liveUserManager acc call.actor = .ok liveActor
  user_stored : acc.users.lookup call.userId = some existing
  role_stored : acc.roles.lookup existing.roleId = some role
  role_target : call.ActorIsExactSuper liveActor ∨ delegatedCanTarget liveActor role
  nextRole_stored : acc.roles.lookup call.roleId = some nextRole
  nextRole_active : nextRole.status = .active
  nextRole_target : call.ActorIsExactSuper liveActor ∨ delegatedCanTarget liveActor nextRole
  lastSuper : call.RemovesActiveSuper existing role nextRole →
    UpdateAdminUser.otherActiveSuper acc call.userId

/-- The accounts `updateAdminUser` leaves. -/
def UpdateAdminUser.write (call : UpdateAdminUser) (acc : Accounts) (existing : UserRecord) :
    Accounts :=
  let updated := acc.updateUser call.userId call.user
  if call.AccessChanged existing then updated.revokeSessions call.userId none call.now else updated

@[simp] theorem UpdateAdminUser.write_users (call : UpdateAdminUser) (existing : UserRecord) :
    (call.write acc existing).users = acc.users.update call.userId call.user := by
  unfold write
  split_ifs <;> rfl

@[simp] theorem UpdateAdminUser.write_roles (call : UpdateAdminUser) (existing : UserRecord) :
    (call.write acc existing).roles = acc.roles := by
  unfold write
  split_ifs <;> rfl

theorem nextRole_eq_ok {call : UpdateAdminUser} {liveActor : Principal} {role : Role}
    (h : call.nextRole acc liveActor = .ok role) :
    acc.roles.lookup call.roleId = some role ∧ role.status = .active ∧
      (call.ActorIsExactSuper liveActor ∨ delegatedCanTarget liveActor role) := by
  simp only [UpdateAdminUser.nextRole, bind_eq_ok, throwIf_eq_ok, pure_eq_ok] at h
  obtain ⟨_, hrole, -, -, -, htarget, rfl⟩ := h
  obtain ⟨hlookup, hactive⟩ := assignableRole_eq_ok hrole
  refine ⟨hlookup, hactive, ?_⟩
  by_cases hsuper : call.ActorIsExactSuper liveActor
  · exact .inl hsuper
  · exact .inr (not_not.mp fun h ↦ htarget ⟨hsuper, h⟩)

theorem updateAdminUser_eq_ok {call : UpdateAdminUser} (h : updateAdminUser P acc call = .ok acc') :
    ∃ liveActor existing role nextRole, UserUpdate acc call liveActor existing role nextRole ∧
      acc' = call.write acc existing := by
  unfold updateAdminUser at h
  obtain ⟨_, -, h⟩ := bind_eq_ok.mp h
  obtain ⟨userId, huserId, h⟩ := bind_eq_ok.mp h
  obtain ⟨-, rfl⟩ := Platform.parseUuid_eq_ok.mp huserId
  obtain ⟨liveActor, hactor, h⟩ := bind_eq_ok.mp h
  obtain ⟨_, -, h⟩ := bind_eq_ok.mp h
  obtain ⟨⟨existing, role⟩, hexisting, h⟩ := bind_eq_ok.mp h
  obtain ⟨hrow, hrole⟩ := Accounts.userWithRole_eq_some.mp (orThrow_eq_ok.mp hexisting)
  obtain ⟨_, htarget, h⟩ := bind_eq_ok.mp h
  obtain ⟨nextRole, hnext, h⟩ := bind_eq_ok.mp h
  obtain ⟨hnextRole, hactive, hnextTarget⟩ := nextRole_eq_ok hnext
  obtain ⟨_, hlast, h⟩ := bind_eq_ok.mp h
  obtain ⟨_, -, h⟩ := bind_eq_ok.mp h
  rw [throwIf_eq_ok] at htarget hlast
  refine ⟨liveActor, existing, role, nextRole, ⟨hactor, hrow, hrole, ?_, hnextRole, hactive,
    hnextTarget, fun hremoves ↦ not_not.mp fun h ↦ hlast ⟨hremoves, h⟩⟩, (pure_eq_ok.mp h).symm⟩
  by_cases hsuper : call.ActorIsExactSuper liveActor
  · exact .inl hsuper
  · exact .inr (not_not.mp fun h ↦ htarget ⟨hsuper, h⟩)

/-- The accounts `updateAdminUserPassword` leaves. -/
def UpdateAdminUserPassword.write (call : UpdateAdminUserPassword) (acc : Accounts) : Accounts :=
  let updated := acc.updateUser call.userId call.user
  if call.revokeSessions then updated.revokeSessions call.userId call.ownSession call.now
  else updated

@[simp] theorem UpdateAdminUserPassword.write_users (call : UpdateAdminUserPassword) :
    (call.write acc).users = acc.users.update call.userId call.user := by
  unfold write
  split_ifs <;> rfl

@[simp] theorem UpdateAdminUserPassword.write_roles (call : UpdateAdminUserPassword) :
    (call.write acc).roles = acc.roles := by
  unfold write
  split_ifs <;> rfl

theorem updateAdminUserPassword_eq_ok {call : UpdateAdminUserPassword}
    (h : updateAdminUserPassword P acc call = .ok acc') : acc' = call.write acc := by
  unfold updateAdminUserPassword at h
  obtain ⟨_, -, h⟩ := bind_eq_ok.mp h
  obtain ⟨_, -, h⟩ := bind_eq_ok.mp h
  obtain ⟨userId, huserId, h⟩ := bind_eq_ok.mp h
  obtain ⟨-, rfl⟩ := Platform.parseUuid_eq_ok.mp huserId
  obtain ⟨_, -, h⟩ := bind_eq_ok.mp h
  obtain ⟨_, -, h⟩ := bind_eq_ok.mp h
  obtain ⟨_, -, h⟩ := bind_eq_ok.mp h
  obtain ⟨_, -, h⟩ := bind_eq_ok.mp h
  exact (pure_eq_ok.mp h).symm

/-- Only an active operational role gets other permissions. -/
theorem replaceRolePermissions_eq_ok {call : ReplaceRolePermissions}
    (h : replaceRolePermissions P acc call = .ok acc') :
    (∃ role, acc.roles.lookup call.roleId = some role ∧ role.name ∉ protectedRoleNames) ∧
      acc' = { acc with roles := acc.roles.update call.roleId fun r ↦
        { r with permissions := call.permissionKeys, updatedAt := call.now } } := by
  unfold replaceRolePermissions at h
  obtain ⟨_, -, h⟩ := bind_eq_ok.mp h
  obtain ⟨roleId, hroleId, h⟩ := bind_eq_ok.mp h
  obtain ⟨-, rfl⟩ := Platform.parseUuid_eq_ok.mp hroleId
  obtain ⟨_, -, h⟩ := bind_eq_ok.mp h
  obtain ⟨_, -, h⟩ := bind_eq_ok.mp h
  obtain ⟨role, hrole, h⟩ := bind_eq_ok.mp h
  obtain ⟨_, hprotected, h⟩ := bind_eq_ok.mp h
  obtain ⟨_, -, h⟩ := bind_eq_ok.mp h
  obtain ⟨_, -, h⟩ := bind_eq_ok.mp h
  obtain ⟨_, -, h⟩ := bind_eq_ok.mp h
  obtain ⟨_, -, h⟩ := bind_eq_ok.mp h
  exact ⟨⟨role, orThrow_eq_ok.mp hrole, throwIf_eq_ok.mp hprotected⟩, (pure_eq_ok.mp h).symm⟩

end

end KmtLegal
