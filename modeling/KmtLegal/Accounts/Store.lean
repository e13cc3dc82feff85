import KmtLegal.Platform
import KmtLegal.Auth.Policy
import KmtLegal.Auth.TotpEnrollment
import KmtLegal.Relational.Run

/-!
# Accounts

The rows an account is made of: the user with a role, the role's permissions, the sessions, and
for a client the profile that names the user.  Staff write them through the governance and the
client services, and clients through the links they are sent.
-/

namespace KmtLegal

open Relational Js

/-! ## Rows -/

/-- A row of `roles`, with the keys its rows of `role_permissions` grant. -/
structure Role where
  name : String
  status : RoleStatus := .active
  permissions : List String := []
  updatedAt : Time := 0
  deriving DecidableEq

/-- A row of `users`. -/
structure UserRecord where
  email : String
  name : String
  phone : Option String := none
  passwordHash : Option String := none
  roleId : Uuid
  status : UserStatus := .invited
  locale : PublicLocale := .ar
  updatedAt : Time := 0
  deletedAt : Option Time := none
  deriving DecidableEq

/-- A row of `sessions`. -/
structure UserSession where
  userId : Uuid
  status : SessionStatus := .pending2fa
  expiresAt : Time
  revokedAt : Option Time := none
  deriving DecidableEq

/-- The columns of `consultation_requests` a setup link reads. -/
structure SetupConsultation where
  clientId : Option Uuid
  status : ConsultationStatus
  deriving DecidableEq

structure Accounts where
  roles : Table Uuid Role := ∅
  /-- The keys of the table `permissions`. -/
  permissionKeys : List String := allPermissions
  users : Table Uuid UserRecord := ∅
  sessions : Table Uuid UserSession := ∅
  clients : Table Uuid Client := ∅
  consultations : Table Uuid SetupConsultation := ∅

/-! ## Who may sign in -/

/-- `isActiveAuthUser(user)`. -/
def isActiveAuthUser (user : UserRecord) (role : Role) : Bool :=
  user.status = .active ∧ user.deletedAt = none ∧ role.status = .active

/-- `permissionKeysForRole(role)`. -/
def permissionKeysForRole (role : Role) : List String :=
  if role.name = "Super Admin" then ["*"] else role.permissions

/-- `requiresTwoFactor(roleName)`, for staff where the second factor is switched on. -/
def initialSessionStatusForRole (P : Platform) (roleName : String) : SessionStatus :=
  if isStaffRole roleName ∧ P.env "STAFF_2FA_MODE" = "totp" then .pending2fa else .active

namespace Accounts

variable (acc : Accounts)

/-! ## Reading -/

/-- `user.findUnique({ where: { email } })`. -/
def userOfEmail (email : String) : Option (Uuid × UserRecord) :=
  acc.users.findFirst fun _ u ↦ u.email = email

/-- `role.findUnique({ where: { name } })`. -/
def roleOfName (name : String) : Option (Uuid × Role) :=
  acc.roles.findFirst fun _ r ↦ r.name = name

/-- A user with the role. -/
def userWithRole (id : Uuid) : Option (UserRecord × Role) := do
  let user ← acc.users.lookup id
  let role ← acc.roles.lookup user.roleId
  some (user, role)

/-- `user.clientProfile`. -/
def clientProfile (userId : Uuid) : Option (Uuid × Client) :=
  acc.clients.findFirst fun _ c ↦ c.userId = some userId

/-- An active, not deleted user with an active role of the name. -/
def hasActiveRole (name : String) (u : UserRecord) : Bool :=
  u.status = .active ∧ u.deletedAt = none ∧
    (acc.roles.lookup u.roleId).any fun r ↦ r.name = name ∧ r.status = .active

/-! ## Writing -/

/-- `tx.user.updateMany`, of one row. -/
def updateUser (id : Uuid) (f : UserRecord → UserRecord) : Accounts :=
  { acc with users := acc.users.update id f }

/-- `tx.user.create`: the key and the e-mail are unique. -/
def createUser (id : Uuid) (u : UserRecord) : Except Failure Accounts := do
  throwIf (acc.userOfEmail u.email).isSome .uniqueConstraint
  let users ← orThrow (acc.users.create id u) .uniqueConstraint
  pure { acc with users }

/-- `tx.session.updateMany` of the sessions of a user that are not revoked. -/
def updateOpenSessions (userId : Uuid) (except : Option Uuid) (f : UserSession → UserSession) :
    Accounts :=
  { acc with
    sessions := acc.sessions.updateMany
      (fun id s ↦ s.userId = userId ∧ s.revokedAt = none ∧ some id ≠ except) f }

/-- The sessions of a user that are not revoked, all but one, are. -/
def revokeSessions (userId : Uuid) (except : Option Uuid) (now : Time) : Accounts :=
  acc.updateOpenSessions userId except fun s ↦ { s with status := .revoked, revokedAt := some now }

/-- `tx.client.update`: a user has one profile. -/
def updateProfile (id : Uuid) (f : Client → Client) : Except Failure Accounts := do
  let client ← orThrow (acc.clients.lookup id) .recordNotFound
  throwIf (acc.clients.any fun id' c ↦ id' ≠ id ∧ c.userId.isSome ∧ c.userId = (f client).userId)
    .uniqueConstraint
  pure { acc with clients := acc.clients.update id f }

/-! ### What the writes do -/

variable {acc}

@[simp] theorem updateUser_roles (id : Uuid) (f : UserRecord → UserRecord) :
    (acc.updateUser id f).roles = acc.roles := rfl

@[simp] theorem updateUser_users (id : Uuid) (f : UserRecord → UserRecord) :
    (acc.updateUser id f).users = acc.users.update id f := rfl

@[simp] theorem updateUser_sessions (id : Uuid) (f : UserRecord → UserRecord) :
    (acc.updateUser id f).sessions = acc.sessions := rfl

@[simp] theorem updateOpenSessions_roles (userId : Uuid) (except : Option Uuid)
    (f : UserSession → UserSession) : (acc.updateOpenSessions userId except f).roles = acc.roles :=
  rfl

@[simp] theorem updateOpenSessions_users (userId : Uuid) (except : Option Uuid)
    (f : UserSession → UserSession) : (acc.updateOpenSessions userId except f).users = acc.users :=
  rfl

@[simp] theorem revokeSessions_roles (userId : Uuid) (except : Option Uuid) (now : Time) :
    (acc.revokeSessions userId except now).roles = acc.roles := rfl

@[simp] theorem revokeSessions_users (userId : Uuid) (except : Option Uuid) (now : Time) :
    (acc.revokeSessions userId except now).users = acc.users := rfl

/-- A created user had no row, and every other row stays. -/
theorem createUser_eq_ok {id : Uuid} {u : UserRecord} {acc' : Accounts} :
    acc.createUser id u = .ok acc' ↔ acc.userOfEmail u.email = none ∧ acc.users.lookup id = none ∧
      acc' = { acc with users := acc.users.insert id u } := by
  simp only [createUser, bind_eq_ok, throwIf_eq_ok, orThrow_eq_ok, pure_eq_ok,
    Table.create_eq_some, Option.not_isSome_iff_eq_none]
  constructor
  · rintro ⟨_, hemail, _, ⟨hid, rfl⟩, rfl⟩
    exact ⟨hemail, hid, rfl⟩
  · rintro ⟨hemail, hid, rfl⟩
    exact ⟨(), hemail, _, ⟨hid, rfl⟩, rfl⟩

/-- An updated profile was there, and no other names its user. -/
theorem updateProfile_eq_ok {id : Uuid} {f : Client → Client} {acc' : Accounts}
    (h : acc.updateProfile id f = .ok acc') : ∃ client, acc.clients.lookup id = some client ∧
      (∀ id' c, acc.clients.lookup id' = some c → id' ≠ id → c.userId.isSome →
        c.userId ≠ (f client).userId) ∧
      acc' = { acc with clients := acc.clients.update id f } := by
  simp only [updateProfile, bind_eq_ok, throwIf_eq_ok, orThrow_eq_ok, pure_eq_ok] at h
  obtain ⟨client, hclient, -, hunique, rfl⟩ := h
  refine ⟨client, hclient, fun id' c hc hne hsome heq ↦ hunique ?_, rfl⟩
  exact Table.any_iff.mpr ⟨id', c, hc, decide_eq_true ⟨hne, hsome, heq⟩⟩

theorem userWithRole_eq_some {id : Uuid} {user : UserRecord} {role : Role} :
    acc.userWithRole id = some (user, role) ↔
      acc.users.lookup id = some user ∧ acc.roles.lookup user.roleId = some role := by
  simp only [userWithRole, Option.bind_eq_bind, Option.bind_eq_some_iff, Option.some.injEq,
    Prod.mk.injEq]
  constructor
  · rintro ⟨_, huser, _, hrole, rfl, rfl⟩
    exact ⟨huser, hrole⟩
  · rintro ⟨huser, hrole⟩
    exact ⟨user, huser, role, hrole, rfl, rfl⟩

theorem hasActiveRole_iff {name : String} {u : UserRecord} : acc.hasActiveRole name u ↔
    u.status = .active ∧ u.deletedAt = none ∧
      ∃ role, acc.roles.lookup u.roleId = some role ∧ role.name = name ∧ role.status = .active := by
  simp [hasActiveRole, Option.any_eq_true]

/-- What the sessions of a user are after a bulk update. -/
theorem lookup_updateOpenSessions {userId id : Uuid} {except : Option Uuid}
    {f : UserSession → UserSession} {s' : UserSession}
    (h : (acc.updateOpenSessions userId except f).sessions.lookup id = some s') :
    ∃ s, acc.sessions.lookup id = some s ∧
      ((s.userId = userId ∧ s.revokedAt = none ∧ some id ≠ except) ∧ s' = f s ∨
        ¬(s.userId = userId ∧ s.revokedAt = none ∧ some id ≠ except) ∧ s' = s) := by
  rw [updateOpenSessions, Table.lookup_updateMany, Option.map_eq_some_iff] at h
  obtain ⟨s, hs, rfl⟩ := h
  refine ⟨s, hs, ?_⟩
  by_cases hopen : s.userId = userId ∧ s.revokedAt = none ∧ some id ≠ except
  · exact .inl ⟨hopen, if_pos (decide_eq_true hopen)⟩
  · exact .inr ⟨hopen, if_neg (by simpa using hopen)⟩

end Accounts

end KmtLegal
