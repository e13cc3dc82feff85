import KmtLegal.Accounts.Store
import KmtLegal.Relational.Interleaving

/-!
# The installer

`bootstrapFirstSuperAdmin` and `finishInstaller` of `installer-service.ts` statement by statement,
for any number of calls.  Transactions read committed rows: what a transaction writes is seen by
the others when it ends, and until then its rows are locked.  The existing administrators are
counted in one statement and the new one is inserted in another.
-/

namespace KmtLegal

open Relational Js

/-! ## Requests -/

/-- What `installerBootstrapSchema` makes of a body; of the password its hash is used. -/
structure InstallerBootstrap where
  firmName : String
  publicPhone : Option String := none
  publicEmail : Option String := none
  primaryLocale : PublicLocale := .ar
  name : String
  email : String
  locale : PublicLocale := .ar
  deriving DecidableEq

structure BootstrapCall where
  token : String
  /-- `parseWithSchema(installerBootstrapSchema, input.body, …)`. -/
  body : Except Failure InstallerBootstrap
  /-- `hashPassword(body.admin.password)`. -/
  passwordHash : String
  newUserId : Uuid

inductive InstallerCall where
  | bootstrapFirstSuperAdmin (call : BootstrapCall)
  | finishInstaller (token : String)

/-! ## The environment -/

def isInstallerEnabled (P : Platform) : Bool := P.env "INSTALLER_ENABLED" = "true"

def assertInstallerToken (P : Platform) (token : String) : Except Failure Unit :=
  let expected := trim (P.env "INSTALLER_SETUP_TOKEN")
  throwIf (expected = "" ∨ token ≠ expected) (.of 403 .forbidden "Installer setup token is invalid.")

/-! ## Rows and the lock file -/

/-- A row of `system_settings`. -/
structure SystemSetting where
  value : Json
  updatedById : Option Uuid

/-- What `writeInstallerLock` writes. -/
structure InstallerLock where
  lockedAt : String
  superAdminId : Uuid
  deriving DecidableEq

/-- The committed rows, the lock file, and the rows of transactions that have not ended. -/
structure InstallerStore where
  accounts : Accounts
  settings : Table String SystemSetting := ∅
  /-- A file that was opened is there before anything is written to it. -/
  lockFile : Option (Option InstallerLock) := none
  lockedEmails : List String := []
  lockedSettings : List String := []

namespace Accounts

variable (acc : Accounts)

/-- `status: "ACTIVE", role: { name: ROLES.superAdmin }`. -/
def isActiveSuperAdmin (u : UserRecord) : Bool :=
  u.status = .active ∧ (acc.roles.lookup u.roleId).any (·.name = "Super Admin")

/-- `user.count` of these. -/
def activeSuperAdminCount : ℕ := (acc.users.select fun _ u ↦ acc.isActiveSuperAdmin u).length

theorem activeSuperAdminCount_eq_zero : acc.activeSuperAdminCount = 0 ↔
    ∀ id u, acc.users.lookup id = some u → ¬acc.isActiveSuperAdmin u := by
  rw [activeSuperAdminCount, List.length_eq_zero_iff, List.eq_nil_iff_forall_not_mem]
  constructor
  · intro h id u hu hactive
    exact h (id, u) (Table.mem_select.mpr ⟨hu, hactive⟩)
  · rintro h ⟨id, u⟩ hmem
    obtain ⟨hu, hactive⟩ := Table.mem_select.mp hmem
    exact h id u hu hactive

end Accounts

/-! ## The status -/

structure InstallerStatus where
  enabled : Bool
  locked : Bool
  hasActiveSuperAdmin : Bool

def installerUnavailableReason (status : InstallerStatus) : Option String :=
  if !status.enabled then some "Installer is disabled."
  else if status.locked then some "Installer is locked."
  else if status.hasActiveSuperAdmin then some "An active Super Admin already exists."
  else none

/-! ## Phases -/

/-- How far a call is, with what it has read. -/
inductive InstallerPhase where
  | started
  /-- The lock file and the administrators are looked up side by side. -/
  | checking (locked hasActiveSuperAdmin : Option Bool)
  | parsed (body : InstallerBootstrap)
  | withRole (body : InstallerBootstrap) (roleId : Uuid)
  | emailFree (body : InstallerBootstrap) (roleId : Uuid)
  | hashed (body : InstallerBootstrap) (roleId : Uuid)
  /-- In the transaction. -/
  | counted (body : InstallerBootstrap) (roleId : Uuid)
  | created (body : InstallerBootstrap) (user : UserRecord)
  | profiled (body : InstallerBootstrap) (user : UserRecord)
  | secured (body : InstallerBootstrap) (user : UserRecord)
  /-- The transaction has ended. -/
  | committed (userId : Uuid)
  /-- `finishInstaller` has found no lock file. -/
  | unlocked
  | found (superAdminId : Uuid)
  | opened (superAdminId : Uuid)
  | lockWritten (superAdminId : Uuid)
  | finished
  | failed (error : Failure)

namespace InstallerPhase

/-- Nothing is left that could fail. -/
def hasAnswered : InstallerPhase → Bool
  | committed _ | finished => true
  | _ => false

/-- The user row a transaction has written. -/
def heldEmail : InstallerPhase → Option String
  | created body _ | profiled body _ | secured body _ => some body.email
  | _ => none

/-- The settings a transaction has written. -/
def heldSettings : InstallerPhase → List String
  | profiled _ _ => ["office.profile"]
  | secured _ _ => ["office.profile", "security.staff2fa"]
  | _ => []

end InstallerPhase

/-- The transaction ends. -/
def InstallerStore.release (s : InstallerStore) (phase : InstallerPhase) : InstallerStore :=
  { s with
    lockedEmails := s.lockedEmails.filter fun email ↦ some email ≠ phase.heldEmail
    lockedSettings := s.lockedSettings.filter fun key ↦ key ∉ phase.heldSettings }

/-- What moves a call. -/
inductive InstallerMove where
  /-- Its next statement is executed. -/
  | next (now : Time)
  /-- `fs.access` of the lock file answers. -/
  | lockAnswers
  /-- The count of the status answers, or fails. -/
  | countAnswers (ok : Bool)
  /-- The statement fails, or the process. -/
  | fails (error : Failure)

/-! ## `bootstrapFirstSuperAdmin` -/

/-- The `data` of `tx.user.create`. -/
def BootstrapCall.user (call : BootstrapCall) (body : InstallerBootstrap) (roleId : Uuid)
    (now : Time) : UserRecord where
  email := body.email
  name := body.name
  passwordHash := some call.passwordHash
  roleId
  status := .active
  locale := body.locale
  updatedAt := now

/-- The value of the setting `office.profile`. -/
def InstallerBootstrap.officeProfile (body : InstallerBootstrap) : Json :=
  .obj [("firmName", .str body.firmName), ("publicPhone", .str (body.publicPhone.getD "")),
    ("publicEmail", .str (body.publicEmail.getD "")),
    ("primaryLocale", .str (match body.primaryLocale with | .ar => "ar" | .en => "en"))]

/-- The value of the setting `security.staff2fa`. -/
def staff2faSetting : Json :=
  .obj [("requiredForStaff", .bool false), ("totpPrimary", .bool false),
    ("emailOtpFallback", .bool false), ("superAdminResetOnly", .bool true)]

/-- Both reads of the status have answered. -/
def BootstrapCall.afterStatus (call : BootstrapCall) (status : InstallerStatus) : InstallerPhase :=
  match installerUnavailableReason status with
  | some reason => .failed (.conflict reason)
  | none =>
    match call.body with
    | .ok body => .parsed body
    | .error e => .failed e

/-- An answer to one of the reads of the status. -/
def BootstrapCall.answered (P : Platform) (call : BootstrapCall) :
    Option Bool → Option Bool → InstallerPhase
  | some locked, some hasActiveSuperAdmin =>
    call.afterStatus { enabled := isInstallerEnabled P, locked, hasActiveSuperAdmin }
  | locked, hasActiveSuperAdmin => .checking locked hasActiveSuperAdmin

/-- The commit makes the rows of the transaction visible. -/
def InstallerStore.commitBootstrap (s : InstallerStore) (call : BootstrapCall)
    (body : InstallerBootstrap) (user : UserRecord) : Except Failure InstallerStore := do
  let accounts ← s.accounts.createUser call.newUserId user
  let profile : SystemSetting :=
    { value := body.officeProfile, updatedById := some call.newUserId }
  let staff2fa : SystemSetting := { value := staff2faSetting, updatedById := some call.newUserId }
  pure { s with
    accounts
    settings := (s.settings.insert "office.profile" profile).insert "security.staff2fa" staff2fa }

def bootstrapStep (P : Platform) (call : BootstrapCall) (move : InstallerMove) (s : InstallerStore)
    (phase : InstallerPhase) : InstallerStore × InstallerPhase :=
  match move, phase with
  | .next _, .started =>
    match assertInstallerToken P call.token with
    | .ok () => (s, .checking none none)
    | .error e => (s, .failed e)
  | .lockAnswers, .checking none hasActiveSuperAdmin =>
    (s, call.answered P (some s.lockFile.isSome) hasActiveSuperAdmin)
  | .countAnswers ok, .checking locked none =>
    (s, call.answered P locked (some (ok && decide (0 < s.accounts.activeSuperAdminCount))))
  | .next _, .parsed body =>
    match s.accounts.roleOfName "Super Admin" with
    | some (roleId, _) => (s, .withRole body roleId)
    | none => (s, .failed (.of 503 .serviceUnavailable
        "Super Admin role is missing. Run migrations and production seed first."))
  | .next _, .withRole body roleId =>
    if (s.accounts.userOfEmail body.email).isSome then
      (s, .failed (.conflict "A user with this email already exists."))
    else (s, .emailFree body roleId)
  | .next _, .emailFree body roleId => (s, .hashed body roleId)
  | .next _, .hashed body roleId =>
    if 0 < s.accounts.activeSuperAdminCount then
      (s, .failed (.conflict
        "Installer bootstrap is closed because an active Super Admin already exists."))
    else (s, .counted body roleId)
  | .next now, .counted body roleId =>
    -- waits for the transaction that wrote this e-mail
    if body.email ∈ s.lockedEmails then (s, phase)
    else
      match s.accounts.createUser call.newUserId (call.user body roleId now) with
      | .ok _ => ({ s with lockedEmails := body.email :: s.lockedEmails },
          .created body (call.user body roleId now))
      | .error e => (s, .failed e)
  | .next _, .created body user =>
    if "office.profile" ∈ s.lockedSettings then (s, phase)
    else ({ s with lockedSettings := "office.profile" :: s.lockedSettings }, .profiled body user)
  | .next _, .profiled body user =>
    if "security.staff2fa" ∈ s.lockedSettings then (s, phase)
    else ({ s with lockedSettings := "security.staff2fa" :: s.lockedSettings }, .secured body user)
  | .next _, .secured body user =>
    match s.commitBootstrap call body user with
    | .ok s' => (s'.release phase, .committed call.newUserId)
    | .error e => (s.release phase, .failed e)
  | .fails e, _ => if phase.hasAnswered then (s, phase) else (s.release phase, .failed e)
  | _, _ => (s, phase)

/-! ## `finishInstaller` -/

/-- The value of the setting `installer.completed`. -/
def installerCompletedSetting (P : Platform) (now : Time) : Json :=
  .obj [("completedAt", .str (P.isoString now)), ("staff2faMode", .str "disabled"),
    ("smtp", .str "disabled")]

/-- The checks before anything is read from the database. -/
def finishChecks (P : Platform) (token : String) (s : InstallerStore) : Except Failure Unit := do
  assertInstallerToken P token
  throwIf (¬isInstallerEnabled P) (.of 403 .featureDisabled "Installer is disabled.")
  throwIf s.lockFile.isSome (.conflict "Installer is already locked.")

def finishStep (P : Platform) (token : String) (move : InstallerMove) (s : InstallerStore)
    (phase : InstallerPhase) : InstallerStore × InstallerPhase :=
  match move, phase with
  | .next _, .started =>
    match finishChecks P token s with
    | .ok () => (s, .unlocked)
    | .error e => (s, .failed e)
  | .next _, .unlocked =>
    match s.accounts.users.findFirst fun _ u ↦ s.accounts.isActiveSuperAdmin u with
    | some (superAdminId, _) => (s, .found superAdminId)
    | none => (s, .failed (.conflict "Create the first Super Admin before closing the installer."))
  | .next _, .found superAdminId =>
    -- the flag `wx` refuses a file that is there
    if s.lockFile.isSome then (s, .failed (.plain "EEXIST"))
    else ({ s with lockFile := some none }, .opened superAdminId)
  | .next now, .opened superAdminId =>
    ({ s with lockFile := some (some { lockedAt := P.isoString now, superAdminId }) },
      .lockWritten superAdminId)
  | .next now, .lockWritten superAdminId =>
    let setting : SystemSetting :=
      { value := installerCompletedSetting P now, updatedById := some superAdminId }
    ({ s with settings := s.settings.insert "installer.completed" setting }, .finished)
  | .fails e, _ => if phase.hasAnswered then (s, phase) else (s, .failed e)
  | _, _ => (s, phase)

def installerStep (P : Platform) : InstallerCall → InstallerMove → InstallerStore →
    InstallerPhase → InstallerStore × InstallerPhase
  | .bootstrapFirstSuperAdmin call => bootstrapStep P call
  | .finishInstaller token => finishStep P token

end KmtLegal
