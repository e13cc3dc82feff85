import KmtLegal.Accounts.Store
import KmtLegal.Tokens.SignedLinks

/-!
# Portal accounts of clients

`createOrLinkClientPortalAccount` and `resetClientPortalAccountPassword` of `client-crm-service.ts`,
which staff call, and `completePublicClientAccountSetup` of `client-account-setup-service.ts`, which
the client calls with the link of a scheduled consultation.  All three set a password and make the
account active.
-/

namespace KmtLegal

open Relational Js

/-! ## The rows of a portal account -/

/-- What is written to the account of a client. -/
structure PortalCredentials where
  passwordHash : String
  locale : PublicLocale := .ar
  deriving DecidableEq

/-- An account that is there already is taken over as it is, but for these columns. -/
def UserRecord.grantPortal (u : UserRecord) (client : Client) (credentials : PortalCredentials)
    (now : Time) : UserRecord :=
  { u with
    name := client.fullName
    phone := some client.phone
    passwordHash := some credentials.passwordHash
    status := .active
    locale := credentials.locale
    updatedAt := now }

/-- A new account. -/
def newPortalUser (email : String) (roleId : Uuid) (client : Client)
    (credentials : PortalCredentials) (now : Time) : UserRecord where
  email
  name := client.fullName
  phone := some client.phone
  passwordHash := some credentials.passwordHash
  roleId
  status := .active
  locale := credentials.locale
  updatedAt := now

/-- The profile names the account. -/
def Client.linkUser (c : Client) (userId : Uuid) (email : String) (read : Client) (now : Time) :
    Client :=
  { c with
    userId := some userId
    email := some email
    status := if read.status = .archived then .archived else .active
    updatedAt := now }

/-! ## The steps they share -/

/-- The e-mail and the role of the account to be. -/
structure PortalAccount where
  email : String
  roleId : Uuid
  /-- The account that has the e-mail, as it was read. -/
  existing : Option (Uuid × UserRecord)

/-- The id of the role of clients. -/
def findClientRole (acc : Accounts) : Except Failure Uuid := do
  let (roleId, _) ← orThrow (acc.roleOfName "Client")
    (.of 500 .internalError "Client role is missing. Run production seed first.")
  pure roleId

/-- The role's name is `Client`. -/
def isClientAccount (acc : Accounts) (u : UserRecord) : Bool :=
  (acc.roles.lookup u.roleId).any (·.name = "Client")

/-- `tx.user.update` of the account that was found, or `tx.user.create`. -/
def savePortalUser (acc : Accounts) (account : PortalAccount) (client : Client)
    (credentials : PortalCredentials) (newUserId : Uuid) (now : Time) :
    Except Failure (Accounts × Uuid) :=
  match account.existing with
  | some (id, _) => do
    throwIf (acc.users.lookup id).isNone .recordNotFound
    pure (acc.updateUser id (·.grantPortal client credentials now), id)
  | none => do
    let acc ← acc.createUser newUserId
      (newPortalUser account.email account.roleId client credentials now)
    pure (acc, newUserId)

/-! ## Accounts made by staff -/

/-- A call of `createOrLinkClientPortalAccount`. -/
structure CreateClientAccount where
  actor : Principal
  clientId : String
  email : String
  credentials : PortalCredentials
  newUserId : Uuid
  now : Time

def assertClientAccountManagePermission (actor : Principal) : Except Failure Unit :=
  throwIf (¬hasPermission actor "client.account.manage")
    (.permissionDenied "Client account management permission is required.")

/-- What the call reads before it hashes the password. -/
def CreateClientAccount.read (P : Platform) (acc : Accounts) (call : CreateClientAccount) :
    Except Failure (Uuid × Client × PortalAccount) := do
  assertClientAccountManagePermission call.actor
  let clientId ← P.parseUuid call.clientId "Client id is invalid."
  let client ← orThrow (acc.clients.lookup clientId) (.notFound "Client was not found.")
  throwIf client.deletedAt.isSome (.notFound "Client was not found.")
  throwIf client.userId.isSome (.conflict "Client already has a portal account.")
  let roleId ← findClientRole acc
  let existing := acc.userOfEmail call.email
  throwIf (existing.any fun (_, u) ↦ ¬isClientAccount acc u)
    (.conflict "Email is already used by a staff account.")
  throwIf (existing.any fun (id, _) ↦ (acc.clientProfile id).any fun (profileId, _) ↦
      profileId ≠ clientId)
    (.conflict "Email is already linked to another client.")
  pure (clientId, client, { email := call.email, roleId, existing })

def createOrLinkClientPortalAccount (P : Platform) (acc : Accounts) (call : CreateClientAccount) :
    Except Failure Accounts := do
  let (clientId, client, account) ← call.read P acc
  let (acc, userId) ← savePortalUser acc account client call.credentials call.newUserId call.now
  acc.updateProfile clientId (·.linkUser userId call.email client call.now)

/-- A call of `resetClientPortalAccountPassword`. -/
structure ResetClientPassword where
  actor : Principal
  clientId : String
  passwordHash : String
  revokeSessions : Bool := true
  now : Time

/-- The account the call is about. -/
def ResetClientPassword.read (P : Platform) (acc : Accounts) (call : ResetClientPassword) :
    Except Failure (Uuid × UserRecord) := do
  assertClientAccountManagePermission call.actor
  let clientId ← P.parseUuid call.clientId "Client id is invalid."
  let client ← orThrow (acc.clients.lookup clientId) (.notFound "Client was not found.")
  throwIf client.deletedAt.isSome (.notFound "Client was not found.")
  let userId ← orThrow client.userId (.notFound "Client has no portal account.")
  let user ← orThrow (acc.users.lookup userId) (.notFound "Client has no portal account.")
  throwIf (¬isClientAccount acc user) (.conflict "Linked account is not a client account.")
  pure (userId, user)

def ResetClientPassword.user (call : ResetClientPassword) (u : UserRecord) : UserRecord :=
  { u with passwordHash := some call.passwordHash, status := .active, updatedAt := call.now }

/-- The sessions get a date, and keep their status. -/
def resetClientPortalAccountPassword (P : Platform) (acc : Accounts) (call : ResetClientPassword) :
    Except Failure Accounts := do
  let (userId, _) ← call.read P acc
  let acc := acc.updateUser userId call.user
  pure (if call.revokeSessions then
    acc.updateOpenSessions userId none fun s ↦ { s with revokedAt := some call.now }
  else acc)

/-! ## Accounts made by the client -/

/-- A call of `completePublicClientAccountSetup`: the schema has compared the passwords. -/
structure CompleteSetup where
  token : String
  email : String
  passwordHash : String
  newUserId : Uuid
  newSessionId : Uuid
  now : Time

/-- The part of `getClientAccountSetupContext` the setup uses. -/
structure SetupContext where
  clientId : Uuid
  client : Client
  locale : PublicLocale

/-- `getClientAccountSetupContext({ token, now })`. -/
def getClientAccountSetupContext (P : Platform) (acc : Accounts) (token : String) (now : Time) :
    Except Failure SetupContext := do
  let payload ← verifyClientAccountSetupToken P token now
  let consultation ← orThrow (acc.consultations.lookup payload.consultationId)
    (.notFound "Consultation account setup link was not found.")
  throwIf (consultation.clientId ≠ some payload.clientId)
    (.notFound "Consultation account setup link was not found.")
  let client ← orThrow (acc.clients.lookup payload.clientId)
    (.notFound "Consultation account setup link was not found.")
  throwIf client.deletedAt.isSome (.notFound "Consultation account setup link was not found.")
  throwIf (consultation.status ≠ .scheduled)
    (.conflict "Client account can be created after a confirmed consultation request.")
  pure { clientId := payload.clientId, client, locale := payload.locale.getD .ar }

/-- The client has no account, and no other e-mail. -/
def checkSetupClient (client : Client) (email : String) : Except Failure Unit := do
  throwIf client.userId.isSome (.conflict "Client already has a portal account.")
  throwIf (client.email.any fun stored ↦ stored ≠ "" ∧ toLowerCase stored ≠ email)
    (.conflict "Use the email already saved on this consultation request.")

/-- The lookup of the account with the e-mail, and what is asked of it. -/
def findSetupAccount (acc : Accounts) (clientId roleId : Uuid) (email : String) :
    Except Failure PortalAccount := do
  let existing := acc.userOfEmail email
  throwIf (existing.any fun (_, u) ↦ ¬isClientAccount acc u)
    (.conflict "Email is already used by a staff account.")
  throwIf (existing.any fun (id, _) ↦ (acc.clientProfile id).isNone)
    (.conflict "Email is already registered. Sign in or contact the office to link it.")
  throwIf (existing.any fun (id, _) ↦ (acc.clientProfile id).any fun (profileId, _) ↦
      profileId ≠ clientId)
    (.conflict "Email is already linked to another client.")
  pure { email, roleId, existing }

/-- The client as the transaction reads it. -/
def findFreshClient (acc : Accounts) (clientId : Uuid) (email : String) : Except Failure Client := do
  let client ← orThrow (acc.clients.lookup clientId) (.notFound "Client was not found.")
  throwIf client.deletedAt.isSome (.notFound "Client was not found.")
  checkSetupClient client email
  pure client

/-- The writes of the transaction. -/
def writeSetup (acc : Accounts) (call : CompleteSetup) (context : SetupContext)
    (account : PortalAccount) (fresh : Client) : Except Failure (Accounts × Uuid) := do
  let credentials := { passwordHash := call.passwordHash, locale := context.locale }
  let (acc, userId) ← savePortalUser acc account fresh credentials call.newUserId call.now
  let acc ← acc.updateProfile context.clientId (·.linkUser userId call.email fresh call.now)
  pure (acc, userId)

/-- The account is made, and the client names it. -/
def setupPortalAccount (P : Platform) (acc : Accounts) (call : CompleteSetup) :
    Except Failure (Accounts × Uuid) := do
  let context ← getClientAccountSetupContext P acc call.token call.now
  checkSetupClient context.client call.email
  let roleId ← findClientRole acc
  let account ← findSetupAccount acc context.clientId roleId call.email
  let fresh ← findFreshClient acc context.clientId call.email
  writeSetup acc call context account fresh

/-- `createSessionForUser(user, request)`, which lasts eight hours. -/
def createSessionForUser (P : Platform) (acc : Accounts) (userId sessionId : Uuid) (now : Time) :
    Except Failure Accounts := do
  let (user, role) ← orThrow (acc.userWithRole userId) .recordNotFound
  throwIf (¬isActiveAuthUser user role) (.plain "Active session required.")
  let sessions ← orThrow (acc.sessions.create sessionId
    { userId, status := initialSessionStatusForRole P role.name
      expiresAt := now + 8 * 60 * 60 * 1000 }) .uniqueConstraint
  pure { acc with sessions }

/-- A failure after the transaction leaves the account without a session. -/
def completePublicClientAccountSetup (P : Platform) (acc : Accounts) (call : CompleteSetup) :
    Except Failure Accounts := do
  let (acc, userId) ← setupPortalAccount P acc call
  pure (commit (createSessionForUser P acc userId call.newSessionId call.now) acc)

/-! ## What a call that succeeds has read and written -/

section

variable {P : Platform} {acc acc' : Accounts}

theorem isClientAccount_iff {u : UserRecord} : isClientAccount acc u ↔
    ∃ role, acc.roles.lookup u.roleId = some role ∧ role.name = "Client" := by
  simp [isClientAccount, Option.any_eq_true]

/-- The account that was found is taken over, or a new one is made. -/
theorem savePortalUser_eq_ok {account : PortalAccount} {client : Client}
    {credentials : PortalCredentials} {newUserId userId : Uuid} {now : Time}
    (h : savePortalUser acc account client credentials newUserId now = .ok (acc', userId)) :
    (∃ u, account.existing = some (userId, u) ∧ (acc.users.lookup userId).isSome ∧
        acc' = acc.updateUser userId (·.grantPortal client credentials now)) ∨
      (account.existing = none ∧ userId = newUserId ∧ acc.users.lookup newUserId = none ∧
        acc.userOfEmail account.email = none ∧
        acc' = { acc with
          users := acc.users.insert newUserId
            (newPortalUser account.email account.roleId client credentials now) }) := by
  unfold savePortalUser at h
  cases hexisting : account.existing with
  | some found =>
    obtain ⟨id, u⟩ := found
    simp only [hexisting, bind_eq_ok, throwIf_eq_ok, pure_eq_ok, Prod.mk.injEq] at h
    obtain ⟨-, hstored, rfl, rfl⟩ := h
    exact .inl ⟨u, rfl, by simpa [Option.isSome_iff_ne_none] using hstored, rfl⟩
  | none =>
    simp only [hexisting, bind_eq_ok, pure_eq_ok, Prod.mk.injEq] at h
    obtain ⟨_, hcreate, rfl, rfl⟩ := h
    obtain ⟨hemail, hid, rfl⟩ := Accounts.createUser_eq_ok.mp hcreate
    exact .inr ⟨rfl, rfl, hid, hemail, rfl⟩

/-- The client of a staff call is there and has no account, and the account it takes over is a
client's who has no profile. -/
structure CreateClientAccount.Opens (P : Platform) (acc : Accounts) (call : CreateClientAccount)
    (client : Client) : Prop where
  permission : hasPermission call.actor "client.account.manage"
  uuid : P.isUuid call.clientId
  stored : acc.clients.lookup call.clientId = some client
  open_client : client.deletedAt = none ∧ client.userId = none
  existing : ∀ id u, acc.userOfEmail call.email = some (id, u) →
    isClientAccount acc u ∧ acc.clientProfile id = none

theorem CreateClientAccount.read_eq_ok {call : CreateClientAccount} {clientId : Uuid}
    {client : Client} {account : PortalAccount}
    (h : call.read P acc = .ok (clientId, client, account)) :
    call.Opens P acc client ∧ clientId = call.clientId ∧ account.email = call.email ∧
      account.existing = acc.userOfEmail call.email ∧
      ∃ role, acc.roleOfName "Client" = some (account.roleId, role) := by
  unfold CreateClientAccount.read at h
  simp only [assertClientAccountManagePermission, findClientRole, bind_eq_ok, throwIf_eq_ok,
    orThrow_eq_ok, pure_eq_ok, Prod.mk.injEq, not_not] at h
  obtain ⟨-, hpermission, _, hid, found, hclient, -, hdeleted, -, huserId, _,
    ⟨⟨_, role⟩, hrole, rfl⟩, -, hstaff, -, hlinked, rfl, hfound, rfl⟩ := h
  subst found
  obtain ⟨huuid, rfl⟩ := Platform.parseUuid_eq_ok.mp hid
  have hopen : client.deletedAt = none ∧ client.userId = none :=
    ⟨by simpa using hdeleted, by simpa using huserId⟩
  refine ⟨⟨hpermission, huuid, hclient, hopen, fun id u hexisting ↦ ?_⟩, rfl, rfl, rfl, role, hrole⟩
  simp only [hexisting, Option.any_some, decide_eq_true_eq, not_not] at hstaff hlinked
  refine ⟨hstaff, ?_⟩
  -- a profile of the account would be another client's
  cases hprofile : acc.clientProfile id with
  | none => rfl
  | some profile =>
    obtain ⟨profileId, c⟩ := profile
    obtain ⟨hc, hcuser⟩ := Table.findFirst_eq_some hprofile
    have hsame : profileId = call.clientId := by simpa [hprofile] using hlinked
    rw [hsame, hclient] at hc
    obtain rfl := Option.some.inj hc
    rw [hopen.2] at hcuser
    cases of_decide_eq_true hcuser

theorem createOrLinkClientPortalAccount_eq_ok {call : CreateClientAccount}
    (h : createOrLinkClientPortalAccount P acc call = .ok acc') :
    ∃ client, call.Opens P acc client ∧ acc'.roles = acc.roles ∧ acc'.sessions = acc.sessions ∧
      ((∃ id u, acc.userOfEmail call.email = some (id, u) ∧
          acc'.users = acc.users.update id (·.grantPortal client call.credentials call.now)) ∨
        ∃ roleId role, acc.userOfEmail call.email = none ∧
          acc.roleOfName "Client" = some (roleId, role) ∧ acc.users.lookup call.newUserId = none ∧
          acc'.users = acc.users.insert call.newUserId
            (newPortalUser call.email roleId client call.credentials call.now)) := by
  obtain ⟨⟨clientId, client, account⟩, hread, h⟩ := bind_eq_ok.mp h
  obtain ⟨hopens, rfl, hemail, hexisting, role, hrole⟩ := CreateClientAccount.read_eq_ok hread
  obtain ⟨⟨acc₁, userId⟩, hsave, h⟩ := bind_eq_ok.mp h
  obtain ⟨_, -, -, rfl⟩ := Accounts.updateProfile_eq_ok h
  refine ⟨client, hopens, ?_⟩
  rcases savePortalUser_eq_ok hsave with ⟨u, hfound, -, rfl⟩ | ⟨hnone, rfl, hid, -, rfl⟩
  · exact ⟨rfl, rfl, .inl ⟨userId, u, hexisting.symm.trans hfound, rfl⟩⟩
  · refine ⟨rfl, rfl, .inr ⟨account.roleId, role, hexisting.symm.trans hnone, hrole, hid, ?_⟩⟩
    rw [hemail]

/-- The client of a reset has an account. -/
structure ResetClientPassword.Opens (P : Platform) (acc : Accounts) (call : ResetClientPassword)
    (userId : Uuid) (user : UserRecord) : Prop where
  permission : hasPermission call.actor "client.account.manage"
  uuid : P.isUuid call.clientId
  stored : ∃ client, acc.clients.lookup call.clientId = some client ∧ client.deletedAt = none ∧
    client.userId = some userId
  user_stored : acc.users.lookup userId = some user
  user_client : isClientAccount acc user

theorem ResetClientPassword.read_eq_ok {call : ResetClientPassword} {userId : Uuid}
    {user : UserRecord} (h : call.read P acc = .ok (userId, user)) :
    call.Opens P acc userId user := by
  unfold ResetClientPassword.read at h
  simp only [assertClientAccountManagePermission, bind_eq_ok, throwIf_eq_ok, orThrow_eq_ok,
    pure_eq_ok, Prod.mk.injEq, not_not] at h
  obtain ⟨-, hpermission, _, hid, client, hclient, -, hdeleted, _, huserId, _, huser, -, hrole, rfl,
    rfl⟩ := h
  obtain ⟨huuid, rfl⟩ := Platform.parseUuid_eq_ok.mp hid
  exact ⟨hpermission, huuid, ⟨client, hclient, by simpa using hdeleted, huserId⟩, huser, hrole⟩

/-- The accounts a reset leaves. -/
def ResetClientPassword.write (call : ResetClientPassword) (acc : Accounts) (userId : Uuid) :
    Accounts :=
  let acc := acc.updateUser userId call.user
  if call.revokeSessions then
    acc.updateOpenSessions userId none fun s ↦ { s with revokedAt := some call.now }
  else acc

@[simp] theorem ResetClientPassword.write_users (call : ResetClientPassword) (userId : Uuid) :
    (call.write acc userId).users = acc.users.update userId call.user := by
  unfold write
  split_ifs <;> rfl

@[simp] theorem ResetClientPassword.write_roles (call : ResetClientPassword) (userId : Uuid) :
    (call.write acc userId).roles = acc.roles := by
  unfold write
  split_ifs <;> rfl

theorem resetClientPortalAccountPassword_eq_ok {call : ResetClientPassword}
    (h : resetClientPortalAccountPassword P acc call = .ok acc') :
    ∃ userId user, call.Opens P acc userId user ∧ acc' = call.write acc userId := by
  obtain ⟨⟨userId, user⟩, hread, h⟩ := bind_eq_ok.mp h
  exact ⟨userId, user, ResetClientPassword.read_eq_ok hread, (pure_eq_ok.mp h).symm⟩

theorem checkSetupClient_eq_ok {client : Client} {email : String}
    (h : checkSetupClient client email = .ok ()) : client.userId = none ∧
      ∀ stored, client.email = some stored → stored ≠ "" → toLowerCase stored = email := by
  simp only [checkSetupClient, bind_eq_ok, throwIf_eq_ok] at h
  obtain ⟨-, huserId, hemail⟩ := h
  refine ⟨by simpa using huserId, fun stored hstored hne ↦ ?_⟩
  by_contra hother
  exact hemail (by rw [hstored]; exact decide_eq_true ⟨hne, hother⟩)

theorem findFreshClient_eq_ok {clientId : Uuid} {email : String} {client : Client}
    (h : findFreshClient acc clientId email = .ok client) :
    acc.clients.lookup clientId = some client ∧ checkSetupClient client email = .ok () := by
  simp only [findFreshClient, bind_eq_ok, throwIf_eq_ok, orThrow_eq_ok, pure_eq_ok] at h
  obtain ⟨_, hclient, -, -, _, hcheck, rfl⟩ := h
  exact ⟨hclient, hcheck⟩

/-- An account with the e-mail is the client's own. -/
theorem findSetupAccount_eq_ok {clientId roleId : Uuid} {email : String} {account : PortalAccount}
    (h : findSetupAccount acc clientId roleId email = .ok account) :
    account = { email, roleId, existing := acc.userOfEmail email } ∧
      ∀ id u, acc.userOfEmail email = some (id, u) → isClientAccount acc u ∧
        ∃ client, acc.clients.lookup clientId = some client ∧ client.userId = some id := by
  simp only [findSetupAccount, bind_eq_ok, throwIf_eq_ok, pure_eq_ok] at h
  obtain ⟨-, hstaff, -, hprofile, -, hlinked, rfl⟩ := h
  refine ⟨rfl, fun id u hexisting ↦ ?_⟩
  simp only [hexisting, Option.any_some, decide_eq_true_eq, not_not, Option.isNone_iff_eq_none]
    at hstaff hprofile hlinked
  refine ⟨hstaff, ?_⟩
  obtain ⟨⟨profileId, client⟩, hfound⟩ := Option.ne_none_iff_exists'.mp hprofile
  obtain ⟨hclient, huser⟩ := Table.findFirst_eq_some hfound
  have hsame : profileId = clientId := by simpa [hfound] using hlinked
  exact ⟨client, hsame ▸ hclient, of_decide_eq_true huser⟩

/-- Without an account that was found, a new one is made. -/
theorem writeSetup_eq_ok {call : CompleteSetup} {context : SetupContext} {account : PortalAccount}
    {fresh : Client} {userId : Uuid} (hnone : account.existing = none)
    (h : writeSetup acc call context account fresh = .ok (acc', userId)) :
    userId = call.newUserId ∧ acc.users.lookup call.newUserId = none ∧
      (∃ client, acc.clients.lookup context.clientId = some client) ∧
      acc' = { acc with
        users := acc.users.insert call.newUserId (newPortalUser account.email account.roleId fresh
          { passwordHash := call.passwordHash, locale := context.locale } call.now)
        clients := acc.clients.update context.clientId
          (·.linkUser call.newUserId call.email fresh call.now) } := by
  obtain ⟨⟨acc₁, _⟩, hsave, h⟩ := bind_eq_ok.mp h
  obtain ⟨acc₂, hlink, h⟩ := bind_eq_ok.mp h
  obtain ⟨rfl, rfl⟩ := Prod.mk.inj (pure_eq_ok.mp h)
  obtain ⟨client, hclient, -, rfl⟩ := Accounts.updateProfile_eq_ok hlink
  rcases savePortalUser_eq_ok hsave with ⟨u, hfound, -, -⟩ | ⟨-, rfl, hid, -, rfl⟩
  · rw [hnone] at hfound
    cases hfound
  · exact ⟨rfl, hid, ⟨client, hclient⟩, rfl⟩

/-- A client without an account can only get a new one. -/
theorem setupPortalAccount_eq_ok {call : CompleteSetup} {userId : Uuid}
    (h : setupPortalAccount P acc call = .ok (acc', userId)) :
    ∃ context roleId role client, getClientAccountSetupContext P acc call.token call.now = .ok context ∧
      checkSetupClient context.client call.email = .ok () ∧
      acc.roleOfName "Client" = some (roleId, role) ∧ userId = call.newUserId ∧
      acc.users.lookup call.newUserId = none ∧ acc'.roles = acc.roles ∧ acc'.sessions = acc.sessions ∧
      acc'.users = acc.users.insert call.newUserId (newPortalUser call.email roleId client
        { passwordHash := call.passwordHash, locale := context.locale } call.now) := by
  obtain ⟨context, hcontext, h⟩ := bind_eq_ok.mp h
  obtain ⟨_, hcheck, h⟩ := bind_eq_ok.mp h
  obtain ⟨roleId, hrole, h⟩ := bind_eq_ok.mp h
  obtain ⟨account, haccount, h⟩ := bind_eq_ok.mp h
  obtain ⟨fresh, hfresh, h⟩ := bind_eq_ok.mp h
  simp only [findClientRole, bind_eq_ok, orThrow_eq_ok, pure_eq_ok] at hrole
  obtain ⟨⟨_, role⟩, hrole, rfl⟩ := hrole
  obtain ⟨rfl, hown⟩ := findSetupAccount_eq_ok haccount
  obtain ⟨hclient, hfreshCheck⟩ := findFreshClient_eq_ok hfresh
  have hnone : acc.userOfEmail call.email = none := by
    cases hexisting : acc.userOfEmail call.email with
    | none => rfl
    | some found =>
      -- the account would be the one the client has
      obtain ⟨-, client, hclient', hlinked⟩ := hown found.1 found.2 hexisting
      obtain rfl := Option.some.inj (hclient.symm.trans hclient')
      rw [(checkSetupClient_eq_ok hfreshCheck).1] at hlinked
      cases hlinked
  obtain ⟨rfl, hid, -, rfl⟩ := writeSetup_eq_ok hnone h
  exact ⟨context, _, role, fresh, hcontext, hcheck, hrole, rfl, hid, rfl, rfl, rfl⟩

/-- A created session is new and not revoked. -/
theorem createSessionForUser_eq_ok {userId sessionId : Uuid} {now : Time}
    (h : createSessionForUser P acc userId sessionId now = .ok acc') :
    ∃ s, s.status ≠ .revoked ∧ s.revokedAt = none ∧ s.userId = userId ∧
      acc' = { acc with sessions := acc.sessions.insert sessionId s } := by
  simp only [createSessionForUser, bind_eq_ok, orThrow_eq_ok, throwIf_eq_ok, pure_eq_ok,
    Table.create_eq_some] at h
  obtain ⟨⟨user, role⟩, -, -, -, _, ⟨-, rfl⟩, rfl⟩ := h
  refine ⟨_, ?_, rfl, rfl, rfl⟩
  show initialSessionStatusForRole P role.name ≠ .revoked
  unfold initialSessionStatusForRole
  split_ifs <;> decide

end

end KmtLegal
