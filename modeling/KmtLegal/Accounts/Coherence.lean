import KmtLegal.Accounts.Governance
import KmtLegal.Accounts.Portal

/-!
# Status, deletion mark and sessions

A deleted account has the status and the date, a revoked session has the status and the date, and
an account that staff see as active can sign in.  The services of the governance write both columns.
The calls that make or reset the account of a client set the status alone, and the date of a session
alone: they keep the rows coherent as long as they meet no account that staff have closed and no
session that is open.
-/

namespace KmtLegal

open Relational

inductive AccountCall where
  | createAdminUser (call : CreateAdminUser)
  | updateAdminUser (call : UpdateAdminUser)
  | updateAdminUserPassword (call : UpdateAdminUserPassword)
  | createOrLinkClientPortalAccount (call : CreateClientAccount)
  | resetClientPortalAccountPassword (call : ResetClientPassword)
  | completePublicClientAccountSetup (call : CompleteSetup)

def AccountCall.serve (P : Platform) (acc : Accounts) : AccountCall → Except Failure Accounts
  | createAdminUser call => KmtLegal.createAdminUser P acc call
  | updateAdminUser call => KmtLegal.updateAdminUser P acc call
  | updateAdminUserPassword call => KmtLegal.updateAdminUserPassword P acc call
  | createOrLinkClientPortalAccount call => KmtLegal.createOrLinkClientPortalAccount P acc call
  | resetClientPortalAccountPassword call => KmtLegal.resetClientPortalAccountPassword P acc call
  | completePublicClientAccountSetup call => KmtLegal.completePublicClientAccountSetup P acc call

/-- One call; a call that throws is rolled back. -/
def accountStep (P : Platform) (acc : Accounts) (call : AccountCall) : Accounts :=
  commit (call.serve P acc) acc

/-! ## Coherent rows -/

/-- The deletion has both its marks, and an active account can sign in. -/
structure UserCoherent (roles : Table Uuid Role) (u : UserRecord) : Prop where
  deletion : u.status = .deleted ↔ u.deletedAt.isSome
  signIn : u.status = .active → ∃ role, roles.lookup u.roleId = some role ∧ isActiveAuthUser u role

/-- The revocation has both its marks. -/
def SessionCoherent (s : UserSession) : Prop := s.status = .revoked ↔ s.revokedAt.isSome

structure Coherent (acc : Accounts) : Prop where
  users : ∀ id u, acc.users.lookup id = some u → UserCoherent acc.roles u
  sessions : ∀ id s, acc.sessions.lookup id = some s → SessionCoherent s

/-- A deleted or suspended account is active after the call. -/
def Reopens (P : Platform) (acc : Accounts) (call : AccountCall) : Prop :=
  ∃ id u u', acc.users.lookup id = some u ∧ (u.status = .deleted ∨ u.status = .suspended) ∧
    (accountStep P acc call).users.lookup id = some u' ∧ u'.status = .active

/-- Only `updateAdminUser` reopens an account. -/
def OnlyUpdateReopens (P : Platform) (acc : Accounts) (call : AccountCall) : Prop :=
  Reopens P acc call → ∃ c, call = .updateAdminUser c

/-! ## When a call keeps them -/

/-- Staff have not closed the account, and its role is active. -/
def OpenAccount (acc : Accounts) (u : UserRecord) : Prop :=
  u.status ≠ .deleted ∧ u.status ≠ .suspended ∧
    ∀ role, acc.roles.lookup u.roleId = some role → role.status = .active

/-- The role new accounts of clients get is active. -/
def ClientRoleActive (acc : Accounts) : Prop :=
  ∀ id role, acc.roleOfName "Client" = some (id, role) → role.status = .active

/-- No session of the user is open. -/
def NoOpenSession (acc : Accounts) (userId : Uuid) : Prop :=
  ∀ id s, acc.sessions.lookup id = some s → s.userId = userId → s.revokedAt.isSome

/-- The call meets no account that was closed, no open session it has to revoke and no disabled
role. -/
def AccountCall.MeetsOpen (P : Platform) (acc : Accounts) : AccountCall → Prop
  | createOrLinkClientPortalAccount call => ∀ client, call.Opens P acc client →
      match acc.userOfEmail call.email with
      | some (_, u) => OpenAccount acc u
      | none => ClientRoleActive acc
  | resetClientPortalAccountPassword call => ∀ userId user, call.Opens P acc userId user →
      OpenAccount acc user ∧ (call.revokeSessions → NoOpenSession acc userId)
  | completePublicClientAccountSetup call => ∀ context,
      getClientAccountSetupContext P acc call.token call.now = .ok context →
        checkSetupClient context.client call.email = .ok () → ClientRoleActive acc
  | _ => True

/-! ## Rows that are written -/

variable {P : Platform} {acc acc' : Accounts}

theorem isActiveAuthUser_iff {u : UserRecord} {role : Role} : isActiveAuthUser u role ↔
    u.status = .active ∧ u.deletedAt = none ∧ role.status = .active := by
  simp [isActiveAuthUser]

/-- The row staff write for a user. -/
theorem userCoherent_written {roles : Table Uuid Role} {u : UserRecord} {role : Role} (now : Time)
    (hdeleted : u.deletedAt = if u.status = .deleted then some now else none)
    (hrole : roles.lookup u.roleId = some role) (hactive : role.status = .active) :
    UserCoherent roles u := by
  constructor
  · rw [hdeleted]
    split_ifs with h <;> simp [h]
  · intro hstatus
    refine ⟨role, hrole, isActiveAuthUser_iff.mpr ⟨hstatus, ?_, hactive⟩⟩
    rw [hdeleted, hstatus]
    rfl

/-- An account that is made active was not deleted. -/
theorem userCoherent_activated {roles : Table Uuid Role} {u u' : UserRecord} {role : Role}
    (h : UserCoherent roles u) (hopen : u.status ≠ .deleted) (hstatus : u'.status = .active)
    (hdeleted : u'.deletedAt = u.deletedAt) (hroleId : u'.roleId = u.roleId)
    (hrole : roles.lookup u.roleId = some role) (hactive : role.status = .active) :
    UserCoherent roles u' := by
  have hnone : u.deletedAt = none := by
    by_contra hsome
    exact hopen (h.deletion.mpr (Option.isSome_iff_ne_none.mpr hsome))
  constructor
  · rw [hstatus, hdeleted, hnone]
    exact ⟨nofun, nofun⟩
  · intro _
    refine ⟨role, hroleId ▸ hrole, isActiveAuthUser_iff.mpr ⟨hstatus, hdeleted.trans hnone, hactive⟩⟩

/-- A user like one that is coherent. -/
theorem UserCoherent.congr {roles : Table Uuid Role} {u u' : UserRecord} (h : UserCoherent roles u)
    (hstatus : u'.status = u.status) (hdeleted : u'.deletedAt = u.deletedAt)
    (hroleId : u'.roleId = u.roleId) : UserCoherent roles u' := by
  constructor
  · rw [hstatus, hdeleted]
    exact h.deletion
  · rw [hstatus, hroleId]
    intro hactive
    obtain ⟨role, hrole, hsign⟩ := h.signIn hactive
    rw [isActiveAuthUser_iff] at hsign
    exact ⟨role, hrole, isActiveAuthUser_iff.mpr ⟨hstatus.trans hsign.1, hdeleted.trans hsign.2.1,
      hsign.2.2⟩⟩

/-! ## Tables that are written -/

/-- A new user is coherent with the roles. -/
theorem users_insert {id : Uuid} {u : UserRecord} (h : Coherent acc) (hroles : acc'.roles = acc.roles)
    (hsessions : acc'.sessions = acc.sessions) (hu : UserCoherent acc.roles u)
    (husers : acc'.users = acc.users.insert id u) : Coherent acc' := by
  constructor
  · intro id' u' hu'
    rw [husers, Table.lookup_insert] at hu'
    rw [hroles]
    split_ifs at hu'
    · exact Option.some.inj hu' ▸ hu
    · exact h.users id' u' hu'
  · rw [hsessions]
    exact h.sessions

/-- A user is rewritten, and the sessions that are rewritten stay coherent. -/
theorem users_update {id : Uuid} {f : UserRecord → UserRecord} (h : Coherent acc)
    (hroles : acc'.roles = acc.roles)
    (hu : ∀ u, acc.users.lookup id = some u → UserCoherent acc.roles (f u))
    (husers : acc'.users = acc.users.update id f)
    (hsessions : ∀ id s, acc'.sessions.lookup id = some s → SessionCoherent s) : Coherent acc' := by
  constructor
  · intro id' u' hu'
    rw [husers, Table.lookup_update] at hu'
    rw [hroles]
    split_ifs at hu' with hid
    · subst hid
      obtain ⟨u, hstored, rfl⟩ := Option.map_eq_some_iff.mp hu'
      exact hu u hstored
    · exact h.users id' u' hu'
  · exact hsessions

theorem sessions_revokeSessions (acc : Accounts)
    (h : ∀ id s, acc.sessions.lookup id = some s → SessionCoherent s) (userId : Uuid)
    (except : Option Uuid) (now : Time) (id : Uuid) (s : UserSession)
    (hs : (acc.revokeSessions userId except now).sessions.lookup id = some s) : SessionCoherent s := by
  obtain ⟨s₀, hs₀, ⟨-, rfl⟩ | ⟨-, rfl⟩⟩ := Accounts.lookup_updateOpenSessions hs
  · exact ⟨fun _ ↦ rfl, fun _ ↦ rfl⟩
  · exact h id s hs₀

/-! ## Every call -/

theorem updateAdminUser_coherent {call : UpdateAdminUser} (h : Coherent acc)
    (hserve : updateAdminUser P acc call = .ok acc') : Coherent acc' := by
  obtain ⟨_, existing, _, nextRole, hupdate, rfl⟩ := updateAdminUser_eq_ok hserve
  refine users_update h (UpdateAdminUser.write_roles call existing) (fun u _ ↦ ?_)
    (UpdateAdminUser.write_users call existing) ?_
  · exact userCoherent_written call.now rfl hupdate.nextRole_stored hupdate.nextRole_active
  · unfold UpdateAdminUser.write
    split_ifs
    · exact sessions_revokeSessions (acc.updateUser call.userId call.user) h.sessions _ _ _
    · exact h.sessions

theorem updateAdminUserPassword_coherent {call : UpdateAdminUserPassword} (h : Coherent acc)
    (hserve : updateAdminUserPassword P acc call = .ok acc') : Coherent acc' := by
  obtain rfl := updateAdminUserPassword_eq_ok hserve
  refine users_update h (UpdateAdminUserPassword.write_roles call) (fun u hu ↦ ?_)
    (UpdateAdminUserPassword.write_users call) ?_
  · exact (h.users _ u hu).congr rfl rfl rfl
  · unfold UpdateAdminUserPassword.write
    split_ifs
    · exact sessions_revokeSessions (acc.updateUser call.userId call.user) h.sessions _ _ _
    · exact h.sessions

theorem newPortalUser_coherent {email : String} {roleId : Uuid} {role : Role} {client : Client}
    {credentials : PortalCredentials} {now : Time} (hactive : ClientRoleActive acc)
    (hrole : acc.roleOfName "Client" = some (roleId, role)) :
    UserCoherent acc.roles (newPortalUser email roleId client credentials now) :=
  userCoherent_written now rfl (Table.findFirst_eq_some hrole).1 (hactive roleId role hrole)

theorem createOrLinkClientPortalAccount_coherent {call : CreateClientAccount} (h : Coherent acc)
    (hmeets : (AccountCall.createOrLinkClientPortalAccount call).MeetsOpen P acc)
    (hserve : createOrLinkClientPortalAccount P acc call = .ok acc') : Coherent acc' := by
  obtain ⟨client, hopens, hroles, hsessions, ⟨id, u, hfound, husers⟩ |
    ⟨roleId, role, hnone, hrole, -, husers⟩⟩ := createOrLinkClientPortalAccount_eq_ok hserve
  · have hmeets := hmeets client hopens
    rw [hfound] at hmeets
    obtain ⟨hopen, -, hactive⟩ := hmeets
    obtain ⟨role, hrole, -⟩ := isClientAccount_iff.mp (hopens.existing id u hfound).1
    have hstored := (Table.findFirst_eq_some hfound).1
    refine users_update h hroles (fun u' hu' ↦ ?_) husers (hsessions ▸ h.sessions)
    obtain rfl := Option.some.inj (hstored.symm.trans hu')
    exact userCoherent_activated (h.users id u hstored) hopen rfl rfl rfl hrole (hactive role hrole)
  · have hmeets := hmeets client hopens
    rw [hnone] at hmeets
    exact users_insert h hroles hsessions (newPortalUser_coherent hmeets hrole) husers

theorem resetClientPortalAccountPassword_coherent {call : ResetClientPassword} (h : Coherent acc)
    (hmeets : (AccountCall.resetClientPortalAccountPassword call).MeetsOpen P acc)
    (hserve : resetClientPortalAccountPassword P acc call = .ok acc') : Coherent acc' := by
  obtain ⟨userId, user, hopens, rfl⟩ := resetClientPortalAccountPassword_eq_ok hserve
  obtain ⟨⟨hopen, -, hactive⟩, hnoSession⟩ := hmeets userId user hopens
  obtain ⟨role, hrole, -⟩ := isClientAccount_iff.mp hopens.user_client
  refine users_update h (ResetClientPassword.write_roles call userId) (fun u hu ↦ ?_)
    (ResetClientPassword.write_users call userId) ?_
  · obtain rfl := Option.some.inj (hopens.user_stored.symm.trans hu)
    exact userCoherent_activated (h.users _ _ hu) hopen rfl rfl rfl hrole (hactive role hrole)
  · unfold ResetClientPassword.write
    split_ifs with hrevoke
    · -- there is no session the date would be written to
      intro id s hs
      obtain ⟨s₀, hs₀, ⟨⟨huser, hdate, -⟩, -⟩ | ⟨-, rfl⟩⟩ :=
        (acc.updateUser userId call.user).lookup_updateOpenSessions hs
      · have hsome := hnoSession hrevoke id s₀ hs₀ huser
        rw [hdate] at hsome
        cases hsome
      · exact h.sessions id s hs₀
    · exact h.sessions

theorem completePublicClientAccountSetup_coherent {call : CompleteSetup} (h : Coherent acc)
    (hmeets : (AccountCall.completePublicClientAccountSetup call).MeetsOpen P acc)
    (hserve : completePublicClientAccountSetup P acc call = .ok acc') : Coherent acc' := by
  obtain ⟨⟨acc₁, userId⟩, hsetup, h'⟩ := bind_eq_ok.mp hserve
  obtain ⟨context, roleId, role, client, hcontext, hcheck, hrole, -, -, hroles, hsessions, husers⟩ :=
    setupPortalAccount_eq_ok hsetup
  have hlinked : Coherent acc₁ := users_insert h hroles hsessions
    (newPortalUser_coherent (hmeets context hcontext hcheck) hrole) husers
  obtain rfl := pure_eq_ok.mp h'
  refine commit_of hlinked fun acc₂ hsession ↦ ?_
  obtain ⟨s, hstatus, hdate, -, rfl⟩ := createSessionForUser_eq_ok hsession
  refine ⟨hlinked.users, fun id s' hs' ↦ ?_⟩
  rw [Table.lookup_insert] at hs'
  split_ifs at hs'
  · obtain rfl := Option.some.inj hs'
    exact ⟨fun h ↦ absurd h hstatus, fun h ↦ by rw [hdate] at h; cases h⟩
  · exact hlinked.sessions id s' hs'

theorem coherent_serve {call : AccountCall} (h : Coherent acc) (hmeets : call.MeetsOpen P acc)
    (hserve : call.serve P acc = .ok acc') : Coherent acc' := by
  cases call with
  | createAdminUser call =>
    obtain ⟨-, ⟨role, hrole, hactive⟩, rfl⟩ := createAdminUser_eq_ok hserve
    exact users_insert h rfl rfl (userCoherent_written (u := call.user) call.now rfl hrole hactive) rfl
  | updateAdminUser call => exact updateAdminUser_coherent h hserve
  | updateAdminUserPassword call => exact updateAdminUserPassword_coherent h hserve
  | createOrLinkClientPortalAccount call =>
    exact createOrLinkClientPortalAccount_coherent h hmeets hserve
  | resetClientPortalAccountPassword call =>
    exact resetClientPortalAccountPassword_coherent h hmeets hserve
  | completePublicClientAccountSetup call =>
    exact completePublicClientAccountSetup_coherent h hmeets hserve

/-! ## Who reopens an account -/

/-- A user that is rewritten keeps the status, or was open. -/
theorem not_reopens_update {id : Uuid} {f : UserRecord → UserRecord}
    (husers : acc'.users = acc.users.update id f)
    (hf : ∀ u, acc.users.lookup id = some u →
      (f u).status = u.status ∨ (u.status ≠ .deleted ∧ u.status ≠ .suspended)) {id' : Uuid}
    {u u' : UserRecord} (hu : acc.users.lookup id' = some u)
    (hclosed : u.status = .deleted ∨ u.status = .suspended)
    (hu' : acc'.users.lookup id' = some u') : u'.status ≠ .active := by
  have hnot : u.status ≠ .active := by
    rcases hclosed with h | h <;> rw [h] <;> decide
  rw [husers, Table.lookup_update, hu] at hu'
  split_ifs at hu' with hid
  · subst hid
    obtain rfl := Option.some.inj hu'
    rcases hf u hu with hsame | ⟨hdeleted, hsuspended⟩
    · rw [hsame]
      exact hnot
    · exact absurd hclosed (not_or.mpr ⟨hdeleted, hsuspended⟩)
  · exact Option.some.inj hu' ▸ hnot

/-- A new user has no row to reopen. -/
theorem not_reopens_insert {id : Uuid} {new : UserRecord} (hid : acc.users.lookup id = none)
    (husers : acc'.users = acc.users.insert id new) {id' : Uuid} {u u' : UserRecord}
    (hu : acc.users.lookup id' = some u) (hclosed : u.status = .deleted ∨ u.status = .suspended)
    (hu' : acc'.users.lookup id' = some u') : u'.status ≠ .active := by
  have hne : id' ≠ id := by
    rintro rfl
    rw [hid] at hu
    cases hu
  rw [husers, Table.lookup_insert, if_neg hne, hu] at hu'
  obtain rfl := Option.some.inj hu'
  rcases hclosed with h | h <;> rw [h] <;> decide

theorem onlyUpdateReopens {call : AccountCall} (hmeets : call.MeetsOpen P acc) :
    OnlyUpdateReopens P acc call := by
  rintro ⟨id, u, u', hu, hclosed, hu', hactive⟩
  by_contra hother
  have hnot : u.status ≠ .active := by
    rcases hclosed with h | h <;> rw [h] <;> decide
  unfold accountStep at hu'
  cases hserve : call.serve P acc with
  | error e =>
    rw [hserve, commit_error, hu] at hu'
    exact hnot (Option.some.inj hu' ▸ hactive)
  | ok acc' =>
    rw [hserve, commit_ok] at hu'
    cases call with
    | createAdminUser call =>
      obtain ⟨hid, -, rfl⟩ := createAdminUser_eq_ok hserve
      exact not_reopens_insert hid rfl hu hclosed hu' hactive
    | updateAdminUser call => exact hother ⟨call, rfl⟩
    | updateAdminUserPassword call =>
      obtain rfl := updateAdminUserPassword_eq_ok hserve
      exact not_reopens_update (UpdateAdminUserPassword.write_users call) (fun _ _ ↦ .inl rfl) hu
        hclosed hu' hactive
    | createOrLinkClientPortalAccount call =>
      obtain ⟨client, hopens, -, -, ⟨id', found, hfound, husers⟩ | ⟨_, _, _, -, hid, husers⟩⟩ :=
        createOrLinkClientPortalAccount_eq_ok hserve
      · have hmeets := hmeets client hopens
        rw [hfound] at hmeets
        refine not_reopens_update husers (fun v hv ↦ .inr ?_) hu hclosed hu' hactive
        obtain rfl := Option.some.inj ((Table.findFirst_eq_some hfound).1.symm.trans hv)
        exact ⟨hmeets.1, hmeets.2.1⟩
      · exact not_reopens_insert hid husers hu hclosed hu' hactive
    | resetClientPortalAccountPassword call =>
      obtain ⟨userId, user, hopens, rfl⟩ := resetClientPortalAccountPassword_eq_ok hserve
      obtain ⟨⟨hdeleted, hsuspended, -⟩, -⟩ := hmeets userId user hopens
      refine not_reopens_update (ResetClientPassword.write_users call userId) (fun v hv ↦ .inr ?_)
        hu hclosed hu' hactive
      obtain rfl := Option.some.inj (hopens.user_stored.symm.trans hv)
      exact ⟨hdeleted, hsuspended⟩
    | completePublicClientAccountSetup call =>
      obtain ⟨⟨acc₁, userId⟩, hsetup, h'⟩ := bind_eq_ok.mp hserve
      obtain ⟨_, _, _, _, -, -, -, -, hid, -, -, husers⟩ := setupPortalAccount_eq_ok hsetup
      obtain rfl := pure_eq_ok.mp h'
      have hsame : (commit (createSessionForUser P acc₁ userId call.newSessionId call.now) acc₁).users =
          acc₁.users := by
        refine commit_of (P := fun acc₂ : Accounts ↦ acc₂.users = acc₁.users) rfl fun acc₂ hsession ↦ ?_
        obtain ⟨_, -, -, -, rfl⟩ := createSessionForUser_eq_ok hsession
        rfl
      exact not_reopens_insert hid (hsame.trans husers) hu hclosed hu' hactive

/-! ## Every history -/

def sampleSuperAdmin : Principal := ⟨"0f0e0d0c-1b1a-4918-8716-151413121110", "Super Admin", none, none⟩

def sampleClientRole : Uuid := "6f1d2c3b-4a59-4687-9786-a5b4c3d2e1f0"

def sampleUser : Uuid := "3c2b1a09-8f7e-4d6c-9b5a-493827160504"

def sampleProfile : Uuid := "a1b2c3d4-e5f6-4a7b-8c9d-0e1f2a3b4c5d"

/-- A client without an account. -/
def openAccounts : Accounts where
  roles := AList.singleton sampleClientRole { name := "Client" }
  clients := AList.singleton sampleProfile { fullName := "Mona", phone := "01000000001" }

/-- The same, and an account that staff have deleted. -/
def closedAccounts : Accounts :=
  { openAccounts with
    users := AList.singleton sampleUser
      { email := "mona@example.com", name := "Mona", roleId := sampleClientRole, status := .deleted
        deletedAt := some 5 } }

/-- Staff make the client an account with that e-mail. -/
def sampleCreateAccount : CreateClientAccount where
  actor := sampleSuperAdmin
  clientId := sampleProfile
  email := "mona@example.com"
  credentials := { passwordHash := "h" }
  newUserId := "11f5c8aa-93d2-4e0b-8a76-2b9d3c4e5f60"
  now := 10

theorem openAccounts_coherent : Coherent openAccounts := ⟨nofun, nofun⟩

theorem closedAccounts_coherent : Coherent closedAccounts := by
  refine ⟨fun id u hu ↦ ?_, nofun⟩
  rw [← Table.mem_rows] at hu
  cases List.mem_singleton.mp hu
  exact ⟨⟨fun _ ↦ rfl, fun _ ↦ rfl⟩, nofun⟩

end KmtLegal
