import KmtLegal.Accounts.Governance

/-!
# Governance over whole histories

Any actors make any calls, one serializable transaction after the other.  The office keeps an
active Super Admin, nobody passes on a permission that is not his, the roles everybody relies on
keep theirs, and who loses an account's rights loses its sessions.
-/

namespace KmtLegal

open Relational

inductive GovernanceCall where
  | createAdminUser (call : CreateAdminUser)
  | updateAdminUser (call : UpdateAdminUser)
  | updateAdminUserPassword (call : UpdateAdminUserPassword)
  | replaceRolePermissions (call : ReplaceRolePermissions)

def GovernanceCall.serve (P : Platform) (acc : Accounts) : GovernanceCall → Except Failure Accounts
  | createAdminUser call => KmtLegal.createAdminUser P acc call
  | updateAdminUser call => KmtLegal.updateAdminUser P acc call
  | updateAdminUserPassword call => KmtLegal.updateAdminUserPassword P acc call
  | replaceRolePermissions call => KmtLegal.replaceRolePermissions P acc call

/-- One call; a call that throws is rolled back. -/
def governanceStep (P : Platform) (acc : Accounts) (call : GovernanceCall) : Accounts :=
  commit (call.serve P acc) acc

/-! ## What is promised -/

/-- An active, not deleted user has the active role of the Super Admin. -/
def SuperAdminRemains (acc : Accounts) : Prop :=
  ∃ id u, acc.users.lookup id = some u ∧ acc.hasActiveRole "Super Admin" u

/-- The permissions a user has by the role. -/
def Accounts.permissionsOf (acc : Accounts) (u : UserRecord) : List String :=
  (acc.roles.lookup u.roleId).elim [] permissionKeysForRole

/-- The user's role is operational, and grants nothing beyond `keys`. -/
def WithinCeiling (acc : Accounts) (keys : List String) (u : UserRecord) : Prop :=
  ∃ role, acc.roles.lookup u.roleId = some role ∧ role.name ∈ editableOperationalRoleNames ∧
    permissionKeysForRole role ⊆ keys

/-- An actor who is not a Super Admin changes accounts within the own permissions only. -/
structure DelegatedUpdate (acc acc' : Accounts) (call : UpdateAdminUser) (keys : List String) :
    Prop where
  before : ∃ u, acc.users.lookup call.userId = some u ∧ WithinCeiling acc keys u
  after : ∃ u, acc'.users.lookup call.userId = some u ∧ WithinCeiling acc' keys u
  /-- Nobody gains a permission the actor lacks. -/
  gains : ∀ id u', acc'.users.lookup id = some u' → ∃ u, acc.users.lookup id = some u ∧
    ∀ key ∈ acc'.permissionsOf u', key ∈ acc.permissionsOf u ∨ key ∈ keys

/-- A user's role, status or deletion differs. -/
def AccessDiffers (u u' : UserRecord) : Prop :=
  u.roleId ≠ u'.roleId ∨ u.status ≠ u'.status ∨ u.deletedAt.isSome ≠ u'.deletedAt.isSome

/-- The sessions of a user that were open are revoked. -/
def SessionsRevoked (acc acc' : Accounts) (userId : Uuid) : Prop :=
  ∀ id s, acc.sessions.lookup id = some s → s.userId = userId → s.revokedAt = none →
    ∃ s', acc'.sessions.lookup id = some s' ∧ s'.status = .revoked ∧ s'.revokedAt.isSome

/-- What every call promises of the accounts before and after it. -/
structure GovernancePromise (P : Platform) (acc : Accounts) (call : GovernanceCall) : Prop where
  superAdmin : SuperAdminRemains acc → SuperAdminRemains (governanceStep P acc call)
  delegated : ∀ c acc', call = .updateAdminUser c → updateAdminUser P acc c = .ok acc' →
    ∃ user role, acc.userWithRole c.actor.id = some (user, role) ∧
      (c.actor.roleName ≠ "Super Admin" ∨ role.name ≠ "Super Admin" →
        DelegatedUpdate acc acc' c (permissionKeysForRole role))
  protectedRoles : ∀ id role, role.name ∈ protectedRoleNames →
    (acc.roles.lookup id = some role ↔ (governanceStep P acc call).roles.lookup id = some role)
  sessions : ∀ id u u', acc.users.lookup id = some u →
    (governanceStep P acc call).users.lookup id = some u' → AccessDiffers u u' →
    SessionsRevoked acc (governanceStep P acc call) id
  refused : ∀ e, call.serve P acc = .error e → governanceStep P acc call = acc

variable {P : Platform} {acc acc' : Accounts}

/-! ## The last Super Admin -/

/-- A user keeps the role if the roles keep their names and states. -/
theorem SuperAdminRemains.of_user {id : Uuid} {u : UserRecord} (hu : acc'.users.lookup id = some u)
    (hroles : ∀ r, acc.roles.lookup u.roleId = some r →
      ∃ r', acc'.roles.lookup u.roleId = some r' ∧ r'.name = r.name ∧ r'.status = r.status)
    (h : acc.hasActiveRole "Super Admin" u) : SuperAdminRemains acc' := by
  obtain ⟨hstatus, hdeleted, role, hrole, hname, hactive⟩ := Accounts.hasActiveRole_iff.mp h
  obtain ⟨role', hrole', hname', hactive'⟩ := hroles role hrole
  exact ⟨id, u, hu, Accounts.hasActiveRole_iff.mpr
    ⟨hstatus, hdeleted, role', hrole', hname'.trans hname, hactive'.trans hactive⟩⟩

theorem UserUpdate.superAdminRemains {call : UpdateAdminUser} {liveActor : Principal}
    {existing : UserRecord} {role nextRole : Role}
    (h : UserUpdate acc call liveActor existing role nextRole) (hsuper : SuperAdminRemains acc) :
    SuperAdminRemains (call.write acc existing) := by
  have hroles : ∀ u : UserRecord, ∀ r, acc.roles.lookup u.roleId = some r →
      ∃ r', (call.write acc existing).roles.lookup u.roleId = some r' ∧ r'.name = r.name ∧
        r'.status = r.status := fun u r hr ↦
    ⟨r, by rw [UpdateAdminUser.write_roles]; exact hr, rfl, rfl⟩
  -- another active Super Admin has the same row afterwards
  have hother : ∀ id u, acc.users.lookup id = some u → id ≠ call.userId →
      acc.hasActiveRole "Super Admin" u → SuperAdminRemains (call.write acc existing) := by
    intro id u hu hne hactive
    have hu' : (call.write acc existing).users.lookup id = some u := by
      rw [UpdateAdminUser.write_users, Table.lookup_update_of_ne _ _ hne, hu]
    exact .of_user hu' (hroles u) hactive
  obtain ⟨id, u, hu, hactive⟩ := hsuper
  by_cases hid : id = call.userId
  · subst hid
    obtain rfl : u = existing := Option.some.inj (hu.symm.trans h.user_stored)
    by_cases hremoves : call.RemovesActiveSuper u role nextRole
    · obtain ⟨id', u', hu', hactive'⟩ := Table.any_iff.mp (h.lastSuper hremoves)
      obtain ⟨hne, hactive'⟩ := of_decide_eq_true hactive'
      exact hother id' u' hu' hne hactive'
    · -- the account keeps status and role
      obtain ⟨hstatus, hdeleted, role', hrole', hname, -⟩ := Accounts.hasActiveRole_iff.mp hactive
      obtain rfl : role' = role := Option.some.inj (hrole'.symm.trans h.role_stored)
      have hkept : call.status = .active ∧ nextRole.name = "Super Admin" := by
        by_contra hnot
        exact hremoves ⟨hstatus, hdeleted, hname, not_and_or.mp hnot⟩
      refine ⟨call.userId, call.user u, ?_, ?_⟩
      · rw [UpdateAdminUser.write_users, Table.lookup_update_self, hu, Option.map_some]
      · refine Accounts.hasActiveRole_iff.mpr ⟨hkept.1, ?_, nextRole, ?_, hkept.2, h.nextRole_active⟩
        · exact if_neg (by rw [hkept.1]; decide)
        · rw [UpdateAdminUser.write_roles]
          exact h.nextRole_stored
  · exact hother id u hu hid hactive

theorem superAdminRemains_serve {call : GovernanceCall} (h : call.serve P acc = .ok acc')
    (hsuper : SuperAdminRemains acc) : SuperAdminRemains acc' := by
  cases call with
  | createAdminUser call =>
    obtain ⟨hid, -, rfl⟩ := createAdminUser_eq_ok h
    obtain ⟨id, u, hu, hactive⟩ := hsuper
    have hne : id ≠ call.newUserId := by
      rintro rfl
      rw [hid] at hu
      cases hu
    exact ⟨id, u, by rw [Table.lookup_insert, if_neg hne, hu], hactive⟩
  | updateAdminUser call =>
    obtain ⟨_, _, _, _, hupdate, rfl⟩ := updateAdminUser_eq_ok h
    exact hupdate.superAdminRemains hsuper
  | updateAdminUserPassword call =>
    obtain rfl := updateAdminUserPassword_eq_ok h
    obtain ⟨id, u, hu, hactive⟩ := hsuper
    have hroles : (call.write acc).roles = acc.roles := UpdateAdminUserPassword.write_roles call
    by_cases hid : id = call.userId
    · refine ⟨id, call.user u, ?_, ?_⟩
      · rw [UpdateAdminUserPassword.write_users, hid, Table.lookup_update_self, ← hid, hu,
          Option.map_some]
      · rw [Accounts.hasActiveRole_iff, hroles]
        exact Accounts.hasActiveRole_iff.mp hactive
    · refine ⟨id, u, ?_, ?_⟩
      · rw [UpdateAdminUserPassword.write_users, Table.lookup_update_of_ne _ _ hid, hu]
      · rw [Accounts.hasActiveRole_iff, hroles]
        exact Accounts.hasActiveRole_iff.mp hactive
  | replaceRolePermissions call =>
    obtain ⟨-, rfl⟩ := replaceRolePermissions_eq_ok h
    obtain ⟨id, u, hu, hactive⟩ := hsuper
    refine SuperAdminRemains.of_user hu ?_ hactive
    intro r hr
    rw [Table.lookup_update, hr]
    split_ifs
    · exact ⟨_, rfl, rfl, rfl⟩
    · exact ⟨r, rfl, rfl, rfl⟩

/-! ## The ceiling -/

theorem within_of_delegatedCanTarget {liveActor : Principal} {role : Role} {keys : List String}
    (hkeys : liveActor.permissions = some keys) (h : delegatedCanTarget liveActor role) :
    role.name ∈ editableOperationalRoleNames ∧ permissionKeysForRole role ⊆ keys := by
  obtain ⟨-, hname, hceiling⟩ := of_decide_eq_true h
  rw [hkeys, Option.getD_some] at hceiling
  exact ⟨hname, fun key hkey ↦ of_decide_eq_true (List.all_eq_true.mp hceiling key hkey)⟩

theorem liveUserManager_eq_ok {actor liveActor : Principal} (h : liveUserManager acc actor = .ok liveActor) :
    ∃ user role, acc.userWithRole actor.id = some (user, role) ∧ liveActor.roleName = role.name ∧
      liveActor.permissions = some (permissionKeysForRole role) := by
  simp only [liveUserManager, bind_eq_ok, orThrow_eq_ok, throwIf_eq_ok, pure_eq_ok] at h
  obtain ⟨⟨user, role⟩, huser, -, -, rfl⟩ := h
  exact ⟨user, role, huser, rfl, rfl⟩

theorem UserUpdate.delegated {call : UpdateAdminUser} {liveActor : Principal}
    {existing : UserRecord} {role nextRole : Role} {keys : List String}
    (h : UserUpdate acc call liveActor existing role nextRole)
    (hkeys : liveActor.permissions = some keys) (hsuper : ¬call.ActorIsExactSuper liveActor) :
    DelegatedUpdate acc (call.write acc existing) call keys := by
  obtain ⟨hname, hceiling⟩ := within_of_delegatedCanTarget hkeys (h.role_target.resolve_left hsuper)
  obtain ⟨hname', hceiling'⟩ :=
    within_of_delegatedCanTarget hkeys (h.nextRole_target.resolve_left hsuper)
  have hafter : (call.write acc existing).users.lookup call.userId = some (call.user existing) := by
    rw [UpdateAdminUser.write_users, Table.lookup_update_self, h.user_stored, Option.map_some]
  have hnextRole : (call.write acc existing).roles.lookup call.roleId = some nextRole := by
    rw [UpdateAdminUser.write_roles]
    exact h.nextRole_stored
  refine ⟨⟨existing, h.user_stored, role, h.role_stored, hname, hceiling⟩,
    ⟨call.user existing, hafter, nextRole, hnextRole, hname', hceiling'⟩, fun id u' hu' ↦ ?_⟩
  by_cases hid : id = call.userId
  · subst hid
    obtain rfl := Option.some.inj (hafter.symm.trans hu')
    refine ⟨existing, h.user_stored, fun key hkey ↦ .inr (hceiling' ?_)⟩
    have hroleId : (call.user existing).roleId = call.roleId := rfl
    rwa [Accounts.permissionsOf, hroleId, hnextRole] at hkey
  · rw [UpdateAdminUser.write_users, Table.lookup_update_of_ne _ _ hid] at hu'
    refine ⟨u', hu', fun key hkey ↦ .inl ?_⟩
    rwa [Accounts.permissionsOf, UpdateAdminUser.write_roles] at hkey

/-! ## Protected roles -/

theorem protectedRole_serve {call : GovernanceCall} (h : call.serve P acc = .ok acc') {id : Uuid}
    {role : Role} (hprotected : role.name ∈ protectedRoleNames) :
    acc.roles.lookup id = some role ↔ acc'.roles.lookup id = some role := by
  cases call with
  | createAdminUser call =>
    obtain ⟨-, -, rfl⟩ := createAdminUser_eq_ok h
    exact Iff.rfl
  | updateAdminUser call =>
    obtain ⟨_, _, _, _, -, rfl⟩ := updateAdminUser_eq_ok h
    rw [UpdateAdminUser.write_roles]
  | updateAdminUserPassword call =>
    obtain rfl := updateAdminUserPassword_eq_ok h
    rw [UpdateAdminUserPassword.write_roles]
  | replaceRolePermissions call =>
    obtain ⟨⟨edited, hedited, hnot⟩, rfl⟩ := replaceRolePermissions_eq_ok h
    rw [Table.lookup_update]
    split_ifs with hid
    · subst hid
      rw [hedited, Option.map_some, Option.some.injEq, Option.some.injEq]
      constructor
      · rintro rfl
        exact absurd hprotected hnot
      · rintro rfl
        exact absurd hprotected hnot
    · rfl

/-! ## Sessions -/

theorem sessionsRevoked_revokeSessions (acc : Accounts) (userId : Uuid) (now : Time) :
    SessionsRevoked acc (acc.revokeSessions userId none now) userId := by
  intro id s hs huser hopen
  refine ⟨{ s with status := .revoked, revokedAt := some now }, ?_, rfl, rfl⟩
  rw [Accounts.revokeSessions, Accounts.updateOpenSessions, Table.lookup_updateMany, hs,
    Option.map_some, if_pos (decide_eq_true ⟨huser, hopen, Option.some_ne_none id⟩)]

theorem UserUpdate.sessionsRevoked {call : UpdateAdminUser} {existing : UserRecord}
    (h : AccessDiffers existing (call.user existing)) :
    SessionsRevoked acc (call.write acc existing) call.userId := by
  have hchanged : call.AccessChanged existing := by
    rcases h with hrole | hstatus | hdeleted
    · exact .inl hrole
    · exact .inr (.inl hstatus)
    · refine .inr (.inr fun heq ↦ hdeleted ?_)
      rw [heq]
      show decide _ = (if call.status = .deleted then some call.now else none).isSome
      split_ifs with hd <;> simp [hd]
  rw [UpdateAdminUser.write, if_pos hchanged]
  exact sessionsRevoked_revokeSessions (acc.updateUser call.userId call.user) _ _

theorem sessionsRevoked_serve {call : GovernanceCall} (h : call.serve P acc = .ok acc') {id : Uuid}
    {u u' : UserRecord} (hu : acc.users.lookup id = some u) (hu' : acc'.users.lookup id = some u')
    (hdiffers : AccessDiffers u u') : SessionsRevoked acc acc' id := by
  have hsame : ¬AccessDiffers u u := by simp [AccessDiffers]
  cases call with
  | createAdminUser call =>
    obtain ⟨hid, -, rfl⟩ := createAdminUser_eq_ok h
    have hne : id ≠ call.newUserId := by
      rintro rfl
      rw [hid] at hu
      cases hu
    rw [Table.lookup_insert, if_neg hne, hu] at hu'
    obtain rfl := Option.some.inj hu'
    exact absurd hdiffers hsame
  | updateAdminUser call =>
    obtain ⟨_, existing, _, _, hupdate, rfl⟩ := updateAdminUser_eq_ok h
    rw [UpdateAdminUser.write_users, Table.lookup_update, hu] at hu'
    split_ifs at hu' with hid
    · subst hid
      obtain rfl := Option.some.inj (hu.symm.trans hupdate.user_stored)
      obtain rfl := Option.some.inj hu'
      exact UserUpdate.sessionsRevoked hdiffers
    · obtain rfl := Option.some.inj hu'
      exact absurd hdiffers hsame
  | updateAdminUserPassword call =>
    obtain rfl := updateAdminUserPassword_eq_ok h
    rw [UpdateAdminUserPassword.write_users, Table.lookup_update, hu] at hu'
    -- a password is none of the three
    have hpassword : ¬AccessDiffers u (call.user u) := by
      simp [AccessDiffers, UpdateAdminUserPassword.user]
    split_ifs at hu'
    · obtain rfl := Option.some.inj hu'
      exact absurd hdiffers hpassword
    · obtain rfl := Option.some.inj hu'
      exact absurd hdiffers hsame
  | replaceRolePermissions call =>
    obtain ⟨-, rfl⟩ := replaceRolePermissions_eq_ok h
    obtain rfl := Option.some.inj (hu.symm.trans hu')
    exact absurd hdiffers hsame

/-! ## Every call, every history -/

theorem governancePromise (acc : Accounts) (call : GovernanceCall) : GovernancePromise P acc call := by
  constructor
  · intro hsuper
    exact commit_of hsuper fun acc' h ↦ superAdminRemains_serve h hsuper
  · rintro c acc' rfl h
    obtain ⟨liveActor, existing, role, nextRole, hupdate, rfl⟩ := updateAdminUser_eq_ok h
    obtain ⟨user, actorRole, huser, hname, hkeys⟩ := liveUserManager_eq_ok hupdate.actor_live
    refine ⟨user, actorRole, huser, fun hnot ↦ hupdate.delegated hkeys fun hsuper ↦ ?_⟩
    exact hnot.elim (· hsuper.1) (· (hname ▸ hsuper.2))
  · intro id role hprotected
    exact commit_of (P := fun acc' ↦ acc.roles.lookup id = some role ↔
      acc'.roles.lookup id = some role) Iff.rfl fun acc' h ↦ protectedRole_serve h hprotected
  · intro id u u' hu hu' hdiffers
    unfold governanceStep at hu' ⊢
    cases h : call.serve P acc with
    | error e =>
      rw [h, commit_error, hu] at hu'
      obtain rfl := Option.some.inj hu'
      exact absurd hdiffers (by simp [AccessDiffers])
    | ok acc' =>
      rw [h, commit_ok] at hu'
      exact sessionsRevoked_serve h hu hu' hdiffers
  · intro e h
    rw [governanceStep, h, commit_error]

/-- Staff governance is neither lost nor escalated. -/
theorem governance_kept (P : Platform) (acc : Accounts) (l : List GovernanceCall) :
    AllSteps (governanceStep P) (GovernancePromise P) acc l ∧
      (SuperAdminRemains acc → AllStates (governanceStep P) SuperAdminRemains acc l) ∧
      ∀ id role, role.name ∈ protectedRoleNames →
        (acc.roles.lookup id = some role ↔
          (run (governanceStep P) acc l).roles.lookup id = some role) := by
  have hsteps : AllSteps (governanceStep P) (GovernancePromise P) acc l :=
    allSteps_of_invariant (J := fun _ ↦ True) (fun _ _ _ ↦ trivial)
      (fun s i _ ↦ governancePromise s i) trivial l
  refine ⟨hsteps, fun hsuper ↦ ?_, fun id role hprotected ↦ ?_⟩
  · exact allStates_of_allSteps (fun s i hs h ↦ h.superAdmin hs) hsuper hsteps
  · refine run_related_of_allSteps (R := fun s t : Accounts ↦ s.roles.lookup id = some role ↔
      t.roles.lookup id = some role) (fun _ ↦ Iff.rfl) (fun _ _ _ ↦ Iff.trans) ?_ hsteps
    exact fun s i h ↦ h.protectedRoles id role hprotected

end KmtLegal
