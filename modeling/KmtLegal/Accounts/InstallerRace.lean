import KmtLegal.Accounts.Installer
import KmtLegal.Relational.Run
import Mathlib.Data.Fintype.Basic

/-!
# One administrator

Two calls that have both counted no administrator both create one.  If a call counts only while no
other is between its count and its commit, every commit creates the only active Super Admin.  The
lock file closes the installer to every call that has not found it missing, in any case.
-/

namespace KmtLegal

open Relational

namespace InstallerPhase

/-- Between its count and the end of its transaction. -/
def pastCount : InstallerPhase → Bool
  | counted _ _ | created _ _ | profiled _ _ | secured _ _ => true
  | _ => false

/-- The move is the count of the transaction. -/
def counts : InstallerPhase → InstallerMove → Bool
  | hashed _ _, .next _ => true
  | _, _ => false

/-- The lock file was not there. -/
def passedLock : InstallerPhase → Bool
  | checking locked _ => locked = some false
  | parsed _ | withRole _ _ | emailFree _ _ | hashed _ _ | counted _ _ | created _ _ | profiled _ _
  | secured _ _ | committed _ => true
  | _ => false

/-- The account a call has created. -/
def account : InstallerPhase → Option Uuid
  | committed userId => some userId
  | _ => none

/-- The role of the account a call may create. -/
def roleId : InstallerPhase → Option Uuid
  | withRole _ roleId | emailFree _ roleId | hashed _ roleId | counted _ roleId => some roleId
  | created _ user | profiled _ user | secured _ user => some user.roleId
  | _ => none

/-- The row a transaction is about to commit. -/
def userRow : InstallerPhase → Option UserRecord
  | created _ user | profiled _ user | secured _ user => some user
  | _ => none

theorem account_eq_none {phase : InstallerPhase} (h : ¬phase.hasAnswered) : phase.account = none := by
  cases phase with
  | committed userId => exact absurd rfl h
  | _ => rfl

/-- What a call knows of the rows: its role is the Super Admin's, and its user is active. -/
structure Sound (acc : Accounts) (phase : InstallerPhase) : Prop where
  role : ∀ id ∈ phase.roleId, (acc.roles.lookup id).any (·.name = "Super Admin")
  active : ∀ user ∈ phase.userRow, user.status = .active

end InstallerPhase

/-! ## One statement -/

section

variable {P : Platform} {s s' : InstallerStore} {phase phase' : InstallerPhase}

/-- What a statement of a call does to the users. -/
inductive InstallerEffect (s : InstallerStore) (phase : InstallerPhase) (move : InstallerMove)
    (s' : InstallerStore) (phase' : InstallerPhase) : Prop
  /-- Nothing. -/
  | reads (users : s'.accounts = s.accounts) (count : phase'.pastCount → phase.pastCount)
      (account : phase'.account = phase.account)
  /-- It has counted no administrator. -/
  | counts (count : phase.counts move) (users : s'.accounts = s.accounts)
      (clear : s.accounts.activeSuperAdminCount = 0) (account : phase'.account = none)
  /-- The transaction ends, with a new user. -/
  | commits (id : Uuid) (user : UserRecord) (window : phase.pastCount)
      (row : phase.userRow = some user) (before : phase.account = none)
      (role : phase.roleId = some user.roleId) (fresh : s.accounts.users.lookup id = none)
      (users : s'.accounts = { s.accounts with users := s.accounts.users.insert id user })
      (after : phase' = .committed id)

/-- An answer to a read of the status leaves the call checking, or ends it, or lets it pass the lock
file. -/
theorem BootstrapCall.answered_cases (P : Platform) (call : BootstrapCall)
    (locked hasActiveSuperAdmin : Option Bool) :
    call.answered P locked hasActiveSuperAdmin = .checking locked hasActiveSuperAdmin ∨
      (∃ e, call.answered P locked hasActiveSuperAdmin = .failed e) ∨
      locked = some false ∧ ∃ body, call.answered P locked hasActiveSuperAdmin = .parsed body := by
  cases locked with
  | none => exact .inl rfl
  | some locked =>
  cases hasActiveSuperAdmin with
  | none => exact .inl rfl
  | some hasActiveSuperAdmin =>
    refine .inr ?_
    simp only [answered, afterStatus]
    split
    · exact .inl ⟨_, rfl⟩
    · rename_i hreason
      have hunlocked : locked = false := by
        cases locked with
        | false => rfl
        | true => cases henabled : isInstallerEnabled P <;> simp [installerUnavailableReason, henabled] at hreason
      split
      · exact .inr ⟨congrArg some hunlocked, _, rfl⟩
      · exact .inl ⟨_, rfl⟩

theorem installerEffect_answered (P : Platform) (call : BootstrapCall) (s : InstallerStore)
    (locked locked' hasActiveSuperAdmin hasActiveSuperAdmin' : Option Bool) (move : InstallerMove) :
    InstallerEffect s (.checking locked hasActiveSuperAdmin) move s
      (call.answered P locked' hasActiveSuperAdmin') := by
  rcases call.answered_cases P locked' hasActiveSuperAdmin' with h | ⟨e, h⟩ | ⟨-, body, h⟩ <;> rw [h] <;>
    exact .reads rfl nofun rfl

/-- Nothing, in a phase that is not past the count. -/
theorem InstallerEffect.reads_uncounted {s s' : InstallerStore} {phase phase' : InstallerPhase}
    {move : InstallerMove} (users : s'.accounts = s.accounts) (count : phase'.pastCount = false)
    (account : phase'.account = phase.account) : InstallerEffect s phase move s' phase' :=
  .reads users (fun h ↦ absurd (count.symm.trans h) Bool.false_ne_true) account

theorem bootstrapStep_effect (P : Platform) (call : BootstrapCall) (move : InstallerMove)
    (s : InstallerStore) (phase : InstallerPhase) :
    InstallerEffect s phase move (bootstrapStep P call move s phase).1
      (bootstrapStep P call move s phase).2 := by
  unfold bootstrapStep
  split
  · split
    · exact .reads_uncounted rfl rfl rfl
    · exact .reads_uncounted rfl rfl rfl
  · exact installerEffect_answered ..
  · exact installerEffect_answered ..
  · split
    · exact .reads_uncounted rfl rfl rfl
    · exact .reads_uncounted rfl rfl rfl
  · split_ifs
    · exact .reads_uncounted rfl rfl rfl
    · exact .reads_uncounted rfl rfl rfl
  · exact .reads_uncounted rfl rfl rfl
  · split_ifs with hcount
    · exact .reads_uncounted rfl rfl rfl
    · exact .counts rfl rfl (Nat.eq_zero_of_not_pos hcount) rfl
  · split_ifs
    · exact .reads rfl id rfl
    · split
      · exact .reads rfl (fun _ ↦ rfl) rfl
      · exact .reads_uncounted rfl rfl rfl
  · split_ifs
    · exact .reads rfl id rfl
    · exact .reads rfl (fun _ ↦ rfl) rfl
  · split_ifs
    · exact .reads rfl id rfl
    · exact .reads rfl (fun _ ↦ rfl) rfl
  · split
    · rename_i body user _ s' hcommit
      simp only [InstallerStore.commitBootstrap, bind_eq_ok, pure_eq_ok] at hcommit
      obtain ⟨accounts, hcreate, rfl⟩ := hcommit
      obtain ⟨-, hfresh, rfl⟩ := Accounts.createUser_eq_ok.mp hcreate
      exact .commits _ user rfl rfl rfl rfl hfresh rfl rfl
    · exact .reads_uncounted rfl rfl rfl
  · split_ifs with hanswered
    · exact .reads rfl id rfl
    · exact .reads_uncounted rfl rfl (InstallerPhase.account_eq_none hanswered).symm
  · exact .reads rfl id rfl

theorem finishStep_effect (P : Platform) (token : String) (move : InstallerMove) (s : InstallerStore)
    (phase : InstallerPhase) :
    InstallerEffect s phase move (finishStep P token move s phase).1
      (finishStep P token move s phase).2 := by
  unfold finishStep
  split
  · split
    · exact .reads rfl nofun rfl
    · exact .reads rfl nofun rfl
  · split
    · exact .reads rfl nofun rfl
    · exact .reads rfl nofun rfl
  · split_ifs
    · exact .reads rfl nofun rfl
    · exact .reads rfl nofun rfl
  · exact .reads rfl nofun rfl
  · exact .reads rfl nofun rfl
  · split_ifs with hanswered
    · exact .reads rfl id rfl
    · exact .reads rfl nofun (InstallerPhase.account_eq_none hanswered).symm
  · exact .reads rfl id rfl

/-- The step lemma. -/
theorem installerStep_effect (P : Platform) (call : InstallerCall) (move : InstallerMove)
    (s : InstallerStore) (phase : InstallerPhase) :
    InstallerEffect s phase move (installerStep P call move s phase).1
      (installerStep P call move s phase).2 := by
  cases call with
  | bootstrapFirstSuperAdmin call => exact bootstrapStep_effect P call move s phase
  | finishInstaller token => exact finishStep_effect P token move s phase

theorem InstallerEffect.roles {move : InstallerMove} (h : InstallerEffect s phase move s' phase') :
    s'.accounts.roles = s.accounts.roles := by
  cases h with
  | reads users => rw [users]
  | counts _ users => rw [users]
  | commits _ _ _ _ _ _ _ users => rw [users]

/-! ### What a call knows -/

theorem InstallerPhase.Sound.of_none {acc : Accounts} (hrole : phase.roleId = none)
    (hrow : phase.userRow = none) : phase.Sound acc where
  role id hid := by
    rw [hrole] at hid
    cases hid
  active user huser := by
    rw [hrow] at huser
    cases huser

theorem bootstrapStep_sound (P : Platform) (call : BootstrapCall) (move : InstallerMove)
    (s : InstallerStore) (phase : InstallerPhase) (h : phase.Sound s.accounts) :
    (bootstrapStep P call move s phase).2.Sound s.accounts := by
  unfold bootstrapStep
  split
  · split <;> exact .of_none rfl rfl
  · rcases call.answered_cases P (some s.lockFile.isSome) _ with h | ⟨e, h⟩ | ⟨-, body, h⟩ <;>
      rw [h] <;> exact .of_none rfl rfl
  · rcases call.answered_cases P _ _ with h | ⟨e, h⟩ | ⟨-, body, h⟩ <;>
      rw [h] <;> exact .of_none rfl rfl
  · split
    · rename_i roleId role hrole
      obtain ⟨hlookup, hname⟩ := Table.findFirst_eq_some hrole
      refine ⟨fun id hid ↦ ?_, nofun⟩
      obtain rfl := Option.some.inj hid
      rw [hlookup]
      exact hname
    · exact .of_none rfl rfl
  · split_ifs
    · exact .of_none rfl rfl
    · exact ⟨h.role, nofun⟩
  · exact ⟨h.role, nofun⟩
  · split_ifs
    · exact .of_none rfl rfl
    · exact ⟨h.role, nofun⟩
  · split_ifs
    · exact h
    · split
      · refine ⟨h.role, fun user huser ↦ ?_⟩
        obtain rfl := Option.some.inj huser
        rfl
      · exact .of_none rfl rfl
  · split_ifs
    · exact h
    · exact ⟨h.role, h.active⟩
  · split_ifs
    · exact h
    · exact ⟨h.role, h.active⟩
  · split <;> exact .of_none rfl rfl
  · split_ifs
    · exact h
    · exact .of_none rfl rfl
  · exact h

theorem finishStep_sound (P : Platform) (token : String) (move : InstallerMove) (s : InstallerStore)
    (phase : InstallerPhase) (h : phase.Sound s.accounts) :
    (finishStep P token move s phase).2.Sound s.accounts := by
  unfold finishStep
  split
  · split <;> exact .of_none rfl rfl
  · split <;> exact .of_none rfl rfl
  · split_ifs <;> exact .of_none rfl rfl
  · exact .of_none rfl rfl
  · exact .of_none rfl rfl
  · split_ifs
    · exact h
    · exact .of_none rfl rfl
  · exact h

theorem installerStep_sound (P : Platform) (call : InstallerCall) (move : InstallerMove)
    (s : InstallerStore) (phase : InstallerPhase) (h : phase.Sound s.accounts) :
    (installerStep P call move s phase).2.Sound s.accounts := by
  cases call with
  | bootstrapFirstSuperAdmin call => exact bootstrapStep_sound P call move s phase h
  | finishInstaller token => exact finishStep_sound P token move s phase h

theorem InstallerPhase.Sound.congr {acc acc' : Accounts} (h : phase.Sound acc)
    (hroles : acc'.roles = acc.roles) : phase.Sound acc' where
  role id hid := by
    rw [hroles]
    exact h.role id hid
  active := h.active

/-! ### The lock file -/

theorem bootstrapStep_lockFile (P : Platform) (call : BootstrapCall) (move : InstallerMove)
    (s : InstallerStore) (phase : InstallerPhase) :
    (bootstrapStep P call move s phase).1.lockFile = s.lockFile := by
  unfold bootstrapStep
  split
  case h_11 body user =>
    split
    · rename_i s' hcommit
      simp only [InstallerStore.commitBootstrap, bind_eq_ok, pure_eq_ok] at hcommit
      obtain ⟨accounts, -, rfl⟩ := hcommit
      rfl
    · rfl
  all_goals first | rfl | (split_ifs <;> first | rfl | (split <;> rfl)) | (split <;> rfl)

/-- The lock file stays. -/
theorem installerStep_lockFile (P : Platform) (call : InstallerCall) (move : InstallerMove)
    {s : InstallerStore} (phase : InstallerPhase) (h : s.lockFile.isSome) :
    (installerStep P call move s phase).1.lockFile.isSome := by
  cases call with
  | bootstrapFirstSuperAdmin call => rw [installerStep, bootstrapStep_lockFile, h]
  | finishInstaller token =>
    simp only [installerStep]
    unfold finishStep
    split
    · split <;> exact h
    · split <;> exact h
    · rw [if_pos h]
      exact h
    · rfl
    · exact h
    · split_ifs <;> exact h
    · exact h

/-- A call that has not passed the lock file does not pass it any more. -/
theorem installerStep_passedLock (P : Platform) (call : InstallerCall) (move : InstallerMove)
    {s : InstallerStore} {phase : InstallerPhase} (h : s.lockFile.isSome) (hpassed : ¬phase.passedLock) :
    ¬(installerStep P call move s phase).2.passedLock := by
  have hlocked : some s.lockFile.isSome ≠ some false := by simp [h]
  cases call with
  | bootstrapFirstSuperAdmin call =>
    simp only [installerStep]
    unfold bootstrapStep
    split
    · split <;> nofun
    · rcases call.answered_cases P (some s.lockFile.isSome) _ with h | ⟨e, h⟩ | ⟨hunlocked, -⟩
      · rw [h]
        simpa [InstallerPhase.passedLock] using hlocked
      · rw [h]
        nofun
      · exact absurd hunlocked hlocked
    · rcases call.answered_cases P _ _ with h | ⟨e, h⟩ | ⟨hunlocked, -⟩
      · rw [h]
        exact hpassed
      · rw [h]
        nofun
      · exact absurd (decide_eq_true hunlocked) hpassed
    all_goals first
      | exact absurd rfl hpassed
      | exact hpassed
      | (split_ifs <;> first | exact hpassed | nofun)
  | finishInstaller token =>
    simp only [installerStep]
    unfold finishStep
    split
    · split <;> nofun
    · split <;> nofun
    · rw [if_pos h]
      nofun
    · nofun
    · nofun
    · split_ifs
      · exact hpassed
      · nofun
    · exact hpassed

end

/-! ## All calls -/

/-- Any number of calls. -/
abbrev Installers (ω : Type) := Processes ω InstallerStore InstallerPhase

section

variable {ω : Type} [DecidableEq ω] (P : Platform) (call : ω → InstallerCall)

/-- The call `i.1` makes the move `i.2`. -/
def installersStep (s : Installers ω) (i : ω × InstallerMove) : Installers ω :=
  interleave (fun w move ↦ installerStep P (call w) move) s i

/-- No call has begun. -/
def Installers.start (s : InstallerStore) : Installers ω := ⟨s, fun _ ↦ .started⟩

/-! ## What is promised -/

/-- If the step commits, the account it creates is the only active Super Admin. -/
def CommitsAlone (s : Installers ω) (i : ω × InstallerMove) : Prop :=
  ∀ userId, (s.process i.1).account = none →
    ((installersStep P call s i).process i.1).account = some userId →
      ∀ id u, (installersStep P call s i).store.accounts.users.lookup id = some u →
        (installersStep P call s i).store.accounts.isActiveSuperAdmin u → id = userId

/-- There is at most one account. -/
def AtMostOneAccount (s : Installers ω) : Prop :=
  ∀ id id' u u', s.store.accounts.users.lookup id = some u →
    s.store.accounts.users.lookup id' = some u' → id = id'

/-- If the call counts the administrators in its transaction, no other call is between its count and
the end of its transaction. -/
def CountsAlone (s : Installers ω) (i : ω × InstallerMove) : Prop :=
  (s.process i.1).counts i.2 → ∀ w, w ≠ i.1 → ¬(s.process w).pastCount

instance [Fintype ω] {s : Installers ω} {i : ω × InstallerMove} : Decidable (CountsAlone s i) :=
  inferInstanceAs (Decidable (_ → _))

end

/-! ## The invariant -/

section

variable {ω : Type} [DecidableEq ω] {P : Platform} {call : ω → InstallerCall} {s : Installers ω}

/-- At most one call is past its count, and then there is no active Super Admin. -/
structure InstallerInvariant (s : Installers ω) : Prop where
  sound : ∀ w, (s.process w).Sound s.store.accounts
  alone : ∀ w w', (s.process w).pastCount → (s.process w').pastCount → w = w'
  clear : ∀ w, (s.process w).pastCount → s.store.accounts.activeSuperAdminCount = 0

/-- There is no account, or one, which is an active Super Admin. -/
def NoneOrAdmin (s : Installers ω) : Prop :=
  s.store.accounts.users = ∅ ∨ ∃ id u, s.store.accounts.users = (∅ : Table Uuid UserRecord).insert id u ∧
    s.store.accounts.isActiveSuperAdmin u

omit [DecidableEq ω] in
theorem installerInvariant_start (s : InstallerStore) :
    InstallerInvariant (Installers.start s : Installers ω) where
  sound _ := .of_none rfl rfl
  alone _ _ h := by cases h
  clear _ h := by cases h

/-- An active row of the Super Admin's role is counted. -/
theorem isActiveSuperAdmin_of_sound {acc : Accounts} {phase : InstallerPhase} {user : UserRecord}
    (h : phase.Sound acc) (hrow : phase.userRow = some user) (hrole : phase.roleId = some user.roleId) :
    acc.isActiveSuperAdmin user :=
  decide_eq_true ⟨h.active user hrow, h.role user.roleId hrole⟩

/-- Who is past the count after a step: those who were, unless the step is a commit; and a call that has
just counted. -/
theorem installerInvariant_step (i : ω × InstallerMove) (h : InstallerInvariant s)
    (halone : CountsAlone s i) : InstallerInvariant (installersStep P call s i) := by
  have heffect := installerStep_effect P (call i.1) i.2 s.store (s.process i.1)
  have hsound : ∀ w, ((installersStep P call s i).process w).Sound
      (installersStep P call s i).store.accounts :=
    forall_interleave (I := fun _ (store : InstallerStore) phase ↦ InstallerPhase.Sound store.accounts phase)
      ((installerStep_sound P (call i.1) i.2 s.store _ (h.sound i.1)).congr heffect.roles)
      (fun w _ ↦ (h.sound w).congr heffect.roles)
  have hself : (installersStep P call s i).process i.1 =
      (installerStep P (call i.1) i.2 s.store (s.process i.1)).2 := interleave_process_self
  have hother : ∀ w, w ≠ i.1 → (installersStep P call s i).process w = s.process w :=
    fun w hw ↦ interleave_process_of_ne hw
  cases heffect with
  | reads users count account =>
    have hpast : ∀ w, ((installersStep P call s i).process w).pastCount → (s.process w).pastCount := by
      intro w hw
      by_cases hwi : w = i.1
      · subst hwi
        rw [hself] at hw
        exact count hw
      · rwa [hother w hwi] at hw
    exact ⟨hsound, fun w w' hw hw' ↦ h.alone w w' (hpast w hw) (hpast w' hw'),
      fun w hw ↦ (congrArg Accounts.activeSuperAdminCount users).trans (h.clear w (hpast w hw))⟩
  | counts count users clear account =>
    have hpast : ∀ w, ((installersStep P call s i).process w).pastCount → w = i.1 := by
      intro w hw
      by_contra hwi
      rw [hother w hwi] at hw
      exact halone count w hwi hw
    exact ⟨hsound, fun w w' hw hw' ↦ (hpast w hw).trans (hpast w' hw').symm,
      fun _ _ ↦ (congrArg Accounts.activeSuperAdminCount users).trans clear⟩
  | commits id user window row before role fresh users after =>
    have hpast : ∀ w, ¬((installersStep P call s i).process w).pastCount := by
      intro w hw
      by_cases hwi : w = i.1
      · subst hwi
        rw [hself, after] at hw
        cases hw
      · rw [hother w hwi] at hw
        exact hwi (h.alone w i.1 hw window)
    exact ⟨hsound, fun w _ hw ↦ absurd hw (hpast w), fun w hw ↦ absurd hw (hpast w)⟩

/-- A call that commits has counted no administrator, and there is none yet. -/
theorem commitsAlone_of_invariant (i : ω × InstallerMove) (h : InstallerInvariant s) :
    CommitsAlone P call s i := by
  intro userId hbefore hafter id u hlookup hactive
  have heffect := installerStep_effect P (call i.1) i.2 s.store (s.process i.1)
  rw [show (installersStep P call s i).process i.1 =
    (installerStep P (call i.1) i.2 s.store (s.process i.1)).2 from interleave_process_self] at hafter
  change (installerStep P (call i.1) i.2 s.store (s.process i.1)).1.accounts.users.lookup id = some u at hlookup
  change (installerStep P (call i.1) i.2 s.store (s.process i.1)).1.accounts.isActiveSuperAdmin u at hactive
  cases heffect with
  | reads users count account =>
    rw [account, hbefore] at hafter
    cases hafter
  | counts count users clear account =>
    rw [account] at hafter
    cases hafter
  | commits id' user window row before role fresh users after =>
    rw [after] at hafter
    obtain rfl := Option.some.inj hafter
    rw [users] at hlookup hactive
    by_contra hne
    rw [Table.lookup_insert, if_neg hne] at hlookup
    exact (Accounts.activeSuperAdminCount_eq_zero _).mp (h.clear i.1 window) id u hlookup hactive

theorem noneOrAdmin_step (i : ω × InstallerMove) (h : InstallerInvariant s) (hone : NoneOrAdmin s) :
    NoneOrAdmin (installersStep P call s i) := by
  have heffect := installerStep_effect P (call i.1) i.2 s.store (s.process i.1)
  have hstore : (installersStep P call s i).store =
      (installerStep P (call i.1) i.2 s.store (s.process i.1)).1 := rfl
  rw [NoneOrAdmin, hstore]
  cases heffect with
  | reads users => rwa [users]
  | counts _ users => rwa [users]
  | commits id user window row before role fresh users after =>
    rcases hone with hempty | ⟨id', u, hsingle, hactive⟩
    · rw [users, hempty]
      exact .inr ⟨id, user, rfl, isActiveSuperAdmin_of_sound ((h.sound i.1).congr rfl) row role⟩
    · have hlookup : s.store.accounts.users.lookup id' = some u := by
        rw [hsingle, Table.lookup_insert, if_pos rfl]
      exact absurd hactive
        ((Accounts.activeSuperAdminCount_eq_zero _).mp (h.clear i.1 window) id' u hlookup)

omit [DecidableEq ω] in
theorem NoneOrAdmin.atMostOne (h : NoneOrAdmin s) : AtMostOneAccount s := by
  intro id id' u u' hu hu'
  rcases h with hempty | ⟨id₀, u₀, hsingle, -⟩
  · rw [hempty] at hu
    cases hu
  · rw [hsingle, Table.lookup_insert] at hu hu'
    split_ifs at hu hu' with hid hid'
    · rw [hid, hid']
    · cases hu'
    · cases hu
    · cases hu

/-- What the lock file has closed stays closed. -/
theorem closed_step (i : ω × InstallerMove) (w : ω)
    (h : s.store.lockFile.isSome ∧ ¬(s.process w).passedLock) :
    (installersStep P call s i).store.lockFile.isSome ∧
      ¬((installersStep P call s i).process w).passedLock := by
  refine ⟨installerStep_lockFile P (call i.1) i.2 _ h.1, ?_⟩
  by_cases hw : w = i.1
  · subst hw
    rw [show (installersStep P call s i).process i.1 =
      (installerStep P (call i.1) i.2 s.store (s.process i.1)).2 from interleave_process_self]
    exact installerStep_passedLock P (call i.1) i.2 h.1 h.2
  · rw [show (installersStep P call s i).process w = s.process w from interleave_process_of_ne hw]
    exact h.2

theorem InstallerPhase.account_of_not_passedLock {phase : InstallerPhase} (h : ¬phase.passedLock) :
    phase.account = none := by
  cases phase with
  | committed userId => exact absurd rfl h
  | _ => rfl

/-- If every call counts alone, each commit creates the only active Super Admin, and an empty table of
users gets one account at most.  No call commits that had not passed the lock file when it was
written. -/
theorem installer_creates_one_admin (P : Platform) (call : ω → InstallerCall) (s : InstallerStore)
    {l : List (ω × InstallerMove)}
    (h : AllSteps (installersStep P call) CountsAlone (Installers.start s) l) :
    AllSteps (installersStep P call) (CommitsAlone P call) (Installers.start s) l ∧
      (s.accounts.users = ∅ →
        AllStates (installersStep P call) AtMostOneAccount (Installers.start s) l) ∧
      ∀ l₁ l₂ w, l = l₁ ++ l₂ →
        (run (installersStep P call) (Installers.start s) l₁).store.lockFile.isSome →
          ¬((run (installersStep P call) (Installers.start s) l₁).process w).passedLock →
            ((run (installersStep P call) (Installers.start s) l).process w).account = none := by
  have hstart : InstallerInvariant (Installers.start s : Installers ω) := installerInvariant_start s
  refine ⟨?_, fun hempty ↦ ?_, ?_⟩
  · exact allSteps_mono (fun s i hs hi ↦ installerInvariant_step i hs hi)
      (fun s i hs _ ↦ commitsAlone_of_invariant i hs) hstart h
  · have hboth : AllStates (installersStep P call) (fun s ↦ InstallerInvariant s ∧ NoneOrAdmin s)
        (Installers.start s) l :=
      allStates_of_allSteps (fun s i hs hi ↦ ⟨installerInvariant_step i hs.1 hi,
        noneOrAdmin_step i hs.1 hs.2⟩) ⟨hstart, .inl hempty⟩ h
    exact allStates_mono (fun s hs ↦ hs.2.atMostOne) hboth
  · rintro l₁ l₂ w rfl hlock hpassed
    have hstep : ∀ (s : Installers ω) i, s.store.lockFile.isSome ∧ ¬(s.process w).passedLock →
        (installersStep P call s i).store.lockFile.isSome ∧
          ¬((installersStep P call s i).process w).passedLock := fun s i hs ↦ closed_step i w hs
    have hclosed := run_invariant hstep ⟨hlock, hpassed⟩ l₂
    rw [run_append]
    exact InstallerPhase.account_of_not_passedLock hclosed.2

end

/-! ## A setup link used twice -/

def installerPlatform : Platform :=
  { plainPlatform with
    env := fun name ↦ if name = "INSTALLER_ENABLED" then "true" else "setup-token" }

def installedRoles : InstallerStore where
  accounts := { roles := (∅ : Table Uuid Role).insert "role-1" { name := "Super Admin" } }

def sampleBootstrap (second : Bool) : BootstrapCall where
  token := "setup-token"
  body := .ok { firmName := "KMT", name := "Admin", email := if second then "b@kmt.eg" else "a@kmt.eg" }
  passwordHash := "hash"
  newUserId := if second then "user-2" else "user-1"

/-- A call up to its count. -/
def movesToCount (second : Bool) : List (Bool × InstallerMove) :=
  [.next 0, .lockAnswers, .countAnswers true, .next 0, .next 0, .next 0, .next 0].map (second, ·)

/-- The transaction after its count. -/
def movesToCommit (second : Bool) : List (Bool × InstallerMove) :=
  (List.replicate 4 (.next 0)).map (second, ·)

/-- The installer is closed after the first call. -/
def bootstrapThenFinish : Bool → InstallerCall
  | false => .bootstrapFirstSuperAdmin (sampleBootstrap false)
  | true => .finishInstaller "setup-token"

theorem installer_creates_one_admin_sample :
    AllSteps (installersStep installerPlatform bootstrapThenFinish)
        (CommitsAlone installerPlatform bootstrapThenFinish) (Installers.start installedRoles)
        (movesToCount false ++ movesToCommit false ++ (List.replicate 5 (.next 0)).map (true, ·)) := by
  refine (installer_creates_one_admin installerPlatform bootstrapThenFinish installedRoles ?_).1
  decide +kernel

def bootstrapTwice (second : Bool) : InstallerCall :=
  .bootstrapFirstSuperAdmin (sampleBootstrap second)

/-- Both calls count before either commits, and there are two accounts. -/
theorem installer_creates_two_admins : ¬∀ (P : Platform) (call : Bool → InstallerCall)
    (s : InstallerStore) (l : List (Bool × InstallerMove)), s.accounts.users = ∅ →
      AllStates (installersStep P call) AtMostOneAccount (Installers.start s) l := by
  intro h
  have hlast := (h installerPlatform bootstrapTwice installedRoles
    (movesToCount false ++ movesToCount true ++ movesToCommit false ++ movesToCommit true) rfl).last
  have hids := hlast "user-1" "user-2" ((sampleBootstrap false).user
      { firmName := "KMT", name := "Admin", email := "a@kmt.eg" } "role-1" 0)
    ((sampleBootstrap true).user { firmName := "KMT", name := "Admin", email := "b@kmt.eg" } "role-1" 0)
    (by decide +kernel) (by decide +kernel)
  exact absurd hids (by decide)

end KmtLegal
