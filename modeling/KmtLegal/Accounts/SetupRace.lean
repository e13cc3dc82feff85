import KmtLegal.Accounts.Portal
import KmtLegal.Tokens.Separation
import KmtLegal.Relational.Interleaving

/-!
# Setups side by side

`completePublicClientAccountSetup` statement by statement, for any number of calls.  Transactions
read committed rows: what a transaction writes is seen by the others when it ends, and until then
its user row is locked.  The client is read before it is written, without a lock, so of two calls
for one client both may find it without an account.
-/

namespace KmtLegal

open Relational

/-- The committed rows, and the e-mails of user rows of transactions that have not ended. -/
structure SetupDatabase where
  accounts : Accounts
  lockedEmails : List String := []

/-- How far a call is, with what it has read. -/
inductive SetupPhase where
  | started
  | read (context : SetupContext)
  | withRole (context : SetupContext) (roleId : Uuid)
  | found (context : SetupContext) (account : PortalAccount)
  /-- In the transaction. -/
  | fresh (context : SetupContext) (account : PortalAccount) (client : Client)
  /-- The user row is written. -/
  | saved (context : SetupContext) (account : PortalAccount) (client : Client)
  /-- The transaction has ended. -/
  | linked (context : SetupContext) (userId : Uuid)
  | answered (context : SetupContext) (userId : Uuid) (session : Bool)
  | failed (error : Failure)

/-- The client and the user of a call that has committed. -/
def SetupPhase.account : SetupPhase → Option (Uuid × Uuid)
  | linked context userId => some (context.clientId, userId)
  | answered context userId _ => some (context.clientId, userId)
  | _ => none

/-- A statement that only reads. -/
def SetupPhase.advance {α : Type} (next : α → SetupPhase) : Except Failure α → SetupPhase
  | .ok a => next a
  | .error e => .failed e

/-- The next statement of a call.  The write of the client ends the transaction. -/
def setupStep (P : Platform) (call : CompleteSetup) (s : SetupDatabase) :
    SetupPhase → SetupDatabase × SetupPhase
  | .started => (s, .advance .read do
      let context ← getClientAccountSetupContext P s.accounts call.token call.now
      checkSetupClient context.client call.email
      pure context)
  | .read context => (s, .advance (.withRole context) (findClientRole s.accounts))
  | .withRole context roleId =>
    (s, .advance (.found context) (findSetupAccount s.accounts context.clientId roleId call.email))
  | .found context account =>
    (s, .advance (.fresh context account) (findFreshClient s.accounts context.clientId call.email))
  | .fresh context account client =>
    -- waits for the transaction that wrote this row
    if account.email ∈ s.lockedEmails then (s, .fresh context account client)
    else match savePortalUser s.accounts account client
        { passwordHash := call.passwordHash, locale := context.locale } call.newUserId call.now with
      | .ok _ => ({ s with lockedEmails := account.email :: s.lockedEmails },
          .saved context account client)
      | .error e => (s, .failed e)
  | .saved context account client =>
    match writeSetup s.accounts call context account client with
    | .ok (accounts, userId) => ({ accounts, lockedEmails := s.lockedEmails.erase account.email },
        .linked context userId)
    | .error e => ({ s with lockedEmails := s.lockedEmails.erase account.email }, .failed e)
  | .linked context userId =>
    match createSessionForUser P s.accounts userId call.newSessionId call.now with
    | .ok accounts => ({ s with accounts }, .answered context userId true)
    | .error _ => (s, .answered context userId false)
  | phase => (s, phase)

/-- Any number of calls. -/
abbrev Setups (ω : Type) := Processes ω SetupDatabase SetupPhase

section

variable {ω : Type} [DecidableEq ω] (P : Platform) (call : ω → CompleteSetup)

/-- The call `w` makes its next step. -/
def setupsStep (s : Setups ω) (w : ω) : Setups ω :=
  interleave (fun w (_ : Unit) ↦ setupStep P (call w)) s (w, ())

/-- No call has begun. -/
def Setups.start (acc : Accounts) : Setups ω := ⟨{ accounts := acc }, fun _ ↦ .started⟩

/-! ## What is promised -/

/-- Every committed call is the only one of its client, which has its account; and no other user
was written. -/
structure SetupPromise (acc : Accounts) (s : Setups ω) : Prop where
  once : ∀ w w' clientId userId userId', (s.process w).account = some (clientId, userId) →
    (s.process w').account = some (clientId, userId') → w = w'
  linked : ∀ w clientId userId, (s.process w).account = some (clientId, userId) →
    ∃ client, s.store.accounts.clients.lookup clientId = some client ∧ client.userId = some userId
  users : ∀ id u, s.store.accounts.users.lookup id = some u → acc.users.lookup id = some u ∨
    ∃ w clientId, (s.process w).account = some (clientId, id)

/-- A client that has an account keeps it. -/
def ClientLinksKept (acc acc' : Accounts) : Prop :=
  ∀ id client userId, acc.clients.lookup id = some client → client.userId = some userId →
    ∃ client', acc'.clients.lookup id = some client' ∧ client'.userId = some userId

/-- The client the call is about to write, if it is about to write one, has no account. -/
def writesUnlinked (s : Setups ω) (w : ω) : Bool :=
  match s.process w with
  | .saved context _ _ => (s.store.accounts.clients.lookup context.clientId).all (·.userId = none)
  | _ => true

end

/-! ## One statement -/

variable {P : Platform} {call : CompleteSetup} {s : SetupDatabase} {acc acc' : Accounts}

theorem ClientLinksKept.refl (acc : Accounts) : ClientLinksKept acc acc :=
  fun _ client _ h hlinked ↦ ⟨client, h, hlinked⟩

/-- What a call knows of the rows. -/
def SetupPhase.Sound (acc : Accounts) : SetupPhase → Prop
  | found context account => ∀ id u, account.existing = some (id, u) →
      ∃ client, acc.clients.lookup context.clientId = some client ∧ client.userId = some id
  | fresh _ account _ => account.existing = none
  | saved _ account _ => account.existing = none
  | linked context userId =>
      ∃ client, acc.clients.lookup context.clientId = some client ∧ client.userId = some userId
  | answered context userId _ =>
      ∃ client, acc.clients.lookup context.clientId = some client ∧ client.userId = some userId
  | _ => True

theorem SetupPhase.Sound.mono {phase : SetupPhase} (h : phase.Sound acc)
    (hlinks : ClientLinksKept acc acc') : phase.Sound acc' := by
  cases phase with
  | found context account =>
    intro id u hexisting
    obtain ⟨client, hclient, hlinked⟩ := h id u hexisting
    exact hlinks _ client id hclient hlinked
  | linked context userId =>
    obtain ⟨client, hclient, hlinked⟩ := h
    exact hlinks _ client userId hclient hlinked
  | answered context userId session =>
    obtain ⟨client, hclient, hlinked⟩ := h
    exact hlinks _ client userId hclient hlinked
  | _ => exact h

theorem SetupPhase.Sound.linked_client {phase : SetupPhase} (h : phase.Sound acc)
    {clientId userId : Uuid} (haccount : phase.account = some (clientId, userId)) :
    ∃ client, acc.clients.lookup clientId = some client ∧ client.userId = some userId := by
  cases phase with
  | linked context userId' =>
    cases haccount
    exact h
  | answered context userId' session =>
    cases haccount
    exact h
  | _ => cases haccount

/-- What a statement of a call does to the rows, if the client it writes has no account. -/
inductive SetupEffect (acc acc' : Accounts) (phase phase' : SetupPhase) : Prop
  /-- Nothing, or a session. -/
  | rows (users : acc'.users = acc.users) (clients : acc'.clients = acc.clients)
      (account : phase'.account = phase.account)
  /-- A new user, and the client names it. -/
  | links (clientId userId : Uuid) (user : UserRecord) (f : Client → Client) (client : Client)
      (before : phase.account = none) (after : phase'.account = some (clientId, userId))
      (stored : acc.clients.lookup clientId = some client) (unlinked : client.userId = none)
      (names : ∀ c, (f c).userId = some userId) (fresh : acc.users.lookup userId = none)
      (users : acc'.users = acc.users.insert userId user)
      (clients : acc'.clients = acc.clients.update clientId f)

theorem SetupPhase.account_advance {α : Type} {next : α → SetupPhase}
    (hnext : ∀ a, (next a).account = none) (r : Except Failure α) :
    (SetupPhase.advance next r).account = none := by
  cases r with
  | ok a => exact hnext a
  | error e => rfl

theorem SetupPhase.sound_advance {α : Type} {next : α → SetupPhase} {r : Except Failure α}
    (hnext : ∀ a, r = .ok a → (next a).Sound acc) : (SetupPhase.advance next r).Sound acc := by
  cases r with
  | ok a => exact hnext a rfl
  | error e => trivial

/-- The step lemma: the effect of a statement, and what the call knows after it. -/
theorem setupStep_effect {phase : SetupPhase} (hsound : phase.Sound s.accounts)
    (hunlinked : ∀ context account client, phase = .saved context account client →
      ∀ stored, s.accounts.clients.lookup context.clientId = some stored → stored.userId = none) :
    SetupEffect s.accounts (setupStep P call s phase).1.accounts phase (setupStep P call s phase).2 ∧
      (setupStep P call s phase).2.Sound (setupStep P call s phase).1.accounts := by
  cases phase with
  | started =>
    exact ⟨.rows rfl rfl (SetupPhase.account_advance (fun _ ↦ rfl) _),
      SetupPhase.sound_advance fun _ _ ↦ trivial⟩
  | read context =>
    exact ⟨.rows rfl rfl (SetupPhase.account_advance (fun _ ↦ rfl) _),
      SetupPhase.sound_advance fun _ _ ↦ trivial⟩
  | withRole context roleId =>
    refine ⟨.rows rfl rfl (SetupPhase.account_advance (fun _ ↦ rfl) _),
      SetupPhase.sound_advance fun account haccount ↦ ?_⟩
    obtain ⟨rfl, hown⟩ := findSetupAccount_eq_ok haccount
    exact fun id u hexisting ↦ (hown id u hexisting).2
  | found context account =>
    refine ⟨.rows rfl rfl (SetupPhase.account_advance (fun _ ↦ rfl) _),
      SetupPhase.sound_advance fun client hfresh ↦ ?_⟩
    obtain ⟨hclient, hcheck⟩ := findFreshClient_eq_ok hfresh
    -- an account that was found is the client's, and the client has none
    show account.existing = none
    cases hexisting : account.existing with
    | none => rfl
    | some existing =>
      obtain ⟨client', hclient', hlinked⟩ := hsound existing.1 existing.2 hexisting
      obtain rfl := Option.some.inj (hclient.symm.trans hclient')
      rw [(checkSetupClient_eq_ok hcheck).1] at hlinked
      cases hlinked
  | fresh context account client =>
    simp only [setupStep]
    split_ifs
    · exact ⟨.rows rfl rfl rfl, hsound⟩
    · split
      · exact ⟨.rows rfl rfl rfl, hsound⟩
      · exact ⟨.rows rfl rfl rfl, trivial⟩
  | saved context account client =>
    simp only [setupStep]
    split
    · rename_i accounts userId hwrite
      obtain ⟨rfl, hid, ⟨stored, hstored⟩, rfl⟩ := writeSetup_eq_ok hsound hwrite
      refine ⟨.links context.clientId call.newUserId _
        (·.linkUser call.newUserId call.email client call.now) stored rfl rfl hstored
        (hunlinked context account client rfl stored hstored) (fun _ ↦ rfl) hid rfl rfl, ?_⟩
      refine ⟨stored.linkUser call.newUserId call.email client call.now, ?_, rfl⟩
      rw [Table.lookup_update_self, hstored, Option.map_some]
    · exact ⟨.rows rfl rfl rfl, trivial⟩
  | linked context userId =>
    simp only [setupStep]
    split
    · rename_i accounts hsession
      obtain ⟨_, -, -, -, rfl⟩ := createSessionForUser_eq_ok hsession
      exact ⟨.rows rfl rfl rfl, hsound⟩
    · exact ⟨.rows rfl rfl rfl, hsound⟩
  | answered context userId session => exact ⟨.rows rfl rfl rfl, hsound⟩
  | failed error => exact ⟨.rows rfl rfl rfl, trivial⟩

theorem SetupEffect.linksKept {phase phase' : SetupPhase} (h : SetupEffect acc acc' phase phase') :
    ClientLinksKept acc acc' := by
  cases h with
  | rows _ hclients _ =>
    intro id client userId hclient hlinked
    exact ⟨client, by rw [hclients, hclient], hlinked⟩
  | links clientId userId user f stored _ _ hstored hunlinked _ _ _ hclients =>
    intro id client userId' hclient hlinked
    have hne : id ≠ clientId := by
      rintro rfl
      obtain rfl := Option.some.inj (hclient.symm.trans hstored)
      rw [hunlinked] at hlinked
      cases hlinked
    exact ⟨client, by rw [hclients, Table.lookup_update_of_ne _ _ hne, hclient], hlinked⟩

/-! ## A call alone -/

/-- A call nobody else interrupts is the call as one transaction. -/
theorem setup_alone (P : Platform) (call : CompleteSetup) (acc : Accounts) :
    (run (fun (s : SetupDatabase × SetupPhase) _ ↦ setupStep P call s.1 s.2)
      ({ accounts := acc }, .started) (List.replicate 7 ())).1.accounts =
        commit (completePublicClientAccountSetup P acc call) acc := by
  simp only [List.replicate, run_cons, completePublicClientAccountSetup, setupPortalAccount]
  cases hcontext : getClientAccountSetupContext P acc call.token call.now with
  | error e => simp only [setupStep, hcontext, error_bind, SetupPhase.advance, run_nil, commit_error]
  | ok context =>
  cases hcheck : checkSetupClient context.client call.email with
  | error e =>
    simp only [setupStep, hcontext, hcheck, ok_bind, error_bind, SetupPhase.advance, run_nil, commit_error]
  | ok u =>
  cases hrole : findClientRole acc with
  | error e =>
    simp only [setupStep, hcontext, hcheck, hrole, ok_bind, error_bind, SetupPhase.advance, run_nil,
      commit_error, pure, Except.pure]
  | ok roleId =>
  cases haccount : findSetupAccount acc context.clientId roleId call.email with
  | error e =>
    simp only [setupStep, hcontext, hcheck, hrole, haccount, ok_bind, error_bind, SetupPhase.advance, run_nil,
      commit_error, pure, Except.pure]
  | ok account =>
  cases hfresh : findFreshClient acc context.clientId call.email with
  | error e =>
    simp only [setupStep, hcontext, hcheck, hrole, haccount, hfresh, ok_bind, error_bind, SetupPhase.advance,
      run_nil, commit_error, pure, Except.pure]
  | ok fresh =>
  simp only [setupStep, hcontext, hcheck, hrole, haccount, hfresh, ok_bind, SetupPhase.advance, run_nil,
     pure, Except.pure, List.not_mem_nil, if_false]
  cases hsave : savePortalUser acc account fresh
      { passwordHash := call.passwordHash, locale := context.locale } call.newUserId call.now with
  | error e => 
    simp only [writeSetup, hsave, error_bind, commit_error]
  | ok saved =>
  cases hwrite : writeSetup acc call context account fresh with
  | error e => simp only [hwrite, error_bind, commit_error]
  | ok written =>
    obtain ⟨acc', userId⟩ := written
    simp only [hwrite, ok_bind, commit_ok]
    cases createSessionForUser P acc' userId call.newSessionId call.now with
    | error e => rfl
    | ok acc'' => rfl
/-! ## All calls -/

section

variable {ω : Type} [DecidableEq ω] {call : ω → CompleteSetup} {s : Setups ω}

/-- The invariant of a run: the promise, and what every call knows. -/
structure SetupInvariant (acc : Accounts) (s : Setups ω) : Prop extends SetupPromise acc s where
  sound : ∀ w, (s.process w).Sound s.store.accounts

omit [DecidableEq ω] in
theorem setupInvariant_start (acc : Accounts) : SetupInvariant acc (Setups.start acc : Setups ω) where
  once _ _ _ _ _ h := by cases h
  linked _ _ _ h := by cases h
  users _ _ h := .inl h
  sound _ := trivial

/-- The call that moves, and the others. -/
theorem setupsStep_process (w w' : ω) : (setupsStep P call s w).process w' =
    if w' = w then (setupStep P (call w) s.store (s.process w)).2 else s.process w' := by
  by_cases h : w' = w
  · subst h
    rw [if_pos rfl]
    exact interleave_process_self (i := (w', ()))
  · rw [if_neg h]
    exact interleave_process_of_ne (i := (w, ())) h

omit [DecidableEq ω] in
theorem writesUnlinked_saved {w : ω} (h : writesUnlinked s w) (context : SetupContext)
    (account : PortalAccount) (client : Client) (hsaved : s.process w = .saved context account client)
    (stored : Client) (hstored : s.store.accounts.clients.lookup context.clientId = some stored) :
    stored.userId = none := by
  simp only [writesUnlinked, hsaved, hstored, Option.all_some, decide_eq_true_eq] at h
  exact h

theorem setupInvariant_step (h : SetupInvariant acc s) {w : ω} (hwrites : writesUnlinked s w) :
    SetupInvariant acc (setupsStep P call s w) ∧
      ClientLinksKept s.store.accounts (setupsStep P call s w).store.accounts := by
  obtain ⟨heffect, hsound⟩ := @setupStep_effect P (call w) _ _ (h.sound w)
    (writesUnlinked_saved hwrites)
  have hlinks := heffect.linksKept
  have hmoved : (setupsStep P call s w).process w =
      (setupStep P (call w) s.store (s.process w)).2 := by
    rw [setupsStep_process, if_pos rfl]
  have hothers : ∀ w', w' ≠ w → (setupsStep P call s w).process w' = s.process w' := by
    intro w' hw
    rw [setupsStep_process, if_neg hw]
  have hallSound : ∀ w', ((setupsStep P call s w).process w').Sound
      (setupsStep P call s w).store.accounts := by
    intro w'
    by_cases hw : w' = w
    · subst hw
      rw [hmoved]
      exact hsound
    · rw [hothers w' hw]
      exact (h.sound w').mono hlinks
  refine ⟨⟨⟨?_, fun w' clientId userId haccount ↦ (hallSound w').linked_client haccount, ?_⟩,
    hallSound⟩, hlinks⟩
  · -- only the call that moves may be new among the committed ones
    cases heffect with
    | rows _ _ haccount =>
      have hsame : ∀ w', ((setupsStep P call s w).process w').account = (s.process w').account := by
        intro w'
        by_cases hw : w' = w
        · subst hw
          rw [hmoved, haccount]
        · rw [hothers w' hw]
      intro w₁ w₂ clientId userId userId' h₁ h₂
      rw [hsame] at h₁ h₂
      exact h.once w₁ w₂ clientId userId userId' h₁ h₂
    | links clientId userId user f client _ hafter hstored hunlinked _ _ _ _ =>
      have hnone : ∀ w' userId', (s.process w').account ≠ some (clientId, userId') := by
        intro w' userId' haccount
        obtain ⟨client', hclient', hlinked⟩ := h.linked w' clientId userId' haccount
        obtain rfl := Option.some.inj (hstored.symm.trans hclient')
        rw [hunlinked] at hlinked
        cases hlinked
      intro w₁ w₂ clientId' userId₁ userId₂ h₁ h₂
      by_cases hw₁ : w₁ = w <;> by_cases hw₂ : w₂ = w
      · rw [hw₁, hw₂]
      · subst hw₁
        rw [hmoved, hafter] at h₁
        rw [hothers w₂ hw₂] at h₂
        cases h₁
        exact absurd h₂ (hnone w₂ userId₂)
      · subst hw₂
        rw [hmoved, hafter] at h₂
        rw [hothers w₁ hw₁] at h₁
        cases h₂
        exact absurd h₁ (hnone w₁ userId₁)
      · rw [hothers w₁ hw₁] at h₁
        rw [hothers w₂ hw₂] at h₂
        exact h.once w₁ w₂ clientId' userId₁ userId₂ h₁ h₂
  · -- a committed call stays committed
    have hkept : ∀ w' account, (s.process w').account = some account →
        ((setupsStep P call s w).process w').account = some account := by
      intro w' account haccount
      by_cases hw : w' = w
      · subst hw
        rw [hmoved]
        cases heffect with
        | rows _ _ hsame => rw [hsame, haccount]
        | links _ _ _ _ _ hbefore _ _ _ _ _ _ _ => rw [hbefore] at haccount; cases haccount
      · rw [hothers w' hw, haccount]
    have hold : ∀ id u, s.store.accounts.users.lookup id = some u → acc.users.lookup id = some u ∨
        ∃ w' clientId, ((setupsStep P call s w).process w').account = some (clientId, id) := by
      intro id u hu
      rcases h.users id u hu with hinit | ⟨w', clientId, haccount⟩
      · exact .inl hinit
      · exact .inr ⟨w', clientId, hkept w' _ haccount⟩
    intro id u hu
    cases heffect with
    | rows husers _ _ =>
      refine hold id u ?_
      rw [← husers]
      exact hu
    | links clientId userId user f client _ hafter _ _ _ _ husers _ =>
      have hu' : (AList.insert userId user s.store.accounts.users).lookup id = some u := by
        rw [← husers]
        exact hu
      rw [Table.lookup_insert] at hu'
      split_ifs at hu' with hid
      · subst hid
        exact .inr ⟨w, clientId, hmoved ▸ hafter⟩
      · exact hold id u hu'

/-- As long as no call writes a client that has got an account since it was read, every client gets
one account at most and keeps it, and no other user is written. -/
theorem setups_link_once (P : Platform) (call : ω → CompleteSetup) (acc : Accounts) {l : List ω}
    (h : AllSteps (setupsStep P call) (fun s w ↦ writesUnlinked s w) (Setups.start acc) l) :
    AllStates (setupsStep P call) (SetupPromise acc) (Setups.start acc) l ∧
      AllSteps (setupsStep P call)
        (fun s w ↦ ClientLinksKept s.store.accounts (setupsStep P call s w).store.accounts)
        (Setups.start acc) l := by
  have hstep : ∀ (s : Setups ω) w, SetupInvariant acc s → writesUnlinked s w →
      SetupInvariant acc (setupsStep P call s w) := fun s w hs hw ↦ (setupInvariant_step hs hw).1
  refine ⟨?_, allSteps_mono hstep (fun s w hs hw ↦ (setupInvariant_step hs hw).2)
    (setupInvariant_start acc) h⟩
  exact allStates_mono (fun _ hs ↦ hs.toSetupPromise)
    (allStates_of_allSteps hstep (setupInvariant_start acc) h)

end

/-! ## One link, submitted twice -/

/-- The link of the sample. -/
def sampleSetupToken : String :=
  encodePayload sampleSetup.json ++ "." ++
    signPayload linkPlatform (encodePayload sampleSetup.json) sampleKey

theorem sampleSetupToken_valid {now : Time} (h : now < sampleSetup.exp) :
    verifyClientAccountSetupToken linkPlatform sampleSetupToken now = .ok sampleSetup := by
  have hissue : TokenIssue.setup sampleSetup.clientId sampleSetup.consultationId
      (some "guest@example.com") .en 1700000000000 ∈ sampleIssues := .tail _ (.tail _ (.head _))
  have htoken : createClientAccountSetupToken linkPlatform sampleSetup.clientId
      sampleSetup.consultationId (some "guest@example.com") .en 1700000000000 =
      .ok (sampleSetupToken, sampleSetup.exp) := by
    simp only [createClientAccountSetupToken, sampleSetup_new, ok_bind, linkSecret.setupSecret]
    rfl
  exact sample_tokenAssumptions.setup_accepted hissue htoken sampleSetup_new h

def sampleSetupRole : Uuid := "6f1d2c3b-4a59-4687-9786-a5b4c3d2e1f0"

/-- The client of the link, who has left no e-mail. -/
def setupAccounts : Accounts where
  roles := AList.singleton sampleSetupRole { name := "Client" }
  clients := AList.singleton sampleSetup.clientId { fullName := "Mona", phone := "01000000001" }
  consultations := AList.singleton sampleSetup.consultationId
    { clientId := some sampleSetup.clientId, status := .scheduled }

/-- Two submissions of the link, with two e-mails. -/
def sampleSubmit (second : Bool) : CompleteSetup where
  token := sampleSetupToken
  email := if second then "mona@example.com" else "guest@example.com"
  passwordHash := if second then "h2" else "h1"
  newUserId := if second then "00000000-0000-4000-8000-000000000006"
    else "00000000-0000-4000-8000-000000000005"
  newSessionId := if second then "00000000-0000-4000-8000-000000000008"
    else "00000000-0000-4000-8000-000000000007"
  now := 1700000000001

def sampleContext : SetupContext where
  clientId := sampleSetup.clientId
  client := { fullName := "Mona", phone := "01000000001" }
  locale := .en

theorem setupStep_sample (second : Bool) :
    setupStep linkPlatform (sampleSubmit second) { accounts := setupAccounts } .started =
      ({ accounts := setupAccounts }, .read sampleContext) := by
  have hcontext : getClientAccountSetupContext linkPlatform setupAccounts sampleSetupToken
      1700000000001 = .ok sampleContext := by
    rw [getClientAccountSetupContext, sampleSetupToken_valid (by decide)]
    rfl
  have hcheck : checkSetupClient sampleContext.client (sampleSubmit second).email = .ok () := rfl
  have htoken : (sampleSubmit second).token = sampleSetupToken := rfl
  have hnow : (sampleSubmit second).now = 1700000000001 := rfl
  simp only [setupStep, htoken, hnow, hcontext, ok_bind, hcheck]
  rfl

/-- Both have read the client before either writes it. -/
theorem run_sampleSubmit : run (setupsStep linkPlatform sampleSubmit) (Setups.start setupAccounts)
    [false, true] = ⟨{ accounts := setupAccounts }, fun _ ↦ .read sampleContext⟩ := by
  have hne : true ≠ false := by decide
  simp only [run_cons, run_nil, setupsStep, interleave, Setups.start, setupStep_sample,
    Function.update_of_ne hne]
  congr
  funext w
  cases w with
  | false => rw [Function.update_of_ne hne.symm, Function.update_self]
  | true => rw [Function.update_self]

/-- One call at a time: the second finds the account of the first. -/
theorem setups_link_once_sample : AllStates (setupsStep linkPlatform sampleSubmit)
      (SetupPromise setupAccounts) (Setups.start setupAccounts)
      ([false, true] ++ [false, false, false, false, false, true, true, true]) ∧
    AllSteps (setupsStep linkPlatform sampleSubmit)
      (fun s w ↦ ClientLinksKept s.store.accounts (setupsStep linkPlatform sampleSubmit s w).store.accounts)
      (Setups.start setupAccounts)
      ([false, true] ++ [false, false, false, false, false, true, true, true]) := by
  refine setups_link_once linkPlatform sampleSubmit setupAccounts (allSteps_append.mpr ⟨?_, ?_⟩)
  · exact ⟨rfl, by rw [setupsStep]; exact rfl, trivial⟩
  · rw [run_sampleSubmit]
    decide +kernel

/-- Both calls make an account, and the second takes the client over. -/
theorem setup_link_used_twice : ¬∀ (P : Platform) (call : Bool → CompleteSetup) (acc : Accounts)
    (l : List Bool), AllStates (setupsStep P call) (SetupPromise acc) (Setups.start acc) l := by
  intro h
  have hlast := (h linkPlatform sampleSubmit setupAccounts
    ([false, true] ++ [false, true, false, true, false, true, false, false, true, true])).last
  rw [run_append, run_sampleSubmit] at hlast
  have hfirst := hlast.once false true sampleSetup.clientId
    "00000000-0000-4000-8000-000000000005" "00000000-0000-4000-8000-000000000006"
    (by decide +kernel) (by decide +kernel)
  cases hfirst

end KmtLegal
