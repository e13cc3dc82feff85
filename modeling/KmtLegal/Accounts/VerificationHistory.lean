import Mathlib.Data.Fintype.Basic
import Mathlib.Data.Fintype.OfMap
import KmtLegal.Accounts.VerificationRace

/-!
# Runs of account links

What the locks of the two services buy: a link is used once, an e-mail gets one user, and a
conversation keeps its client.  The session of a completed call is made after its transaction,
outside of all locks, and there the sessions of two recoveries of one account can cross.
-/

namespace KmtLegal

open Relational Js

/-! ## What is promised -/

/-- The key of the session a call makes. -/
def VerificationCall.newSessionId : VerificationCall → Option Uuid
  | start _ => none
  | complete call => some call.newSessionId

def VerificationMove.isProceed : VerificationMove → Bool
  | proceed .. => true
  | fails _ => false

section

variable {ω : Type}

/-- A conversation has one usable link, and a link is used once. -/
structure VerificationPromise (s : Verifications ω) : Prop where
  newest : ∀ now id id' t t', s.store.rows.tokens.lookup id = some t →
    s.store.rows.tokens.lookup id' = some t' → t.sessionId = t'.sessionId →
      s.store.rows.accepts now t → s.store.rows.accepts now t' → id = id'
  once : ∀ w w' c c' userId userId' clientId clientId',
    (s.process w).completed = some (c, userId, clientId) →
      (s.process w').completed = some (c', userId', clientId') → c.id = c'.id → w = w'

/-- A recovery writes the password of the active client account with the e-mail, and no other
column or account. -/
structure Recovers (rows rows' : VerificationRows) (c : Challenge) (userId clientId : Uuid) :
    Prop where
  user : ∃ u, rows.accounts.users.lookup userId = some u ∧
    toLowerCase u.email = toLowerCase c.token.email ∧ rows.accounts.hasActiveRole "Client" u
  client : ∃ client, rows.accounts.clients.lookup clientId = some client ∧
    client.userId = some userId ∧ client.deletedAt = none
  users : ∃ passwordHash now, rows'.accounts.users = rows.accounts.users.update userId
    fun u ↦ { u with passwordHash := some passwordHash, updatedAt := now }
  clients : rows'.accounts.clients = rows.accounts.clients

/-- What a step of the call `w` does. -/
structure VerificationStepPromise (call : ω → VerificationCall) (s s' : Verifications ω) (w : ω) :
    Prop where
  /-- A completion writes nothing but its whole transaction, and then its session. -/
  unwritten : ∀ call', call w = .complete call' → (s'.process w).completed = none →
    s'.store.rows = s.store.rows
  remains : ∀ done, (s.process w).completed = some done → (s'.process w).completed = some done
  /-- A new user is the only one with its e-mail. -/
  distinct : ∀ id u, s.store.rows.accounts.users.lookup id = none →
    s'.store.rows.accounts.users.lookup id = some u → ∀ id' u',
      s'.store.rows.accounts.users.lookup id' = some u' →
        toLowerCase u'.email = toLowerCase u.email → id' = id
  recovers : ∀ c userId clientId, (s.process w).completed = none →
    (s'.process w).completed = some (c, userId, clientId) → c.token.purpose = .recover →
      Recovers s.store.rows s'.store.rows c userId clientId
  /-- The session of a recovery is the only one of its user that is not revoked. -/
  revoked : ∀ c userId clientId, (s.process w).awaitsSession = some userId →
    (s'.process w).awaitsSession = none → (s'.process w).completed = some (c, userId, clientId) →
      c.token.purpose = .recover →
        ∀ id session, s'.store.rows.accounts.sessions.lookup id = some session →
          session.userId = userId → session.revokedAt = none → (call w).newSessionId = some id
  /-- A conversation that has a client gives access to no other. -/
  linked : ∀ c userId clientId, (s.process w).completed = none →
    (s'.process w).completed = some (c, userId, clientId) →
      (∃ client, s'.store.rows.accounts.clients.lookup clientId = some client ∧
        client.userId = some userId) ∧
      ∀ conversation linkedId,
        s.store.rows.conversations.lookup c.token.sessionId = some conversation →
          conversation.clientId = some linkedId → clientId = linkedId

/-- Between its transaction and its session a completed call does not fail, and no recovery of the
same account reads the sessions it revokes; the key of the session is new. -/
def sessionFollows (call : ω → VerificationCall) (s : Verifications ω) (i : ω × VerificationMove) :
    Prop :=
  ((s.process i.1).awaitsSession.isSome → i.2.isProceed ∧ ∀ id ∈ (call i.1).newSessionId,
      s.store.rows.accounts.sessions.lookup id = none) ∧
    ∀ userId ∈ (s.process i.1).revokes, ∀ w, (s.process w).awaitsSession ≠ some userId

instance [Fintype ω] (call : ω → VerificationCall) (s : Verifications ω)
    (i : ω × VerificationMove) : Decidable (sessionFollows call s i) :=
  inferInstanceAs (Decidable (_ ∧ _))

end

/-! ## All calls -/

section

variable {ω : Type} {P : Platform} {capabilityHash : String → String} {hashtext : String → ℤ}

/-- The invariant of a run. -/
structure VerificationInvariant (hashtext : String → ℤ) (s : Verifications ω) : Prop where
  single : SingleLink s.store.rows
  knows : ∀ w, (s.process w).Knows hashtext s.store.locks s.store.rows w
  once : ∀ w w' c c' userId userId' clientId clientId',
    (s.process w).completed = some (c, userId, clientId) →
      (s.process w').completed = some (c', userId', clientId') → c.id = c'.id → w = w'
  /-- While the sessions of a user are being revoked, nobody else is about to make one. -/
  apart : ∀ w w' userId, w ≠ w' → (s.process w).cleared = some userId →
    (s.process w').awaitsSession ≠ some userId

theorem VerificationInvariant.promise {s : Verifications ω} (h : VerificationInvariant hashtext s) :
    VerificationPromise s where
  newest now id id' t t' ht ht' hsession haccepts haccepts' := by
    simp only [VerificationRows.accepts, decide_eq_true_eq] at haccepts haccepts'
    exact h.single id id' t t' ht ht' hsession haccepts.1 haccepts'.1
  once := h.once

theorem verificationInvariant_begin (call : ω → VerificationCall) (rows : VerificationRows) :
    VerificationInvariant hashtext (Verifications.begin call rows) where
  single _ _ _ _ ht := by
    rw [Verifications.begin, AList.lookup_empty] at ht
    cases ht
  knows w := by
    unfold Verifications.begin
    cases hcall : call w with
    | start call' => simp only [hcall]; trivial
    | complete call' => simp only [hcall]; trivial
  once w _ _ _ _ _ _ _ hdone := by
    unfold Verifications.begin at hdone
    cases hcall : call w with
    | start call' => simp only [hcall] at hdone; cases hdone
    | complete call' => simp only [hcall] at hdone; cases hdone
  apart w _ _ _ hcleared := by
    unfold Verifications.begin at hcleared
    cases hcall : call w with
    | start call' => simp only [hcall] at hcleared; cases hcleared
    | complete call' => simp only [hcall] at hcleared; cases hcleared

section

variable {s s' : VerificationDatabase ω} {w : ω} {call : VerificationCall}
  {move : VerificationMove} {p p' : VerificationPhase} {L : Locks VerificationLock ω}

theorem cleared_user {rows : VerificationRows} {userId : Uuid}
    (hknows : p.Knows hashtext L rows w) (h : p.cleared = some userId) :
    ∃ u, rows.accounts.users.lookup userId = some u := by
  cases p with
  | start phase => cases h
  | complete phase =>
    cases phase with
    | revoked c userId' clientId sessions =>
      cases h
      obtain ⟨u, hu, -⟩ := hknows.2.1.user
      exact ⟨u, hu⟩
    | committed c userId' clientId =>
      simp only [VerificationPhase.cleared] at h
      split_ifs at h
      cases h
      obtain ⟨u, hu, -⟩ := hknows.2.1
      exact ⟨u, hu⟩
    | _ => cases h

theorem StatementCase.cleared_eq {userId : Uuid}
    (h : StatementCase P capabilityHash call move s s' p p')
    (hknows : p.Knows hashtext s.locks s.rows w) (hcleared : p'.cleared = some userId) :
    p.cleared = some userId ∨ p.revokes = some userId := by
  cases h with
  | start => cases hcleared
  | quiet _ _ _ _ _ hsame => exact .inl (hsame ▸ hcleared)
  | fails => cases hcleared
  | revokes => exact .inr hcleared
  | recovers call' now c userId' clientId sessions =>
    simp only [VerificationPhase.cleared] at hcleared
    split_ifs at hcleared
    exact .inl hcleared
  | activates call' now c =>
    simp only [VerificationPhase.cleared, hknows.2.purpose, reduceCtorEq, if_false] at hcleared
  | answers => cases hcleared

theorem StatementCase.awaits_eq {userId : Uuid}
    (h : StatementCase P capabilityHash call move s s' p p')
    (hawaits : p'.awaitsSession = some userId) : p.awaitsSession = some userId ∨
      (∃ c clientId sessions, p = .complete (.revoked c userId clientId sessions)) ∨
        s.rows.accounts.users.lookup userId = none := by
  cases h with
  | start => cases hawaits
  | quiet _ _ _ _ hsame => exact .inl (hsame ▸ hawaits)
  | fails => cases hawaits
  | revokes => cases hawaits
  | recovers call' now c userId' clientId sessions =>
    cases hawaits
    exact .inr (.inl ⟨c, clientId, sessions, rfl⟩)
  | activates call' now c hwritten =>
    cases hawaits
    obtain ⟨_, _, -, -, -, hnew, -⟩ := activateAccount_eq_ok hwritten
    exact .inr (.inr hnew)
  | answers => cases hawaits

/-- A call that has just committed held its link. -/
theorem StatementCase.completed_eq {done : Challenge × Uuid × Uuid}
    (h : StatementCase P capabilityHash call move s s' p p')
    (hknows : p.Knows hashtext s.locks s.rows w) (hdone : p'.completed = some done) :
    p.completed = some done ∨ done.1.Held s.locks s.rows w := by
  cases h with
  | start => cases hdone
  | quiet _ _ _ hsame => exact .inl (hsame ▸ hdone)
  | fails => cases hdone
  | revokes => cases hdone
  | recovers call' now c userId clientId sessions =>
    cases hdone
    exact .inr hknows.1.toHeld
  | activates call' now c =>
    cases hdone
    exact .inr hknows.1.toHeld
  | answers => exact .inl hdone

theorem isUsed_of_completed {rows : VerificationRows} {done : Challenge × Uuid × Uuid}
    (hknows : p.Knows hashtext L rows w) (h : p.completed = some done) : done.1.IsUsed rows := by
  cases p with
  | start phase => cases h
  | complete phase =>
    cases phase with
    | committed c userId clientId => cases h; exact hknows.1
    | answered c userId clientId => cases h; exact hknows
    | _ => cases h

theorem createSessionForUser_succeeds {acc : Accounts} {userId sessionId : Uuid} {u : UserRecord}
    (now : Time) (hu : acc.users.lookup userId = some u) (hactive : acc.hasActiveRole "Client" u)
    (hnew : acc.sessions.lookup sessionId = none) :
    ∃ acc', createSessionForUser P acc userId sessionId now = .ok acc' := by
  obtain ⟨hstatus, hdeleted, role, hrole, -, hroleStatus⟩ := Accounts.hasActiveRole_iff.mp hactive
  have hwith : acc.userWithRole userId = some (u, role) :=
    Accounts.userWithRole_eq_some.mpr ⟨hu, hrole⟩
  have hauth : ¬¬isActiveAuthUser u role := not_not.mpr
    (decide_eq_true ⟨hstatus, hdeleted, hroleStatus⟩)
  have hcreate : ∀ r, acc.sessions.create sessionId r = some (acc.sessions.insert sessionId r) :=
    fun r ↦ Table.create_eq_some.mpr ⟨hnew, rfl⟩
  let session : UserSession :=
    { userId, status := initialSessionStatusForRole P role.name
      expiresAt := now + 8 * 60 * 60 * 1000 }
  refine ⟨{ acc with sessions := AList.insert sessionId session acc.sessions }, ?_⟩
  simp only [createSessionForUser, hwith, orThrow_some, ok_bind, throwIf_of_not hauth, hcreate]
  rfl

end

variable [DecidableEq ω] {call : ω → VerificationCall} {s : Verifications ω}
  {i : ω × VerificationMove}

/-- Sessions of a user are revoked by one call at a time, and nobody who is about to make one
interferes. -/
theorem apart_step (h : VerificationInvariant hashtext s) (hsafe : sessionFollows call s i)
    (w w' : ω) (userId : Uuid) (hne : w ≠ w')
    (hcleared : ((verificationsStep P capabilityHash hashtext call s i).process w).cleared =
      some userId) :
    ((verificationsStep P capabilityHash hashtext call s i).process w').awaitsSession ≠
      some userId := by
  have hcase := verificationStep_cases P capabilityHash hashtext (w := i.1) (s := s.store) call i.2
    (s.process i.1)
  unfold verificationsStep at hcleared ⊢
  intro hawaits
  by_cases hw : w = i.1
  · subst hw
    rw [interleave_process_self] at hcleared
    rw [interleave_process_of_ne hne.symm] at hawaits
    rcases hcase.cleared_eq (h.knows i.1) hcleared with hold | hrevokes
    · exact h.apart i.1 w' userId hne hold hawaits
    · exact hsafe.2 userId hrevokes w' hawaits
  · rw [interleave_process_of_ne hw] at hcleared
    by_cases hw' : w' = i.1
    · subst hw'
      rw [interleave_process_self] at hawaits
      rcases hcase.awaits_eq hawaits with hold | ⟨c, clientId, sessions, hrevoked⟩ | hnone
      · exact h.apart w i.1 userId hw hcleared hold
      · -- `i.1` has revoked the sessions of the user, and `w` too
        cases hp : s.process w with
        | start phase => rw [hp] at hcleared; cases hcleared
        | complete phase =>
          have hknows := h.knows i.1
          have hknows' := h.knows w
          rw [hrevoked] at hknows
          rw [hp] at hknows' hcleared
          cases phase with
          | revoked c' userId' clientId' sessions' =>
            cases hcleared
            -- they hold the lock of the same e-mail
            obtain ⟨u, hu, hemail, -⟩ := hknows.2.1.user
            obtain ⟨u', hu', hemail', -⟩ := hknows'.2.1.user
            obtain rfl := Option.some.inj (hu.symm.trans hu')
            have hlock := hknows.1.email
            rw [← hemail, hemail', hknows'.1.email] at hlock
            exact hw (Option.some.inj hlock)
          | committed c' userId' clientId' =>
            simp only [VerificationPhase.cleared] at hcleared
            split_ifs at hcleared
            cases hcleared
            refine h.apart i.1 w userId (Ne.symm hw) ?_ ?_
            · rw [hrevoked]; rfl
            · rw [hp]; rfl
          | _ => cases hcleared
      · obtain ⟨u, hu⟩ := cleared_user (h.knows w) hcleared
        rw [hnone] at hu
        cases hu
    · rw [interleave_process_of_ne hw'] at hawaits
      exact h.apart w w' userId hne hcleared hawaits

theorem once_step (h : VerificationInvariant hashtext s) (w w' : ω)
    (done done' : Challenge × Uuid × Uuid)
    (hdone : ((verificationsStep P capabilityHash hashtext call s i).process w).completed =
      some done)
    (hdone' : ((verificationsStep P capabilityHash hashtext call s i).process w').completed =
      some done') (hid : done.1.id = done'.1.id) : w = w' := by
  have hcase := verificationStep_cases P capabilityHash hashtext (w := i.1) (s := s.store) call i.2
    (s.process i.1)
  -- a link the call that moves holds has not been used by another
  have hclash : ∀ (w : ω) (done done' : Challenge × Uuid × Uuid),
      done.1.Held s.store.locks s.store.rows i.1 →
        (s.process w).completed = some done' → done.1.id ≠ done'.1.id := by
    intro w done done' hheld hcompleted heq
    obtain ⟨t, ht, -, hopen⟩ := hheld.token
    obtain ⟨t', ht', hused⟩ := isUsed_of_completed (h.knows w) hcompleted
    rw [← heq, ht] at ht'
    obtain rfl := Option.some.inj ht'
    rw [hopen] at hused
    cases hused
  unfold verificationsStep at hdone hdone'
  by_cases hw : w = i.1
  · by_cases hw' : w' = i.1
    · rw [hw, hw']
    · subst hw
      rw [interleave_process_self] at hdone
      rw [interleave_process_of_ne hw'] at hdone'
      rcases hcase.completed_eq (h.knows i.1) hdone with hold | hheld
      · exact h.once i.1 w' _ _ _ _ _ _ hold hdone' hid
      · exact absurd hid (hclash w' done done' hheld hdone')
  · rw [interleave_process_of_ne hw] at hdone
    by_cases hw' : w' = i.1
    · subst hw'
      rw [interleave_process_self] at hdone'
      rcases hcase.completed_eq (h.knows i.1) hdone' with hold | hheld
      · exact h.once w i.1 _ _ _ _ _ _ hdone hold hid
      · exact absurd hid.symm (hclash w done' done hheld hdone)
    · rw [interleave_process_of_ne hw'] at hdone'
      exact h.once w w' _ _ _ _ _ _ hdone hdone' hid

theorem verificationInvariant_step (h : VerificationInvariant hashtext s)
    (hsafe : sessionFollows call s i) :
    VerificationInvariant hashtext (verificationsStep P capabilityHash hashtext call s i) where
  single := (verificationStep_sound P capabilityHash call i.2 (h.knows i.1)).evolves.singleLink h.single
  knows := by
    have hsound := verificationStep_sound P capabilityHash call i.2 (h.knows i.1)
    refine forall_interleave
      (I := fun w (store : VerificationDatabase ω) (p : VerificationPhase) ↦
        p.Knows hashtext store.locks store.rows w)
      hsound.knows fun w hw ↦ ?_
    refine (h.knows w).mono hsound.evolves hsound.respects hw h.single fun userId hopens hcleared ↦ ?_
    exact h.apart w i.1 userId hw hcleared hopens
  once w w' c c' userId userId' clientId clientId' hdone hdone' hid :=
    once_step h w w' _ _ hdone hdone' hid
  apart w w' userId hne hcleared := apart_step h hsafe w w' userId hne hcleared

/-! ### What a step does -/

section

variable {s' : VerificationDatabase ω} {w : ω} {p' : VerificationPhase}
  {done : Challenge × Uuid × Uuid}

omit [DecidableEq ω] in
/-- A completed call stays completed: its session can be made. -/
theorem remains_step (h : VerificationInvariant hashtext s) (hsafe : sessionFollows call s i)
    (hcase : StatementCase P capabilityHash (call i.1) i.2 s.store s' (s.process i.1) p')
    (hdone : (s.process i.1).completed = some done) : p'.completed = some done := by
  have hknows := h.knows i.1
  generalize hp : s.process i.1 = p at hcase hdone hknows
  cases hcase with
  | start => cases hdone
  | quiet _ _ _ hsame => rw [hsame, hdone]
  | fails _ e _ hcause =>
    obtain ⟨c, userId, clientId, rfl, hreason⟩ := hcause done hdone
    obtain ⟨hproceed, hnew⟩ := hsafe.1 (by rw [hp]; rfl)
    exfalso
    rcases hreason with ⟨e, hmove⟩ | ⟨call', now, e, hcall, herror⟩
    · rw [hmove] at hproceed
      cases hproceed
    · obtain ⟨u, hu, hactive⟩ := hknows.2.1
      obtain ⟨acc, hsession⟩ := createSessionForUser_succeeds (P := P) now hu hactive
        (hnew call'.newSessionId (by rw [hcall]; rfl))
      rw [herror] at hsession
      cases hsession
  | revokes => cases hdone
  | recovers => cases hdone
  | activates => cases hdone
  | answers => exact hdone

omit [DecidableEq ω] in
/-- A failing completion has written nothing. -/
theorem unwritten_step {call' : CompleteVerification}
    (hcase : StatementCase P capabilityHash (call i.1) i.2 s.store s' (s.process i.1) p')
    (hcall : call i.1 = .complete call') (hnone : p'.completed = none) :
    s'.rows = s.store.rows := by
  generalize s.process i.1 = p at hcase
  cases hcase with
  | start call'' _ _ hstart => rw [hcall] at hstart; cases hstart
  | quiet _ _ hrows => exact hrows
  | fails _ _ hrows => exact hrows
  | revokes _ _ _ _ hrows => exact hrows
  | recovers => cases hnone
  | activates => cases hnone
  | answers => cases hnone

omit [DecidableEq ω] in
theorem recovers_step {c : Challenge} {userId clientId : Uuid}
    (h : VerificationInvariant hashtext s)
    (hcase : StatementCase P capabilityHash (call i.1) i.2 s.store s' (s.process i.1) p')
    (hnone : (s.process i.1).completed = none) (hdone : p'.completed = some (c, userId, clientId))
    (hpurpose : c.token.purpose = .recover) :
    Recovers s.store.rows s'.rows c userId clientId := by
  have hknows := h.knows i.1
  generalize hp : s.process i.1 = p at hcase hnone hknows
  cases hcase with
  | start => cases hdone
  | quiet _ _ _ hsame => rw [hsame, hnone] at hdone; cases hdone
  | fails => cases hdone
  | revokes => cases hdone
  | recovers call' now c' userId' clientId' sessions hwritten =>
    cases hdone
    obtain ⟨haccounts, -⟩ := recoverAccount_eq_ok hwritten
    refine ⟨hknows.2.1.user, hknows.2.1.client, ⟨call'.passwordHash, now, ?_⟩, ?_⟩
    · rw [haccounts]
      rfl
    · rw [haccounts]
  | activates call' now c' =>
    cases hdone
    rw [hknows.2.purpose] at hpurpose
    cases hpurpose
  | answers => cases hnone

omit [DecidableEq ω] in
theorem linked_step {c : Challenge} {userId clientId : Uuid}
    (h : VerificationInvariant hashtext s)
    (hcase : StatementCase P capabilityHash (call i.1) i.2 s.store s' (s.process i.1) p')
    (hnone : (s.process i.1).completed = none) (hdone : p'.completed = some (c, userId, clientId)) :
    (∃ client, s'.rows.accounts.clients.lookup clientId = some client ∧
      client.userId = some userId) ∧
    ∀ conversation linkedId,
      s.store.rows.conversations.lookup c.token.sessionId = some conversation →
        conversation.clientId = some linkedId → clientId = linkedId := by
  have hknows := h.knows i.1
  generalize hp : s.process i.1 = p at hcase hnone hknows
  -- the client that was read is the client of the conversation
  have hread : ∀ {c : Challenge} {conversation linkedId},
      c.Held s.store.locks s.store.rows i.1 →
        s.store.rows.conversations.lookup c.token.sessionId = some conversation →
          conversation.clientId = some linkedId → c.conversation.clientId = some linkedId := by
    intro c conversation linkedId hheld hlookup hlinked
    obtain ⟨conversation', hlookup', hsame⟩ := hheld.conversation
    obtain rfl := Option.some.inj (hlookup.symm.trans hlookup')
    rw [← hsame, hlinked]
  cases hcase with
  | start => cases hdone
  | quiet _ _ _ hsame => rw [hsame, hnone] at hdone; cases hdone
  | fails => cases hdone
  | revokes => cases hdone
  | recovers call' now c' userId' clientId' sessions hwritten =>
    cases hdone
    obtain ⟨hqueued, hrec, -⟩ := hknows
    obtain ⟨haccounts, -⟩ := recoverAccount_eq_ok hwritten
    obtain ⟨client, hclient, huser, -⟩ := hrec.client
    refine ⟨⟨client, by rw [haccounts]; exact hclient, huser⟩, ?_⟩
    intro conversation linkedId hlookup hlinked
    exact hrec.linked linkedId (hread hqueued.toHeld hlookup hlinked)
  | activates call' now c' hwritten =>
    cases hdone
    obtain ⟨hqueued, hvacant⟩ := hknows
    obtain ⟨roleId, role, -, -, -, -, -, haccounts, -⟩ := activateAccount_eq_ok hwritten
    refine ⟨⟨call'.newClient c now, ?_, rfl⟩, ?_⟩
    · rw [haccounts]
      exact AList.lookup_insert _
    · intro conversation linkedId hlookup hlinked
      have hclient := hread hqueued.toHeld hlookup hlinked
      rw [hvacant.unlinked] at hclient
      cases hclient
  | answers => cases hnone

omit [DecidableEq ω] in
theorem revoked_step {c : Challenge} {userId clientId : Uuid}
    (h : VerificationInvariant hashtext s)
    (hcase : StatementCase P capabilityHash (call i.1) i.2 s.store s' (s.process i.1) p')
    (hbefore : (s.process i.1).awaitsSession = some userId) (hafter : p'.awaitsSession = none)
    (hdone : p'.completed = some (c, userId, clientId)) (hpurpose : c.token.purpose = .recover)
    (id : Uuid) (session : UserSession) (hlookup : s'.rows.accounts.sessions.lookup id = some session)
    (huser : session.userId = userId) (hopen : session.revokedAt = none) :
    (call i.1).newSessionId = some id := by
  have hknows := h.knows i.1
  generalize hp : s.process i.1 = p at hcase hbefore hknows
  cases hcase with
  | start => cases hdone
  | quiet _ _ _ _ hsame => rw [hsame, hbefore] at hafter; cases hafter
  | fails => cases hdone
  | revokes => cases hdone
  | recovers => cases hafter
  | activates => cases hafter
  | answers call' now c' userId' clientId' accounts hmade hwritten hrows =>
    cases hdone
    obtain ⟨created, -, -, -, rfl⟩ := createSessionForUser_eq_ok hwritten
    rw [hrows, Table.lookup_insert] at hlookup
    split_ifs at hlookup with hid
    · rw [hmade, hid]
      rfl
    · -- the transaction has revoked it
      have hrevoked := hknows.2.2 hpurpose id session hlookup huser
      rw [hopen] at hrevoked
      cases hrevoked

end

theorem verificationStepPromise (h : VerificationInvariant hashtext s)
    (hsafe : sessionFollows call s i) : VerificationStepPromise call s
      (verificationsStep P capabilityHash hashtext call s i) i.1 := by
  have hcase := verificationStep_cases P capabilityHash hashtext (w := i.1) (s := s.store) call i.2
    (s.process i.1)
  have hevolves := (verificationStep_sound P capabilityHash call i.2 (h.knows i.1)).evolves
  have hself : (verificationsStep P capabilityHash hashtext call s i).process i.1 =
      (verificationStep P capabilityHash hashtext call i.1 i.2 s.store (s.process i.1)).2 :=
    interleave_process_self
  constructor
  · rw [hself]
    exact fun call' hcall hnone ↦ unwritten_step hcase hcall hnone
  · rw [hself]
    exact fun done hdone ↦ remains_step h hsafe hcase hdone
  · exact fun id u hnone hu ↦ (hevolves.newUser id u hnone hu).2
  · rw [hself]
    exact fun c userId clientId hnone hdone ↦ recovers_step h hcase hnone hdone
  · rw [hself]
    exact fun c userId clientId hbefore hafter hdone ↦ revoked_step h hcase hbefore hafter hdone
  · rw [hself]
    exact fun c userId clientId hnone hdone ↦ linked_step h hcase hnone hdone

/-- None of the statements of a completion that has not succeeded has written a row. -/
theorem unwritten_run {w : ω} {call' : CompleteVerification} (hcall : call w = .complete call')
    {l : List (ω × VerificationMove)}
    (h : AllSteps (verificationsStep P capabilityHash hashtext call)
      (fun s i ↦ VerificationStepPromise call s
        (verificationsStep P capabilityHash hashtext call s i) i.1) s l)
    (hnone : ((run (verificationsStep P capabilityHash hashtext call) s l).process w).completed =
      none) :
    AllSteps (verificationsStep P capabilityHash hashtext call)
      (fun s i ↦ i.1 = w →
        (verificationsStep P capabilityHash hashtext call s i).store.rows = s.store.rows) s l := by
  induction l using List.reverseRecOn with
  | nil => trivial
  | append_singleton l i ih =>
    obtain ⟨hl, hi⟩ := allSteps_concat.mp h
    rw [run_concat] at hnone
    refine allSteps_concat.mpr ⟨ih hl ?_, ?_⟩
    · by_cases hw : w = i.1
      · subst hw
        cases hdone : ((run (verificationsStep P capabilityHash hashtext call) s l).process
            i.1).completed with
        | none => rfl
        | some done =>
          rw [hi.remains done hdone] at hnone
          cases hnone
      · rw [verificationsStep, interleave_process_of_ne hw] at hnone
        exact hnone
    · rintro rfl
      exact hi.unwritten call' hcall hnone

end

/-! ## One account, recovered from two conversations -/

/-- In both conversations a recovery of the account is asked for, and both links are opened. -/
inductive SampleVerification where
  | startFirst | startSecond | completeFirst | completeSecond
  deriving DecidableEq

namespace SampleVerification

instance : Fintype SampleVerification :=
  .ofList [startFirst, startSecond, completeFirst, completeSecond] fun w ↦ by cases w <;> decide

def call : SampleVerification → VerificationCall
  | startFirst => .start
    { capability := "first", email := "guest@example.com", purpose := .recover
      rawToken := "link 1", newTokenId := "token 1" }
  | startSecond => .start
    { capability := "second", email := "guest@example.com", purpose := .recover
      rawToken := "link 2", newTokenId := "token 2" }
  | completeFirst => .complete
    { token := "link 1", passwordHash := "h1", newCapability := "third", newUserId := "user 1"
      newClientId := "client 1", newSessionId := "session 1" }
  | completeSecond => .complete
    { token := "link 2", passwordHash := "h2", newCapability := "fourth", newUserId := "user 2"
      newClientId := "client 2", newSessionId := "session 2" }

/-- Two conversations of a client who has an account. -/
def rows : VerificationRows where
  accounts :=
    { roles := AList.singleton "role" { name := "Client" }
      users := AList.singleton "user"
        { email := "guest@example.com", name := "Mona", roleId := "role", status := .active }
      clients := AList.singleton "client"
        { userId := some "user", fullName := "Mona", phone := "01000000001" } }
  conversations := ((∅ : Table Uuid ClientConversation).insert "conversation 1"
      { capabilityHash := "first", dialogue := { accountAccess := true }, expiresAt := 10000000 }).insert
    "conversation 2"
      { capabilityHash := "second", dialogue := { accountAccess := true }, expiresAt := 10000000 }

def step : Verifications SampleVerification → SampleVerification × VerificationMove →
    Verifications SampleVerification :=
  verificationsStep { plainPlatform with isEmail := fun s ↦ s = "guest@example.com" } id
    (fun email ↦ email.length) call

/-- The next `n` statements of a call. -/
def next (n : ℕ) (w : SampleVerification) : List (SampleVerification × VerificationMove) :=
  List.replicate n (w, .proceed 1000000)

/-- What has completed: the purpose of the link, the user and the client. -/
def completed (s : Verifications SampleVerification) (w : SampleVerification) :
    Option (VerificationPurpose × Uuid × Uuid) :=
  (s.process w).completed.map fun done ↦ (done.1.token.purpose, done.2)

/-- Both recoveries have ended their transactions, and the first has made its session. -/
def crossed : List (SampleVerification × VerificationMove) :=
  next 8 startFirst ++ next 8 startSecond ++ next 7 completeFirst ++ next 7 completeSecond ++
    next 1 completeFirst

end SampleVerification

end KmtLegal
