import KmtLegal.Auth.FailureCount
import KmtLegal.Relational.Run

/-!
# One-time codes

A challenge is read as unconsumed in one statement and consumed in another, and its attempts are read
before a comparison and counted after it.  A code is good for one session, and five codes are compared
at most, if a comparison finds the challenge unconsumed with an attempt left and no other comparison
waiting to be written.
-/

namespace KmtLegal

open Relational

/-! ## Phases -/

namespace SecondFactorPhase

/-- The context a call has read. -/
def context : SecondFactorPhase → Option PendingContext
  | entered context | comparing context _ _ | counting context _ | consuming context _
  | activating context | enabling context | failing context => some context
  | begin | done _ => none

/-- The challenge a code is compared with next. -/
def toCompare : SecondFactorPhase → Option Uuid
  | comparing _ challengeId _ => some challengeId
  | begin | entered _ | counting _ _ | consuming _ _ | activating _ | enabling _ | failing _ | done _ =>
    none

/-- The challenge a code was compared with, which is written next. -/
def compared : SecondFactorPhase → Option Uuid
  | counting _ challengeId | consuming _ challengeId => some challengeId
  | begin | entered _ | comparing _ _ _ | activating _ | enabling _ | failing _ | done _ => none

end SecondFactorPhase

/-! ## What a step does to the challenges -/

/-- What a step does to the challenges. -/
inductive ChallengeOutcome (s : SecondFactorRows) (phase : SecondFactorPhase) (s' : SecondFactorRows)
    (phase' : SecondFactorPhase) : Prop
  | kept (hchallenges : s'.challenges = s.challenges) (hbefore : phase.toCompare = none)
      (hcompared : phase.compared = none) (hcompared' : phase'.compared = none)
      (hfound : ∀ id ∈ phase'.toCompare, (s.challenges.lookup id).isSome)
  | compared (id : Uuid) (hchallenges : s'.challenges = s.challenges)
      (hbefore : phase.toCompare = some id) (hcompared' : phase'.compared = some id)
      (hafter : phase'.toCompare = none)
  | created (id : Uuid) (challenge : EmailOtpChallenge) (hnew : s.challenges.lookup id = none)
      (hchallenges : s'.challenges = s.challenges.insert id challenge)
      (hbefore : phase.toCompare = none) (hcompared : phase.compared = none)
      (hafter : phase'.toCompare = none) (hcompared' : phase'.compared = none)
  | counted (id : Uuid) (hphase : phase.compared = some id)
      (hchallenges : s'.challenges = s.challenges.update id fun challenge ↦
        { challenge with attemptCount := challenge.attemptCount + 1 })
      (hafter : phase'.toCompare = none) (hcompared' : phase'.compared = none)
      (hnotVerified : phase' ≠ .done (.ok .verified))
  | consumed (id : Uuid) (context : PendingContext) (now : Time) (hphase : phase = .consuming context id)
      (hchallenges : s'.challenges = s.challenges.update id fun challenge ↦
        { challenge with consumedAt := some now, attemptCount := challenge.attemptCount + 1 })
      (hphase' : phase' = .done (.ok .verified))
  | rolledBack (id : Uuid) (context : PendingContext) (hphase : phase = .consuming context id)
      (hmissing : s.challenges.lookup id = none ∨ s.account.sessions.lookup context.sessionId = none)
      (hchallenges : s'.challenges = s.challenges) (hphase' : ∃ e, phase' = .done (.error e))

/-- A step that writes no challenge, after which there is none to compare a code with. -/
theorem ChallengeOutcome.idle {s s' : SecondFactorRows} {phase phase' : SecondFactorPhase}
    (hchallenges : s'.challenges = s.challenges) (hbefore : phase.toCompare = none)
    (hcompared : phase.compared = none) (hcompared' : phase'.compared = none)
    (hafter : phase'.toCompare = none) : ChallengeOutcome s phase s' phase' := by
  refine .kept hchallenges hbefore hcompared hcompared' fun id hid ↦ ?_
  rw [hafter] at hid
  cases hid

theorem checkTotpCode_cases (C : SecondFactorCrypto) (sealedText code : String) (now : Time)
    (right wrong : SecondFactorPhase) :
    (∃ e, checkTotpCode C sealedText code now right wrong = .done (.error e)) ∨
      checkTotpCode C sealedText code now right wrong = right ∨
      checkTotpCode C sealedText code now right wrong = wrong := by
  unfold checkTotpCode
  split
  · exact .inl ⟨_, rfl⟩
  · split_ifs
    · exact .inr (.inl rfl)
    · exact .inr (.inr rfl)

theorem usableChallenge_latest {s : SecondFactorRows} {id : Uuid} {challenge : EmailOtpChallenge}
    (h : usableChallenge s.latestChallenge = some (id, challenge)) :
    s.challenges.lookup id = some challenge := by
  have hlatest := (Option.filter_eq_some_iff.mp h).1
  exact (Table.mem_findMany (List.mem_of_mem_head? hlatest)).1

theorem check_challenges (C : SecondFactorCrypto) (call : SecondFactorCall) (s : SecondFactorRows)
    (context : PendingContext) :
    ChallengeOutcome s (.entered context) (call.check C s context).1 (call.check C s context).2 := by
  cases call with
  | verifyPendingTotp _ code =>
    simp only [SecondFactorCall.check]
    split
    · exact .idle rfl rfl rfl rfl rfl
    · rename_i sealedText _
      rcases checkTotpCode_cases C sealedText code s.now (.activating context) (.failing context) with
        ⟨e, h⟩ | h | h <;> rw [h] <;> exact .idle rfl rfl rfl rfl rfl
  | verifyEmailOtp _ _ =>
    simp only [SecondFactorCall.check]
    split
    · exact .idle rfl rfl rfl rfl rfl
    · rename_i found
      refine .kept rfl rfl rfl rfl fun id hid ↦ ?_
      obtain rfl := Option.some.inj hid
      rw [usableChallenge_latest found]
      rfl
  | sendEmailOtp _ challengeId otp =>
    simp only [SecondFactorCall.check]
    split
    · rename_i s' h
      simp only [SecondFactorRows.createChallenge, bind_eq_ok, orThrow_eq_ok, pure_eq_ok] at h
      obtain ⟨challenges, hcreate, rfl⟩ := h
      obtain ⟨hnew, rfl⟩ := Table.create_eq_some.mp hcreate
      exact .created challengeId _ hnew rfl rfl rfl rfl rfl
    · exact .idle rfl rfl rfl rfl rfl
  | confirmTotpEnrollment _ code =>
    simp only [SecondFactorCall.check]
    split
    · exact .idle rfl rfl rfl rfl rfl
    · rename_i sealedText _
      rcases checkTotpCode_cases C sealedText code s.now (.enabling context) (.failing context) with
        ⟨e, h⟩ | h | h <;> rw [h] <;> exact .idle rfl rfl rfl rfl rfl

/-- A transaction that writes no challenge. -/
theorem transact_kept {s s₁ : SecondFactorRows} {phase : SecondFactorPhase}
    {result : Except Failure SecondFactorRows} {answer : Except Failure SecondFactorAnswer}
    (hbefore : phase.toCompare = none) (hcompared : phase.compared = none)
    (h : ∀ s', result = .ok s' → s'.challenges = s.challenges)
    (hs : s₁.challenges = s.challenges) :
    ChallengeOutcome s phase (transact s₁ result answer).1 (transact s₁ result answer).2 := by
  cases result with
  | ok s' => exact .idle (h s' rfl) hbefore hcompared rfl rfl
  | error e => exact .idle hs hbefore hcompared rfl rfl

/-- Every step has one of the outcomes. -/
theorem secondFactorStep_challenges (P : Platform) (C : SecondFactorCrypto) (call : SecondFactorCall)
    (move : SecondFactorMove) (s : SecondFactorRows) (phase : SecondFactorPhase) :
    ChallengeOutcome s phase (secondFactorStep P C call move s phase).1
      (secondFactorStep P C call move s phase).2 := by
  cases phase with
  | begin =>
    simp only [secondFactorStep]
    split
    · exact .idle rfl rfl rfl rfl rfl
    · exact .idle rfl rfl rfl rfl rfl
    · exact .idle rfl rfl rfl rfl rfl
  | entered context =>
    have hcheck := check_challenges C call { s with now := s.now + move.elapsed } context
    simp only [secondFactorStep]
    cases hcheck with
    | kept hchallenges hbefore hcompared hcompared' hfound =>
      exact .kept hchallenges hbefore hcompared hcompared' hfound
    | created id challenge hnew hchallenges hbefore hcompared hafter hcompared' =>
      exact .created id challenge hnew hchallenges hbefore hcompared hafter hcompared'
    | compared id _ hbefore => cases hbefore
    | counted id hphase => cases hphase
    | consumed id _ _ hphase => cases hphase
    | rolledBack id _ hphase => cases hphase
  | comparing context challengeId otpHash =>
    simp only [secondFactorStep]
    split_ifs
    · exact .compared challengeId rfl rfl rfl rfl
    · exact .compared challengeId rfl rfl rfl rfl
  | counting context challengeId =>
    refine .counted challengeId rfl rfl rfl rfl fun h ↦ ?_
    cases h
  | consuming context challengeId =>
    simp only [secondFactorStep, transact]
    split
    · rename_i s' h
      simp only [SecondFactorRows.consume, SecondFactorRows.activate, bind_eq_ok, throwIf_eq_ok,
        pure_eq_ok] at h
      obtain ⟨_, -, _, -, rfl⟩ := h
      exact .consumed challengeId context _ rfl rfl rfl
    · rename_i e h
      refine .rolledBack challengeId context rfl (or_iff_not_imp_left.mpr fun hchallenge ↦ ?_) rfl
        ⟨e, rfl⟩
      by_contra hsession
      simp only [SecondFactorRows.consume, SecondFactorRows.activate, throwIf, hchallenge, hsession,
        if_false] at h
      cases h
  | activating context =>
    refine transact_kept rfl rfl (fun s' h ↦ ?_) rfl
    simp only [SecondFactorRows.activateTotp, SecondFactorRows.activate, bind_eq_ok, throwIf_eq_ok,
      orThrow_eq_ok, pure_eq_ok] at h
    obtain ⟨_, ⟨_, -, rfl⟩, _, -, rfl⟩ := h
    rfl
  | enabling context =>
    refine transact_kept rfl rfl (fun s' h ↦ ?_) rfl
    simp only [SecondFactorRows.enable, bind_eq_ok, pure_eq_ok] at h
    obtain ⟨_, -, rfl⟩ := h
    rfl
  | failing context =>
    refine transact_kept rfl rfl (fun s' h ↦ ?_) rfl
    simp only [SecondFactorRows.recordFailure, bind_eq_ok, throwIf_eq_ok, pure_eq_ok] at h
    obtain ⟨_, -, rfl⟩ := h
    rfl
  | done answer => exact .idle rfl rfl rfl rfl rfl

/-! ## Sessions stay -/

theorem isSome_lookup_update {κ ρ : Type} [DecidableEq κ] (t : Table κ ρ) (k k' : κ) (f : ρ → ρ) :
    ((t.update k f).lookup k').isSome = (t.lookup k').isSome := by
  rw [Table.lookup_update]
  split_ifs
  · rw [Option.isSome_map]
  · rfl

/-- No statement removes a session. -/
theorem secondFactorStep_sessions (P : Platform) (C : SecondFactorCrypto) (call : SecondFactorCall)
    (move : SecondFactorMove) (s : SecondFactorRows) (phase : SecondFactorPhase) (id : Uuid) :
    ((secondFactorStep P C call move s phase).1.account.sessions.lookup id).isSome =
      (s.account.sessions.lookup id).isSome := by
  have hpassing (s₁ : SecondFactorRows) (hs : s₁.account.sessions = s.account.sessions)
      (result : Except Failure SecondFactorRows)
      (h : ∀ s', result = .ok s' → (s'.account.sessions.lookup id).isSome =
        (s.account.sessions.lookup id).isSome) :
      ((transact s₁ result (.ok .verified)).1.account.sessions.lookup id).isSome =
        (s.account.sessions.lookup id).isSome := by
    cases result with
    | ok s' => exact h s' rfl
    | error e => rw [transact, hs]
  cases secondFactorStep_failures P C call move s phase with
  | kept hsessions => rw [hsessions]
  | recorded _ _ hsessions => rw [hsessions, isSome_lookup_update]
  | passing hphase =>
    cases phase with
    | consuming context challengeId =>
      refine hpassing { s with now := s.now + move.elapsed } rfl _ fun s' h ↦ ?_
      simp only [SecondFactorRows.consume, SecondFactorRows.activate, bind_eq_ok, throwIf_eq_ok,
        pure_eq_ok] at h
      obtain ⟨_, -, _, -, rfl⟩ := h
      exact isSome_lookup_update _ _ _ _
    | activating context =>
      refine hpassing { s with now := s.now + move.elapsed } rfl _ fun s' h ↦ ?_
      simp only [SecondFactorRows.activateTotp, SecondFactorRows.activate, bind_eq_ok, throwIf_eq_ok,
        orThrow_eq_ok, pure_eq_ok] at h
      obtain ⟨_, ⟨_, -, rfl⟩, _, -, rfl⟩ := h
      exact isSome_lookup_update _ _ _ _
    | enabling context =>
      refine hpassing { s with now := s.now + move.elapsed } rfl _ fun s' h ↦ ?_
      simp only [SecondFactorRows.enable, StaffAccount.enable, bind_eq_ok, throwIf_eq_ok,
        orThrow_eq_ok, pure_eq_ok] at h
      obtain ⟨_, ⟨_, -, _, -, rfl⟩, rfl⟩ := h
      exact isSome_lookup_update _ _ _ _
    | begin | entered _ | comparing _ _ _ | counting _ _ | failing _ | done _ => cases hphase

theorem check_context (C : SecondFactorCrypto) (call : SecondFactorCall) (s : SecondFactorRows)
    (context : PendingContext) :
    (call.check C s context).2.context = none ∨ (call.check C s context).2.context = some context := by
  have hcode (sealedText code : String) {right wrong : SecondFactorPhase}
      (hright : right.context = some context) (hwrong : wrong.context = some context) :
      (checkTotpCode C sealedText code s.now right wrong).context = none ∨
        (checkTotpCode C sealedText code s.now right wrong).context = some context := by
    obtain ⟨e, h⟩ | h | h := checkTotpCode_cases C sealedText code s.now right wrong
    · exact .inl (by rw [h]; rfl)
    · exact .inr (by rw [h, hright])
    · exact .inr (by rw [h, hwrong])
  cases call with
  | verifyPendingTotp _ code =>
    simp only [SecondFactorCall.check]
    split
    · exact .inr rfl
    · exact hcode _ _ rfl rfl
  | verifyEmailOtp _ _ =>
    simp only [SecondFactorCall.check]
    split <;> exact .inr rfl
  | sendEmailOtp _ _ _ =>
    simp only [SecondFactorCall.check]
    split <;> exact .inl rfl
  | confirmTotpEnrollment _ code =>
    simp only [SecondFactorCall.check]
    split
    · exact .inl rfl
    · exact hcode _ _ rfl rfl

/-- A call has the context it had, or one that it has just read. -/
theorem secondFactorStep_context (P : Platform) (C : SecondFactorCrypto) (call : SecondFactorCall)
    (move : SecondFactorMove) (s : SecondFactorRows) (phase : SecondFactorPhase)
    (context : PendingContext)
    (h : (secondFactorStep P C call move s phase).2.context = some context) :
    phase.context = some context ∨ (s.account.sessions.lookup context.sessionId).isSome := by
  have htransact (s₁ : SecondFactorRows) (result : Except Failure SecondFactorRows)
      (answer : Except Failure SecondFactorAnswer) : (transact s₁ result answer).2.context = none := by
    cases result <;> rfl
  cases phase with
  | begin =>
    simp only [secondFactorStep] at h
    split at h
    · cases h
    · rename_i context' hcontext
      obtain rfl := Option.some.inj h
      simp only [SecondFactorRows.pendingContext, bind_eq_ok, orThrow_eq_ok, throwIf_eq_ok,
        pure_eq_ok] at hcontext
      obtain ⟨session, hsession, _, -, rfl⟩ := hcontext
      exact .inr (Option.isSome_of_mem (Option.filter_eq_some_iff.mp hsession).1)
    · cases h
  | entered entered =>
    obtain hnone | hsame := check_context C call { s with now := s.now + move.elapsed } entered
    · cases hnone.symm.trans h
    · exact .inl (hsame.symm.trans h)
  | comparing _ _ _ =>
    simp only [secondFactorStep] at h
    split_ifs at h <;> exact .inl h
  | counting _ _ => exact .inl h
  | consuming _ _ => cases (htransact _ _ _).symm.trans h
  | activating _ => cases (htransact _ _ _).symm.trans h
  | enabling _ => cases (htransact _ _ _).symm.trans h
  | failing _ => cases (htransact _ _ _).symm.trans h
  | done _ => cases h

/-! ## One challenge along a run -/

/-- The session that the transaction of a right code has activated. -/
def activation (id : Uuid) (before after : SecondFactorPhase) : Option Uuid :=
  match before, after with
  | .consuming context challengeId, .done (.ok .verified) =>
    if challengeId = id then some context.sessionId else none
  | _, _ => none

theorem activation_of_not_compared {id : Uuid} {before after : SecondFactorPhase}
    (h : before.compared ≠ some id) : activation id before after = none := by
  unfold activation
  split
  · rename_i context challengeId
    exact if_neg fun hid ↦ h (congrArg some hid)
  · rfl

theorem activation_of_not_verified {id : Uuid} {before after : SecondFactorPhase}
    (h : after ≠ .done (.ok .verified)) : activation id before after = none := by
  unfold activation
  split
  · exact absurd rfl h
  · rfl

section

variable {ω : Type} [DecidableEq ω]

/-- The step compares a code with the hash of the challenge. -/
def ComparesCode (id : Uuid) (s : SecondFactorCalls ω) (i : ω × SecondFactorMove) : Bool :=
  (s.process i.1).toCompare = some id

/-- The session a verification with the challenge activates in the step. -/
def activatedBy (P : Platform) (C : SecondFactorCrypto) (call : ω → SecondFactorCall) (id : Uuid)
    (s : SecondFactorCalls ω) (i : ω × SecondFactorMove) : Option Uuid :=
  activation id (s.process i.1) ((secondFactorCallsStep P C call s i).process i.1)

/-- If the step compares a code, the challenge is not consumed, has an attempt left, and no other
comparison is waiting to be written. -/
def ClaimsChallenge (s : SecondFactorCalls ω) (i : ω × SecondFactorMove) : Prop :=
  ∀ id ∈ (s.process i.1).toCompare, (∀ w, (s.process w).compared ≠ some id) ∧
    ∀ challenge ∈ s.store.challenges.lookup id,
      challenge.consumedAt = none ∧ challenge.attemptCount < 5

/-- After `c` comparisons and the activation of the sessions `a` with the challenge. -/
structure UsedOnce (id : Uuid) (c : ℕ) (a : List Uuid) (s : SecondFactorCalls ω) : Prop where
  bound : c ≤ 5
  session : ∀ w, ∀ context ∈ (s.process w).context,
    (s.store.account.sessions.lookup context.sessionId).isSome
  found : ∀ w, (s.process w).toCompare = some id ∨ (s.process w).compared = some id →
    (s.store.challenges.lookup id).isSome
  single : ∀ w w', (s.process w).compared = some id → (s.process w').compared = some id → w = w'
  unused : s.store.challenges.lookup id = none → c = 0 ∧ a = []
  counted : ∀ challenge ∈ s.store.challenges.lookup id, (∀ w, (s.process w).compared ≠ some id) →
    c ≤ challenge.attemptCount
  waiting : ∀ challenge ∈ s.store.challenges.lookup id, ∀ w, (s.process w).compared = some id →
    c ≤ challenge.attemptCount + 1 ∧ challenge.consumedAt = none
  consumed : ∀ challenge ∈ s.store.challenges.lookup id, challenge.consumedAt = none → a = []
  once : a.length ≤ 1

namespace UsedOnce

variable {id : Uuid} {c : ℕ} {a : List Uuid} {s : SecondFactorCalls ω} {v : ω}
  {rows : SecondFactorRows} {phase : SecondFactorPhase}

/-- A step that keeps the sessions and comes to a phase whose context has one. -/
structure Moves (s : SecondFactorCalls ω) (v : ω) (rows : SecondFactorRows)
    (phase : SecondFactorPhase) : Prop where
  sessions : ∀ id, (rows.account.sessions.lookup id).isSome =
    (s.store.account.sessions.lookup id).isSome
  context : ∀ context, phase.context = some context → (s.process v).context = some context ∨
    (s.store.account.sessions.lookup context.sessionId).isSome

omit [DecidableEq ω] in
theorem not_compared (h : UsedOnce id c a s) (hv : (s.process v).compared = some id) {w : ω}
    (hw : w ≠ v) : (s.process w).compared ≠ some id := fun hcompared ↦ hw (h.single w v hcompared hv)

theorem session_of_moves (h : UsedOnce id c a s) (hmoves : Moves s v rows phase) (w : ω) :
    ∀ context ∈ (Function.update s.process v phase w).context,
      (rows.account.sessions.lookup context.sessionId).isSome := by
  intro context hcontext
  rw [hmoves.sessions]
  by_cases hw : w = v
  · rw [hw, Function.update_self] at hcontext
    exact (hmoves.context context hcontext).elim (h.session v context) fun hsome ↦ hsome
  · rw [Function.update_of_ne hw] at hcontext
    exact h.session w context hcontext

/-- A step that has nothing to do with the challenge. -/
theorem other (h : UsedOnce id c a s) (hmoves : Moves s v rows phase)
    (hlookup : rows.challenges.lookup id = s.store.challenges.lookup id)
    (hbefore : (s.process v).compared ≠ some id) (hafter : phase.compared ≠ some id)
    (hfound : phase.toCompare = some id → (s.store.challenges.lookup id).isSome) :
    UsedOnce id c a ⟨rows, Function.update s.process v phase⟩ := by
  have hcompared (w : ω) : (Function.update s.process v phase w).compared = some id ↔
      (s.process w).compared = some id := by
    by_cases hw : w = v
    · rw [hw, Function.update_self]
      exact iff_of_false hafter hbefore
    · rw [Function.update_of_ne hw]
  refine ⟨h.bound, h.session_of_moves hmoves, fun w hw ↦ ?_, fun w w' hw hw' ↦ ?_, ?_, ?_, ?_, ?_, h.once⟩
  · simp only [hlookup]
    by_cases hv : w = v
    · simp only [hv, Function.update_self] at hw
      exact hw.elim hfound fun hphase ↦ absurd hphase hafter
    · simp only [Function.update_of_ne hv] at hw
      exact h.found w hw
  · exact h.single w w' ((hcompared w).mp hw) ((hcompared w').mp hw')
  · simp only [hlookup]
    exact h.unused
  · simp only [hlookup, ne_eq, hcompared]
    exact h.counted
  · simp only [hlookup, hcompared]
    exact h.waiting
  · simp only [hlookup]
    exact h.consumed

/-- A call that is done compares and writes nothing more. -/
theorem other_done {answer : Except Failure SecondFactorAnswer} (h : UsedOnce id c a s)
    (hmoves : Moves s v rows (.done answer))
    (hlookup : rows.challenges.lookup id = s.store.challenges.lookup id)
    (hbefore : (s.process v).compared ≠ some id) :
    UsedOnce id c a ⟨rows, Function.update s.process v (.done answer)⟩ :=
  h.other hmoves hlookup hbefore (Option.some_ne_none id).symm fun hnone ↦
    absurd hnone (Option.some_ne_none id).symm

/-- A code is compared, when nothing is in the way. -/
theorem compare (h : UsedOnce id c a s) (hmoves : Moves s v rows phase)
    (hchallenges : rows.challenges = s.store.challenges)
    (hbefore : (s.process v).toCompare = some id) (hafter : phase.compared = some id)
    (hclaims : (∀ w, (s.process w).compared ≠ some id) ∧
      ∀ challenge ∈ s.store.challenges.lookup id,
        challenge.consumedAt = none ∧ challenge.attemptCount < 5) :
    UsedOnce id (c + 1) a ⟨rows, Function.update s.process v phase⟩ := by
  obtain ⟨challenge, hchallenge⟩ := Option.isSome_iff_exists.mp (h.found v (.inl hbefore))
  obtain ⟨hconsumed, hattempts⟩ := hclaims.2 challenge hchallenge
  have hcount := h.counted challenge hchallenge hclaims.1
  have hself (w : ω) (hw : (Function.update s.process v phase w).compared = some id) : w = v := by
    by_contra hne
    rw [Function.update_of_ne hne] at hw
    exact hclaims.1 w hw
  have hlookup (r : EmailOtpChallenge) (hr : r ∈ rows.challenges.lookup id) : r = challenge := by
    rw [hchallenges, hchallenge] at hr
    exact (Option.some.inj hr).symm
  refine ⟨by omega, h.session_of_moves hmoves, fun _ _ ↦ ?_, fun w w' hw hw' ↦ ?_, ?_, ?_, ?_, ?_, h.once⟩
  · simp only [hchallenges, hchallenge, Option.isSome_some]
  · rw [hself w hw, hself w' hw']
  · simp only [hchallenges, hchallenge, reduceCtorEq, false_implies]
  · have hv : (Function.update s.process v phase v).compared = some id := by
      rw [Function.update_self, hafter]
    exact fun _ _ hnone ↦ absurd hv (hnone v)
  · intro r hr _ _
    obtain rfl := hlookup r hr
    exact ⟨by omega, hconsumed⟩
  · intro r hr hnone
    obtain rfl := hlookup r hr
    exact h.consumed r hchallenge hnone

omit [DecidableEq ω] in
/-- Nobody has to do with a challenge that is not there. -/
theorem not_found (h : UsedOnce id c a s) (hnew : s.store.challenges.lookup id = none) (w : ω) :
    (s.process w).toCompare ≠ some id ∧ (s.process w).compared ≠ some id := by
  refine not_or.mp fun hw ↦ ?_
  have hfound := h.found w hw
  rw [hnew] at hfound
  cases hfound

/-- The challenge is sent. -/
theorem create (h : UsedOnce id c a s) (hmoves : Moves s v rows phase)
    (hnew : s.store.challenges.lookup id = none) (hafter : phase.toCompare = none)
    (hcompared : phase.compared = none) :
    UsedOnce id c a ⟨rows, Function.update s.process v phase⟩ := by
  obtain ⟨rfl, rfl⟩ := h.unused hnew
  have hnone (w : ω) : (Function.update s.process v phase w).toCompare ≠ some id ∧
      (Function.update s.process v phase w).compared ≠ some id := by
    by_cases hw : w = v
    · rw [hw, Function.update_self, hafter, hcompared]
      exact ⟨nofun, nofun⟩
    · rw [Function.update_of_ne hw]
      exact h.not_found hnew w
  exact ⟨h.bound, h.session_of_moves hmoves, fun w hw ↦ absurd hw (not_or.mpr (hnone w)),
    fun w _ hw ↦ absurd hw (hnone w).2, fun _ ↦ ⟨rfl, rfl⟩, fun _ _ _ ↦ Nat.zero_le _,
    fun _ _ w hw ↦ absurd hw (hnone w).2, fun _ _ _ ↦ rfl, h.once⟩

/-- A comparison is written. -/
theorem write (h : UsedOnce id c a s) (hmoves : Moves s v rows phase)
    {f : EmailOtpChallenge → EmailOtpChallenge}
    (hchallenges : rows.challenges = s.store.challenges.update id f)
    (hbefore : (s.process v).compared = some id) (hcompared : phase.compared = none)
    (hf : ∀ r, (f r).attemptCount = r.attemptCount + 1) {a' : List Uuid} (ha : a'.length ≤ 1)
    (hconsumed : ∀ r ∈ s.store.challenges.lookup id, (f r).consumedAt = none → a' = []) :
    UsedOnce id c a' ⟨rows, Function.update s.process v phase⟩ := by
  obtain ⟨challenge, hchallenge⟩ := Option.isSome_iff_exists.mp (h.found v (.inr hbefore))
  have hlookup : rows.challenges.lookup id = some (f challenge) := by
    rw [hchallenges, Table.lookup_update_self, hchallenge, Option.map_some]
  have hnone (w : ω) : (Function.update s.process v phase w).compared ≠ some id := by
    by_cases hw : w = v
    · rw [hw, Function.update_self, hcompared]
      exact nofun
    · rw [Function.update_of_ne hw]
      exact h.not_compared hbefore hw
  refine ⟨h.bound, h.session_of_moves hmoves, fun _ _ ↦ ?_, fun w _ hw ↦ absurd hw (hnone w),
    fun hmissing ↦ ?_, fun r hr _ ↦ ?_, fun _ _ w hw ↦ absurd hw (hnone w), fun r hr hr' ↦ ?_, ha⟩
  · simp only [hlookup, Option.isSome_some]
  · simp only [hlookup, reduceCtorEq] at hmissing
  · obtain rfl := Option.some.inj (hlookup.symm.trans hr)
    rw [hf]
    exact (h.waiting challenge hchallenge v hbefore).1
  · obtain rfl := Option.some.inj (hlookup.symm.trans hr)
    exact hconsumed challenge hchallenge hr'

end UsedOnce

/-- One step of a run in which every comparison claims its challenge. -/
theorem usedOnce_step {P : Platform} {C : SecondFactorCrypto} {call : ω → SecondFactorCall} {id : Uuid}
    {c : ℕ} {a : List Uuid} {s : SecondFactorCalls ω} (h : UsedOnce id c a s)
    {i : ω × SecondFactorMove} (hclaims : ClaimsChallenge s i) :
    UsedOnce id (c + (ComparesCode id s i).toNat) (a ++ (activatedBy P C call id s i).toList)
      (secondFactorCallsStep P C call s i) := by
  have houtcome := secondFactorStep_challenges P C (call i.1) i.2 s.store (s.process i.1)
  have hmoves : UsedOnce.Moves s i.1 (secondFactorStep P C (call i.1) i.2 s.store (s.process i.1)).1
      (secondFactorStep P C (call i.1) i.2 s.store (s.process i.1)).2 :=
    ⟨secondFactorStep_sessions P C (call i.1) i.2 s.store (s.process i.1),
      secondFactorStep_context P C (call i.1) i.2 s.store (s.process i.1)⟩
  rw [activatedBy, secondFactorCallsStep, interleave_process_self, interleave]
  generalize (secondFactorStep P C (call i.1) i.2 s.store (s.process i.1)).1 = rows at houtcome hmoves ⊢
  generalize (secondFactorStep P C (call i.1) i.2 s.store (s.process i.1)).2 = phase at houtcome hmoves ⊢
  have hquiet (hbefore : (s.process i.1).toCompare ≠ some id)
      (hactivation : activation id (s.process i.1) phase = none)
      (hused : UsedOnce id c a ⟨rows, Function.update s.process i.1 phase⟩) :
      UsedOnce id (c + (ComparesCode id s i).toNat)
        (a ++ (activation id (s.process i.1) phase).toList)
        ⟨rows, Function.update s.process i.1 phase⟩ := by
    rw [ComparesCode, decide_eq_false hbefore, hactivation]
    simpa using hused
  cases houtcome with
  | kept hchallenges hbefore hcompared hcompared' hfound =>
    have hnot : (s.process i.1).compared ≠ some id := by simp [hcompared]
    refine hquiet (by simp [hbefore]) (activation_of_not_compared hnot) ?_
    exact h.other hmoves (by rw [hchallenges]) hnot (by simp [hcompared']) (hfound id)
  | compared id' hchallenges hbefore hcompared' hafter =>
    have hnot : (s.process i.1).compared ≠ some id := by
      cases hphase : s.process i.1 <;> simp_all [SecondFactorPhase.toCompare, SecondFactorPhase.compared]
    by_cases hid : id' = id
    · subst hid
      rw [ComparesCode, decide_eq_true hbefore, activation_of_not_compared hnot]
      simpa using h.compare hmoves hchallenges hbefore hcompared' (hclaims id' hbefore)
    · refine hquiet (by simp [hbefore, hid]) (activation_of_not_compared hnot) ?_
      exact h.other hmoves (by rw [hchallenges]) hnot (by simp [hcompared', hid]) (by simp [hafter])
  | created id' challenge hnew hchallenges hbefore hcompared hafter hcompared' =>
    have hnot : (s.process i.1).compared ≠ some id := by simp [hcompared]
    refine hquiet (by simp [hbefore]) (activation_of_not_compared hnot) ?_
    by_cases hid : id = id'
    · subst hid
      exact h.create hmoves hnew hafter hcompared'
    · exact h.other hmoves (by rw [hchallenges, Table.lookup_insert, if_neg hid]) hnot
        (by simp [hcompared']) (by simp [hafter])
  | counted id' hphase hchallenges hafter hcompared' hnotVerified =>
    have hbefore : (s.process i.1).toCompare ≠ some id := by
      cases hbefore : s.process i.1 <;>
        simp_all [SecondFactorPhase.toCompare, SecondFactorPhase.compared]
    refine hquiet hbefore (activation_of_not_verified hnotVerified) ?_
    by_cases hid : id = id'
    · subst hid
      exact h.write hmoves hchallenges hphase hcompared' (fun _ ↦ rfl) h.once h.consumed
    · exact h.other hmoves (by rw [hchallenges, Table.lookup_update_of_ne _ _ hid])
        (by simp [hphase, Ne.symm hid]) (by simp [hcompared']) (by simp [hafter])
  | consumed id' context now hphase hchallenges hphase' =>
    subst hphase'
    have hbefore : (s.process i.1).toCompare ≠ some id := by simp [hphase, SecondFactorPhase.toCompare]
    have hcompared : (s.process i.1).compared = some id' := by rw [hphase]; rfl
    by_cases hid : id = id'
    · subst hid
      obtain ⟨challenge, hchallenge⟩ := Option.isSome_iff_exists.mp (h.found i.1 (.inr hcompared))
      obtain rfl := h.consumed challenge hchallenge (h.waiting challenge hchallenge i.1 hcompared).2
      have hactivation : activation id (s.process i.1) (.done (.ok .verified)) =
          some context.sessionId := by
        rw [hphase]
        exact if_pos rfl
      rw [ComparesCode, decide_eq_false hbefore, hactivation]
      refine h.write hmoves hchallenges hcompared rfl (fun _ ↦ rfl) le_rfl fun r _ hopen ↦ ?_
      cases hopen
    · have hnot : (s.process i.1).compared ≠ some id := by simp [hcompared, Ne.symm hid]
      refine hquiet hbefore (activation_of_not_compared hnot) ?_
      exact h.other_done hmoves (by rw [hchallenges, Table.lookup_update_of_ne _ _ hid]) hnot
  | rolledBack id' context hphase hmissing hchallenges hphase' =>
    obtain ⟨e, rfl⟩ := hphase'
    have hcompared : (s.process i.1).compared = some id' := by rw [hphase]; rfl
    have hid : id' ≠ id := by
      rintro rfl
      have hfound := h.found i.1 (.inr hcompared)
      have hsession := h.session i.1 context (by rw [hphase]; rfl)
      obtain hnone | hnone := hmissing
      · rw [hnone] at hfound
        cases hfound
      · rw [hnone] at hsession
        cases hsession
    have hnot : (s.process i.1).compared ≠ some id := by simp [hcompared, hid]
    refine hquiet (by simp [hphase, SecondFactorPhase.toCompare]) (activation_of_not_compared hnot) ?_
    exact h.other_done hmoves (by rw [hchallenges]) hnot

end

/-- The sessions activated with a challenge along a run. -/
def activations {ω : Type} [DecidableEq ω] (P : Platform) (C : SecondFactorCrypto)
    (call : ω → SecondFactorCall) (id : Uuid) (s : SecondFactorCalls ω)
    (moves : List (ω × SecondFactorMove)) : List Uuid :=
  (responses (secondFactorCallsStep P C call) (activatedBy P C call id) s moves).reduceOption

theorem activations_cons {ω : Type} [DecidableEq ω] (P : Platform) (C : SecondFactorCrypto)
    (call : ω → SecondFactorCall) (id : Uuid) (s : SecondFactorCalls ω) (i : ω × SecondFactorMove)
    (moves : List (ω × SecondFactorMove)) :
    activations P C call id s (i :: moves) = (activatedBy P C call id s i).toList ++
      activations P C call id (secondFactorCallsStep P C call s i) moves := by
  rw [activations, responses]
  cases activatedBy P C call id s i <;> rfl

theorem usedOnce_run {ω : Type} [DecidableEq ω] {P : Platform} {C : SecondFactorCrypto}
    {call : ω → SecondFactorCall} {id : Uuid} {c : ℕ} {a : List Uuid} {s : SecondFactorCalls ω}
    (h : UsedOnce id c a s) {moves : List (ω × SecondFactorMove)}
    (hclaims : AllSteps (secondFactorCallsStep P C call) ClaimsChallenge s moves) :
    UsedOnce id (c + stepCount (secondFactorCallsStep P C call) (ComparesCode id) s moves)
      (a ++ activations P C call id s moves) (run (secondFactorCallsStep P C call) s moves) := by
  induction moves generalizing c a s with
  | nil => simpa [activations, stepCount, responses, List.reduceOption] using h
  | cons i moves ih =>
    have hnext := ih (usedOnce_step (P := P) (C := C) h hclaims.1) hclaims.2
    rwa [run_cons, stepCount, activations_cons, ← Nat.add_assoc, ← List.append_assoc]

/-- In every interleaving of calls in which each comparison claims its challenge, at most five codes are
compared with the hash of a challenge, and it activates one session at most. -/
theorem code_used_once {ω : Type} [DecidableEq ω] (P : Platform) (C : SecondFactorCrypto)
    (call : ω → SecondFactorCall) (rows : SecondFactorRows) (moves : List (ω × SecondFactorMove))
    (hclaims : AllSteps (secondFactorCallsStep P C call) ClaimsChallenge ⟨rows, fun _ ↦ .begin⟩ moves)
    (id : Uuid) :
    stepCount (secondFactorCallsStep P C call) (ComparesCode id) ⟨rows, fun _ ↦ .begin⟩ moves ≤ 5 ∧
      (activations P C call id ⟨rows, fun _ ↦ .begin⟩ moves).length ≤ 1 := by
  have hstart : UsedOnce id 0 [] (⟨rows, fun _ ↦ .begin⟩ : SecondFactorCalls ω) := {
    bound := by decide
    session := nofun
    found := fun _ h ↦ h.elim nofun nofun
    single := nofun
    unused := fun _ ↦ ⟨rfl, rfl⟩
    counted := fun _ _ _ ↦ Nat.zero_le _
    waiting := fun _ _ ↦ nofun
    consumed := fun _ _ _ ↦ rfl
    once := by decide }
  have hused := usedOnce_run hstart hclaims
  rw [Nat.zero_add, List.nil_append] at hused
  exact ⟨hused.bound, hused.once⟩

/-! ## Two sessions and one code -/

/-- Two pending sessions of a user who was sent a code. -/
def sentRows : SecondFactorRows where
  account := {
    sessions := (AList.singleton "a" { expiresAt := 100000000 }).insert "b" { expiresAt := 100000000 } }
  challenges := AList.singleton "c" { otpHash := "123456", expiresAt := 600000, createdAt := 0 }

def sentCalls : Bool → SecondFactorCall
  | true => .verifyEmailOtp "a" "123456"
  | false => .verifyEmailOtp "b" "123456"

/-- Both sessions have read the challenge before either consumes it. -/
theorem code_used_twice :
    ¬∀ (P : Platform) (C : SecondFactorCrypto) (call : Bool → SecondFactorCall)
      (rows : SecondFactorRows) (moves : List (Bool × SecondFactorMove)) (id : Uuid),
      stepCount (secondFactorCallsStep P C call) (ComparesCode id) ⟨rows, fun _ ↦ .begin⟩ moves ≤ 5 ∧
        (activations P C call id ⟨rows, fun _ ↦ .begin⟩ moves).length ≤ 1 := by
  intro h
  have hboth := (h plainPlatform deafCrypto sentCalls sentRows [(true, {}), (true, {}), (false, {}),
    (false, {}), (true, {}), (false, {}), (true, {}), (false, {})] "c").2
  revert hboth
  decide +kernel

/-- One after the other, the second finds no challenge. -/
theorem code_used_once_sample :
    (activations plainPlatform deafCrypto sentCalls "c" ⟨sentRows, fun _ ↦ .begin⟩ [(true, {}),
      (true, {}), (true, {}), (true, {}), (false, {}), (false, {}), (false, {})]).length ≤ 1 := by
  refine (code_used_once plainPlatform deafCrypto sentCalls sentRows _ ?_ "c").2
  simp only [allSteps_cons, allSteps_nil, and_true]
  unfold ClaimsChallenge
  decide +kernel

end KmtLegal
