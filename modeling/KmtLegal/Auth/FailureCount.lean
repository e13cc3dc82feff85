import KmtLegal.Auth.SecondFactor
import KmtLegal.Relational.Run
import Mathlib.Tactic.Linarith

/-!
# Counting failed codes

A wrong code is recorded with the count that its call has read at the start, plus one, and with the lock
that follows from it.  If the count is still the one that was read, the stored count is the number of the
recorded failures and the lock is that of the last of them; parallel calls that have read one count
write one count.
-/

namespace KmtLegal

open Relational

/-! ## What a step does to the sessions -/

/-- The transaction that passes the second factor comes next. -/
def SecondFactorPhase.isPassing : SecondFactorPhase → Bool
  | consuming _ _ | activating _ | enabling _ => true
  | begin | entered _ | comparing _ _ _ | counting _ _ | failing _ | done _ => false

/-- The context of a call that records its failure next. -/
def SecondFactorPhase.recording : SecondFactorPhase → Option PendingContext
  | failing context => some context
  | begin | entered _ | comparing _ _ _ | counting _ _ | consuming _ _ | activating _ | enabling _
  | done _ => none

/-- What a step does to the sessions and to the record of failures. -/
inductive FailureOutcome (move : SecondFactorMove) (s : SecondFactorRows) (phase : SecondFactorPhase)
    (s' : SecondFactorRows) : Prop
  | kept (hsessions : s'.account.sessions = s.account.sessions) (hfailures : s'.failures = s.failures)
      (hnow : s'.now = s.now + move.elapsed)
  | recorded (context : PendingContext) (hphase : phase.recording = some context)
      (hsessions : s'.account.sessions = s.account.sessions.update context.sessionId fun session ↦
        { session with
          twoFactorAttemptCount := context.twoFactorAttemptCount + 1
          twoFactorLockedUntil := twoFactorLockedUntilForAttempt
            (context.twoFactorAttemptCount + 1) (s.now + move.elapsed)
          lastTwoFactorFailedAt := some (s.now + move.elapsed) })
      (hfailures : s'.failures = s.failures ++ [(context.sessionId, s.now + move.elapsed)])
      (hnow : s'.now = s.now + move.elapsed)
  | passing (hphase : phase.isPassing)

/-- The second statement writes no session. -/
theorem check_sessions (C : SecondFactorCrypto) (call : SecondFactorCall) (s : SecondFactorRows)
    (context : PendingContext) :
    (call.check C s context).1.account = s.account ∧ (call.check C s context).1.failures = s.failures ∧
      (call.check C s context).1.now = s.now := by
  cases call with
  | verifyPendingTotp _ _ =>
    simp only [SecondFactorCall.check]
    split <;> exact ⟨rfl, rfl, rfl⟩
  | verifyEmailOtp _ _ =>
    simp only [SecondFactorCall.check]
    split <;> exact ⟨rfl, rfl, rfl⟩
  | sendEmailOtp _ challengeId otp =>
    simp only [SecondFactorCall.check]
    split
    · rename_i s' h
      simp only [SecondFactorRows.createChallenge, bind_eq_ok, pure_eq_ok] at h
      obtain ⟨_, _, rfl⟩ := h
      exact ⟨rfl, rfl, rfl⟩
    · exact ⟨rfl, rfl, rfl⟩
  | confirmTotpEnrollment _ _ =>
    simp only [SecondFactorCall.check]
    split <;> exact ⟨rfl, rfl, rfl⟩

theorem secondFactorStep_failures (P : Platform) (C : SecondFactorCrypto) (call : SecondFactorCall)
    (move : SecondFactorMove) (s : SecondFactorRows) (phase : SecondFactorPhase) :
    FailureOutcome move s phase (secondFactorStep P C call move s phase).1 := by
  cases phase with
  | begin =>
    simp only [secondFactorStep]
    split <;> exact .kept rfl rfl rfl
  | entered context =>
    obtain ⟨haccount, hfailures, hnow⟩ :=
      check_sessions C call { s with now := s.now + move.elapsed } context
    exact .kept (congrArg StaffAccount.sessions haccount) hfailures hnow
  | comparing context challengeId otpHash => exact .kept rfl rfl rfl
  | counting context challengeId => exact .kept rfl rfl rfl
  | consuming context challengeId => exact .passing rfl
  | activating context => exact .passing rfl
  | enabling context => exact .passing rfl
  | failing context =>
    simp only [secondFactorStep, transact]
    split
    · rename_i s' h
      simp only [SecondFactorRows.recordFailure, bind_eq_ok, throwIf_eq_ok, pure_eq_ok] at h
      obtain ⟨_, -, rfl⟩ := h
      exact .recorded context rfl rfl rfl rfl
    · exact .kept rfl rfl rfl
  | done answer => exact .kept rfl rfl rfl

/-! ## The tally of a session -/

/-- The times of the recorded failures of a session. -/
def SecondFactorRows.failuresOf (s : SecondFactorRows) (id : Uuid) : List Time :=
  (s.failures.filter fun failure ↦ failure.1 = id).map Prod.snd

/-- The session counts these failures, and is locked for the last of them from the fifth on. -/
structure StaffSession.Tally (session : StaffSession) (failures : List Time) (now : Time) : Prop where
  count : session.twoFactorAttemptCount = failures.length
  past : ∀ t ∈ failures, t ≤ now
  locked : 5 ≤ failures.length →
    ∃ lock, session.twoFactorLockedUntil = some lock ∧ ∀ t ∈ failures, t + 600000 ≤ lock
  lock : ∀ lock, session.twoFactorLockedUntil = some lock → 5 ≤ failures.length ∧ lock ≤ now + 600000

namespace StaffSession.Tally

variable {session : StaffSession} {failures : List Time} {now now' : Time}

theorem later (h : session.Tally failures now) (hnow : now ≤ now') : session.Tally failures now' where
  count := h.count
  past := fun t ht ↦ (h.past t ht).trans hnow
  locked := h.locked
  lock := fun lock hlock ↦ ⟨(h.lock lock hlock).1, (h.lock lock hlock).2.trans (by linarith)⟩

/-- One more failure, recorded with the stored count. -/
theorem record (h : session.Tally failures now) (hnow : now ≤ now') {count : ℕ}
    (hcount : session.twoFactorAttemptCount = count) :
    ({ session with
        twoFactorAttemptCount := count + 1
        twoFactorLockedUntil := twoFactorLockedUntilForAttempt (count + 1) now'
        lastTwoFactorFailedAt := some now' } : StaffSession).Tally (failures ++ [now']) now' := by
  have hlength : (failures ++ [now']).length = count + 1 := by
    rw [List.length_append, ← h.count, hcount]
    rfl
  have hpast : ∀ t ∈ failures ++ [now'], t ≤ now' := by
    intro t ht
    obtain ht | ht := List.mem_append.mp ht
    · exact (h.past t ht).trans hnow
    · exact (List.mem_singleton.mp ht).le
  refine ⟨hlength.symm, hpast, fun hfive ↦ ?_, fun lock hlock ↦ ?_⟩
  · rw [hlength] at hfive
    refine ⟨now' + 600000, by rw [twoFactorLockedUntilForAttempt, if_pos hfive], fun t ht ↦ ?_⟩
    linarith [hpast t ht]
  · simp only [twoFactorLockedUntilForAttempt] at hlock
    split_ifs at hlock with hfive
    rw [hlength]
    exact ⟨hfive, (Option.some.inj hlock).ge⟩

/-- The lock of a recorded failure is no earlier than the lock before it. -/
theorem lock_le (h : session.Tally failures now) (hnow : now ≤ now') {lock : Time}
    (hlock : session.twoFactorLockedUntil = some lock) :
    ∃ lock', twoFactorLockedUntilForAttempt (session.twoFactorAttemptCount + 1) now' = some lock' ∧
      lock ≤ lock' := by
  obtain ⟨hfive, hle⟩ := h.lock lock hlock
  have hcount := h.count
  exact ⟨now' + 600000, by rw [twoFactorLockedUntilForAttempt, if_pos (by omega)], by linarith⟩

end StaffSession.Tally

/-! ## Runs -/

/-- The stored count is at least the number of recorded failures, and from the fifth on the session is
locked for the lock period after it. -/
def CountsFailures (id : Uuid) (s : SecondFactorRows) : Prop :=
  ∃ session, s.account.sessions.lookup id = some session ∧
    (s.failuresOf id).length ≤ session.twoFactorAttemptCount ∧
    ∀ t, (s.failuresOf id)[4]? = some t →
      ∃ lock, session.twoFactorLockedUntil = some lock ∧ t + 600000 ≤ lock

/-- A lock of the session is neither removed nor shortened. -/
def LockKept (id : Uuid) (s s' : SecondFactorRows) : Prop :=
  ∀ session lock, s.account.sessions.lookup id = some session →
    session.twoFactorLockedUntil = some lock → ∃ session' lock',
      s'.account.sessions.lookup id = some session' ∧
        session'.twoFactorLockedUntil = some lock' ∧ lock ≤ lock'

namespace LockKept

variable {id : Uuid} {s s' s'' : SecondFactorRows}

theorem refl (s : SecondFactorRows) : LockKept id s s :=
  fun session lock hsession hlock ↦ ⟨session, lock, hsession, hlock, le_rfl⟩

theorem trans (h : LockKept id s s') (h' : LockKept id s' s'') : LockKept id s s'' := by
  intro session lock hsession hlock
  obtain ⟨session', lock', hsession', hlock', hle⟩ := h session lock hsession hlock
  obtain ⟨session'', lock'', hsession'', hlock'', hle'⟩ := h' session' lock' hsession' hlock'
  exact ⟨session'', lock'', hsession'', hlock'', hle.trans hle'⟩

theorem of_sessions_eq (h : s'.account.sessions = s.account.sessions) : LockKept id s s' :=
  fun session lock hsession hlock ↦ ⟨session, lock, by rw [h, hsession], hlock, le_rfl⟩

end LockKept

section

variable {ω : Type} [DecidableEq ω] (P : Platform) (C : SecondFactorCrypto)
  (call : ω → SecondFactorCall) (id : Uuid)

/-- The step does not find a code right. -/
def WrongCode (s : SecondFactorCalls ω) (i : ω × SecondFactorMove) : Prop :=
  ¬((secondFactorCallsStep P C call s i).process i.1).isPassing

/-- If the step records a failure of the session, the stored count is the one its call has read. -/
def FindsReadCount (s : SecondFactorCalls ω) (i : ω × SecondFactorMove) : Prop :=
  ∀ context ∈ (s.process i.1).recording, context.sessionId = id →
    ∀ session ∈ s.store.account.sessions.lookup id,
      session.twoFactorAttemptCount = context.twoFactorAttemptCount

/-- No call passes, and the session has its tally. -/
structure Tallied (s : SecondFactorCalls ω) : Prop where
  wrong : ∀ w, ¬(s.process w).isPassing
  tally : ∃ session, s.store.account.sessions.lookup id = some session ∧
    session.Tally (s.store.failuresOf id) s.store.now

variable {P C call id} {s : SecondFactorCalls ω} {i : ω × SecondFactorMove}

omit [DecidableEq ω] in
theorem Tallied.countsFailures (h : Tallied id s) : CountsFailures id s.store := by
  obtain ⟨session, hsession, htally⟩ := h.tally
  refine ⟨session, hsession, htally.count.ge, fun t ht ↦ ?_⟩
  obtain ⟨hlength, -⟩ := List.getElem?_eq_some_iff.mp ht
  obtain ⟨lock, hlock, hle⟩ := htally.locked hlength
  exact ⟨lock, hlock, hle t (List.mem_of_getElem? ht)⟩

/-- What a step does to the session and its tally. -/
theorem Tallied.store_step (h : Tallied id s) (hread : FindsReadCount id s i) :
    (∃ session, (secondFactorCallsStep P C call s i).store.account.sessions.lookup id = some session ∧
      session.Tally ((secondFactorCallsStep P C call s i).store.failuresOf id)
        (secondFactorCallsStep P C call s i).store.now) ∧
    LockKept id s.store (secondFactorCallsStep P C call s i).store := by
  obtain ⟨session, hsession, htally⟩ := h.tally
  have houtcome := secondFactorStep_failures P C (call i.1) i.2 s.store (s.process i.1)
  rw [secondFactorCallsStep, interleave_store]
  generalize (secondFactorStep P C (call i.1) i.2 s.store (s.process i.1)).1 = s' at houtcome ⊢
  have hlater : s.store.now ≤ s.store.now + i.2.elapsed := by simp
  cases houtcome with
  | kept hsessions hfailures hnow =>
    refine ⟨⟨session, by rw [hsessions, hsession], ?_⟩, .of_sessions_eq hsessions⟩
    rw [SecondFactorRows.failuresOf, hfailures, hnow]
    exact htally.later hlater
  | recorded context hphase hsessions hfailures hnow =>
    rw [SecondFactorRows.failuresOf, hfailures, List.filter_append, List.map_append, hnow]
    by_cases hid : context.sessionId = id
    · have hcount := hread context hphase hid session hsession
      subst hid
      have hstored := hsessions.symm ▸ (Table.lookup_update_self s.store.account.sessions
        context.sessionId _).trans (congrArg (Option.map _) hsession)
      simp only [List.filter_singleton, decide_true, cond_true, List.map_singleton]
      refine ⟨⟨_, hstored, htally.record hlater hcount⟩, fun session' lock hsession' hlock ↦ ?_⟩
      obtain rfl := Option.some.inj (hsession.symm.trans hsession')
      obtain ⟨lock', hlock', hle⟩ := htally.lock_le hlater hlock
      rw [hcount] at hlock'
      exact ⟨_, lock', hstored, hlock', hle⟩
    · have hstored : s'.account.sessions.lookup id = s.store.account.sessions.lookup id := by
        rw [hsessions, Table.lookup_update_of_ne _ _ (Ne.symm hid)]
      simp only [List.filter_singleton, hid, decide_false, cond_false, List.map_nil, List.append_nil]
      refine ⟨⟨session, hstored.trans hsession, htally.later hlater⟩, fun session' lock hsession' hlock ↦ ?_⟩
      exact ⟨session', lock, hstored.trans hsession', hlock, le_rfl⟩
  | passing hphase => exact absurd hphase (h.wrong i.1)

theorem Tallied.step (h : Tallied id s) (hwrong : WrongCode P C call s i)
    (hread : FindsReadCount id s i) : Tallied id (secondFactorCallsStep P C call s i) where
  wrong := by
    intro w
    by_cases hw : w = i.1
    · rw [hw]
      exact hwrong
    · rw [secondFactorCallsStep, interleave_process_of_ne hw]
      exact h.wrong w
  tally := (h.store_step hread).1

end

/-- In every interleaving of calls with wrong codes in which each recorded failure finds the count its
call has read, the failures of a session are counted, lock it from the fifth on, and never shorten or
remove the lock. -/
theorem failures_counted {ω : Type} [DecidableEq ω] (P : Platform) (C : SecondFactorCrypto)
    (call : ω → SecondFactorCall) (id : Uuid) (rows : SecondFactorRows) (session : StaffSession)
    (hsession : rows.account.sessions.lookup id = some session)
    (hcount : session.twoFactorAttemptCount = 0) (hlock : session.twoFactorLockedUntil = none)
    (hfailures : rows.failuresOf id = []) (moves : List (ω × SecondFactorMove))
    (hwrong : AllSteps (secondFactorCallsStep P C call) (WrongCode P C call) ⟨rows, fun _ ↦ .begin⟩
      moves)
    (hread : AllSteps (secondFactorCallsStep P C call) (FindsReadCount id) ⟨rows, fun _ ↦ .begin⟩
      moves) :
    AllStates (secondFactorCallsStep P C call) (fun s ↦ CountsFailures id s.store)
      ⟨rows, fun _ ↦ .begin⟩ moves ∧
    ∀ before after, moves = before ++ after →
      LockKept id (run (secondFactorCallsStep P C call) ⟨rows, fun _ ↦ .begin⟩ before).store
        (run (secondFactorCallsStep P C call) ⟨rows, fun _ ↦ .begin⟩ moves).store := by
  have hstart : Tallied id (⟨rows, fun _ ↦ .begin⟩ : SecondFactorCalls ω) := {
    wrong := fun _ ↦ Bool.false_ne_true
    tally := ⟨session, hsession, {
      count := by rw [hcount, hfailures]; rfl
      past := by rw [hfailures]; exact fun _ h ↦ nomatch h
      locked := by rw [hfailures]; exact fun h ↦ absurd h (by decide)
      lock := fun lock h ↦ by rw [hlock] at h; cases h }⟩ }
  have hboth := allSteps_and.mpr ⟨hwrong, hread⟩
  have hstates := allStates_of_allSteps (fun s i hs hi ↦ hs.step hi.1 hi.2) hstart hboth
  refine ⟨allStates_mono (fun s hs ↦ hs.countsFailures) hstates, ?_⟩
  rintro before after rfl
  have hkept : AllSteps (secondFactorCallsStep P C call)
      (fun s i ↦ LockKept id s.store (secondFactorCallsStep P C call s i).store) ⟨rows, fun _ ↦ .begin⟩
      (before ++ after) :=
    allSteps_mono (fun s i hs hi ↦ hs.step hi.1 hi.2) (fun s i hs hi ↦ (hs.store_step hi.2).2) hstart
      hboth
  rw [run_append]
  exact run_related_of_allSteps
    (R := fun s s' : SecondFactorCalls ω ↦ LockKept id s.store s'.store) (fun _ ↦ .refl _)
    (fun _ _ _ h h' ↦ LockKept.trans h h') (fun _ _ h ↦ h) (allSteps_append.mp hkept).2

/-! ## Two parallel calls -/

/-- Codes are never right. -/
def deafCrypto : SecondFactorCrypto where
  sealSecret _ value := value
  openSealedSecret text := .ok text
  verifyTotpCode _ _ _ := false
  hashEmailOtp otp := otp

/-- A pending session of an enrolled user. -/
def pendingRows : SecondFactorRows where
  account := {
    credential := some { totpSecretEncrypted := some "s", recoveryState := .enabled }
    sessions := AList.singleton "a" { expiresAt := 100000000 } }

/-- The second call reads the session before the first has recorded its failure. -/
def parallelGuesses : List (Bool × SecondFactorMove) :=
  [(true, {}), (false, {}), (true, {}), (false, {}), (true, {}), (false, {})]

theorem guesses_uncounted :
    ¬∀ (P : Platform) (C : SecondFactorCrypto) (call : Bool → SecondFactorCall) (id : Uuid)
      (rows : SecondFactorRows) (session : StaffSession) (moves : List (Bool × SecondFactorMove)),
      rows.account.sessions.lookup id = some session → session.twoFactorAttemptCount = 0 →
      session.twoFactorLockedUntil = none → rows.failuresOf id = [] →
      AllSteps (secondFactorCallsStep P C call) (WrongCode P C call) ⟨rows, fun _ ↦ .begin⟩ moves →
      AllStates (secondFactorCallsStep P C call) (fun s ↦ CountsFailures id s.store)
        ⟨rows, fun _ ↦ .begin⟩ moves := by
  intro h
  have hwrong : AllSteps (secondFactorCallsStep plainPlatform deafCrypto
      fun _ ↦ .verifyPendingTotp "a" "000000")
      (WrongCode plainPlatform deafCrypto fun _ ↦ .verifyPendingTotp "a" "000000")
      ⟨pendingRows, fun _ ↦ .begin⟩ parallelGuesses := by
    simp only [parallelGuesses, allSteps_cons, allSteps_nil, and_true]
    unfold WrongCode
    decide +kernel
  have hstates := h plainPlatform deafCrypto (fun _ ↦ .verifyPendingTotp "a" "000000") "a" pendingRows
    { expiresAt := 100000000 } parallelGuesses rfl rfl rfl rfl hwrong
  obtain ⟨session, hsession, hcount, -⟩ := hstates.last
  have hone : ((run (secondFactorCallsStep plainPlatform deafCrypto
      fun _ ↦ .verifyPendingTotp "a" "000000") ⟨pendingRows, fun _ ↦ .begin⟩
      parallelGuesses).store.account.sessions.lookup "a").map StaffSession.twoFactorAttemptCount =
      some 1 := by decide +kernel
  have htwo : ((run (secondFactorCallsStep plainPlatform deafCrypto
      fun _ ↦ .verifyPendingTotp "a" "000000") ⟨pendingRows, fun _ ↦ .begin⟩
      parallelGuesses).store.failuresOf "a").length = 2 := by decide +kernel
  rw [hsession, Option.map_some, Option.some.injEq] at hone
  rw [hone, htwo] at hcount
  exact absurd hcount (by decide)

/-- One call after the other is counted. -/
theorem failures_counted_sample :
    AllStates (secondFactorCallsStep plainPlatform deafCrypto fun _ : Bool ↦
        .verifyPendingTotp "a" "000000") (fun s ↦ CountsFailures "a" s.store)
      ⟨pendingRows, fun _ ↦ .begin⟩
      [(true, {}), (true, {}), (true, {}), (false, {}), (false, {}), (false, {})] := by
  refine (failures_counted plainPlatform deafCrypto (fun _ : Bool ↦ .verifyPendingTotp "a" "000000")
    "a" pendingRows { expiresAt := 100000000 } rfl rfl rfl rfl _ ?_ ?_).1
  · simp only [allSteps_cons, allSteps_nil, and_true]
    unfold WrongCode
    decide +kernel
  · simp only [allSteps_cons, allSteps_nil, and_true]
    unfold FindsReadCount
    decide +kernel

end KmtLegal
