import KmtLegal.Auth.TotpEnrollment

/-!
# Verifying the second factor

`verifyPendingTotp`, `verifyEmailOtpForPendingSession`, `sendEmailOtpForPendingSession` and
`confirmTotpEnrollment`, statement by statement, on the rows of one staff user.  A call reads its session
first; what it writes at the end is computed from what it has read.
-/

namespace KmtLegal

open Relational

/-! ## Rows -/

/-- A row of `email_otp_challenges` with the purpose `STAFF_2FA`. -/
structure EmailOtpChallenge where
  otpHash : String
  expiresAt : Time
  createdAt : Time
  consumedAt : Option Time := none
  attemptCount : ℕ := 0

/-- The rows of a staff user. -/
structure SecondFactorRows where
  account : StaffAccount := {}
  challenges : Table Uuid EmailOtpChallenge := ∅
  /-- The audit rows of the recorded failures: the session and the time. -/
  failures : List (Uuid × Time) := []
  now : Time := 0

/-- `secret.ts`, `totp.ts`, and the hash of a one-time code. -/
structure SecondFactorCrypto extends TotpCrypto where
  /-- `hashEmailOtp({ otp, userId, purpose })`. -/
  hashEmailOtp : String → String

/-! ## Calls -/

inductive SecondFactorCall where
  | verifyPendingTotp (sessionId : Uuid) (code : String)
  | verifyEmailOtp (sessionId : Uuid) (otp : String)
  /-- `sendEmailOtpForPendingSession`, with the id and the code it draws. -/
  | sendEmailOtp (sessionId challengeId : Uuid) (otp : String)
  | confirmTotpEnrollment (sessionId : Uuid) (code : String)

/-- What passes before a statement runs. -/
structure SecondFactorMove where
  /-- Milliseconds since the last statement of any call. -/
  elapsed : ℕ := 0
  /-- `isActiveAuthUser(user)`. -/
  userActive : Bool := true

/-- What a call keeps of the context it has read. -/
structure PendingContext where
  sessionId : Uuid
  twoFactorAttemptCount : ℕ
  /-- `user.twoFactorCredential`. -/
  credential : Option StaffTwoFactorCredential

inductive SecondFactorAnswer where
  | verified
  | sent
  /-- `null`. -/
  | refused
  deriving DecidableEq

/-- The statement a call comes to next. -/
inductive SecondFactorPhase where
  /-- The read of the session. -/
  | begin
  /-- The check of a code, the read of a challenge or the credential, or the insert of a challenge. -/
  | entered (context : PendingContext)
  /-- The comparison of a code with the hash of the challenge that was read. -/
  | comparing (context : PendingContext) (challengeId : Uuid) (otpHash : String)
  /-- The update of a challenge after a wrong code. -/
  | counting (context : PendingContext) (challengeId : Uuid)
  /-- The transaction after a right code. -/
  | consuming (context : PendingContext) (challengeId : Uuid)
  /-- The transaction of `verifyPendingTotp`. -/
  | activating (context : PendingContext)
  /-- The transaction of `confirmTotpEnrollment`. -/
  | enabling (context : PendingContext)
  /-- `recordTwoFactorFailureOperation`. -/
  | failing (context : PendingContext)
  | done (answer : Except Failure SecondFactorAnswer)

namespace SecondFactorCall

def sessionId : SecondFactorCall → Uuid
  | verifyPendingTotp sessionId _ | verifyEmailOtp sessionId _ | sendEmailOtp sessionId _ _
  | confirmTotpEnrollment sessionId _ => sessionId

/-- `requireTotpMode()`, which only the enrollment calls. -/
def requireTotpMode (P : Platform) : SecondFactorCall → Except Failure Unit
  | verifyPendingTotp _ _ | verifyEmailOtp _ _ | sendEmailOtp _ _ _ => .ok ()
  | confirmTotpEnrollment _ _ => throwIf (P.env "STAFF_2FA_MODE" ≠ "totp")
      (.of 503 .featureDisabled "TOTP is not enabled.")

/-- What a call answers that has no usable session, or a wrong code. -/
def refusal (call : SecondFactorCall) (error : Failure) : Except Failure SecondFactorAnswer :=
  match call with
  | verifyPendingTotp _ _ | verifyEmailOtp _ _ | sendEmailOtp _ _ _ => .ok .refused
  | confirmTotpEnrollment _ _ => .error error

end SecondFactorCall

/-! ## Statements -/

namespace SecondFactorRows

/-- The context of a pending session that is not locked. -/
def pendingContext (s : SecondFactorRows) (sessionId : Uuid) (userActive : Bool) :
    Except Failure PendingContext := do
  let session ← orThrow ((s.account.sessions.lookup sessionId).filter fun session ↦
      session.isOpen { now := s.now, userActive } ∧ session.status = .pending2fa)
    (.of 401 .unauthenticated "A pending two-factor session is required.")
  throwIf (session.isLocked s.now)
    (.of 401 .twoFactorExpired "The verification session is locked. Sign in again.")
  return {
    sessionId
    twoFactorAttemptCount := session.twoFactorAttemptCount
    credential := s.account.credential }

/-- The challenge a code is for: the latest one that is neither consumed nor expired. -/
def latestChallenge (s : SecondFactorRows) : Option (Uuid × EmailOtpChallenge) :=
  (s.challenges.findMany (fun _ challenge ↦ challenge.consumedAt = none ∧ s.now < challenge.expiresAt)
    (fun e e' ↦ e'.2.createdAt ≤ e.2.createdAt) 1).head?

/-- `emailOtpChallenge.create`. -/
def createChallenge (s : SecondFactorRows) (challengeId : Uuid) (otpHash : String) :
    Except Failure SecondFactorRows := do
  let challenges ← orThrow
    (s.challenges.create challengeId { otpHash, expiresAt := s.now + 600000, createdAt := s.now })
    .uniqueConstraint
  return { s with challenges }

/-- `attemptCount: { increment: 1 }`. -/
def countAttempt (s : SecondFactorRows) (challengeId : Uuid) : SecondFactorRows :=
  { s with
    challenges := s.challenges.update challengeId fun challenge ↦
      { challenge with attemptCount := challenge.attemptCount + 1 } }

/-- The update of a session that has passed the second factor. -/
def activate (s : SecondFactorRows) (sessionId : Uuid) : Except Failure SecondFactorRows := do
  throwIf (s.account.sessions.lookup sessionId = none) .recordNotFound
  return { s with
    account := { s.account with
      sessions := s.account.sessions.update sessionId fun session ↦
        { session with
          status := .active
          twoFactorVerifiedAt := some s.now
          twoFactorAttemptCount := 0
          twoFactorLockedUntil := none
          lastTwoFactorFailedAt := none } } }

/-- The transaction after a right code: the challenge by its id, and the session. -/
def consume (s : SecondFactorRows) (challengeId sessionId : Uuid) :
    Except Failure SecondFactorRows := do
  throwIf (s.challenges.lookup challengeId = none) .recordNotFound
  activate { s with
    challenges := s.challenges.update challengeId fun challenge ↦
      { challenge with
        consumedAt := some s.now
        attemptCount := challenge.attemptCount + 1 } } sessionId

/-- The transaction of `verifyPendingTotp`. -/
def activateTotp (s : SecondFactorRows) (sessionId : Uuid) : Except Failure SecondFactorRows := do
  let s ← s.activate sessionId
  let credential ← orThrow s.account.credential .recordNotFound
  return { s with
    account := { s.account with
      credential := some { credential with lastVerifiedAt := some s.now } } }

/-- The transaction of `confirmTotpEnrollment`. -/
def enable (s : SecondFactorRows) (sessionId : Uuid) : Except Failure SecondFactorRows := do
  return { s with account := ← s.account.enable sessionId s.now }

/-- The transaction of `recordTwoFactorFailureOperation`: the session and the audit row. -/
def recordFailure (s : SecondFactorRows) (context : PendingContext) :
    Except Failure SecondFactorRows := do
  throwIf (s.account.sessions.lookup context.sessionId = none) .recordNotFound
  return { s with
    account := s.account.recordFailure ⟨context.sessionId, context.twoFactorAttemptCount⟩ s.now
    failures := s.failures ++ [(context.sessionId, s.now)] }

end SecondFactorRows

/-! ## The course of a call -/

/-- The check of a code against a sealed secret. -/
def checkTotpCode (C : SecondFactorCrypto) (sealedText code : String) (now : Time)
    (right wrong : SecondFactorPhase) : SecondFactorPhase :=
  match C.openSealedSecret sealedText with
  | .error e => .done (.error e)
  | .ok secret => if C.verifyTotpCode secret code now then right else wrong

/-- `!challenge || challenge.attemptCount >= EMAIL_OTP_MAX_ATTEMPTS`. -/
def usableChallenge (found : Option (Uuid × EmailOtpChallenge)) : Option (Uuid × EmailOtpChallenge) :=
  found.filter fun e ↦ e.2.attemptCount < 5

/-- The second statement of a call. -/
def SecondFactorCall.check (C : SecondFactorCrypto) (call : SecondFactorCall) (s : SecondFactorRows)
    (context : PendingContext) : SecondFactorRows × SecondFactorPhase :=
  match call with
  | verifyPendingTotp _ code =>
    match (context.credential.filter fun c ↦ c.recoveryState = .enabled).bind
        fun c ↦ c.totpSecretEncrypted.filter (· ≠ "") with
    | none => (s, .failing context)
    | some sealedText =>
      (s, checkTotpCode C sealedText code s.now (.activating context) (.failing context))
  | verifyEmailOtp _ _ =>
    match usableChallenge s.latestChallenge with
    | none => (s, .failing context)
    | some (challengeId, challenge) => (s, .comparing context challengeId challenge.otpHash)
  | sendEmailOtp _ challengeId otp =>
    match s.createChallenge challengeId (C.hashEmailOtp otp) with
    | .ok s => (s, .done (.ok .sent))
    | .error e => (s, .done (.error e))
  | confirmTotpEnrollment _ code =>
    match pendingSecret s.account.credential with
    | .error e => (s, .done (.error e))
    | .ok sealedText =>
      (s, checkTotpCode C sealedText code s.now (.enabling context) (.failing context))

/-- `verifyEmailOtpHash({ otp, userId, purpose, otpHash })`. -/
def SecondFactorCall.matchesHash (C : SecondFactorCrypto) (otpHash : String) :
    SecondFactorCall → Bool
  | verifyEmailOtp _ otp => C.hashEmailOtp otp = otpHash
  | verifyPendingTotp _ _ | sendEmailOtp _ _ _ | confirmTotpEnrollment _ _ => false

/-- A transaction runs, or fails and leaves the rows alone. -/
def transact (s : SecondFactorRows) (result : Except Failure SecondFactorRows)
    (answer : Except Failure SecondFactorAnswer) : SecondFactorRows × SecondFactorPhase :=
  match result with
  | .ok s' => (s', .done answer)
  | .error e => (s, .done (.error e))

/-- One statement of a call. -/
def secondFactorStep (P : Platform) (C : SecondFactorCrypto) (call : SecondFactorCall)
    (move : SecondFactorMove) (s : SecondFactorRows) (phase : SecondFactorPhase) :
    SecondFactorRows × SecondFactorPhase :=
  let s := { s with now := s.now + move.elapsed }
  match phase with
  | .begin =>
    match call.requireTotpMode P, s.pendingContext call.sessionId move.userActive with
    | .error e, _ => (s, .done (.error e))
    | .ok _, .ok context => (s, .entered context)
    | .ok _, .error e => (s, .done (call.refusal e))
  | .entered context => call.check C s context
  | .comparing context challengeId otpHash =>
    (s, if call.matchesHash C otpHash then .consuming context challengeId
      else .counting context challengeId)
  | .counting context challengeId => (s.countAttempt challengeId, .failing context)
  | .consuming context challengeId =>
    transact s (s.consume challengeId context.sessionId) (.ok .verified)
  | .activating context => transact s (s.activateTotp context.sessionId) (.ok .verified)
  | .enabling context => transact s (s.enable context.sessionId) (.ok .verified)
  | .failing context =>
    transact s (s.recordFailure context) (call.refusal
      (.of 401 .twoFactorInvalid "The verification code is incorrect."))
  | .done answer => (s, .done answer)

/-- Any number of calls of one user. -/
abbrev SecondFactorCalls (ω : Type) := Processes ω SecondFactorRows SecondFactorPhase

/-- One call makes a step. -/
def secondFactorCallsStep {ω : Type} [DecidableEq ω] (P : Platform) (C : SecondFactorCrypto)
    (call : ω → SecondFactorCall) (s : SecondFactorCalls ω) (i : ω × SecondFactorMove) :
    SecondFactorCalls ω :=
  interleave (fun w ↦ secondFactorStep P C (call w)) s i

end KmtLegal
