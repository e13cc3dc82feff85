import KmtLegal.Platform
import KmtLegal.Relational.Interleaving

/-!
# The second factor of a staff account

`startTotpEnrollment`, `confirmTotpEnrollment` and `resetStaffTwoFactor`, statement by statement,
on the rows of one staff user.  Each call reads a session, then the credential, and then writes
what follows from what it has read; between two statements other calls may run.
-/

namespace KmtLegal

open Relational

/-! ## Rows -/

inductive TwoFactorRecoveryState where
  | pendingSetup | enabled | resetRequired | disabledByAdmin
  deriving DecidableEq

structure StaffTwoFactorCredential where
  totpSecretEncrypted : Option String := none
  enabledAt : Option Time := none
  lastVerifiedAt : Option Time := none
  recoveryState : TwoFactorRecoveryState := .pendingSetup
  deriving DecidableEq

inductive SessionStatus where
  | pending2fa | active | revoked | expired
  deriving DecidableEq

/-- A row of `sessions`. -/
structure StaffSession where
  status : SessionStatus := .pending2fa
  twoFactorVerifiedAt : Option Time := none
  twoFactorAttemptCount : ℕ := 0
  twoFactorLockedUntil : Option Time := none
  lastTwoFactorFailedAt : Option Time := none
  expiresAt : Time
  revokedAt : Option Time := none
  deriving DecidableEq

/-- A staff user's credential and sessions. -/
structure StaffAccount where
  credential : Option StaffTwoFactorCredential := none
  sessions : Table Uuid StaffSession := ∅

/-! ## Secrets and codes -/

/-- `secret.ts` and `totp.ts`. -/
structure TotpCrypto where
  /-- `sealSecret(value)` with the initialisation vector it draws. -/
  sealSecret : (iv value : String) → String
  /-- `openSealedSecret(text)`. -/
  openSealedSecret : String → Except Failure String
  /-- `verifyTotpCode(secret, code)` at a time. -/
  verifyTotpCode : (secret code : String) → (now : Time) → Bool

/-- The code is valid for the secret that is sealed in the text. -/
def TotpCrypto.accepts (C : TotpCrypto) (sealedText code : String) (now : Time) : Bool :=
  match C.openSealedSecret sealedText with
  | .ok secret => C.verifyTotpCode secret code now
  | .error _ => false

/-! ## Calls -/

/-- A call on the account. -/
inductive TotpCall where
  /-- `startTotpEnrollment`, with what it draws. -/
  | start (sessionId : Uuid) (setupKey iv : String)
  /-- `confirmTotpEnrollment`. -/
  | confirm (sessionId : Uuid) (code : String)
  /-- `resetStaffTwoFactor`. -/
  | reset
  deriving DecidableEq

/-- What a call reads besides the rows of the account. -/
structure TotpReading where
  now : Time
  /-- `isActiveAuthUser(user)`. -/
  userActive : Bool := true
  /-- The caller of a reset has `twoFactor.reset.staff`, and the target is staff. -/
  mayReset : Bool := true
  deriving DecidableEq

/-- What a pending session's context holds. -/
structure StaffContext where
  sessionId : Uuid
  twoFactorAttemptCount : ℕ
  deriving DecidableEq

inductive TotpAnswer where
  | started (setupKey : String) (recoveryState : TwoFactorRecoveryState)
  | confirmed
  | wasReset
  /-- `resetStaffTwoFactor` returns `null`. -/
  | refused
  deriving DecidableEq

/-- The statement a call comes to next. -/
inductive TotpPhase where
  /-- The read of the session. -/
  | begin
  /-- The read of the credential. -/
  | reading (context : StaffContext)
  /-- The upsert of a start; `wasReset`: the credential that was read is `RESET_REQUIRED`. -/
  | storing (wasReset : Bool)
  /-- The transaction of a confirmation, after a valid code for the secret that was read. -/
  | enabling (sealedText : String) (sessionId : Uuid) (now : Time)
  /-- `recordPendingTwoFactorFailure`. -/
  | failing (context : StaffContext)
  /-- The upsert of a reset. -/
  | resetting
  | done (answer : Except Failure TotpAnswer)

inductive TotpMove where
  /-- The statement runs. -/
  | proceed (reading : TotpReading)
  /-- The database or the server fails. -/
  | fails (failure : Failure)

/-! ## Statements -/

/-- `isTwoFactorSessionLocked(session)`. -/
def StaffSession.isLocked (session : StaffSession) (now : Time) : Bool :=
  session.twoFactorLockedUntil.any (now < ·)

/-- `getAuthContextFromRequest(request, { allowPendingTwoFactor: true })` finds the session. -/
def StaffSession.isOpen (session : StaffSession) (reading : TotpReading) : Bool :=
  session.revokedAt = none ∧ reading.now < session.expiresAt ∧ reading.userActive

/-- `requirePendingStaffContext(request)`, after `requireTotpMode()`. -/
def requirePendingStaffContext (P : Platform) (s : StaffAccount) (sessionId : Uuid)
    (reading : TotpReading) : Except Failure StaffContext := do
  throwIf (P.env "STAFF_2FA_MODE" ≠ "totp") (.of 503 .featureDisabled "TOTP is not enabled.")
  let session ← orThrow ((s.sessions.lookup sessionId).filter fun session ↦
      session.isOpen reading ∧ session.status = .pending2fa)
    (.of 401 .unauthenticated "A pending two-factor session is required.")
  throwIf (session.isLocked reading.now)
    (.of 401 .twoFactorExpired "The verification session is locked. Sign in again.")
  return { sessionId, twoFactorAttemptCount := session.twoFactorAttemptCount }

/-- Whether an enrollment may start, and whether it starts over. -/
def assertEnrollable (credential : Option StaffTwoFactorCredential) : Except Failure Bool :=
  match credential.map StaffTwoFactorCredential.recoveryState with
  | some .enabled => .error (.conflict
      "A TOTP factor is already enrolled. Ask a Super Admin to reset it before re-enrolling.")
  | some .disabledByAdmin =>
    .error (.permissionDenied "Two-factor enrollment is disabled for this account.")
  | some .resetRequired => .ok true
  | some .pendingSetup | none => .ok false

/-- `nextState`. -/
def nextRecoveryState (wasReset : Bool) : TwoFactorRecoveryState :=
  if wasReset then .resetRequired else .pendingSetup

/-- The secret a confirmation is about. -/
def pendingSecret (credential : Option StaffTwoFactorCredential) : Except Failure String :=
  orThrow ((credential.filter fun c ↦ c.recoveryState ∈ [.pendingSetup, .resetRequired]).bind
      fun c ↦ c.totpSecretEncrypted.filter (· ≠ ""))
    (.conflict "No pending enrollment exists. Start enrollment first.")

/-- The upsert of a start: a stored credential loses its secret. -/
def StaffAccount.store (s : StaffAccount) (sealedText : String) (wasReset : Bool) : StaffAccount :=
  { s with
    credential := some
      { totpSecretEncrypted := some sealedText
        recoveryState := nextRecoveryState wasReset } }

/-- The transaction of a confirmation: the credential and the session by their ids. -/
def StaffAccount.enable (s : StaffAccount) (sessionId : Uuid) (now : Time) :
    Except Failure StaffAccount := do
  let credential ← orThrow s.credential .recordNotFound
  throwIf (s.sessions.lookup sessionId = none) .recordNotFound
  return {
    credential := some { credential with
      recoveryState := .enabled
      enabledAt := some now
      lastVerifiedAt := some now }
    sessions := s.sessions.update sessionId fun session ↦
      { session with
        status := .active
        twoFactorVerifiedAt := some now
        twoFactorAttemptCount := 0
        twoFactorLockedUntil := none
        lastTwoFactorFailedAt := none } }

/-- `twoFactorLockedUntilForAttempt(attemptCount, now)`. -/
def twoFactorLockedUntilForAttempt (attemptCount : ℕ) (now : Time) : Option Time :=
  if 5 ≤ attemptCount then some (now + 600000) else none

/-- `recordPendingTwoFactorFailure`: the count is the one that was read, plus one. -/
def StaffAccount.recordFailure (s : StaffAccount) (context : StaffContext) (now : Time) :
    StaffAccount :=
  { s with
    sessions := s.sessions.update context.sessionId fun session ↦
      { session with
        twoFactorAttemptCount := context.twoFactorAttemptCount + 1
        twoFactorLockedUntil :=
          twoFactorLockedUntilForAttempt (context.twoFactorAttemptCount + 1) now
        lastTwoFactorFailedAt := some now } }

/-- The upsert of a reset. -/
def StaffAccount.reset (s : StaffAccount) : StaffAccount :=
  { s with credential := some { recoveryState := .resetRequired } }

/-! ## The course of a call -/

/-- The first statement. -/
def TotpCall.enter (P : Platform) (call : TotpCall) (s : StaffAccount) (reading : TotpReading) :
    TotpPhase :=
  match call with
  | start sessionId _ _ | confirm sessionId _ =>
    match requirePendingStaffContext P s sessionId reading with
    | .ok context => .reading context
    | .error e => .done (.error e)
  | reset => if reading.mayReset then .resetting else .done (.ok .refused)

/-- The read of the credential, and what is computed from it. -/
def TotpCall.read (C : TotpCrypto) (call : TotpCall) (credential : Option StaffTwoFactorCredential)
    (context : StaffContext) (now : Time) : TotpPhase :=
  match call with
  | start _ _ _ =>
    match assertEnrollable credential with
    | .ok wasReset => .storing wasReset
    | .error e => .done (.error e)
  | confirm _ code =>
    match pendingSecret credential with
    | .ok sealedText =>
      match C.openSealedSecret sealedText with
      | .error e => .done (.error e)
      | .ok secret =>
        if C.verifyTotpCode secret code now then .enabling sealedText context.sessionId now
        else .failing context
    | .error e => .done (.error e)
  | reset => .done (.ok .refused)

/-- What a start stores. -/
def TotpCall.sealed (C : TotpCrypto) : TotpCall → Option String
  | start _ setupKey iv => some (C.sealSecret iv setupKey)
  | confirm _ _ | reset => none

/-- One statement of a call. -/
def totpStep (P : Platform) (C : TotpCrypto) (call : TotpCall) (move : TotpMove)
    (s : StaffAccount) (phase : TotpPhase) : StaffAccount × TotpPhase :=
  match move, phase with
  | _, .done answer => (s, .done answer)
  | .fails failure, _ => (s, .done (.error failure))
  | .proceed reading, .begin => (s, call.enter P s reading)
  | .proceed reading, .reading context => (s, call.read C s.credential context reading.now)
  | .proceed _, .storing wasReset =>
    match call with
    | .start _ setupKey iv =>
      (s.store (C.sealSecret iv setupKey) wasReset,
        .done (.ok (.started setupKey (nextRecoveryState wasReset))))
    | .confirm _ _ | .reset => (s, .done (.ok .refused))
  | .proceed _, .enabling _ sessionId now =>
    match s.enable sessionId now with
    | .ok s => (s, .done (.ok .confirmed))
    | .error e => (s, .done (.error e))
  | .proceed reading, .failing context =>
    (s.recordFailure context reading.now, .done (.error
      (.of 401 .twoFactorInvalid "The verification code is incorrect.")))
  | .proceed _, .resetting =>
    match call with
    | .reset => (s.reset, .done (.ok .wasReset))
    | .start _ _ _ | .confirm _ _ => (s, .done (.ok .refused))

/-- Any number of calls on one account. -/
abbrev TotpCalls (ω : Type) := Processes ω StaffAccount TotpPhase

/-- One call makes a step. -/
def totpCallsStep {ω : Type} [DecidableEq ω] (P : Platform) (C : TotpCrypto) (call : ω → TotpCall)
    (s : TotpCalls ω) (i : ω × TotpMove) : TotpCalls ω :=
  interleave (fun w ↦ totpStep P C (call w)) s i

end KmtLegal
