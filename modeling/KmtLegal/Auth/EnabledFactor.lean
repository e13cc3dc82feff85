import KmtLegal.Relational.Run
import KmtLegal.Auth.TotpEnrollment

/-!
# Who enabled the second factor

A secret is stored by one call only, so that a secret that was stored and is gone does not come
back.  That is what a confirmation can rely on between its read and its write: if the secret it has
read is still there, it has been there all the time, and the code it has verified is a code for it.

The two writes do not ask.  The condition on the steps says what they would have to ask for.
-/

namespace KmtLegal

open Relational

/-! ## The credential -/

namespace StaffAccount

variable (s : StaffAccount)

def storedSecret : Option String := s.credential.bind StaffTwoFactorCredential.totpSecretEncrypted

def recoveryState : Option TwoFactorRecoveryState :=
  s.credential.map StaffTwoFactorCredential.recoveryState

def IsEnabled : Prop := s.recoveryState = some .enabled

instance : Decidable s.IsEnabled := inferInstanceAs (Decidable (_ = _))

end StaffAccount

/-! ## Phases -/

namespace TotpPhase

def isDone : TotpPhase → Bool
  | done _ => true
  | _ => false

def isStoring : TotpPhase → Bool
  | storing _ => true
  | _ => false

/-- The sealed secret for which the call has verified a code. -/
def verified : TotpPhase → Option String
  | enabling sealedText _ _ => some sealedText
  | _ => none

end TotpPhase

/-- The next statement runs. -/
def TotpMove.runs : TotpMove → Bool
  | proceed _ => true
  | fails _ => false

/-! ## What a step does -/

/-- What a step does to the credential. -/
inductive TotpOutcome (C : TotpCrypto) (call : TotpCall) (move : TotpMove) (s : StaffAccount)
    (phase : TotpPhase) (s' : StaffAccount) (phase' : TotpPhase) : Prop
  | quiet (hcredential : s'.credential = s.credential) (hdone : phase.isDone → phase'.isDone)
      (hverified : phase'.verified = none)
  | verified (sessionId : Uuid) (code : String) (context : StaffContext) (reading : TotpReading)
      (sealedText : String) (hcall : call = .confirm sessionId code)
      (hphase : phase = .reading context) (hmove : move = .proceed reading)
      (hsecret : s.storedSecret = some sealedText)
      (haccepts : C.accepts sealedText code reading.now) (hstore : s' = s)
      (hphase' : phase'.verified = some sealedText)
  | stored (sealedText : String) (hphase : phase.isStoring) (hmove : move.runs)
      (hcall : call.sealed C = some sealedText) (hsecret : s'.storedSecret = some sealedText)
      (hstate : ¬s'.IsEnabled) (hphase' : phase'.isDone)
  | enabled (sealedText : String) (hphase : phase.verified = some sealedText) (hmove : move.runs)
      (hsecret : s'.storedSecret = s.storedSecret) (hstate : s'.IsEnabled)
      (hphase' : phase'.isDone)
  | wasReset (hcall : call = .reset) (hsecret : s'.storedSecret = none)
      (hstate : ¬s'.IsEnabled) (hphase' : phase'.isDone)

section

variable {P : Platform} {C : TotpCrypto} {call : TotpCall} {s : StaffAccount}

theorem enter_verified (reading : TotpReading) : (call.enter P s reading).verified = none := by
  cases call with
  | start _ _ _ | confirm _ _ =>
    unfold TotpCall.enter
    simp only
    split <;> rfl
  | reset =>
    unfold TotpCall.enter
    simp only
    split_ifs <;> rfl

theorem pendingSecret_eq_ok {credential : Option StaffTwoFactorCredential} {sealedText : String}
    (h : pendingSecret credential = .ok sealedText) :
    credential.bind StaffTwoFactorCredential.totpSecretEncrypted = some sealedText := by
  obtain ⟨c, hc, hsecret⟩ := Option.bind_eq_some_iff.mp (orThrow_eq_ok.mp h)
  rw [(Option.filter_eq_some_iff.mp hc).1, Option.bind_some]
  exact (Option.filter_eq_some_iff.mp hsecret).1

/-- The read of the credential. -/
theorem read_outcome (context : StaffContext) (reading : TotpReading) :
    TotpOutcome C call (.proceed reading) s (.reading context) s
      (call.read C s.credential context reading.now) := by
  cases call with
  | start _ _ _ =>
    refine .quiet rfl nofun ?_
    unfold TotpCall.read
    simp only
    split <;> rfl
  | confirm sessionId code =>
    unfold TotpCall.read
    simp only
    cases hsecret : pendingSecret s.credential with
    | error e => exact .quiet rfl nofun rfl
    | ok sealedText =>
      simp only
      cases hopen : C.openSealedSecret sealedText with
      | error e => exact .quiet rfl nofun rfl
      | ok secret =>
        simp only
        split_ifs with hcode
        · refine .verified sessionId code context reading sealedText rfl rfl rfl
            (pendingSecret_eq_ok hsecret) ?_ rfl rfl
          unfold TotpCrypto.accepts
          rw [hopen]
          exact hcode
        · exact .quiet rfl nofun rfl
  | reset => exact .quiet rfl nofun rfl

/-- The transaction of a confirmation. -/
theorem enable_eq_ok {s' : StaffAccount} {sessionId : Uuid} {now : Time}
    (h : s.enable sessionId now = .ok s') :
    s'.storedSecret = s.storedSecret ∧ s'.IsEnabled := by
  simp only [StaffAccount.enable, bind_eq_ok, orThrow_eq_ok, throwIf_eq_ok, pure_eq_ok] at h
  obtain ⟨c, hc, _, -, rfl⟩ := h
  refine ⟨?_, rfl⟩
  unfold StaffAccount.storedSecret
  rw [hc]
  rfl

/-- Every step has one of the outcomes. -/
theorem totpStep_outcome (P : Platform) (C : TotpCrypto) (call : TotpCall) (move : TotpMove)
    (s : StaffAccount) (phase : TotpPhase) :
    TotpOutcome C call move s phase (totpStep P C call move s phase).1
      (totpStep P C call move s phase).2 := by
  cases move with
  | fails failure => cases phase <;> exact .quiet rfl (fun _ ↦ rfl) rfl
  | proceed reading =>
    cases phase with
    | begin => exact .quiet rfl nofun (enter_verified reading)
    | reading context => exact read_outcome context reading
    | storing wasReset =>
      cases call with
      | start _ setupKey iv =>
        refine .stored (C.sealSecret iv setupKey) rfl rfl rfl rfl ?_ rfl
        cases wasReset <;> nofun
      | confirm _ _ | reset => exact .quiet rfl nofun rfl
    | enabling sealedText sessionId now =>
      unfold totpStep
      simp only
      split
      · rename_i s' h
        exact .enabled sealedText rfl rfl (enable_eq_ok h).1 (enable_eq_ok h).2 rfl
      · exact .quiet rfl nofun rfl
    | failing context => exact .quiet rfl nofun rfl
    | resetting =>
      cases call with
      | start _ _ _ | confirm _ _ => exact .quiet rfl nofun rfl
      | reset => exact .wasReset rfl rfl nofun rfl
    | done answer => exact .quiet rfl (fun _ ↦ rfl) rfl

end

namespace TotpOutcome

variable {C : TotpCrypto} {call : TotpCall} {move : TotpMove} {s s' : StaffAccount}
  {phase phase' : TotpPhase} {x : String}

/-- A call that is done stays done. -/
theorem done (h : TotpOutcome C call move s phase s' phase') (hphase : phase.isDone) :
    phase'.isDone := by
  cases h with
  | quiet _ hdone => exact hdone hphase
  | verified _ _ _ _ _ _ hreading =>
    rw [hreading] at hphase
    cases hphase
  | stored _ _ _ _ _ _ hphase' => exact hphase'
  | enabled _ _ _ _ _ hphase' => exact hphase'
  | wasReset _ _ _ hphase' => exact hphase'

/-- A secret that is stored was stored before, or is the one the call stores. -/
theorem secret (h : TotpOutcome C call move s phase s' phase') (hx : s'.storedSecret = some x) :
    s.storedSecret = some x ∨
      (phase.isStoring ∧ call.sealed C = some x ∧ phase'.isDone) := by
  cases h with
  | quiet hcredential =>
    unfold StaffAccount.storedSecret at hx
    rw [hcredential] at hx
    exact .inl hx
  | verified _ _ _ _ _ _ _ _ _ _ hstore =>
    rw [hstore] at hx
    exact .inl hx
  | stored y hphase _ hcall hsecret _ hphase' =>
    rw [hsecret] at hx
    exact .inr ⟨hphase, hcall.trans hx, hphase'⟩
  | enabled _ _ _ hsecret =>
    rw [hsecret] at hx
    exact .inl hx
  | wasReset _ hsecret =>
    rw [hsecret] at hx
    cases hx

/-- A credential that is enabled was enabled before, or is enabled by a confirmation. -/
theorem isEnabled (h : TotpOutcome C call move s phase s' phase') (henabled : s'.IsEnabled) :
    s'.storedSecret = s.storedSecret ∧
      (s.IsEnabled ∨ ∃ x ∈ phase.verified, move.runs) := by
  cases h with
  | quiet hcredential =>
    unfold StaffAccount.storedSecret
    unfold StaffAccount.IsEnabled StaffAccount.recoveryState at henabled ⊢
    rw [hcredential] at henabled ⊢
    exact ⟨rfl, .inl henabled⟩
  | verified _ _ _ _ _ _ _ _ _ _ hstore =>
    rw [hstore] at henabled ⊢
    exact ⟨rfl, .inl henabled⟩
  | stored _ _ _ _ _ hstate => exact absurd henabled hstate
  | enabled x hphase hmove hsecret => exact ⟨hsecret, .inr ⟨x, hphase, hmove⟩⟩
  | wasReset _ _ hstate => exact absurd henabled hstate

theorem verified_of_isDone (h : phase.isDone) : phase.verified = none := by
  cases phase with
  | done _ => rfl
  | _ => cases h

/-- What a call knows that is about to enable the credential. -/
theorem verified_eq_some (h : TotpOutcome C call move s phase s' phase')
    (hx : phase'.verified = some x) :
    s' = s ∧ ∃ sessionId code context reading, call = .confirm sessionId code ∧
      phase = .reading context ∧ move = .proceed reading ∧ s.storedSecret = some x ∧
      C.accepts x code reading.now := by
  cases h with
  | quiet _ _ hverified =>
    rw [hverified] at hx
    cases hx
  | verified sessionId code context reading y hcall hphase hmove hsecret haccepts hstore hphase' =>
    rw [hphase'] at hx
    obtain rfl := Option.some.inj hx
    exact ⟨hstore, sessionId, code, context, reading, hcall, hphase, hmove, hsecret, haccepts⟩
  | stored _ _ _ _ _ _ hphase' =>
    rw [verified_of_isDone hphase'] at hx
    cases hx
  | enabled _ _ _ _ _ hphase' =>
    rw [verified_of_isDone hphase'] at hx
    cases hx
  | wasReset _ _ _ hphase' =>
    rw [verified_of_isDone hphase'] at hx
    cases hx

end TotpOutcome

/-! ## Runs -/

section

variable {ω : Type} [DecidableEq ω] (P : Platform) (C : TotpCrypto) (call : ω → TotpCall)

/-- A step at which a call verifies a code for the secret it has just read. -/
def VerifiesCode (s : TotpCalls ω) (i : ω × TotpMove) (sealedText : String) : Prop :=
  ∃ sessionId code context reading, call i.1 = .confirm sessionId code ∧
    s.process i.1 = .reading context ∧ i.2 = .proceed reading ∧
    s.store.storedSecret = some sealedText ∧ C.accepts sealedText code reading.now

/-- Some call has verified a code for the secret, which has been stored since then. -/
def ProvedSince (s : TotpCalls ω) (l : List (ω × TotpMove)) (sealedText : String) : Prop :=
  ∃ l₁ i l₂, l = l₁ ++ i :: l₂ ∧ VerifiesCode C call (run (totpCallsStep P C call) s l₁) i sealedText ∧
    AllStates (totpCallsStep P C call) (fun s ↦ s.store.storedSecret = some sealedText)
      (run (totpCallsStep P C call) s l₁) (i :: l₂)

/-- An enabled credential has a secret that was proved. -/
def EnabledProved (s : TotpCalls ω) (l : List (ω × TotpMove)) : Prop :=
  (run (totpCallsStep P C call) s l).store.IsEnabled →
    ∃ sealedText, (run (totpCallsStep P C call) s l).store.storedSecret = some sealedText ∧
      ProvedSince P C call s l sealedText

/-- Only a reset takes an enabled credential away, or its secret. -/
def OnlyReset (s : TotpCalls ω) (i : ω × TotpMove) : Prop :=
  call i.1 ≠ .reset → s.store.IsEnabled →
    (totpCallsStep P C call s i).store.IsEnabled ∧
      (totpCallsStep P C call s i).store.storedSecret = s.store.storedSecret

/-- A write that still finds what its call has read. -/
structure GuardedWrite (s : TotpCalls ω) (i : ω × TotpMove) : Prop where
  /-- A start finds no enabled credential. -/
  start : (s.process i.1).isStoring → i.2.runs → ¬s.store.IsEnabled
  /-- A confirmation finds the secret it has verified, or the credential enabled already. -/
  confirm : ∀ sealedText ∈ (s.process i.1).verified, i.2.runs →
    s.store.IsEnabled ∨ s.store.storedSecret = some sealedText

instance (s : TotpCalls ω) (i : ω × TotpMove) : Decidable (GuardedWrite s i) :=
  decidable_of_iff (((s.process i.1).isStoring → i.2.runs → ¬s.store.IsEnabled) ∧
      ∀ sealedText ∈ (s.process i.1).verified, i.2.runs →
        s.store.IsEnabled ∨ s.store.storedSecret = some sealedText)
    ⟨fun h ↦ ⟨h.1, h.2⟩, fun h ↦ ⟨h.start, h.confirm⟩⟩

/-- No call is still going to store the secret. -/
def Spent (s : TotpCalls ω) (sealedText : String) : Prop :=
  ∀ w, (call w).sealed C = some sealedText → (s.process w).isDone

/-- What holds after the steps `l`. -/
structure Accounted (s : TotpCalls ω) (l : List (ω × TotpMove)) : Prop where
  stored : ∀ x, (run (totpCallsStep P C call) s l).store.storedSecret = some x →
    Spent C call (run (totpCallsStep P C call) s l) x
  verified : ∀ w, ∀ x ∈ ((run (totpCallsStep P C call) s l).process w).verified,
    Spent C call (run (totpCallsStep P C call) s l) x ∧
      ((run (totpCallsStep P C call) s l).store.storedSecret = some x → ProvedSince P C call s l x)
  enabled : EnabledProved P C call s l

variable {P C call} {s : TotpCalls ω} {i : ω × TotpMove} {l : List (ω × TotpMove)} {x : String}

theorem totpCallsStep_outcome (P : Platform) (C : TotpCrypto) (call : ω → TotpCall)
    (s : TotpCalls ω) (i : ω × TotpMove) :
    TotpOutcome C (call i.1) i.2 s.store (s.process i.1) (totpCallsStep P C call s i).store
      ((totpCallsStep P C call s i).process i.1) := by
  unfold totpCallsStep
  rw [interleave_store, interleave_process_self]
  exact totpStep_outcome P C (call i.1) i.2 s.store (s.process i.1)

theorem Spent.step (h : Spent C call s x) : Spent C call (totpCallsStep P C call s i) x := by
  intro w hw
  by_cases hwi : w = i.1
  · rw [hwi]
    exact (totpCallsStep_outcome P C call s i).done (hwi ▸ h w hw)
  · unfold totpCallsStep
    rw [interleave_process_of_ne hwi]
    exact h w hw

/-- A secret that is still stored was proved after the step as it was before. -/
theorem ProvedSince.concat (h : ProvedSince P C call s l x)
    (hx : (run (totpCallsStep P C call) s (l ++ [i])).store.storedSecret = some x) :
    ProvedSince P C call s (l ++ [i]) x := by
  obtain ⟨l₁, j, l₂, rfl, hverifies, hstored⟩ := h
  rw [run_concat, run_append] at hx
  exact ⟨l₁, j, l₂ ++ [i], by simp, hverifies, allStates_concat.mpr ⟨hstored, hx⟩⟩

/-- Every secret is drawn once. -/
def DistinctSecrets (C : TotpCrypto) (call : ω → TotpCall) : Prop :=
  ∀ w w' x, (call w).sealed C = some x → (call w').sealed C = some x → w = w'

theorem Accounted.concat (hdistinct : DistinctSecrets C call) (h : Accounted P C call s l)
    (hguarded : GuardedWrite (run (totpCallsStep P C call) s l) i) :
    Accounted P C call s (l ++ [i]) := by
  have houtcome := totpCallsStep_outcome P C call (run (totpCallsStep P C call) s l) i
  rw [← run_concat (totpCallsStep P C call)] at houtcome
  constructor
  · intro x hx
    rcases houtcome.secret hx with hstored | ⟨-, hsealed, hdone⟩
    · rw [run_concat]
      exact (h.stored x hstored).step
    · intro w hw
      rw [hdistinct w i.1 x hw hsealed]
      exact hdone
  · intro w x hx
    by_cases hw : w = i.1
    · subst hw
      obtain ⟨hstore, sessionId, code, context, reading, hcall, hphase, hmove, hsecret, haccepts⟩ :=
        houtcome.verified_eq_some hx
      refine ⟨?_, fun hx' ↦ ⟨l, i, [], rfl, ?_, ?_⟩⟩
      · rw [run_concat]
        exact (h.stored x hsecret).step
      · exact ⟨sessionId, code, context, reading, hcall, hphase, hmove, hsecret, haccepts⟩
      · rw [run_concat] at hx'
        exact ⟨hsecret, hx'⟩
    · rw [run_concat] at hx
      unfold totpCallsStep at hx
      rw [interleave_process_of_ne hw] at hx
      obtain ⟨hspent, hproved⟩ := h.verified w x hx
      refine ⟨?_, fun hx' ↦ ?_⟩
      · rw [run_concat]
        exact hspent.step
      · rcases houtcome.secret hx' with hstored | ⟨hstoring, hsealed, -⟩
        · exact (hproved hstored).concat hx'
        · -- the secret of a start that has not stored it yet
          have hdone : TotpPhase.isDone _ := hspent i.1 hsealed
          cases hphase : (run (totpCallsStep P C call) s l).process i.1 with
          | done _ =>
            rw [hphase] at hstoring
            cases hstoring
          | _ =>
            rw [hphase] at hdone
            cases hdone
  · intro henabled
    obtain ⟨hsame, hbefore⟩ := houtcome.isEnabled henabled
    have hkept : (run (totpCallsStep P C call) s l).store.IsEnabled →
        ∃ x, (run (totpCallsStep P C call) s (l ++ [i])).store.storedSecret = some x ∧
          ProvedSince P C call s (l ++ [i]) x := by
      intro hen
      obtain ⟨x, hx, hproved⟩ := h.enabled hen
      exact ⟨x, hsame.trans hx, hproved.concat (hsame.trans hx)⟩
    rcases hbefore with hen | ⟨x, hx, hruns⟩
    · exact hkept hen
    · rcases hguarded.confirm x hx hruns with hen | hstored
      · exact hkept hen
      · exact ⟨x, hsame.trans hstored,
          ((h.verified i.1 x hx).2 hstored).concat (hsame.trans hstored)⟩

/-- A guarded step takes nothing from an enabled credential, unless it resets it. -/
theorem GuardedWrite.onlyReset (h : GuardedWrite s i) : OnlyReset P C call s i := by
  intro hreset henabled
  have houtcome := totpCallsStep_outcome P C call s i
  cases houtcome with
  | quiet hcredential =>
    unfold StaffAccount.storedSecret
    unfold StaffAccount.IsEnabled StaffAccount.recoveryState at henabled ⊢
    rw [hcredential]
    exact ⟨henabled, rfl⟩
  | verified _ _ _ _ _ _ _ _ _ _ hstore =>
    rw [hstore]
    exact ⟨henabled, rfl⟩
  | stored _ hphase hmove => exact absurd henabled (h.start hphase hmove)
  | enabled _ _ _ hsecret hstate => exact ⟨hstate, hsecret⟩
  | wasReset hcall => exact absurd hcall hreset

/-- Along every run of any number of calls, each with a secret of its own, all of whose writes still
find what was read: an enabled credential has a secret for which a code was verified while it was
stored, and only a reset takes it away. -/
theorem enabled_factor_proved (hdistinct : DistinctSecrets C call)
    (hbegin : ∀ w, s.process w = .begin) (hdisabled : ¬s.store.IsEnabled)
    (hfresh : ∀ w x, s.store.storedSecret = some x → (call w).sealed C ≠ some x)
    (hsteps : AllSteps (totpCallsStep P C call) GuardedWrite s l) :
    EnabledProved P C call s l ∧ AllSteps (totpCallsStep P C call) (OnlyReset P C call) s l := by
  have hstart : Accounted P C call s [] := by
    refine ⟨fun x hx w hw ↦ absurd hw (hfresh w x hx), fun w x hx ↦ ?_, fun h ↦ absurd h hdisabled⟩
    rw [run_nil, hbegin w] at hx
    cases hx
  refine ⟨(history_invariant hstart (fun l i h ↦ h.concat hdistinct) hsteps).enabled, ?_⟩
  exact allSteps_mono (I := fun _ ↦ True) (fun _ _ _ _ ↦ trivial)
    (fun _ _ _ ↦ GuardedWrite.onlyReset) trivial hsteps

end

/-! ### Two sessions of one staff user -/

/-- The keys of twenty bytes `1` and of twenty bytes `2`. -/
def sampleSetupKey (second : Bool) : String :=
  if second then "AIBAEAQCAIBAEAQCAIBAEAQCAIBAEAQC" else "AEAQCAIBAEAQCAIBAEAQCAIBAEAQCAIB"

def sampleSealed (second : Bool) : String :=
  if second then "v1:AgICAgICAgICAgIC:oL0inri61_csLiWbMNGdKA:47L1folkylP2xzOdTidkp_l0oVvhfj_XMOvZ6mPIwRQ"
  else "v1:AQEBAQEBAQEBAQEB:zehE28zgm7ciuG4rYTsX2Q:vvZpu_57XlHCzyzrh3gwdUoQgkFGfMhn-Sl-qxRSk2w"

/-- The two keys sealed under the secret of a local installation, and their codes of the first
ninety seconds. -/
def sampleTotpCrypto : TotpCrypto where
  sealSecret _ value := sampleSealed (value = sampleSetupKey true)
  openSealedSecret text :=
    if text = sampleSealed false then .ok (sampleSetupKey false)
    else if text = sampleSealed true then .ok (sampleSetupKey true)
    else .error (.plain "Unsupported sealed secret format.")
  verifyTotpCode secret code now :=
    30000 ≤ now ∧ now < 60000 ∧
      (secret = sampleSetupKey false ∧ code ∈ ["105188", "077046", "898830"] ∨
        secret = sampleSetupKey true ∧ code ∈ ["118438", "573648", "379294"])

def totpPlatform : Platform :=
  { plainPlatform with env := fun name ↦ if name = "STAFF_2FA_MODE" then "totp" else "" }

/-- The owner starts and confirms in one session, somebody else starts in another. -/
inductive SampleTotpCall where
  | ownerStart | ownerConfirm | otherStart
  deriving DecidableEq

def SampleTotpCall.call : SampleTotpCall → TotpCall
  | ownerStart => .start "s1" (sampleSetupKey false) "AQEBAQEBAQEBAQEB"
  | ownerConfirm => .confirm "s1" "077046"
  | otherStart => .start "s2" (sampleSetupKey true) "AgICAgICAgICAgIC"

def sampleStaff : TotpCalls SampleTotpCall where
  store.sessions :=
    ((∅ : Table Uuid StaffSession).insert "s1" { expiresAt := 1000000 }).insert "s2"
      { expiresAt := 1000000 }
  process _ := .begin

/-- The next `n` statements of a call. -/
def SampleTotpCall.steps (w : SampleTotpCall) (n : ℕ) : List (SampleTotpCall × TotpMove) :=
  List.replicate n (w, .proceed { now := 30000 })

theorem sampleTotpCall_distinct : DistinctSecrets sampleTotpCrypto SampleTotpCall.call := by
  intro w w' x hw hw'
  rw [← hw'] at hw
  cases w <;> cases w' <;> first | rfl | exact absurd hw (by decide +kernel)

/-- The owner enrols alone. -/
theorem enabled_factor_proved_sampleStaff :
    EnabledProved totpPlatform sampleTotpCrypto SampleTotpCall.call sampleStaff
        (SampleTotpCall.ownerStart.steps 3 ++ SampleTotpCall.ownerConfirm.steps 3) ∧
      AllSteps (totpCallsStep totpPlatform sampleTotpCrypto SampleTotpCall.call)
        (OnlyReset totpPlatform sampleTotpCrypto SampleTotpCall.call) sampleStaff
        (SampleTotpCall.ownerStart.steps 3 ++ SampleTotpCall.ownerConfirm.steps 3) :=
  enabled_factor_proved sampleTotpCall_distinct (fun _ ↦ rfl) (by decide) (fun _ _ h ↦ by cases h)
    (by decide +kernel)

/-- The other session has read the pending credential and stores its secret between the owner's code
and the owner's write; or after it. -/
theorem unguarded_enrollment :
    ¬EnabledProved totpPlatform sampleTotpCrypto SampleTotpCall.call sampleStaff
        (SampleTotpCall.ownerStart.steps 3 ++ SampleTotpCall.otherStart.steps 2 ++
          SampleTotpCall.ownerConfirm.steps 2 ++ SampleTotpCall.otherStart.steps 1 ++
          SampleTotpCall.ownerConfirm.steps 1) ∧
      ¬AllSteps (totpCallsStep totpPlatform sampleTotpCrypto SampleTotpCall.call)
        (OnlyReset totpPlatform sampleTotpCrypto SampleTotpCall.call) sampleStaff
        (SampleTotpCall.ownerStart.steps 3 ++ SampleTotpCall.otherStart.steps 2 ++
          SampleTotpCall.ownerConfirm.steps 3 ++ SampleTotpCall.otherStart.steps 1) := by
  refine ⟨fun h ↦ ?_, ?_⟩
  · obtain ⟨x, hx, l₁, i, l₂, -, ⟨sessionId, code, context, reading, hcall, -, -, -, haccepts⟩, -⟩ :=
      h (by decide +kernel)
    have hother : (run (totpCallsStep totpPlatform sampleTotpCrypto SampleTotpCall.call) sampleStaff
        (SampleTotpCall.ownerStart.steps 3 ++ SampleTotpCall.otherStart.steps 2 ++
          SampleTotpCall.ownerConfirm.steps 2 ++ SampleTotpCall.otherStart.steps 1 ++
          SampleTotpCall.ownerConfirm.steps 1)).store.storedSecret = some (sampleSealed true) := by
      decide +kernel
    rw [hother] at hx
    obtain rfl := Option.some.inj hx
    have hcode : code = "077046" := by
      cases hw : i.1 with
      | ownerConfirm =>
        rw [hw] at hcall
        cases hcall
        rfl
      | ownerStart | otherStart =>
        rw [hw] at hcall
        cases hcall
    have hopen : sampleTotpCrypto.openSealedSecret (sampleSealed true) =
        .ok (sampleSetupKey true) := by
      rfl
    unfold TotpCrypto.accepts at haccepts
    rw [hopen, hcode] at haccepts
    have hcodes : sampleSetupKey true ≠ sampleSetupKey false ∧
        "077046" ∉ ["118438", "573648", "379294"] := by
      decide +kernel
    rcases (of_decide_eq_true haccepts).2.2 with ⟨hkey, -⟩ | ⟨-, hcode⟩
    · exact hcodes.1 hkey
    · exact hcodes.2 hcode
  · unfold OnlyReset
    decide +kernel

end KmtLegal
