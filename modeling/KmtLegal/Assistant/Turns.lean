import KmtLegal.Relational.Run
import KmtLegal.Assistant.Session

/-!
# Finished turns

A worker asks whether its turn is finished once, after it has acquired its lease, and the writes
that finish a turn ask for the lease again.  The write in between, which makes the turn pending,
does not.  While it happens under the lease, the lease protects the turn: whoever holds it and has
not answered yet works on an unfinished turn, and nobody else writes.

The condition on the steps names the three ways out: a turn is made pending without the lease, an
answer that was committed is followed by another one, and a worker that has had a lease recovers
somebody else's.
-/

namespace KmtLegal

open Relational

/-! ## Phases -/

namespace Purpose

/-- The worker has acquired its lease. -/
def isPast : Purpose → Bool
  | begin => false
  | check _ | look => true
  | report r => r ≠ .early

/-- The worker is not done with its answer. -/
def isCheck : Purpose → Bool
  | check _ | look => true
  | begin | report _ => false

end Purpose

namespace Phase

/-- The worker has acquired its lease, or is done. -/
def isPast : Phase → Bool
  | own purpose | recover purpose _ | reread purpose => purpose.isPast
  | previous _ | acquire _ _ => false
  | replay _ | count _ | upsert | handOver | answering | finalize _ | failing _ | marking _
  | releasing | finished => true

/-- The worker has found its turn unfinished, and has not finished it yet. -/
def isWorking : Phase → Bool
  | own purpose | recover purpose _ | reread purpose => purpose.isCheck
  | count _ | upsert | handOver | answering | finalize _ => true
  | previous _ | acquire _ _ | replay _ | failing _ | marking _ | releasing | finished => false

def isUpsert : Phase → Bool
  | upsert => true
  | _ => false

/-- The session whose lease a worker past its acquisition is about to recover. -/
def recovers : Phase → Option AssistantSession
  | recover purpose seen => if purpose.isPast then some seen else none
  | _ => none

/-- The worker reads the conversation after its answer was committed. -/
def hasAnswered : Phase → Bool
  | own (.report .answered) | recover (.report .answered) _ | reread (.report .answered) => true
  | _ => false

end Phase

/-- The next statement runs. -/
def Move.runs (move : Move) : Prop := ∃ clock, move = .proceed clock

/-- A handler answers otherwise. -/
def Move.answersAgain (move : Move) : Prop := ∃ code, move = .throws code true

/-! ## The condition -/

/-- A step that keeps to the lease. -/
structure KeepsLease (lease : Uuid) (move : Move) (c : Conversation) (phase : Phase) : Prop where
  /-- A turn is made pending under the lease. -/
  upsert : phase.isUpsert → move.runs → c.session.leaseId = some lease
  /-- A committed answer is the last one. -/
  answer : phase.hasAnswered → ¬move.answersAgain
  /-- After its acquisition a worker recovers no lease but its own. -/
  recover : ∀ seen ∈ phase.recovers, move.runs → seen.leaseId = some lease

/-! ### The condition can be computed -/

instance (move : Move) : Decidable move.runs :=
  match move with
  | .proceed clock => isTrue ⟨clock, rfl⟩
  | .throws _ _ | .checks | .looks | .links _ | .answers _ | .releases => isFalse nofun

instance (move : Move) : Decidable move.answersAgain :=
  match move with
  | .throws code true => isTrue ⟨code, rfl⟩
  | .throws _ false | .proceed _ | .checks | .looks | .links _ | .answers _ | .releases =>
    isFalse nofun

instance (lease : Uuid) (move : Move) (c : Conversation) (phase : Phase) :
    Decidable (KeepsLease lease move c phase) :=
  decidable_of_iff ((phase.isUpsert → move.runs → c.session.leaseId = some lease) ∧
      (phase.hasAnswered → ¬move.answersAgain) ∧
      ∀ seen ∈ phase.recovers, move.runs → seen.leaseId = some lease)
    ⟨fun h ↦ ⟨h.1, h.2.1, h.2.2⟩, fun h ↦ ⟨h.upsert, h.answer, h.recover⟩⟩

/-! ## What a step does -/

/-- What a step does to the lease and the turns. -/
inductive SendOutcome (lease : Uuid) (call : SendMessage) (move : Move) (c : Conversation)
    (phase : Phase) (c' : Conversation) (phase' : Phase) : Prop
  | quiet (hturns : c'.turns = c.turns)
      (hlease : c'.session.leaseId = c.session.leaseId ∨ c'.session.leaseId = none)
      (hpast : phase.isPast → phase'.isPast)
      (hworking : phase'.isWorking → phase.isWorking ∨ (phase.hasAnswered ∧ move.answersAgain) ∨
        ∀ t, c.turns.lookup call.messageId = some t → ¬t.isFinished)
  | acquired (hturns : c'.turns = c.turns) (hlease : c'.session.leaseId = some lease)
      (hpast : phase'.isPast) (hworking : ¬phase'.isWorking)
  | recovered (purpose : Purpose) (seen : AssistantSession) (hphase : phase = .recover purpose seen)
      (hmove : move.runs) (hseen : c.session.leaseId = seen.leaseId)
      (hlease : c'.session.leaseId = none)
      (hturns : c'.turns = c.turns.updateMany (fun _ t ↦ t.status = .pending) fun t ↦
        { t with status := .failed, errorCode := some "AI_PROVIDER_TIMEOUT" })
  | upserted (hphase : phase = .upsert) (hmove : move.runs)
      (hlease : c'.session.leaseId = c.session.leaseId)
      (hturns : c'.turns = (c.upsertTurn call).turns) (hpast : phase'.isPast)
  | written (hholds : c.session.leaseId = some lease) (hworking : phase.isWorking)
      (hlease : c'.session.leaseId = c.session.leaseId) (f : AssistantTurn → AssistantTurn)
      (hturns : c'.turns = c.turns.update call.messageId f) (hpast : phase'.isPast)
      (hworking' : ¬phase'.isWorking)
  | marked (hholds : c.session.leaseId = some lease)
      (hlease : c'.session.leaseId = c.session.leaseId) (f : AssistantTurn → AssistantTurn)
      (hturns : c'.turns =
        c.turns.updateMany (fun id t ↦ id = call.messageId ∧ t.status = .pending) f)
      (hpast : phase'.isPast) (hworking' : ¬phase'.isWorking)

section

variable {lease : Uuid} {call : SendMessage} {clock : TurnClock} {c : Conversation}

/-- Nothing is written. -/
theorem SendOutcome.unwritten {move : Move} {phase phase' : Phase}
    (hpast : phase.isPast → phase'.isPast)
    (hworking : phase'.isWorking → phase.isWorking ∨ (phase.hasAnswered ∧ move.answersAgain) ∨
      ∀ t, c.turns.lookup call.messageId = some t → ¬t.isFinished) :
    SendOutcome lease call move c phase c phase' := .quiet rfl (.inl rfl) hpast hworking

theorem thrown_isPast {phase : Phase} {code : String} {caught : Bool} (h : phase.isPast) :
    (phase.thrown code caught).isPast := by
  cases phase with
  | own purpose | recover purpose _ | reread purpose =>
    rcases purpose with _ | _ | _ | r
    · cases h
    · cases caught <;> rfl
    · cases caught <;> rfl
    · cases r <;> cases caught <;> rfl
  | answering | finalize _ => cases caught <;> rfl
  | _ => rfl

theorem resume_isPast {purpose : Purpose} {s : AssistantSession} {now : Time}
    (h : purpose.isPast) : (purpose.resume lease s now).isPast := by
  rcases purpose with _ | answer | _ | r
  · cases h
  · simp only [Purpose.resume]
    split_ifs
    · cases answer <;> rfl
    · rfl
  · rfl
  · cases r <;> rfl

/-- An ownership read that returns goes on with its check or stops working. -/
theorem resume_isWorking {purpose : Purpose} {s : AssistantSession} {now : Time}
    (h : (purpose.resume lease s now).isWorking) : purpose.isCheck := by
  rcases purpose with _ | answer | _ | r
  · cases h
  · rfl
  · rfl
  · cases r <;> cases h

theorem thrown_isWorking {phase : Phase} {code : String} {caught : Bool}
    (h : (phase.thrown code caught).isWorking) :
    phase.isWorking ∨ (phase.hasAnswered ∧ caught) := by
  cases phase with
  | own purpose | recover purpose _ | reread purpose =>
    rcases purpose with _ | _ | _ | r
    · cases h
    · exact .inl rfl
    · exact .inl rfl
    · cases r <;> cases caught <;> first | exact .inr ⟨rfl, rfl⟩ | cases h
  | answering | finalize _ => exact .inl rfl
  | _ => cases h

/-- An ownership read at the purpose of `phase`. -/
theorem own_outcome {purpose : Purpose} {phase phase' : Phase} {n : Time}
    (hpast : phase.isPast = purpose.isPast) (hworking : phase.isWorking = purpose.isCheck)
    (h : phase' = purpose.thrown ApiErrorCode.authRequired.text false ∨
      phase' = .recover purpose c.session ∨ phase' = purpose.resume lease c.session n) :
    SendOutcome lease call (.proceed clock) c phase c phase' := by
  refine .unwritten (fun hphase ↦ ?_) fun hphase ↦ .inl ?_
  · rw [hpast] at hphase
    rcases h with rfl | rfl | rfl
    · have hthrown : Phase.isPast (.own purpose) := hphase
      exact thrown_isPast hthrown
    · exact hphase
    · exact resume_isPast hphase
  · rw [hworking]
    rcases h with rfl | rfl | rfl
    · have hthrown : (Phase.thrown ApiErrorCode.authRequired.text false (.own purpose)).isWorking :=
        hphase
      rcases thrown_isWorking hthrown with h | ⟨-, h⟩
      · exact h
      · cases h
    · exact hphase
    · exact resume_isWorking hphase

/-- The statement at a phase. -/
theorem proceed_outcome (phase : Phase) :
    SendOutcome lease call (.proceed clock) c phase (phase.proceed lease call clock c).1
      (phase.proceed lease call clock c).2 := by
  cases phase with
  | own purpose =>
    refine own_outcome (n := clock.later) rfl rfl ?_
    simp only [Phase.proceed]
    split_ifs
    · exact .inr (.inl rfl)
    · exact .inr (.inr rfl)
    · exact .inl rfl
  | reread purpose =>
    refine own_outcome (n := clock.later) rfl rfl ?_
    simp only [Phase.proceed]
    split_ifs
    · exact .inr (.inr rfl)
    · exact .inl rfl
  | recover purpose seen =>
    simp only [Phase.proceed, Conversation.recoverLease]
    split_ifs with hseen
    · exact .recovered purpose seen rfl ⟨clock, rfl⟩ hseen.1 rfl rfl
    · exact .unwritten id .inl
  | previous seen =>
    refine .unwritten (fun h ↦ nomatch h) fun h ↦ ?_
    simp only [Phase.proceed] at h
    split at h
    · cases h
    · split_ifs at h <;> cases h
  | acquire seen known =>
    simp only [Phase.proceed, Conversation.acquireLease]
    split_ifs
    · exact .acquired rfl rfl rfl nofun
    · exact .unwritten (fun h ↦ nomatch h) nofun
  | replay known =>
    refine .unwritten (fun _ ↦ ?_) fun h ↦ .inr (.inr fun t ht ↦ ?_)
    · simp only [Phase.proceed]
      split
      · rfl
      · split_ifs <;> rfl
    · simp only [Phase.proceed, ht] at h
      split_ifs at h with _ hfinished
      · cases h
      · cases h
      · exact hfinished
  | count known =>
    refine .unwritten (fun _ ↦ ?_) fun _ ↦ .inl rfl
    simp only [Phase.proceed]
    split_ifs <;> rfl
  | upsert =>
    refine .upserted rfl ⟨clock, rfl⟩ rfl rfl ?_
    simp only [Phase.proceed]
    cases call.recipient <;> rfl
  | handOver =>
    simp only [Phase.proceed, Conversation.handOver]
    split_ifs with _ hholds
    · exact .written (of_decide_eq_true hholds).1 rfl rfl (fun t ↦ { t with status := .human }) rfl
        rfl nofun
    · exact .unwritten (fun _ ↦ rfl) nofun
    · exact .unwritten (fun _ ↦ rfl) nofun
  | answering => exact .unwritten id .inl
  | finalize answer =>
    simp only [Phase.proceed, Conversation.finalize]
    split_ifs with hholds
    · exact .written (of_decide_eq_true hholds).1 rfl rfl (fun t ↦
        { t with
          assistantText := some answer.text
          protocol := answer.protocol
          status := .completed }) rfl rfl nofun
    · exact .unwritten (fun _ ↦ rfl) nofun
  | failing code =>
    refine .unwritten (fun _ ↦ ?_) fun h ↦ ?_
    · simp only [Phase.proceed]
      split_ifs <;> rfl
    · simp only [Phase.proceed] at h
      split_ifs at h <;> cases h
  | marking code =>
    simp only [Phase.proceed, Conversation.markFailed]
    split_ifs with hholds
    · exact .marked hholds rfl (fun t ↦ { t with status := .failed, errorCode := some code }) rfl
        rfl nofun
    · exact .unwritten (fun _ ↦ rfl) nofun
  | releasing =>
    simp only [Phase.proceed, Conversation.releaseLease]
    split_ifs
    · exact .quiet rfl (.inr rfl) (fun _ ↦ rfl) nofun
    · exact .unwritten (fun _ ↦ rfl) nofun
  | finished => exact .unwritten id .inl

/-- Every step has one of the outcomes. -/
theorem sendAssistantMessage_outcome (lease : Uuid) (call : SendMessage) (move : Move)
    (c : Conversation) (phase : Phase) :
    SendOutcome lease call move c phase (sendAssistantMessage lease call move c phase).1
      (sendAssistantMessage lease call move c phase).2 := by
  cases move with
  | proceed clock => exact proceed_outcome phase
  | throws code caught => exact .unwritten thrown_isPast fun h ↦ (thrown_isWorking h).imp_right fun
    | ⟨hanswered, hcaught⟩ => .inl ⟨hanswered, code, congrArg _ hcaught⟩
  | releases =>
    unfold sendAssistantMessage Conversation.releaseLease
    simp only
    split_ifs
    · exact .quiet rfl (.inr rfl) id .inl
    · exact .unwritten id .inl
    · exact .unwritten id .inl
  | checks | looks | answers _ =>
    cases phase with
    | answering => exact .unwritten (fun _ ↦ rfl) fun _ ↦ .inl rfl
    | _ => exact .unwritten id .inl
  | links now =>
    cases phase with
    | answering =>
      unfold sendAssistantMessage Conversation.linkClient
      simp only
      split_ifs
      · exact .unwritten (fun _ ↦ rfl) nofun
      · exact .unwritten (fun _ ↦ rfl) fun _ ↦ .inl rfl
      · exact .quiet rfl (.inl rfl) (fun _ ↦ rfl) fun _ ↦ .inl rfl
      · exact .unwritten (fun _ ↦ rfl) nofun
    | _ => exact .unwritten id .inl

end

/-! ## What the lease protects -/

/-- Only a worker that has acquired its lease is found on the session, and its turn is unfinished
while it works on it. -/
structure Orderly (lease : Uuid) (call : SendMessage) (c : Conversation) (phase : Phase) : Prop where
  past : c.session.leaseId = some lease → phase.isPast
  unfinished : c.session.leaseId = some lease → phase.isWorking →
    ∀ t, c.turns.lookup call.messageId = some t → ¬t.isFinished

section

variable {lease : Uuid} {call : SendMessage} {move : Move} {c c' : Conversation}
  {phase phase' : Phase}

theorem isFinished_of_pending {t : AssistantTurn} (h : t.status = .pending) : ¬t.isFinished := by
  unfold AssistantTurn.isFinished
  rw [h]
  decide

/-- What a reader sees after a turn was made pending. -/
theorem lookup_upsertTurn (c : Conversation) (call : SendMessage) (m : Uuid) :
    (c.upsertTurn call).turns.lookup m = c.turns.lookup m ∨
      (m = call.messageId ∧ ∃ t, (c.upsertTurn call).turns.lookup m = some t ∧
        t.status = .pending) := by
  by_cases hm : m = call.messageId
  · subst hm
    refine .inr ⟨rfl, ?_⟩
    unfold Conversation.upsertTurn
    cases ht : c.turns.lookup call.messageId with
    | some t => exact ⟨{ t with status := .pending, errorCode := none }, by simp [ht], rfl⟩
    | none => exact ⟨{ userText := call.message, recipient := call.recipient }, by simp, rfl⟩
  · left
    unfold Conversation.upsertTurn
    simp only
    split_ifs
    · exact Table.lookup_update_of_ne _ _ hm
    · rw [Table.lookup_insert, if_neg hm]

/-- A step that keeps to the lease leaves finished turns as they are. -/
theorem SendOutcome.finished (h : SendOutcome lease call move c phase c' phase')
    (horderly : Orderly lease call c phase) (hkeeps : KeepsLease lease move c phase) {m : Uuid}
    {t : AssistantTurn} (ht : c.turns.lookup m = some t) (hfinished : t.isFinished) :
    c'.turns.lookup m = some t := by
  have hpending : t.status ≠ .pending := fun hpending ↦ isFinished_of_pending hpending hfinished
  cases h with
  | quiet hturns => rw [hturns, ht]
  | acquired hturns => rw [hturns, ht]
  | recovered _ _ _ _ _ _ hturns =>
    rw [hturns, Table.lookup_updateMany, ht, Option.map_some, if_neg (by simpa using hpending)]
  | upserted hphase hmove _ hturns =>
    rw [hturns]
    rcases lookup_upsertTurn c call m with hsame | ⟨rfl, -⟩
    · rw [hsame, ht]
    · exact absurd hfinished
        (horderly.unfinished (hkeeps.upsert (by rw [hphase]; rfl) hmove) (by rw [hphase]; rfl) t ht)
  | written hholds hworking _ f hturns =>
    have hne : m ≠ call.messageId := by
      rintro rfl
      exact horderly.unfinished hholds hworking t ht hfinished
    rw [hturns, Table.lookup_update_of_ne _ _ hne, ht]
  | marked _ _ f hturns =>
    rw [hturns, Table.lookup_updateMany, ht, Option.map_some,
      if_neg fun h ↦ hpending (of_decide_eq_true h).2]

/-- A worker whose lease is no longer on the session writes no turn. -/
theorem SendOutcome.stale (h : SendOutcome lease call move c phase c' phase')
    (hkeeps : KeepsLease lease move c phase) (hpast : phase.isPast)
    (hlost : c.session.leaseId ≠ some lease) : c'.turns = c.turns := by
  cases h with
  | quiet hturns => exact hturns
  | acquired hturns => exact hturns
  | recovered purpose seen hphase hmove hseen =>
    have hrecovers : seen ∈ phase.recovers := by
      rw [hphase] at hpast ⊢
      exact if_pos hpast
    exact absurd (hseen.trans (hkeeps.recover seen hrecovers hmove)) hlost
  | upserted hphase hmove => exact absurd (hkeeps.upsert (by rw [hphase]; rfl) hmove) hlost
  | written hholds => exact absurd hholds hlost
  | marked hholds => exact absurd hholds hlost

/-- The worker that moves stays in order. -/
theorem SendOutcome.orderly_self (h : SendOutcome lease call move c phase c' phase')
    (horderly : Orderly lease call c phase) (hkeeps : KeepsLease lease move c phase) :
    Orderly lease call c' phase' := by
  cases h with
  | quiet hturns hlease hpast hworking =>
    have hcarried : c'.session.leaseId = some lease → c.session.leaseId = some lease := by
      rcases hlease with hsame | hnone
      · exact fun h ↦ hsame ▸ h
      · intro h
        rw [hnone] at h
        cases h
    refine ⟨fun h ↦ hpast (horderly.past (hcarried h)), fun h hphase' ↦ ?_⟩
    rw [hturns]
    rcases hworking hphase' with hphase | ⟨hanswered, hagain⟩ | hunfinished
    · exact horderly.unfinished (hcarried h) hphase
    · exact absurd hagain (hkeeps.answer hanswered)
    · exact hunfinished
  | acquired _ _ hpast hworking => exact ⟨fun _ ↦ hpast, fun _ h ↦ absurd h hworking⟩
  | recovered _ _ _ _ _ hlease =>
    have hfree : c'.session.leaseId ≠ some lease := by
      rw [hlease]
      nofun
    exact ⟨fun h ↦ absurd h hfree, fun h ↦ absurd h hfree⟩
  | upserted hphase hmove hlease hturns hpast =>
    refine ⟨fun _ ↦ hpast, fun _ _ t ht ↦ ?_⟩
    rw [hturns] at ht
    rcases lookup_upsertTurn c call call.messageId with hsame | ⟨-, t', ht', hpending⟩
    · rw [hsame] at ht
      exact horderly.unfinished (hkeeps.upsert (by rw [hphase]; rfl) hmove) (by rw [hphase]; rfl) t ht
    · rw [ht] at ht'
      cases ht'
      exact isFinished_of_pending hpending
  | written _ _ _ _ _ hpast hworking' => exact ⟨fun _ ↦ hpast, fun _ h ↦ absurd h hworking'⟩
  | marked _ _ _ _ hpast hworking' => exact ⟨fun _ ↦ hpast, fun _ h ↦ absurd h hworking'⟩

/-- The other workers stay in order. -/
theorem SendOutcome.orderly_other {lease₀ : Uuid} {call₀ : SendMessage} {phase₀ : Phase}
    (h : SendOutcome lease call move c phase c' phase') (hne : lease₀ ≠ lease)
    (horderly : Orderly lease₀ call₀ c phase₀) (hkeeps : KeepsLease lease move c phase) :
    Orderly lease₀ call₀ c' phase₀ := by
  -- while the session carries another lease this worker writes no turn and leaves the lease
  have hcarried : c'.session.leaseId = some lease₀ →
      c.session.leaseId = some lease₀ ∧ c'.turns = c.turns := by
    intro hlease₀
    have hother : c.session.leaseId = some lease₀ → c.session.leaseId ≠ some lease := fun h h' ↦
      hne (Option.some.inj (h.symm.trans h'))
    cases h with
    | quiet hturns hlease =>
      rcases hlease with hsame | hnone
      · exact ⟨hsame ▸ hlease₀, hturns⟩
      · rw [hnone] at hlease₀
        cases hlease₀
    | acquired _ hlease =>
      rw [hlease] at hlease₀
      exact absurd (Option.some.inj hlease₀).symm hne
    | recovered _ _ _ _ _ hlease =>
      rw [hlease] at hlease₀
      cases hlease₀
    | upserted hphase hmove hlease =>
      rw [hlease] at hlease₀
      exact absurd (hkeeps.upsert (by rw [hphase]; rfl) hmove) (hother hlease₀)
    | written hholds _ hlease =>
      rw [hlease] at hlease₀
      exact absurd hholds (hother hlease₀)
    | marked hholds hlease =>
      rw [hlease] at hlease₀
      exact absurd hholds (hother hlease₀)
  refine ⟨fun h ↦ horderly.past (hcarried h).1, fun h hphase ↦ ?_⟩
  rw [(hcarried h).2]
  exact horderly.unfinished (hcarried h).1 hphase

end

/-! ## Runs -/

section

variable {ω : Type} [DecidableEq ω]

/-- A step of one of the workers keeps to its lease. -/
def KeepsLeaseStep (lease : ω → Uuid) (s : Workers ω) (i : ω × Move) : Prop :=
  KeepsLease (lease i.1) i.2 s.store (s.process i.1)

/-- The worker that moves has had its lease, and the session carries another one or none. -/
def StaleStep (lease : ω → Uuid) (s : Workers ω) (i : ω × Move) : Prop :=
  (s.process i.1).isPast ∧ s.store.session.leaseId ≠ some (lease i.1)

/-- The turns that are finished are there as they were. -/
def FinishedKept (s s' : Workers ω) : Prop :=
  ∀ m t, s.store.turns.lookup m = some t → t.isFinished → s'.store.turns.lookup m = some t

/-- All workers are in order. -/
def AllOrderly (lease : ω → Uuid) (call : ω → SendMessage) (s : Workers ω) : Prop :=
  ∀ w, Orderly (lease w) (call w) s.store (s.process w)

instance (lease : ω → Uuid) (s : Workers ω) (i : ω × Move) :
    Decidable (KeepsLeaseStep lease s i) :=
  inferInstanceAs (Decidable (KeepsLease _ _ _ _))

variable {lease : ω → Uuid} {call : ω → SendMessage}

theorem AllOrderly.step (hlease : Function.Injective lease) {s : Workers ω} {i : ω × Move}
    (h : AllOrderly lease call s) (hkeeps : KeepsLeaseStep lease s i) :
    AllOrderly lease call (workersStep lease call s i) := by
  have houtcome := sendAssistantMessage_outcome (lease i.1) (call i.1) i.2 s.store (s.process i.1)
  exact forall_interleave (houtcome.orderly_self (h i.1) hkeeps)
    fun w hw ↦ houtcome.orderly_other (fun heq ↦ hw (hlease heq)) (h w) hkeeps

/-- Along every run of any number of workers, with leases of their own, all of whose steps keep to
the lease: a turn that is finished stays as it is, and a worker that has lost its lease changes no
turn. -/
theorem finished_turns_final (hlease : Function.Injective lease) {s : Workers ω}
    (hfresh : ∀ w, s.store.session.leaseId ≠ some (lease w)) {l l' : List (ω × Move)}
    (hsteps : AllSteps (workersStep lease call) (KeepsLeaseStep lease) s (l ++ l')) :
    FinishedKept (run (workersStep lease call) s l) (run (workersStep lease call) s (l ++ l')) ∧
      AllSteps (workersStep lease call) (fun s i ↦ StaleStep lease s i →
        (workersStep lease call s i).store.turns = s.store.turns) s (l ++ l') := by
  have horderly : AllOrderly lease call s := fun w ↦
    ⟨fun h ↦ absurd h (hfresh w), fun h ↦ absurd h (hfresh w)⟩
  have hsafe : AllSteps (workersStep lease call) (fun s i ↦
      FinishedKept s (workersStep lease call s i) ∧ (StaleStep lease s i →
        (workersStep lease call s i).store.turns = s.store.turns)) s (l ++ l') := by
    refine allSteps_mono (fun _ _ ↦ AllOrderly.step hlease) (fun s i horderly hkeeps ↦ ?_) horderly
      hsteps
    have houtcome := sendAssistantMessage_outcome (lease i.1) (call i.1) i.2 s.store
      (s.process i.1)
    exact ⟨fun m t ht hfinished ↦ houtcome.finished (horderly i.1) hkeeps ht hfinished,
      fun hstale ↦ houtcome.stale hkeeps hstale.1 hstale.2⟩
  refine ⟨?_, ?_⟩
  · rw [run_append]
    exact run_related_of_allSteps (R := FinishedKept) (fun _ _ _ ht _ ↦ ht)
      (fun _ _ _ h h' m t ht hfinished ↦ h' m t (h m t ht hfinished) hfinished)
      (fun _ _ h ↦ h.1) (allSteps_append.mp hsafe).2
  · exact allSteps_mono (I := fun _ ↦ True) (fun _ _ _ _ ↦ trivial) (fun _ _ _ h ↦ h.2) trivial
      hsafe

/-! ### Two workers on one message -/

/-- Two requests with the same message, before their first statements. -/
def sampleWorkers : Workers Bool where
  store.session := { expiresAt := 1000000 }
  process _ := .own .begin

def sampleLease (w : Bool) : Uuid := if w then "B" else "A"

def sampleSend (_ : Bool) : SendMessage where
  messageId := "m"
  message := "hi"

/-- The statement runs at time `t`. -/
def Move.proceedAt (t : Time) : Move := .proceed ⟨t, t, t⟩

/-- A worker acquires its lease, makes the turn pending and answers it. -/
def sampleAnswered (w : Bool) (t : Time) : List (Bool × Move) :=
  List.replicate 6 (w, .proceedAt t) ++
    [(w, .answers { text := "yes" }), (w, .proceedAt t), (w, .proceedAt t)]

theorem sampleLease_injective : Function.Injective sampleLease := by
  intro w w'
  cases w <;> cases w' <;> decide +kernel

/-- The second worker finds the turn finished. -/
theorem finished_turns_final_sampleWorkers :
    FinishedKept
        (run (workersStep sampleLease sampleSend) sampleWorkers (sampleAnswered false 0))
        (run (workersStep sampleLease sampleSend) sampleWorkers
          (sampleAnswered false 0 ++ sampleAnswered true 0)) ∧
      AllSteps (workersStep sampleLease sampleSend) (fun s i ↦ StaleStep sampleLease s i →
        (workersStep sampleLease sampleSend s i).store.turns = s.store.turns) sampleWorkers
        (sampleAnswered false 0 ++ sampleAnswered true 0) :=
  finished_turns_final sampleLease_injective (fun w ↦ by cases w <;> decide)
    (show AllSteps _ _ _ _ by decide +kernel)

/-- A worker stops before it makes the turn pending.  After 90 seconds another one takes the lease
over and answers. -/
def sampleTakenOver : List (Bool × Move) :=
  List.replicate 5 (false, .proceedAt 0) ++ List.replicate 2 (true, .proceedAt 90000) ++
    sampleAnswered true 90001

/-- The first worker goes on: the answered turn is pending again. -/
theorem late_upsert_reopens :
    ¬FinishedKept (run (workersStep sampleLease sampleSend) sampleWorkers sampleTakenOver)
      (run (workersStep sampleLease sampleSend) sampleWorkers
        (sampleTakenOver ++ [(false, .proceedAt 100000)])) := by
  intro h
  have hanswered : ((run (workersStep sampleLease sampleSend) sampleWorkers
      sampleTakenOver).store.turns.lookup "m").map AssistantTurn.status = some .completed := by
    decide +kernel
  have hpending : ((run (workersStep sampleLease sampleSend) sampleWorkers
      (sampleTakenOver ++ [(false, .proceedAt 100000)])).store.turns.lookup "m").map
        AssistantTurn.status = some .pending := by
    decide +kernel
  obtain ⟨t, ht, hstatus⟩ := Option.map_eq_some_iff.mp hanswered
  have hfinished : t.isFinished := by
    unfold AssistantTurn.isFinished
    rw [hstatus]
    decide
  rw [h "m" t ht hfinished, Option.map_some, hstatus] at hpending
  cases hpending

end

end KmtLegal
