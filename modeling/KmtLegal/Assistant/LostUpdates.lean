import Mathlib.Data.Fintype.Basic
import KmtLegal.Assistant.Turns
import KmtLegal.Relational.Run

/-!
# Updates of a conversation

The operations that write the dialogue or the draft of an assistant session, as the sequences of
their statements on its row.  A message is answered under a lease, a change of the dialogue compares
the revision it has read, a booking or a confirmed action runs under the lock of the row, and the
completion of a verification reads the session before it locks it.

What is written is left open: an operation applies some function to the dialogue or the draft it
knows.  Each of them is to be the one that is stored.
-/

namespace KmtLegal

open Relational

/-! ## The row -/

section

variable {F : Type}

/-- `g` applied to the draft that is known, or the draft that is stored. -/
def redraft (stored known : F) (g : Option (F → F)) : F := (g.map (· known)).getD stored

theorem redraft_eq (stored known : F) (g : Option (F → F)) :
    redraft stored known g = if g.isSome then g.getD id known else stored := by
  cases g <;> rfl

end

/-- The columns of `assistant_sessions` the updates are about. -/
structure Memory (D F : Type) where
  dialogue : D
  draft : F
  revision : ℕ := 0
  leaseId : Option Uuid := none
  leaseExpiresAt : Option Time := none
  deriving DecidableEq

namespace Memory

variable {D F : Type} (m : Memory D F)

/-- `leaseExpiresAt` is not set, or reached. -/
def leaseExpired (now : Time) : Bool := m.leaseExpiresAt.all (· ≤ now)

/-- The session carries the lease, and it has not expired. -/
def holds (lease : Uuid) (now : Time) : Bool :=
  m.leaseId = some lease ∧ m.leaseExpiresAt.any (now < ·)

def unlease : Memory D F := { m with leaseId := none, leaseExpiresAt := none }

/-- The recovery of an expired lease, if the session still belongs to the client it did. -/
def recoverLease (seen : Memory D F) (sameClient : Bool) (now : Time) : Memory D F :=
  if m.leaseId = seen.leaseId ∧ sameClient ∧ m.leaseExpired now then
    { m.unlease with revision := m.revision + 1 }
  else m

/-- The session was not changed, and its lease is free or over. -/
def isFree (seen : Memory D F) (now : Time) : Bool :=
  m.revision = seen.revision ∧ (m.leaseId = none ∨ m.leaseExpiresAt.any (· < now))

/-- What `completeClientVerification` writes, the draft only for a new account. -/
def complete (seen : Memory D F) : Option (F → F) → Memory D F
  | none => m.unlease
  | some g => { m.unlease with draft := g seen.draft, revision := m.revision + 1 }

@[simp] theorem complete_dialogue (seen : Memory D F) (g : Option (F → F)) :
    (m.complete seen g).dialogue = m.dialogue := by cases g <;> rfl

@[simp] theorem complete_draft (seen : Memory D F) (g : Option (F → F)) :
    (m.complete seen g).draft = redraft m.draft seen.draft g := by cases g <;> rfl

end Memory

/-! ## Operations -/

/-- Where an operation is, with what it has read. -/
inductive UpdatePhase (D F : Type) where
  | begin
  /-- `ownAssistantSession` has seen an expired lease. -/
  | recovering (seen : Memory D F)
  | rereading
  | seen (m : Memory D F)
  /-- `completeClientVerification` has read the challenge with its session. -/
  | challenged (m : Memory D F)
  /-- A turn with the dialogue and the draft its answer is computed from; `dirty` if it has written
  its memory. -/
  | working (dialogue : D) (draft : F) (dirty : Bool)
  | releasing (dirty : Bool)
  | finished

/-- The turn has written its memory and no answer. -/
def UpdatePhase.dirty {D F : Type} : UpdatePhase D F → Bool
  | working _ _ dirty => dirty
  | releasing dirty => dirty
  | _ => false

/-- The session as the operation has read it, if it will still write from that. -/
def UpdatePhase.known {D F : Type} : UpdatePhase D F → Option (Memory D F)
  | seen m => some m
  | challenged m => some m
  | _ => none

/-- The next statement of an operation. -/
inductive UpdateMove (D F : Type) where
  /-- `ownAssistantSession`, in one read or with the recovery of an expired lease. -/
  | read (now : Time)
  | recover (sameClient : Bool) (now : Time)
  | reread
  /-- `sendAssistantMessage`: the lease. -/
  | acquire (now leaseExpiresAt : Time)
  /-- The memory of a legal conversation is written before the answer is composed. -/
  | remember (f : D → D) (now : Time)
  | finalize (f : D → D) (g : Option (F → F)) (now : Time)
  /-- The transaction of a message to the office. -/
  | handOver (now : Time)
  | fails
  /-- The `finally` block. -/
  | release
  /-- `changeAssistantDialogue`: the update. -/
  | change (f : D → D) (g : Option (F → F))
  /-- `completeClientVerification`: the read, and what its transaction writes from the first update
  of the session on, which locks it; the draft only for a new account. -/
  | challenge
  | complete (g : Option (F → F))
  /-- The transaction of `mutateDirectBooking`, also of a confirmed action, which passes the
  revision it has found. -/
  | book (revision : ℕ) (g : Option (F → F))
  /-- The transaction of `resolveAssistantAction` for a message to the office. -/
  | act (f : D → D)

section

variable {D F : Type}

/-- One statement of an operation, whose lease would be `lease`. -/
def updateStep (lease : Uuid) (move : UpdateMove D F) (m : Memory D F) (phase : UpdatePhase D F) :
    Memory D F × UpdatePhase D F :=
  match move, phase with
  | .read now, .begin =>
    (m, if m.leaseId.isSome ∧ m.leaseExpired now then .recovering m else .seen m)
  | .recover sameClient now, .recovering seen => (m.recoverLease seen sameClient now, .rereading)
  | .reread, .rereading => (m, .seen m)
  | .acquire now leaseExpiresAt, .seen seen =>
    if m.isFree seen now then
      ({ m with leaseId := some lease, leaseExpiresAt := some leaseExpiresAt },
        .working seen.dialogue seen.draft false)
    else (m, .finished)
  | .remember f now, .working dialogue draft dirty =>
    if m.holds lease now then
      ({ m with dialogue := f dialogue }, .working (f dialogue) draft true)
    else (m, .releasing dirty)
  | .finalize f g now, .working dialogue draft dirty =>
    if m.holds lease now then
      ({ m with
          dialogue := f dialogue
          draft := redraft m.draft draft g
          revision := m.revision + 1 }, .releasing false)
    else (m, .releasing dirty)
  | .handOver now, .working _ _ dirty =>
    if m.holds lease now then ({ m with revision := m.revision + 1 }, .releasing false)
    else (m, .releasing dirty)
  | .fails, .working _ _ dirty => (m, .releasing dirty)
  | .release, .releasing _ => (if m.leaseId = some lease then m.unlease else m, .finished)
  | .change f g, .seen seen =>
    (if m.revision = seen.revision ∧ m.leaseId = none then
      { m with
        dialogue := f seen.dialogue
        draft := redraft m.draft seen.draft g
        revision := m.revision + 1 }
    else m, .finished)
  | .challenge, .begin => (m, .challenged m)
  | .complete g, .challenged seen => (m.complete seen g, .finished)
  | .book revision g, .begin =>
    (if m.revision = revision ∧ m.leaseId = none then
      { m with draft := redraft m.draft m.draft g, revision := m.revision + 1 }
    else m, .finished)
  | .act f, .begin =>
    (if m.leaseId = none then
      { m with dialogue := f m.dialogue, revision := m.revision + 1 }
    else m, .finished)
  | _, phase => (m, phase)

/-- The dialogue the statement applies a function to before it writes one. -/
def dialogueBase (lease : Uuid) (move : UpdateMove D F) (m : Memory D F) (phase : UpdatePhase D F) :
    Option D :=
  match move, phase with
  | .remember _ now, .working dialogue _ _ => if m.holds lease now then some dialogue else none
  | .finalize _ _ now, .working dialogue _ _ => if m.holds lease now then some dialogue else none
  | .change _ _, .seen seen =>
    if m.revision = seen.revision ∧ m.leaseId = none then some seen.dialogue else none
  | .act _, .begin => if m.leaseId = none then some m.dialogue else none
  | _, _ => none

/-- The same for the draft. -/
def draftBase (lease : Uuid) (move : UpdateMove D F) (m : Memory D F) (phase : UpdatePhase D F) :
    Option F :=
  match move, phase with
  | .finalize _ g now, .working _ draft _ =>
    if g.isSome ∧ m.holds lease now then some draft else none
  | .change _ g, .seen seen =>
    if g.isSome ∧ m.revision = seen.revision ∧ m.leaseId = none then some seen.draft else none
  | .complete g, .challenged seen => if g.isSome then some seen.draft else none
  | .book revision g, .begin =>
    if g.isSome ∧ m.revision = revision ∧ m.leaseId = none then some m.draft else none
  | _, _ => none

/-- The statement changes the lease and not the revision. -/
def UpdateMove.changesLease : UpdateMove D F → UpdatePhase D F → Bool
  | acquire _ _, .seen _ => true
  | release, .releasing _ => true
  | complete none, .challenged _ => true
  | _, _ => false

/-- The session from which the completion of a verification computes the draft it writes. -/
def UpdateMove.verified : UpdateMove D F → UpdatePhase D F → Option (Memory D F)
  | complete (some _), .challenged seen => some seen
  | _, _ => none

/-- What a statement makes of the dialogue it knows. -/
def UpdateMove.onDialogue : UpdateMove D F → D → D
  | remember f _ => f
  | finalize f _ _ => f
  | change f _ => f
  | act f => f
  | _ => id

/-- What it makes of the draft. -/
def UpdateMove.onDraft : UpdateMove D F → F → F
  | finalize _ g _ => g.getD id
  | change _ g => g.getD id
  | complete g => g.getD id
  | book _ g => g.getD id
  | _ => id

/-- A statement writes its function of the dialogue it knows, or no dialogue. -/
theorem updateStep_dialogue (lease : Uuid) (move : UpdateMove D F) (m : Memory D F)
    (phase : UpdatePhase D F) :
    (updateStep lease move m phase).1.dialogue =
      ((dialogueBase lease move m phase).map move.onDialogue).getD m.dialogue := by
  cases move <;> cases phase <;> simp only [updateStep, dialogueBase, UpdateMove.onDialogue] <;>
    grind [Memory.recoverLease, Memory.unlease, Memory.complete_dialogue]

theorem updateStep_draft (lease : Uuid) (move : UpdateMove D F) (m : Memory D F)
    (phase : UpdatePhase D F) :
    (updateStep lease move m phase).1.draft =
      ((draftBase lease move m phase).map move.onDraft).getD m.draft := by
  cases move <;> cases phase <;> simp only [updateStep, draftBase, UpdateMove.onDraft] <;>
    grind [Memory.recoverLease, Memory.unlease, Memory.complete_draft, redraft_eq]

end

/-! ## Any number of operations -/

section

variable {D F ω : Type} [DecidableEq ω]

/-- Operations on one session. -/
abbrev Updates (D F ω : Type) := Processes ω (Memory D F) (UpdatePhase D F)

/-- One operation makes a step. -/
def updatesStep (lease : ω → Uuid) (s : Updates D F ω) (i : ω × UpdateMove D F) : Updates D F ω :=
  interleave (fun w ↦ updateStep (lease w)) s i

/-- Whatever the step writes is computed from what is stored. -/
def NothingLost (lease : ω → Uuid) (s : Updates D F ω) (i : ω × UpdateMove D F) : Prop :=
  (∀ d ∈ dialogueBase (lease i.1) i.2 s.store (s.process i.1), d = s.store.dialogue) ∧
    ∀ e ∈ draftBase (lease i.1) i.2 s.store (s.process i.1), e = s.store.draft

/-- No turn that has written its memory, and no answer, holds the lease. -/
def NoneDirty (lease : ω → Uuid) (s : Updates D F ω) : Prop :=
  ∀ w, s.store.leaseId = some (lease w) → (s.process w).dirty = false

/-- A turn whose memory is written keeps its lease until its answer is written, and the completion
of a verification finds the session at the revision it has read. -/
def Careful (lease : ω → Uuid) (s : Updates D F ω) (i : ω × UpdateMove D F) : Prop :=
  (i.2.changesLease (s.process i.1) → NoneDirty lease s) ∧
    ∀ seen ∈ i.2.verified (s.process i.1), s.store.revision = seen.revision

instance [DecidableEq D] [DecidableEq F] (lease : ω → Uuid) (s : Updates D F ω)
    (i : ω × UpdateMove D F) : Decidable (NothingLost lease s i) :=
  inferInstanceAs (Decidable (_ ∧ _))

instance [Fintype ω] (lease : ω → Uuid) (s : Updates D F ω) : Decidable (NoneDirty lease s) :=
  inferInstanceAs (Decidable (∀ w, s.store.leaseId = some (lease w) → (s.process w).dirty = false))

instance [Fintype ω] (lease : ω → Uuid) (s : Updates D F ω) (i : ω × UpdateMove D F) :
    Decidable (Careful lease s i) :=
  inferInstanceAs (Decidable (_ ∧ _))

/-! ## The effect of a step -/

/-- The five things a statement does to the row. -/
inductive UpdateEffect (lease : Uuid) (move : UpdateMove D F) (m : Memory D F)
    (phase : UpdatePhase D F) :
    Memory D F → UpdatePhase D F → Prop
  | stays {phase' : UpdatePhase D F}
      (hread : ∀ r, phase'.known = some r → phase.known = some r ∨ r = m)
      (hworking : ∀ d e dirty, phase' = .working d e dirty → phase = .working d e dirty)
      (hdirty : m.leaseId = some lease → phase.dirty → phase'.dirty) :
      UpdateEffect lease move m phase m phase'
  | revises {m' : Memory D F} {phase' : UpdatePhase D F} (hrevision : m.revision < m'.revision)
      (hlease : m'.leaseId = none ∨ m'.leaseId = some lease) (hread : phase'.known = none)
      (hworking : ∀ d e dirty, phase' ≠ .working d e dirty) :
      UpdateEffect lease move m phase m' phase'
  | remembers {d : D} {e : F} {dirty : Bool} (hphase : phase = .working d e dirty) (d' : D)
      (hlease : m.leaseId = some lease) :
      UpdateEffect lease move m phase { m with dialogue := d' } (.working d' e true)
  | leases {seen : Memory D F} (hphase : phase = .seen seen) (leaseExpiresAt : Time)
      (hrevision : m.revision = seen.revision) (hmove : move.changesLease phase) :
      UpdateEffect lease move m phase
        { m with leaseId := some lease, leaseExpiresAt := some leaseExpiresAt }
        (.working seen.dialogue seen.draft false)
  | unleases (hmove : move.changesLease phase) :
      UpdateEffect lease move m phase m.unlease .finished

theorem Memory.holds_iff {m : Memory D F} {lease : Uuid} {now : Time} :
    m.holds lease now ↔ m.leaseId = some lease ∧ m.leaseExpiresAt.any (now < ·) := by
  simp [Memory.holds]

theorem updateStep_effect (lease : Uuid) (move : UpdateMove D F) (m : Memory D F)
    (phase : UpdatePhase D F) :
    UpdateEffect lease move m phase (updateStep lease move m phase).1
      (updateStep lease move m phase).2 := by
  unfold updateStep
  split
  case h_1 now => -- read
    refine .stays (fun r hr ↦ ?_) (fun d e dirty h ↦ ?_) nofun
    · split at hr <;> simp_all [UpdatePhase.known]
    · split at h <;> cases h
  case h_2 sameClient now seen => -- recover
    rw [Memory.recoverLease]
    split
    · exact .revises m.revision.lt_succ_self (.inl rfl) rfl nofun
    · exact .stays nofun nofun nofun
  case h_3 => -- reread
    exact .stays (fun r hr ↦ .inr (Option.some.inj hr).symm) nofun nofun
  case h_4 now leaseExpiresAt seen => -- acquire
    split
    · next h => exact .leases rfl leaseExpiresAt (by simp_all [Memory.isFree]) rfl
    · exact .stays nofun nofun nofun
  case h_5 f now dialogue draft dirty => -- remember
    split
    · next h => exact .remembers rfl _ (Memory.holds_iff.mp h).1
    · exact .stays nofun nofun fun _ h ↦ h
  case h_6 f g now dialogue draft dirty => -- finalize
    split
    · next h => exact .revises m.revision.lt_succ_self (.inr (Memory.holds_iff.mp h).1) rfl nofun
    · exact .stays nofun nofun fun _ h ↦ h
  case h_7 now dialogue draft dirty => -- handOver
    split
    · next h => exact .revises m.revision.lt_succ_self (.inr (Memory.holds_iff.mp h).1) rfl nofun
    · exact .stays nofun nofun fun _ h ↦ h
  case h_8 dialogue draft dirty => -- fails
    exact .stays nofun nofun fun _ h ↦ h
  case h_9 dirty => -- release
    split
    · exact .unleases rfl
    · next h => exact .stays nofun nofun fun h' ↦ absurd h' h
  case h_10 f g seen => -- change
    split
    · next h => exact .revises m.revision.lt_succ_self (.inl h.2) rfl nofun
    · exact .stays nofun nofun nofun
  case h_11 => -- challenge
    exact .stays (fun r hr ↦ .inr (Option.some.inj hr).symm) nofun nofun
  case h_12 g seen => -- complete
    cases g with
    | none => exact .unleases rfl
    | some g => exact .revises m.revision.lt_succ_self (.inl rfl) rfl nofun
  case h_13 revision g => -- book
    split
    · next h => exact .revises m.revision.lt_succ_self (.inl h.2) rfl nofun
    · exact .stays nofun nofun nofun
  case h_14 f => -- act
    split
    · next h => exact .revises m.revision.lt_succ_self (.inl h) rfl nofun
    · exact .stays nofun nofun nofun
  case h_15 => exact .stays (fun _ ↦ .inl) (fun _ _ _ ↦ id) fun _ ↦ id

/-! ## What the operations know -/

/-- The session at `r` is the stored one, or the session has a later revision, or a turn that has
written its memory holds the lease. -/
structure FreshRead (lease : ω → Uuid) (s : Updates D F ω) (r : Memory D F) : Prop where
  revision_le : r.revision ≤ s.store.revision
  draft : r.revision = s.store.revision → r.draft = s.store.draft
  dialogue : r.revision = s.store.revision → NoneDirty lease s → r.dialogue = s.store.dialogue

/-- What the operations know is up to date, and the turn with the lease knows what is stored. -/
structure Current (lease : ω → Uuid) (s : Updates D F ω) : Prop where
  known : ∀ w r, (s.process w).known = some r → FreshRead lease s r
  working : ∀ w d e dirty, s.process w = .working d e dirty → s.store.leaseId = some (lease w) →
    d = s.store.dialogue ∧ e = s.store.draft

variable {lease : ω → Uuid} {s t : Updates D F ω} {w₀ : ω} {move : UpdateMove D F}

omit [DecidableEq ω] in
theorem FreshRead.refl (lease : ω → Uuid) (s : Updates D F ω) : FreshRead lease s s.store :=
  ⟨le_rfl, fun _ ↦ rfl, fun _ _ ↦ rfl⟩

omit [DecidableEq ω] in
/-- A statement that raises the revision keeps every session that was read up to date. -/
theorem FreshRead.of_lt {r : Memory D F} (h : FreshRead lease s r)
    (hrevision : s.store.revision < t.store.revision) : FreshRead lease t r := by
  have hlt := h.revision_le.trans_lt hrevision
  exact ⟨hlt.le, fun heq ↦ absurd heq hlt.ne, fun heq ↦ absurd heq hlt.ne⟩

omit [DecidableEq ω] in
/-- So does one that keeps the revision and the draft, if it keeps the dialogue unless it leaves a
turn with a written memory the lease. -/
theorem FreshRead.of_eq {r : Memory D F} (h : FreshRead lease s r)
    (hrevision : t.store.revision = s.store.revision) (hdraft : t.store.draft = s.store.draft)
    (hdialogue : NoneDirty lease t → NoneDirty lease s ∧ t.store.dialogue = s.store.dialogue) :
    FreshRead lease t r := by
  refine ⟨hrevision ▸ h.revision_le, fun heq ↦ ?_, fun heq hnone ↦ ?_⟩
  · rw [hdraft]
    exact h.draft (heq.trans hrevision)
  · obtain ⟨hnone', hdialogue⟩ := hdialogue hnone
    rw [hdialogue]
    exact h.dialogue (heq.trans hrevision) hnone'

/-- What an operation has read it has read before, or reads it now. -/
theorem UpdateEffect.known {l : Uuid} {m m' r : Memory D F} {phase phase' : UpdatePhase D F}
    (h : UpdateEffect l move m phase m' phase') (hr : phase'.known = some r) :
    phase.known = some r ∨ r = m := by
  cases h with
  | stays hread hworking hdirty => exact hread r hr
  | revises hrevision hlease hread hworking => rw [hread] at hr; cases hr
  | remembers hphase d' hlease => cases hr
  | leases hphase leaseExpiresAt hrevision hmove => cases hr
  | unleases hmove => cases hr

omit [DecidableEq ω] in
/-- The turn that did not make the step and has the lease had it before. -/
theorem noneDirty_of_process (hother : ∀ w, w ≠ w₀ → t.process w = s.process w)
    (hleaseId : t.store.leaseId = s.store.leaseId)
    (hself : s.store.leaseId = some (lease w₀) → (s.process w₀).dirty → (t.process w₀).dirty)
    (h : NoneDirty lease t) : NoneDirty lease s := by
  intro w hw
  have hnone := h w (hleaseId.trans hw)
  by_cases hw₀ : w = w₀
  · subst hw₀
    exact Bool.eq_false_iff.mpr fun hdirty ↦ Bool.eq_false_iff.mp hnone (hself hw hdirty)
  · rwa [hother w hw₀] at hnone

omit [DecidableEq ω] in
theorem Current.of_effect (hlease : Function.Injective lease) (h : Current lease s)
    (heffect : UpdateEffect (lease w₀) move s.store (s.process w₀) t.store (t.process w₀))
    (hother : ∀ w, w ≠ w₀ → t.process w = s.process w)
    (hC : move.changesLease (s.process w₀) → NoneDirty lease s) : Current lease t := by
  have hknown : ∀ w r, (t.process w).known = some r → FreshRead lease s r := by
    intro w r hr
    by_cases hw : w = w₀
    · subst hw
      obtain hr | rfl := heffect.known hr
      · exact h.known w r hr
      · exact .refl lease s
    · exact h.known w r (hother w hw ▸ hr)
  -- another turn does not get the lease
  have hworking : ∀ w d e dirty, w ≠ w₀ → t.process w = .working d e dirty →
      s.store.leaseId = some (lease w) → d = s.store.dialogue ∧ e = s.store.draft :=
    fun w d e dirty hw hp ↦ h.working w d e dirty (hother w hw ▸ hp)
  have hne : ∀ w, w ≠ w₀ → lease w₀ ≠ lease w := fun w hw heq ↦ hw (hlease heq).symm
  generalize hstore : t.store = m' at heffect
  generalize hself : t.process w₀ = phase' at heffect
  cases heffect with
  | stays hread hworking₀ hdirty =>
    refine ⟨fun w r hr ↦ (hknown w r hr).of_eq (by rw [hstore]) (by rw [hstore]) fun hnone ↦
      ⟨noneDirty_of_process hother (by rw [hstore]) (by rwa [hself]) hnone, by rw [hstore]⟩, ?_⟩
    intro w d e dirty hp hw
    rw [hstore] at hw ⊢
    by_cases hw₀ : w = w₀
    · subst hw₀
      exact h.working w d e dirty (hworking₀ d e dirty (hself.symm.trans hp)) hw
    · exact hworking w d e dirty hw₀ hp hw
  | revises hrevision hlease₀ hread hworking₀ =>
    refine ⟨fun w r hr ↦ (hknown w r hr).of_lt (hstore ▸ hrevision), ?_⟩
    intro w d e dirty hp hw
    rw [hstore] at hw
    by_cases hw₀ : w = w₀
    · subst hw₀
      exact absurd (hself.symm.trans hp) (hworking₀ d e dirty)
    · obtain hnone | hsome := hlease₀
      · rw [hnone] at hw; cases hw
      · exact absurd (Option.some.inj (hsome.symm.trans hw)) (hne w hw₀)
  | remembers hphase d' hlease₀ =>
    refine ⟨fun w r hr ↦ (hknown w r hr).of_eq (by rw [hstore]) (by rw [hstore]) fun hnone ↦ ?_, ?_⟩
    · have hdirty := hnone w₀ (by rw [hstore]; exact hlease₀)
      rw [hself] at hdirty
      cases hdirty
    intro w d e dirty hp hw
    rw [hstore] at hw ⊢
    by_cases hw₀ : w = w₀
    · subst hw₀
      cases hself.symm.trans hp
      exact ⟨rfl, (h.working w _ _ _ hphase hlease₀).2⟩
    · exact absurd (Option.some.inj (hlease₀.symm.trans hw)) (hne w hw₀)
  | leases hphase leaseExpiresAt hrevision hmove =>
    have hnone := hC hmove
    refine ⟨fun w r hr ↦ (hknown w r hr).of_eq (by rw [hstore]) (by rw [hstore]) fun _ ↦
      ⟨hnone, by rw [hstore]⟩, ?_⟩
    intro w d e dirty hp hw
    rw [hstore] at hw ⊢
    by_cases hw₀ : w = w₀
    · subst hw₀
      cases hself.symm.trans hp
      have hseen := h.known w _ (congrArg _ hphase)
      exact ⟨hseen.dialogue hrevision.symm hnone, hseen.draft hrevision.symm⟩
    · exact absurd (Option.some.inj hw) (hne w hw₀)
  | unleases hmove =>
    have hnone := hC hmove
    refine ⟨fun w r hr ↦ (hknown w r hr).of_eq (by rw [hstore]; rfl) (by rw [hstore]; rfl) fun _ ↦
      ⟨hnone, by rw [hstore]; rfl⟩, ?_⟩
    intro w d e dirty hp hw
    rw [hstore] at hw
    cases hw

theorem Current.step (hlease : Function.Injective lease) (h : Current lease s)
    {i : ω × UpdateMove D F} (hC : Careful lease s i) : Current lease (updatesStep lease s i) := by
  have heffect := updateStep_effect (lease i.1) i.2 s.store (s.process i.1)
  have hself : (updatesStep lease s i).process i.1 = _ := interleave_process_self
  have hstore : (updatesStep lease s i).store = _ := interleave_store
  rw [← hself, ← hstore] at heffect
  exact h.of_effect hlease heffect (fun w hw ↦ interleave_process_of_ne hw) hC.1

omit [DecidableEq ω] in
/-- The turn that may write knows what is stored. -/
theorem Current.holds (h : Current lease s) {w : ω} {d : D} {e : F} {dirty : Bool} {now : Time}
    (hphase : s.process w = .working d e dirty) (hholds : s.store.holds (lease w) now) :
    d = s.store.dialogue ∧ e = s.store.draft :=
  h.working w d e dirty hphase (Memory.holds_iff.mp hholds).1

omit [DecidableEq ω] in
/-- So does an operation that finds the session free at the revision it has read. -/
theorem Current.free (h : Current lease s) {w : ω} {r : Memory D F}
    (hknown : (s.process w).known = some r) (hrevision : s.store.revision = r.revision)
    (hleaseId : s.store.leaseId = none) : r.dialogue = s.store.dialogue :=
  (h.known w r hknown).dialogue hrevision.symm fun x hx ↦ by rw [hleaseId] at hx; cases hx

omit [DecidableEq ω] in
/-- What a careful step writes is computed from what is stored. -/
theorem Current.nothingLost (h : Current lease s) {i : ω × UpdateMove D F}
    (hC : Careful lease s i) : NothingLost lease s i := by
  obtain ⟨w, move⟩ := i
  refine ⟨fun d hd ↦ ?_, fun e he ↦ ?_⟩
  · dsimp only at hd
    unfold dialogueBase at hd
    split at hd
    case h_1 hphase => -- remember
      split at hd
      · next hholds => cases hd; exact (h.holds hphase hholds).1
      · cases hd
    case h_2 hphase => -- finalize
      split at hd
      · next hholds => cases hd; exact (h.holds hphase hholds).1
      · cases hd
    case h_3 hphase => -- change
      split at hd
      · next hfree => cases hd; exact h.free (congrArg _ hphase) hfree.1 hfree.2
      · cases hd
    case h_4 => -- act
      split at hd <;> cases hd
      rfl
    case h_5 => cases hd
  · dsimp only at he
    unfold draftBase at he
    split at he
    case h_1 hphase => -- finalize
      split at he
      · next hholds => cases he; exact (h.holds hphase hholds.2).2
      · cases he
    case h_2 hphase => -- change
      split at he
      · next hfree => cases he; exact (h.known w _ (congrArg _ hphase)).draft hfree.2.1.symm
      · cases he
    case h_3 g seen hphase => -- complete
      cases g with
      | none => cases he
      | some g =>
        cases he
        exact (h.known w _ (congrArg _ hphase)).draft (hC.2 seen (by rw [hphase]; rfl)).symm
    case h_4 => -- book
      split at he <;> cases he
      rfl
    case h_5 => cases he

/-! ## Runs -/

/-- Before the first statement of every operation. -/
def Updates.start (m : Memory D F) : Updates D F ω := ⟨m, fun _ ↦ .begin⟩

omit [DecidableEq ω] in
theorem current_start (lease : ω → Uuid) (m : Memory D F) :
    Current lease (Updates.start m) := ⟨nofun, nofun⟩

/-- In a careful run no update is lost. -/
theorem nothingLost_of_careful (hlease : Function.Injective lease) {m : Memory D F}
    {l : List (ω × UpdateMove D F)}
    (hC : AllSteps (updatesStep lease) (Careful lease) (.start m) l) :
    AllSteps (updatesStep lease) (NothingLost lease) (.start m) l :=
  allSteps_mono (fun _ _ h hC ↦ h.step hlease hC) (fun _ _ h hC ↦ h.nothingLost hC)
    (current_start lease m) hC

end

section

/-- A session whose dialogue and draft are lists of the entries made. -/
def emptyMemory : Memory (List ℕ) (List ℕ) := { dialogue := [], draft := [] }

/-- A legal message is remembered and answered, and then the customer starts a booking. -/
theorem nothingLost_of_careful_sample :
    AllSteps (updatesStep sampleLease) (NothingLost sampleLease) (.start emptyMemory)
      [(false, .read 0), (false, .acquire 0 90000), (false, .remember (1 :: ·) 20000),
        (false, .finalize (2 :: ·) none 40000), (false, .release), (true, .read 50000),
        (true, .change (3 :: ·) (some (4 :: ·)))] :=
  nothingLost_of_careful sampleLease_injective (by decide +kernel)

/-- The booking form is opened from what was read before a legal message was remembered, whose turn
then fails, and an account is verified from a draft that was read before a booking. -/
theorem updates_lost :
    ¬AllSteps (updatesStep sampleLease) (NothingLost sampleLease) (.start emptyMemory)
        [(true, .read 0), (false, .read 0), (false, .acquire 0 90000),
          (false, .remember (1 :: ·) 20000), (false, .fails), (false, .release),
          (true, .change (3 :: ·) none)] ∧
      ¬AllSteps (updatesStep sampleLease) (NothingLost sampleLease) (.start emptyMemory)
        [(true, .challenge), (false, .book 0 (some (1 :: ·))),
          (true, .complete (some (2 :: ·)))] := by
  decide +kernel

end

end KmtLegal
