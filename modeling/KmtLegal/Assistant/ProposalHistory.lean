import KmtLegal.Assistant.Proposals
import KmtLegal.Office
import KmtLegal.Relational.Kept

/-!
# What becomes of a proposal

A proposal ends once, and its action is carried out by the call that completes it and by no other.
Between the calls the records it concerns may change in any way.
-/

namespace KmtLegal.Proposals

open Relational Js

variable {P : Platform} {C : CairoClock} {A : Availability} {hash : Snapshot → String}
  {s s' s'' : ProposalStore} {id : Uuid}

/-! ## Calls -/

/-- One of the two calls, or any other change to the records. -/
inductive ProposalCall where
  | propose (call : ProposeAssistantAction)
  | resolve (call : ResolveAssistantAction)
  | change (records : ActionRecords)

/-- A call that throws is rolled back. -/
def proposalStep (P : Platform) (C : CairoClock) (A : Availability) (hash : Snapshot → String)
    (s : ProposalStore) : ProposalCall → ProposalStore
  | .propose call => commit ((proposeAssistantAction hash s call).map Prod.fst) s
  | .resolve call => commit ((resolveAssistantAction P C A hash s call).map Prod.fst) s
  | .change records => { s with records }

/-! ## What is to hold -/

/-- A proposal that is pending ends, with its other columns unchanged. -/
structure Ends (p p' : AssistantActionProposal) : Prop where
  pending : p.status = .pending
  status : p'.status ≠ .pending
  same : p' = { p with
    status := p'.status
    result := p'.result
    completedAt := p'.completedAt }

/-- A stored proposal is left alone, unless it is pending and ends. -/
def Follows (p p' : AssistantActionProposal) : Prop := p' = p ∨ Ends p p'

/-- The proposal becomes `COMPLETED`. -/
def BecomesCompleted (s s' : ProposalStore) (id : Uuid) : Prop :=
  ∃ p p', s.proposals.lookup id = some p ∧ s'.proposals.lookup id = some p' ∧
    p.status ≠ .completed ∧ p'.status = .completed

/-- The action of a pending proposal is carried out on the records the client has seen: `s'` is what
it leaves. -/
structure CarriesOut (P : Platform) (C : CairoClock) (A : Availability) (hash : Snapshot → String)
    (s : ProposalStore) (call : ResolveAssistantAction) (s' : ProposalStore)
    (p : AssistantActionProposal) (current : Snapshot) : Prop where
  stored : s.proposals.lookup call.proposalId = some p
  pending : p.status = .pending
  confirmed : call.confirm
  owner : call.actor.clientId = some p.clientId
  inTime : call.checkedAt < p.expiresAt
  seen : snapshot s.records call.actor p.payload p.sessionId = .ok current
  unchanged : p.snapshotHash = hash current
  performed : ∃ session records result,
    s.records.db.assistantSessions.lookup p.sessionId = some session ∧
      session.clientId = some p.clientId ∧ session.leaseId = none ∧
      performAction P C A s.records call session current p.payload = .ok (records, result) ∧
      s' = { s with records := { records with times := call.times } }.updateProposal
        call.proposalId (.complete result call.completedAt)

/-- The proposal of the call is a new one. -/
structure Creates (hash : Snapshot → String) (s : ProposalStore) (call : ProposeAssistantAction)
    (s' : ProposalStore) (p : AssistantActionProposal) (current : Snapshot) : Prop where
  fresh : ∀ id p, s.proposals.lookup id = some p →
    ¬(p.sessionId = call.sessionId ∧ p.messageId = call.messageId)
  seen : snapshot s.records call.actor call.draft call.sessionId = .ok current
  unused : s.proposals.lookup call.newId = none
  proposal : call.actor.clientId = some p.clientId ∧ p =
    { sessionId := call.sessionId
      clientId := p.clientId
      messageId := call.messageId
      payload := call.draft
      snapshotHash := hash current
      expiresAt := call.createdAt + 15 * 60000 }
  after : s' = { s with proposals := s.proposals.insert call.newId p }

/-- One proposal for each message of a session. -/
def OnePerMessage (s : ProposalStore) : Prop :=
  ∀ id id' p p', s.proposals.lookup id = some p → s.proposals.lookup id' = some p' →
    p.sessionId = p'.sessionId → p.messageId = p'.messageId → id = id'

/-! ## What a call does -/

/-- What `proposeAssistantAction` does when it does not throw. -/
theorem propose_cases {call : ProposeAssistantAction}
    (h : proposeAssistantAction hash s call = .ok (s', id)) :
    (s' = s ∧ ∃ p, s.proposals.lookup id = some p ∧ p.sessionId = call.sessionId ∧
        p.messageId = call.messageId) ∨
      ∃ p current, Creates hash s call s' p current ∧ id = call.newId := by
  unfold proposeAssistantAction at h
  obtain ⟨-, -, h⟩ := bind_eq_ok.mp h
  obtain ⟨session, -, h⟩ := bind_eq_ok.mp h
  split at h
  · rename_i id' p hfound
    cases h
    obtain ⟨hp, hkeys⟩ := Table.findFirst_eq_some hfound
    simp only [decide_eq_true_eq] at hkeys
    exact .inl ⟨rfl, p, hp, hkeys⟩
  · rename_i hnone
    obtain ⟨current, hcurrent, h⟩ := bind_eq_ok.mp h
    obtain ⟨-, -, h⟩ := bind_eq_ok.mp h
    obtain ⟨clientId, hclient, h⟩ := bind_eq_ok.mp h
    obtain ⟨proposals, hcreate, h⟩ := bind_eq_ok.mp h
    cases h
    obtain ⟨hunused, rfl⟩ := Table.create_eq_some.mp (orThrow_eq_ok.mp hcreate)
    refine .inr ⟨_, current, ⟨fun id p hp hkeys ↦ ?_, hcurrent, hunused,
      ⟨orThrow_eq_ok.mp hclient, rfl⟩, rfl⟩, rfl⟩
    exact Table.findFirst_eq_none.mp hnone id p hp (decide_eq_true hkeys)

theorem clientOf_ownedClient {r : ActionRecords} {actor : Principal} {clientId : Uuid}
    {client : Client} {user : UserProfile}
    (h : ownedClient r actor = .ok (clientId, client, user)) : actor.clientId = some clientId := by
  unfold ownedClient assertActiveServiceClient at h
  obtain ⟨⟨clientId', client'⟩, hactive, h⟩ := bind_eq_ok.mp h
  obtain ⟨user', -, h⟩ := bind_eq_ok.mp h
  cases h
  obtain ⟨clientId', hclient, hactive⟩ := bind_eq_ok.mp hactive
  obtain ⟨-, -, hactive⟩ := bind_eq_ok.mp hactive
  obtain ⟨client', -, hactive⟩ := bind_eq_ok.mp hactive
  cases hactive
  exact (Option.filter_eq_some_iff.mp (orThrow_eq_ok.mp hclient)).1

/-- What `resolveAssistantAction` does when it does not throw. -/
inductive Resolved (P : Platform) (C : CairoClock) (A : Availability) (hash : Snapshot → String)
    (s : ProposalStore) (call : ResolveAssistantAction) : ProposalStore → Resolution → Prop
  /-- The answer is the stored one. -/
  | again {p : AssistantActionProposal} (hp : s.proposals.lookup call.proposalId = some p)
    (hended : p.status ≠ .pending) : Resolved P C A hash s call s ⟨p.status, p.result⟩
  | cancelled {p : AssistantActionProposal} (hp : s.proposals.lookup call.proposalId = some p)
    (hpending : p.status = .pending) : Resolved P C A hash s call
      (s.updateProposal call.proposalId (.close .cancelled call.completedAt)) ⟨.cancelled, none⟩
  /-- The proposal has expired, or the records are not what they were. -/
  | stale {p : AssistantActionProposal} (hp : s.proposals.lookup call.proposalId = some p)
    (hpending : p.status = .pending) : Resolved P C A hash s call
      (s.updateProposal call.proposalId (.close .stale call.completedAt)) ⟨.stale, none⟩
  | completed {p : AssistantActionProposal} {current : Snapshot} {s' : ProposalStore}
    {result : ActionResult} (h : CarriesOut P C A hash s call s' p current) :
    Resolved P C A hash s call s' ⟨.completed, some result⟩

theorem resolve_cases {call : ResolveAssistantAction} {answer : Resolution}
    (h : resolveAssistantAction P C A hash s call = .ok (s', answer)) :
    Resolved P C A hash s call s' answer := by
  unfold resolveAssistantAction at h
  obtain ⟨-, -, h⟩ := bind_eq_ok.mp h
  obtain ⟨session, hsession, h⟩ := bind_eq_ok.mp h
  obtain ⟨_, hlease, h⟩ := bind_eq_ok.mp h
  obtain ⟨⟨clientId, client, user⟩, howner, h⟩ := bind_eq_ok.mp h
  obtain ⟨p, hp, h⟩ := bind_eq_ok.mp h
  obtain ⟨hstored, hkeys⟩ := Option.filter_eq_some_iff.mp (orThrow_eq_ok.mp hp)
  simp only [decide_eq_true_eq] at hkeys
  obtain ⟨hsession', hvalid⟩ := Option.filter_eq_some_iff.mp (orThrow_eq_ok.mp hsession)
  simp only [decide_eq_true_eq] at hvalid
  split_ifs at h with hpending hcancel
  · cases h
    exact .again hstored hpending
  · cases h
    exact .cancelled hstored (not_not.mp hpending)
  obtain ⟨current, hcurrent, h⟩ := bind_eq_ok.mp h
  split_ifs at h with hstale
  · cases h
    exact .stale hstored (not_not.mp hpending)
  obtain ⟨⟨records, result⟩, hperform, h⟩ := bind_eq_ok.mp h
  cases h
  rw [not_or, not_le, not_not] at hstale
  have hclient : call.actor.clientId = some clientId := clientOf_ownedClient howner
  refine .completed ⟨hstored, not_not.mp hpending, by simpa using hcancel, ?_, hstale.1, ?_,
    hstale.2, session, records, result, ?_, ?_, ?_, hperform, rfl⟩
  · rw [hclient, hkeys.2]
  · rwa [hkeys.1]
  · rwa [hkeys.1]
  · rw [hvalid.1, hclient, hkeys.2]
  · simpa using hlease

/-! ## Rows -/

theorem Follows.refl (p : AssistantActionProposal) : Follows p p := .inl rfl

theorem Follows.trans (p p' p'' : AssistantActionProposal) (h : Follows p p')
    (h' : Follows p' p'') : Follows p p'' := by
  rcases h with rfl | h
  · exact h'
  · rcases h' with rfl | h'
    · exact .inr h
    · exact absurd h'.pending h.status

/-- What a proposal keeps. -/
structure SameProposal (p p' : AssistantActionProposal) : Prop where
  sessionId : p'.sessionId = p.sessionId
  clientId : p'.clientId = p.clientId
  messageId : p'.messageId = p.messageId
  payload : p'.payload = p.payload
  snapshotHash : p'.snapshotHash = p.snapshotHash
  expiresAt : p'.expiresAt = p.expiresAt

theorem Follows.same {p p' : AssistantActionProposal} (h : Follows p p') : SameProposal p p' := by
  rcases h with rfl | h
  · exact ⟨rfl, rfl, rfl, rfl, rfl, rfl⟩
  · rw [h.same]
    exact ⟨rfl, rfl, rfl, rfl, rfl, rfl⟩

/-- A proposal that has ended stays as it is. -/
theorem Follows.eq_of_ended {p p' : AssistantActionProposal} (h : Follows p p')
    (hended : p.status ≠ .pending) : p' = p := by
  rcases h with rfl | h
  · rfl
  · exact absurd h.pending hended

theorem follows_close {p : AssistantActionProposal} {status : ProposalStatus} {now : Time}
    (hpending : p.status = .pending) (hstatus : status ≠ .pending) :
    Follows p (p.close status now) := .inr ⟨hpending, hstatus, rfl⟩

theorem follows_complete {p : AssistantActionProposal} {result : ActionResult} {now : Time}
    (hpending : p.status = .pending) : Follows p (p.complete result now) :=
  .inr ⟨hpending, nofun, rfl⟩

/-- Every stored proposal is there afterwards, left alone or ended. -/
def ProposalsKept (s s' : ProposalStore) : Prop := Table.RowsKept Follows s.proposals s'.proposals

theorem ProposalsKept.refl (s : ProposalStore) : ProposalsKept s s :=
  Table.RowsKept.refl Follows.refl

theorem ProposalsKept.trans (s s' s'' : ProposalStore) (h : ProposalsKept s s')
    (h' : ProposalsKept s' s'') : ProposalsKept s s'' := Table.RowsKept.trans Follows.trans h h'

theorem proposalsKept_update {f : AssistantActionProposal → AssistantActionProposal}
    {p : AssistantActionProposal} (hp : s.proposals.lookup id = some p) (hf : Follows p (f p)) :
    ProposalsKept s (s.updateProposal id f) := by
  refine Table.RowsKept.update Follows.refl fun q hq ↦ ?_
  cases hq.symm.trans hp
  exact hf

theorem Creates.kept {call : ProposeAssistantAction} {p : AssistantActionProposal}
    {current : Snapshot} (h : Creates hash s call s' p current) : ProposalsKept s s' := by
  rw [h.after]
  exact Table.RowsKept.insert Follows.refl h.unused

theorem CarriesOut.kept {call : ResolveAssistantAction} {p : AssistantActionProposal}
    {current : Snapshot} (h : CarriesOut P C A hash s call s' p current) :
    ProposalsKept s s' := by
  obtain ⟨session, records, result, -, -, -, -, rfl⟩ := h.performed
  exact proposalsKept_update h.stored (follows_complete h.pending)

theorem Resolved.kept {call : ResolveAssistantAction} {answer : Resolution}
    (h : Resolved P C A hash s call s' answer) : ProposalsKept s s' := by
  cases h with
  | again => exact .refl s
  | cancelled hp hpending => exact proposalsKept_update hp (follows_close hpending nofun)
  | stale hp hpending => exact proposalsKept_update hp (follows_close hpending nofun)
  | completed h => exact h.kept

/-! ## Steps -/

/-- What is returned of a transaction, or what was there before. -/
theorem commit_map_fst {ε σ α : Type} {body : Except ε (σ × α)} {t : σ} :
    commit (body.map Prod.fst) t = t ∧ (∃ e, body = .error e) ∨
      ∃ a, body = .ok (commit (body.map Prod.fst) t, a) := by
  cases body with
  | error e => exact .inl ⟨rfl, e, rfl⟩
  | ok r => exact .inr ⟨r.2, rfl⟩

theorem proposalStep_propose (P : Platform) (C : CairoClock) (A : Availability)
    (hash : Snapshot → String) (s : ProposalStore) (call : ProposeAssistantAction) :
    proposalStep P C A hash s (.propose call) = s ∧
        (∃ e, proposeAssistantAction hash s call = .error e) ∨
      ∃ id, proposeAssistantAction hash s call =
        .ok (proposalStep P C A hash s (.propose call), id) := commit_map_fst

theorem proposalStep_resolve (P : Platform) (C : CairoClock) (A : Availability)
    (hash : Snapshot → String) (s : ProposalStore) (call : ResolveAssistantAction) :
    proposalStep P C A hash s (.resolve call) = s ∧
        (∃ e, resolveAssistantAction P C A hash s call = .error e) ∨
      ∃ answer, resolveAssistantAction P C A hash s call =
        .ok (proposalStep P C A hash s (.resolve call), answer) := commit_map_fst

theorem proposalStep_kept (call : ProposalCall) :
    ProposalsKept s (proposalStep P C A hash s call) := by
  cases call with
  | propose call =>
    obtain ⟨hsame, -⟩ | ⟨id, hok⟩ := proposalStep_propose P C A hash s call
    · rw [hsame]
      exact .refl s
    · obtain ⟨hsame, -⟩ | ⟨p, current, hcreates, -⟩ := propose_cases hok
      · rw [hsame]
        exact .refl s
      · exact hcreates.kept
  | resolve call =>
    obtain ⟨hsame, -⟩ | ⟨answer, hok⟩ := proposalStep_resolve P C A hash s call
    · rw [hsame]
      exact .refl s
    · exact (resolve_cases hok).kept
  | change records => exact .refl s

/-! ## Completion -/

theorem not_becomesCompleted_self : ¬BecomesCompleted s s id := by
  rintro ⟨p, p', hp, hp', hstatus, hcompleted⟩
  cases hp.symm.trans hp'
  exact hstatus hcompleted

theorem not_becomesCompleted_close {k : Uuid} {status : ProposalStatus} {now : Time}
    (hstatus : status ≠ .completed) :
    ¬BecomesCompleted s (s.updateProposal k (.close status now)) id := by
  rintro ⟨p, p', hp, hp', hopen, hcompleted⟩
  rw [ProposalStore.updateProposal, Table.lookup_update, hp] at hp'
  split_ifs at hp'
  · cases hp'
    exact hstatus hcompleted
  · cases hp'
    exact hopen hcompleted

theorem Creates.not_becomesCompleted {call : ProposeAssistantAction} {p : AssistantActionProposal}
    {current : Snapshot} (h : Creates hash s call s' p current) : ¬BecomesCompleted s s' id := by
  rintro ⟨q, q', hq, hq', hopen, hcompleted⟩
  rw [h.after, Table.lookup_insert] at hq'
  split_ifs at hq' with hid
  · rw [hid, h.unused] at hq
    cases hq
  · cases hq.symm.trans hq'
    exact hopen hcompleted

theorem CarriesOut.becomesCompleted {call : ResolveAssistantAction} {p : AssistantActionProposal}
    {current : Snapshot} (h : CarriesOut P C A hash s call s' p current) :
    BecomesCompleted s s' call.proposalId := by
  obtain ⟨session, records, result, -, -, -, -, rfl⟩ := h.performed
  refine ⟨p, p.complete result call.completedAt, h.stored, ?_, by rw [h.pending]; nofun, rfl⟩
  rw [ProposalStore.updateProposal, Table.lookup_update_self, h.stored]
  rfl

/-- No other proposal becomes `COMPLETED`. -/
theorem CarriesOut.only {call : ResolveAssistantAction} {p : AssistantActionProposal}
    {current : Snapshot} (h : CarriesOut P C A hash s call s' p current)
    (hid : BecomesCompleted s s' id) : call.proposalId = id := by
  obtain ⟨session, records, result, -, -, -, -, rfl⟩ := h.performed
  obtain ⟨q, q', hq, hq', hopen, hcompleted⟩ := hid
  by_contra hne
  rw [ProposalStore.updateProposal, Table.lookup_update_of_ne _ _ (Ne.symm hne)] at hq'
  cases hq.symm.trans hq'
  exact hopen hcompleted

theorem Resolved.completes {call : ResolveAssistantAction} {answer : Resolution}
    (h : Resolved P C A hash s call s' answer) (hid : BecomesCompleted s s' id) :
    call.proposalId = id ∧ ∃ p current, CarriesOut P C A hash s call s' p current := by
  cases h with
  | again => exact absurd hid not_becomesCompleted_self
  | cancelled => exact absurd hid (not_becomesCompleted_close nofun)
  | stale => exact absurd hid (not_becomesCompleted_close nofun)
  | completed h => exact ⟨h.only hid, _, _, h⟩

/-- The records change only if a proposal is completed. -/
theorem Resolved.records {call : ResolveAssistantAction} {answer : Resolution}
    (h : Resolved P C A hash s call s' answer) :
    s'.records = s.records ∨ BecomesCompleted s s' call.proposalId := by
  cases h with
  | again | cancelled | stale => exact .inl rfl
  | completed h => exact .inr h.becomesCompleted

/-! ## One call -/

/-- What a call keeps to; `s'` is the state it leaves. -/
structure ProposalPromise (P : Platform) (C : CairoClock) (A : Availability)
    (hash : Snapshot → String) (s : ProposalStore) (call : ProposalCall) (s' : ProposalStore) :
    Prop where
  kept : ProposalsKept s s'
  /-- A proposal is completed by the call that carries it out. -/
  completed : ∀ id, BecomesCompleted s s' id → ∃ resolve p current, call = .resolve resolve ∧
    resolve.proposalId = id ∧ CarriesOut P C A hash s resolve s' p current
  /-- Nothing else has an effect on the records. -/
  records : s'.records = s.records ∨ (∃ records, call = .change records) ∨
    ∃ resolve, call = .resolve resolve ∧ BecomesCompleted s s' resolve.proposalId
  /-- A message that has a proposal gets no other one. -/
  retried : ∀ propose id p, call = .propose propose → s.proposals.lookup id = some p →
    p.sessionId = propose.sessionId → p.messageId = propose.messageId → s' = s
  /-- Whoever asks again is answered with what is stored. -/
  again : ∀ resolve p t answer, call = .resolve resolve →
    s.proposals.lookup resolve.proposalId = some p → p.status ≠ .pending →
    resolveAssistantAction P C A hash s resolve = .ok (t, answer) →
    t = s ∧ answer = ⟨p.status, p.result⟩
  /-- A call that fails leaves everything as it was. -/
  failed : ∀ resolve e, call = .resolve resolve →
    resolveAssistantAction P C A hash s resolve = .error e → s' = s

theorem Resolved.again_eq {call : ResolveAssistantAction} {answer : Resolution}
    {p : AssistantActionProposal} (h : Resolved P C A hash s call s' answer)
    (hp : s.proposals.lookup call.proposalId = some p) (hended : p.status ≠ .pending) :
    s' = s ∧ answer = ⟨p.status, p.result⟩ := by
  cases h with
  | again hp' =>
    cases hp.symm.trans hp'
    exact ⟨rfl, rfl⟩
  | cancelled hp' hpending | stale hp' hpending =>
    cases hp.symm.trans hp'
    exact absurd hpending hended
  | completed h =>
    cases hp.symm.trans h.stored
    exact absurd h.pending hended

theorem promise_propose (call : ProposeAssistantAction) :
    ProposalPromise P C A hash s (.propose call) (proposalStep P C A hash s (.propose call)) := by
  have hcases : proposalStep P C A hash s (.propose call) = s ∨
      ∃ p current, Creates hash s call (proposalStep P C A hash s (.propose call)) p current := by
    obtain ⟨hsame, -⟩ | ⟨id, hok⟩ := proposalStep_propose P C A hash s call
    · exact .inl hsame
    · obtain ⟨hsame, -⟩ | ⟨p, current, hcreates, -⟩ := propose_cases hok
      · exact .inl hsame
      · exact .inr ⟨p, current, hcreates⟩
  refine ⟨proposalStep_kept _, fun id hid ↦ ?_, .inl ?_,
    fun propose id p hcall hp hsession hmessage ↦ ?_, fun _ _ _ _ ↦ nofun, fun _ _ ↦ nofun⟩
  · rcases hcases with hsame | ⟨p, current, hcreates⟩
    · rw [hsame] at hid
      exact absurd hid not_becomesCompleted_self
    · exact absurd hid hcreates.not_becomesCompleted
  · rcases hcases with hsame | ⟨p, current, hcreates⟩
    · rw [hsame]
    · rw [hcreates.after]
  · cases hcall
    rcases hcases with hsame | ⟨q, current, hcreates⟩
    · exact hsame
    · exact absurd ⟨hsession, hmessage⟩ (hcreates.fresh id p hp)

theorem promise_resolve (call : ResolveAssistantAction) :
    ProposalPromise P C A hash s (.resolve call) (proposalStep P C A hash s (.resolve call)) := by
  have hcases : proposalStep P C A hash s (.resolve call) = s ∨
      ∃ answer, Resolved P C A hash s call (proposalStep P C A hash s (.resolve call)) answer := by
    obtain ⟨hsame, -⟩ | ⟨answer, hok⟩ := proposalStep_resolve P C A hash s call
    · exact .inl hsame
    · exact .inr ⟨answer, resolve_cases hok⟩
  refine ⟨proposalStep_kept _, fun id hid ↦ ?_, ?_, fun _ _ _ ↦ nofun,
    fun resolve p t answer hcall hp hended hok ↦ ?_, fun resolve e hcall herror ↦ ?_⟩
  · rcases hcases with hsame | ⟨answer, hresolved⟩
    · rw [hsame] at hid
      exact absurd hid not_becomesCompleted_self
    · obtain ⟨rfl, p, current, hcarries⟩ := hresolved.completes hid
      exact ⟨call, p, current, rfl, rfl, hcarries⟩
  · rcases hcases with hsame | ⟨answer, hresolved⟩
    · exact .inl (by rw [hsame])
    · rcases hresolved.records with hrecords | hcompleted
      · exact .inl hrecords
      · exact .inr (.inr ⟨call, rfl, hcompleted⟩)
  · cases hcall
    exact (resolve_cases hok).again_eq hp hended
  · cases hcall
    rw [proposalStep, herror]
    rfl

theorem promise (call : ProposalCall) :
    ProposalPromise P C A hash s call (proposalStep P C A hash s call) := by
  cases call with
  | propose call => exact promise_propose call
  | resolve call => exact promise_resolve call
  | change records =>
    exact ⟨proposalStep_kept _, fun _ hid ↦ absurd hid not_becomesCompleted_self,
      .inr (.inl ⟨records, rfl⟩), fun _ _ _ ↦ nofun, fun _ _ _ _ ↦ nofun, fun _ _ ↦ nofun⟩

/-! ## One proposal for each message -/

theorem OnePerMessage.updateProposal {f : AssistantActionProposal → AssistantActionProposal}
    (h : OnePerMessage s)
    (hf : ∀ p, (f p).sessionId = p.sessionId ∧ (f p).messageId = p.messageId) :
    OnePerMessage (s.updateProposal id f) := by
  have hkeys : ∀ k p, (s.updateProposal id f).proposals.lookup k = some p →
      ∃ q, s.proposals.lookup k = some q ∧ p.sessionId = q.sessionId ∧
        p.messageId = q.messageId := by
    intro k p hp
    rw [ProposalStore.updateProposal, Table.lookup_update] at hp
    split_ifs at hp
    · obtain ⟨q, hq, rfl⟩ := Option.map_eq_some_iff.mp hp
      exact ⟨q, hq, hf q⟩
    · exact ⟨p, hp, rfl, rfl⟩
  intro k k' p p' hp hp' hsession hmessage
  obtain ⟨q, hq, hqs, hqm⟩ := hkeys k p hp
  obtain ⟨q', hq', hqs', hqm'⟩ := hkeys k' p' hp'
  exact h k k' q q' hq hq' (by rw [← hqs, hsession, hqs']) (by rw [← hqm, hmessage, hqm'])

theorem OnePerMessage.creates {call : ProposeAssistantAction} {p : AssistantActionProposal}
    {current : Snapshot} (h : OnePerMessage s) (hcreates : Creates hash s call s' p current) :
    OnePerMessage s' := by
  have hp : p.sessionId = call.sessionId ∧ p.messageId = call.messageId := by
    rw [hcreates.proposal.2]
    exact ⟨rfl, rfl⟩
  rw [hcreates.after]
  intro k k' q q' hq hq' hsession hmessage
  rw [Table.lookup_insert] at hq hq'
  split_ifs at hq with hk
  · cases hq
    split_ifs at hq' with hk'
    · rw [hk, hk']
    · exact absurd ⟨by rw [← hsession, hp.1], by rw [← hmessage, hp.2]⟩ (hcreates.fresh k' q' hq')
  · split_ifs at hq' with hk'
    · cases hq'
      exact absurd ⟨by rw [hsession, hp.1], by rw [hmessage, hp.2]⟩ (hcreates.fresh k q hq)
    · exact h k k' q q' hq hq' hsession hmessage

theorem OnePerMessage.resolved {call : ResolveAssistantAction} {answer : Resolution}
    (h : OnePerMessage s) (hresolved : Resolved P C A hash s call s' answer) :
    OnePerMessage s' := by
  cases hresolved with
  | again => exact h
  | cancelled | stale => exact h.updateProposal fun _ ↦ ⟨rfl, rfl⟩
  | completed hcarries =>
    obtain ⟨session, records, result, -, -, -, -, rfl⟩ := hcarries.performed
    exact OnePerMessage.updateProposal h fun _ ↦ ⟨rfl, rfl⟩

theorem OnePerMessage.proposalStep (h : OnePerMessage s) (call : ProposalCall) :
    OnePerMessage (proposalStep P C A hash s call) := by
  cases call with
  | propose call =>
    obtain ⟨hsame, -⟩ | ⟨id, hok⟩ := proposalStep_propose P C A hash s call
    · rwa [hsame]
    · obtain ⟨hsame, -⟩ | ⟨p, current, hcreates, -⟩ := propose_cases hok
      · rwa [hsame]
      · exact h.creates hcreates
  | resolve call =>
    obtain ⟨hsame, -⟩ | ⟨answer, hok⟩ := proposalStep_resolve P C A hash s call
    · rwa [hsame]
    · exact h.resolved (resolve_cases hok)
  | change records => exact h

/-! ## Runs -/

theorem proposalsKept_run (P : Platform) (C : CairoClock) (A : Availability)
    (hash : Snapshot → String) (s : ProposalStore) (calls : List ProposalCall) :
    ProposalsKept s (run (proposalStep P C A hash) s calls) :=
  run_related (R := ProposalsKept) ProposalsKept.refl ProposalsKept.trans
    (fun _ call ↦ proposalStep_kept call) s calls

/-- What a run keeps to. -/
structure ProposalRun (P : Platform) (C : CairoClock) (A : Availability)
    (hash : Snapshot → String) (s : ProposalStore) (calls : List ProposalCall) : Prop where
  promise : AllSteps (proposalStep P C A hash)
    (fun s call ↦ ProposalPromise P C A hash s call (proposalStep P C A hash s call)) s calls
  onePerMessage : AllStates (proposalStep P C A hash) OnePerMessage s calls
  /-- No proposal is carried out a second time. -/
  once : ∀ before call between call' after id,
    calls = before ++ call :: (between ++ call' :: after) →
    BecomesCompleted (run (proposalStep P C A hash) s before)
      (run (proposalStep P C A hash) s (before ++ [call])) id →
    ¬BecomesCompleted (run (proposalStep P C A hash) s (before ++ call :: between))
      (run (proposalStep P C A hash) s (before ++ call :: between ++ [call'])) id
  /-- What is carried out is what was proposed, on records that are what they were then. -/
  seen : ∀ before propose between resolve after p p' proposed current,
    calls = before ++ .propose propose :: (between ++ .resolve resolve :: after) →
    Creates hash (run (proposalStep P C A hash) s before) propose
      (run (proposalStep P C A hash) s (before ++ [.propose propose])) p proposed →
    CarriesOut P C A hash
      (run (proposalStep P C A hash) s (before ++ .propose propose :: between)) resolve
      (run (proposalStep P C A hash) s (before ++ .propose propose :: between ++
        [.resolve resolve])) p' current →
    resolve.proposalId = propose.newId →
    p'.payload = propose.draft ∧ p'.clientId = p.clientId ∧ hash current = hash proposed ∧
      (Function.Injective hash → current = proposed)

theorem run_between (before : List ProposalCall) (call : ProposalCall)
    (between : List ProposalCall) :
    run (proposalStep P C A hash) s (before ++ call :: between) =
      run (proposalStep P C A hash) (run (proposalStep P C A hash) s (before ++ [call]))
        between := by
  rw [run_append, run_cons, run_concat]

/-- What was completed is found completed ever after. -/
theorem completed_once {before between : List ProposalCall} {call call' : ProposalCall}
    (h : BecomesCompleted (run (proposalStep P C A hash) s before)
      (run (proposalStep P C A hash) s (before ++ [call])) id) :
    ¬BecomesCompleted (run (proposalStep P C A hash) s (before ++ call :: between))
      (run (proposalStep P C A hash) s (before ++ call :: between ++ [call'])) id := by
  rintro ⟨q, -, hq, -, hopen, -⟩
  obtain ⟨-, p, -, hp, -, hcompleted⟩ := h
  obtain ⟨p', hp', hfollows⟩ := proposalsKept_run P C A hash _ between id p hp
  rw [run_between, hp'] at hq
  cases hq
  rw [hfollows.eq_of_ended (by rw [hcompleted]; nofun)] at hopen
  exact hopen hcompleted

/-- The stored proposal is the one that was made. -/
theorem carriesOut_seen {before between : List ProposalCall} {propose : ProposeAssistantAction}
    {resolve : ResolveAssistantAction} {p p' : AssistantActionProposal}
    {proposed current : Snapshot} {t : ProposalStore}
    (hcreates : Creates hash (run (proposalStep P C A hash) s before) propose
      (run (proposalStep P C A hash) s (before ++ [.propose propose])) p proposed)
    (hcarries : CarriesOut P C A hash
      (run (proposalStep P C A hash) s (before ++ .propose propose :: between)) resolve t p'
      current)
    (hid : resolve.proposalId = propose.newId) :
    p'.payload = propose.draft ∧ p'.clientId = p.clientId ∧ hash current = hash proposed := by
  have hp : (run (proposalStep P C A hash) s (before ++ [.propose propose])).proposals.lookup
      propose.newId = some p := by
    rw [hcreates.after]
    exact AList.lookup_insert _
  obtain ⟨q, hq, hfollows⟩ := proposalsKept_run P C A hash _ between propose.newId p hp
  have hstored := hcarries.stored
  rw [hid, run_between, hq] at hstored
  cases hstored
  have hsame := hfollows.same
  have hproposal := hcreates.proposal.2
  refine ⟨?_, hsame.clientId, ?_⟩
  · rw [hsame.payload, hproposal]
  · rw [← hcarries.unchanged, hsame.snapshotHash, hproposal]

/-- A proposal ends once; its action is carried out when it is completed and at no other time, for
the client it was made for, in time, with the session free, on the records as they were. -/
theorem assistant_proposals (P : Platform) (C : CairoClock) (A : Availability)
    (hash : Snapshot → String) (records : ActionRecords) (calls : List ProposalCall) :
    ProposalRun P C A hash { records } calls where
  promise := allSteps_of_invariant (J := fun _ ↦ True) (fun _ _ _ ↦ trivial)
    (fun _ call _ ↦ promise call) trivial calls
  onePerMessage := by
    refine allStates_of_invariant (fun _ call h ↦ h.proposalStep call) ?_ calls
    intro id id' p p' hp
    simp at hp
  once _ _ _ _ _ _ _ h := completed_once h
  seen before propose between resolve after p p' proposed current _ hcreates hcarries hid := by
    obtain ⟨hpayload, hclient, hhash⟩ := carriesOut_seen hcreates hcarries hid
    exact ⟨hpayload, hclient, hhash, fun hinjective ↦ hinjective hhash⟩

/-! ## A proposal -/

def sampleClient : Principal := ⟨"user", "Client", none, some "client"⟩

/-- A client in a conversation. -/
def sampleRecords : ActionRecords where
  db :=
    { clients := AList.insert "client"
        { userId := some "user", fullName := "Mona", phone := "01000000001", status := .active } ∅
      users := AList.insert "user" { status := .active, roleName := "Client" } ∅
      assistantSessions := AList.insert "session"
        { clientId := some "client", expiresAt := 1000 } ∅ }
  profiles := AList.insert "user" { name := "Mona" } ∅

def sampleProposal : ProposeAssistantAction where
  sessionId := "session"
  actor := sampleClient
  messageId := "message"
  draft := .preference .en
  enabled := true
  newId := "proposal"
  now := 1
  createdAt := 1

def sampleConfirmation : ResolveAssistantAction where
  sessionId := "session"
  actor := sampleClient
  proposalId := "proposal"
  confirm := true
  enabled := true
  now := 2
  checkedAt := 2
  completedAt := 2
  newPaymentId := ""
  invoiceId := ""
  newThreadId := ""
  newMessageId := ""
  newEventId := ""
  newClientId := ""
  newConsultationId := ""
  newAppointmentId := ""
  newRequestId := ""
  newReference := ""
  bookingHash := ""
  bookingClock := ⟨2, 2, 2, 2, 2⟩
  times := {}

/-- The proposal is confirmed, and the language is changed. -/
example (C : CairoClock) :
    let s := run (proposalStep plainPlatform C noTimes fun _ ↦ "") { records := sampleRecords }
      [.propose sampleProposal, .resolve sampleConfirmation]
    (s.proposals.lookup "proposal").map (·.status) = some .completed ∧
      (s.records.profiles.lookup "user").map (·.locale) = some "en" :=
  ⟨rfl, rfl⟩

end KmtLegal.Proposals
