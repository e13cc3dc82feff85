import KmtLegal.Assistant.ConversationTurn

/-!
# What a turn can do

Whatever the provider replies, and whatever the tools and the session answer: a turn asks the
provider at most four times and runs at most six tools, each only out of a batch of which every call
was accepted, and what it adds to the conversation has the form the provider's protocol asks for.
-/

namespace KmtLegal

open Relational Interaction Js

/-! ## Logs -/

def isChat : TurnEvent → Bool
  | ⟨.chat _, _⟩ => true
  | _ => false

/-- The provider is asked, for a reply or for research. -/
def isProviderCall : TurnEvent → Bool
  | ⟨.chat _, _⟩ | ⟨.researchLegal _, _⟩ => true
  | _ => false

/-- The calls of a reply. -/
def requestedCalls : TurnEvent → List ToolCall
  | ⟨.chat _, answer⟩ =>
    match (answer : Except Failure AIChatReply) with
    | .ok reply => reply.toolCalls
    | .error _ => []
  | _ => []

/-- The id of a call whose tool is run. -/
def executedId : TurnEvent → Option String
  | ⟨.execute _ _ callId, _⟩ => some callId
  | _ => none

/-- The ids of all calls the provider has asked for. -/
def requestedIds (log : List TurnEvent) : List String :=
  log.flatMap fun e ↦ (requestedCalls e).map ToolCall.id

def executedIds (log : List TurnEvent) : List String := log.filterMap executedId

def replied (input : AIChatInput) (reply : AIChatReply) : TurnEvent :=
  ⟨.chat input, Except.ok reply⟩

def activeEvent : TurnEvent := ⟨.assertActive, Except.ok ()⟩

def notAbortedEvent : TurnEvent := ⟨.aborted, false⟩

section

variable (P : Platform) (tools : List ConversationTool)

/-- Every call has a fresh id, a tool that is there, and arguments its schema accepts. -/
structure ValidBatch (callIds : List String) (calls : List ToolCall) : Prop where
  nodup : (calls.map ToolCall.id).Nodup
  fresh : ∀ call ∈ calls, call.id ∉ callIds
  accepted : ∀ call ∈ calls, ∃ argumentsValue, toolArguments P tools call = .ok argumentsValue

/-- The tool of the call at place `i` of the latest reply may be run: the whole batch is valid, the
calls before it, and no others, were run, and the session was active and the signal not aborted just
now. -/
structure MayExecute (before : List TurnEvent) (name : String) (argumentsValue : Json)
    (callId : String) : Prop where
  active : ∃ front, before = front ++ [activeEvent, notAbortedEvent]
  inBatch : ∃ (earlier since : List TurnEvent) (input : AIChatInput) (reply : AIChatReply) (i : ℕ)
    (call : ToolCall), before = earlier ++ replied input reply :: since ∧
      (∀ e ∈ since, isChat e = false) ∧
      ValidBatch P tools (requestedIds earlier) reply.toolCalls ∧
      executedIds since = (reply.toolCalls.take i).map ToolCall.id ∧
      reply.toolCalls[i]? = some call ∧ call.id = callId ∧ call.name = name ∧
      toolArguments P tools call = .ok argumentsValue

/-- A tool is run only where it may be. -/
def EventPermitted (before : List TurnEvent) : TurnEvent → Prop
  | ⟨.execute name argumentsValue callId, _⟩ =>
    MayExecute P tools before name argumentsValue callId
  | _ => True

/-- Every event of the log is permitted by what came before. -/
def Obeys (history log : List TurnEvent) : Prop :=
  ∀ before e after, log = before ++ e :: after → EventPermitted P tools (history ++ before) e

end

/-- Blocks of a message with calls and the messages that answer them, in order; with the ids of all
calls. -/
inductive ToolBlocks : List AIChatMessage → List String → Prop
  | nil : ToolBlocks [] []
  | block {messages results : List AIChatMessage} {ids : List String} {calls : List ToolCall}
      (h : ToolBlocks messages ids) (hne : calls ≠ [])
      (hresults : List.Forall₂ (fun call message ↦
        ∃ content, message = AIChatMessage.tool call.id content) calls results) :
      ToolBlocks (messages ++ .assistant none calls :: results) (ids ++ calls.map ToolCall.id)

/-- What a turn promises of its questions and its result. -/
structure TurnBounded (P : Platform) (turn : ConversationTurn) (log : List TurnEvent)
    (r : Except Failure TurnResult) : Prop where
  asked : log.countP isChat ≤ 4
  executed : (executedIds log).length ≤ 6
  obeys : Obeys P turn.tools [] log
  additions : ∀ result, r = .ok result → ∃ blocks ids,
    result.additions = blocks ++ [.assistant (some result.text) []] ∧ ToolBlocks blocks ids ∧
      ids.Nodup

/-! ## Batches -/

section

variable {P : Platform} {tools : List ConversationTool} {history log log' : List TurnEvent}

theorem validateCalls_eq_ok {callIds : List String} {calls : List ToolCall}
    {validated : List (ToolCall × Json)} (h : validateCalls P tools callIds calls = .ok validated) :
    ValidBatch P tools callIds calls ∧ validated.map Prod.fst = calls ∧
      ∀ v ∈ validated, toolArguments P tools v.1 = .ok v.2 := by
  induction calls generalizing callIds validated with
  | nil =>
    cases h
    exact ⟨⟨List.nodup_nil, nofun, nofun⟩, rfl, nofun⟩
  | cons call calls ih =>
    obtain ⟨_, hfresh, h⟩ := bind_eq_ok.mp h
    obtain ⟨argumentsValue, harguments, h⟩ := bind_eq_ok.mp h
    obtain ⟨validated', hvalidated, h⟩ := bind_eq_ok.mp h
    cases h
    obtain ⟨hbatch, hmap, hall⟩ := ih hvalidated
    have hfresh := throwIf_eq_ok.mp hfresh
    refine ⟨⟨?_, ?_, ?_⟩, ?_, ?_⟩
    · rw [List.map_cons, List.nodup_cons]
      refine ⟨fun hmem ↦ ?_, hbatch.nodup⟩
      obtain ⟨other, hother, hid⟩ := List.mem_map.mp hmem
      apply hbatch.fresh other hother
      rw [hid]
      exact List.mem_append_right _ List.mem_cons_self
    · intro other hother
      rcases List.mem_cons.mp hother with rfl | hother
      · exact hfresh
      · exact fun hmem ↦ hbatch.fresh other hother (List.mem_append_left _ hmem)
    · intro other hother
      rcases List.mem_cons.mp hother with rfl | hother
      · exact ⟨argumentsValue, harguments⟩
      · exact hbatch.accepted other hother
    · rw [List.map_cons, hmap]
    · intro v hv
      rcases List.mem_cons.mp hv with rfl | hv
      · exact harguments
      · exact hall v hv

/-! ## Logs that obey -/

theorem obeys_nil : Obeys P tools history [] := by
  intro before e after h
  cases before <;> cases h

theorem obeys_cons {e : TurnEvent} :
    Obeys P tools history (e :: log) ↔
      EventPermitted P tools history e ∧ Obeys P tools (history ++ [e]) log := by
  constructor
  · intro h
    refine ⟨?_, ?_⟩
    · simpa using h [] e log rfl
    · rintro before e' after rfl
      simpa using h (e :: before) e' after rfl
  · rintro ⟨hfirst, hrest⟩ before e' after h
    cases before with
    | nil =>
      cases h
      simpa using hfirst
    | cons _ before =>
      cases h
      simpa using hrest before e' after rfl

theorem obeys_append :
    Obeys P tools history (log ++ log') ↔
      Obeys P tools history log ∧ Obeys P tools (history ++ log) log' := by
  induction log generalizing history with
  | nil => simp [obeys_nil]
  | cons e log ih =>
    rw [List.cons_append, obeys_cons, obeys_cons, ih, and_assoc, List.append_assoc]
    rfl

/-- Where no tool is run nothing is asked for permission. -/
theorem obeys_of_executedIds (h : executedIds log = []) : Obeys P tools history log := by
  rintro before ⟨q, y⟩ after rfl
  have he := List.filterMap_eq_nil_iff.mp h ⟨q, y⟩ (by simp)
  cases q with
  | execute _ _ _ => cases he
  | assertActive => trivial
  | aborted => trivial
  | chat _ => trivial
  | researchLegal _ => trivial

@[simp] theorem executedIds_append :
    executedIds (log ++ log') = executedIds log ++ executedIds log' := List.filterMap_append

@[simp] theorem requestedIds_append :
    requestedIds (log ++ log') = requestedIds log ++ requestedIds log' := List.flatMap_append

/-! ## Single questions -/

theorem runs_assertActive {r : Except Failure Unit} (h : Runs assertActive log r) :
    (log = [activeEvent] ∧ r = .ok ()) ∨
      ∃ e, log = [⟨.assertActive, Except.error e⟩] ∧ r = .error e := by
  obtain ⟨y, log', rfl, hnext⟩ := runs_ask.mp h
  obtain ⟨rfl, rfl⟩ := runs_lift.mp hnext
  cases r with
  | ok a => exact .inl ⟨rfl, rfl⟩
  | error e => exact .inr ⟨e, rfl, rfl⟩

theorem runs_throwIfAborted {r : Except Failure Unit} (h : Runs throwIfAborted log r) :
    (log = [notAbortedEvent] ∧ r = .ok ()) ∨
      log = [⟨.aborted, true⟩] ∧ r = .error providerTimedOut := by
  obtain ⟨y, log', rfl, hnext⟩ := runs_ask.mp h
  obtain ⟨rfl, rfl⟩ := runs_lift.mp hnext
  cases y with
  | false => exact .inl ⟨rfl, rfl⟩
  | true => exact .inr ⟨rfl, rfl⟩

theorem runs_chat {input : AIChatInput} {r : Except Failure AIChatReply}
    (h : Runs (chat input) log r) : log = [⟨.chat input, r⟩] := by
  obtain ⟨y, log', rfl, hnext⟩ := runs_ask.mp h
  obtain ⟨rfl, rfl⟩ := runs_lift.mp hnext
  rfl

theorem runs_execute {name callId : String} {argumentsValue : Json} {r : Except Failure Json}
    (h : Runs (execute name argumentsValue callId) log r) :
    log = [⟨.execute name argumentsValue callId, r⟩] := by
  obtain ⟨y, log', rfl, hnext⟩ := runs_ask.mp h
  obtain ⟨rfl, rfl⟩ := runs_lift.mp hnext
  rfl

/-! ## A batch -/

/-- The events that lead to a run of a tool, with what the tool says. -/
def executeEvents (v : ToolCall × Json) (answer : Except Failure Json) : List TurnEvent :=
  [activeEvent, notAbortedEvent, ⟨.execute v.1.name v.2 v.1.id, answer⟩]

/-- One call of a batch: it is run, or something fails before. -/
theorem runs_executeCalls_cons {v : ToolCall × Json} {validated : List (ToolCall × Json)}
    {r : Except Failure (List AIChatMessage)} (h : Runs (executeCalls (v :: validated)) log r) :
    ((∀ e ∈ log, isChat e = false) ∧ executedIds log = [] ∧ ∃ e, r = .error e) ∨
      (∃ answer e, log = executeEvents v answer ∧ r = .error e) ∨
        ∃ value content log', log = executeEvents v (.ok value) ++ log' ∧
          ((∃ e, Runs (executeCalls validated) log' (.error e) ∧ r = .error e) ∨
            ∃ messages, Runs (executeCalls validated) log' (.ok messages) ∧
              r = .ok (.tool v.1.id content :: messages)) := by
  obtain ⟨call, argumentsValue⟩ := v
  rw [executeCalls] at h
  rcases runs_bind.mp h with ⟨e, hactive, rfl⟩ | ⟨_, before, after, rfl, hactive, hthen⟩
  · rcases runs_assertActive hactive with ⟨-, hr⟩ | ⟨e, rfl, -⟩
    · cases hr
    · exact .inl ⟨by simp [isChat], rfl, _, rfl⟩
  rcases runs_assertActive hactive with ⟨rfl, -⟩ | ⟨_, -, hr⟩
  swap
  · cases hr
  rcases runs_bind.mp hthen with ⟨e, haborted, rfl⟩ | ⟨_, before, after, rfl, haborted, hrun⟩
  · rcases runs_throwIfAborted haborted with ⟨-, hr⟩ | ⟨rfl, -⟩
    · cases hr
    · exact .inl ⟨by simp [isChat, activeEvent], rfl, _, rfl⟩
  rcases runs_throwIfAborted haborted with ⟨rfl, -⟩ | ⟨-, hr⟩
  swap
  · cases hr
  rcases runs_bind.mp hrun with ⟨e, hexecute, rfl⟩ | ⟨value, before, after, rfl, hexecute, hlast⟩
  · rw [runs_execute hexecute]
    exact .inr (.inl ⟨_, e, rfl, rfl⟩)
  rw [runs_execute hexecute]
  rcases runs_lift_bind.mp hlast with ⟨e, -, rfl, rfl⟩ | ⟨message, hmessage, hmore⟩
  · exact .inr (.inl ⟨_, e, rfl, rfl⟩)
  obtain ⟨_, -, hcontent⟩ := bind_eq_ok.mp hmessage
  cases hcontent
  refine .inr (.inr ⟨value, value.stringify, after, rfl, ?_⟩)
  rcases runs_bind.mp hmore with ⟨e, hrest, rfl⟩ | ⟨messages, before, rest, rfl, hrest, hdone⟩
  · exact .inl ⟨e, hrest, rfl⟩
  · obtain ⟨rfl, rfl⟩ := runs_done.mp hdone
    rw [List.append_nil]
    exact .inr ⟨messages, hrest, rfl⟩

/-- The place in a batch: the calls before it were run since the reply, and no others. -/
structure InBatch (P : Platform) (tools : List ConversationTool) (history : List TurnEvent)
    (calls : List ToolCall) (i : ℕ) : Prop where
  split : ∃ (earlier since : List TurnEvent) (input : AIChatInput) (reply : AIChatReply),
    history = earlier ++ replied input reply :: since ∧ reply.toolCalls = calls ∧
      (∀ e ∈ since, isChat e = false) ∧ ValidBatch P tools (requestedIds earlier) calls ∧
      executedIds since = (calls.take i).map ToolCall.id

theorem InBatch.obeys {v : ToolCall × Json} {calls : List ToolCall} {i : ℕ}
    (h : InBatch P tools history calls i) (hcall : calls[i]? = some v.1)
    (harguments : toolArguments P tools v.1 = .ok v.2) (answer : Except Failure Json) :
    Obeys P tools history (executeEvents v answer) := by
  rw [executeEvents, obeys_cons, obeys_cons, obeys_cons]
  refine ⟨trivial, trivial, ?_, obeys_nil⟩
  obtain ⟨earlier, since, input, reply, rfl, hcalls, hsince, hvalid, hids⟩ := h.split
  refine ⟨⟨earlier ++ replied input reply :: since, by simp⟩, earlier,
    since ++ [activeEvent, notAbortedEvent], input, reply, i, v.1, by simp, ?_, ?_, ?_, ?_, rfl,
    rfl, harguments⟩
  · intro e he
    rcases List.mem_append.mp he with he | he
    · exact hsince e he
    · rcases List.mem_cons.mp he with rfl | he
      · rfl
      · cases List.mem_singleton.mp he
        rfl
  · rwa [hcalls]
  · rw [executedIds_append, hids, hcalls]
    exact List.append_nil _
  · rw [hcalls, hcall]

theorem InBatch.next {v : ToolCall × Json} {calls : List ToolCall} {i : ℕ}
    (h : InBatch P tools history calls i) (hcall : calls[i]? = some v.1)
    (answer : Except Failure Json) :
    InBatch P tools (history ++ executeEvents v answer) calls (i + 1) := by
  obtain ⟨earlier, since, input, reply, rfl, hcalls, hsince, hvalid, hids⟩ := h.split
  refine ⟨earlier, since ++ executeEvents v answer, input, reply, by simp, hcalls, ?_, hvalid, ?_⟩
  · intro e he
    rcases List.mem_append.mp he with he | he
    · exact hsince e he
    · simp only [executeEvents, List.mem_cons, List.not_mem_nil, or_false] at he
      rcases he with rfl | rfl | rfl <;> rfl
  · rw [executedIds_append, hids, List.take_add_one, hcall, List.map_append]
    rfl

/-- The rest of a batch: its tools are run in order, as far as nothing fails. -/
theorem runs_executeCalls {validated : List (ToolCall × Json)} {calls : List ToolCall} {i : ℕ}
    {r : Except Failure (List AIChatMessage)} (h : Runs (executeCalls validated) log r)
    (hbatch : InBatch P tools history calls i) (hrest : validated.map Prod.fst = calls.drop i)
    (harguments : ∀ v ∈ validated, toolArguments P tools v.1 = .ok v.2) :
    Obeys P tools history log ∧ (∀ e ∈ log, isChat e = false) ∧
      (executedIds log).length ≤ validated.length ∧
      ∀ messages, r = .ok messages → List.Forall₂ (fun call message ↦
          ∃ content, message = AIChatMessage.tool call.id content)
        (validated.map Prod.fst) messages := by
  induction validated generalizing log r i history with
  | nil =>
    obtain ⟨rfl, rfl⟩ := runs_done.mp h
    refine ⟨obeys_nil, fun _ he ↦ absurd he List.not_mem_nil, le_rfl, ?_⟩
    rintro messages ⟨⟩
    exact .nil
  | cons v validated ih =>
    have hcall : calls[i]? = some v.1 := by
      have hhead := congrArg List.head? hrest
      rwa [List.head?_drop, eq_comm] at hhead
    have hdrop : validated.map Prod.fst = calls.drop (i + 1) := by
      have htail := congrArg List.tail hrest
      rwa [List.tail_drop] at htail
    have hv := harguments v List.mem_cons_self
    have hchat : ∀ answer, ∀ e ∈ executeEvents v answer, isChat e = false := by
      intro answer e he
      simp only [executeEvents, List.mem_cons, List.not_mem_nil, or_false] at he
      rcases he with rfl | rfl | rfl <;> rfl
    rcases runs_executeCalls_cons h with ⟨hquiet, hids, e, rfl⟩ | ⟨answer, e, rfl, rfl⟩ |
      ⟨value, content, log', rfl, hlater⟩
    · refine ⟨obeys_of_executedIds hids, hquiet, ?_, nofun⟩
      rw [hids]
      exact Nat.zero_le _
    · exact ⟨hbatch.obeys hcall hv answer, hchat answer, Nat.succ_le_succ (Nat.zero_le _), nofun⟩
    · have hrec : ∀ r', Runs (executeCalls validated) log' r' → _ := fun r' hr' ↦
        ih hr' (hbatch.next hcall (.ok value)) hdrop
          fun v' hv' ↦ harguments v' (List.mem_cons_of_mem _ hv')
      have hall : ∀ r', Runs (executeCalls validated) log' r' →
          Obeys P tools history (executeEvents v (.ok value) ++ log') ∧
          (∀ e ∈ executeEvents v (.ok value) ++ log', isChat e = false) ∧
          (executedIds (executeEvents v (.ok value) ++ log')).length ≤ validated.length + 1 := by
        intro r' hr'
        obtain ⟨hobeys, hquiet, hlength, -⟩ := hrec r' hr'
        refine ⟨obeys_append.mpr ⟨hbatch.obeys hcall hv _, hobeys⟩, ?_, ?_⟩
        · intro e he
          rcases List.mem_append.mp he with he | he
          · exact hchat _ e he
          · exact hquiet e he
        · rw [executedIds_append, List.length_append, Nat.add_comm]
          exact Nat.succ_le_succ hlength
      rcases hlater with ⟨e, hr', rfl⟩ | ⟨messages, hr', rfl⟩
      · obtain ⟨hobeys, hquiet, hlength⟩ := hall _ hr'
        exact ⟨hobeys, hquiet, hlength, nofun⟩
      · obtain ⟨hobeys, hquiet, hlength⟩ := hall _ hr'
        refine ⟨hobeys, hquiet, hlength, ?_⟩
        rintro _ ⟨⟩
        exact .cons ⟨content, rfl⟩ ((hrec _ hr').2.2.2 messages rfl)

/-! ## The rounds -/

/-- The events of a round up to the second look at the session. -/
def replyEvents (input : AIChatInput) (reply : AIChatReply) : List TurnEvent :=
  [activeEvent, notAbortedEvent, replied input reply, activeEvent]

/-- The start of a round: something fails before a reply is used, or there is one. -/
theorem runs_reply {α : Type} {input : AIChatInput} {k : AIChatReply → TurnProgram α}
    {r : Except Failure α}
    (h : Runs (do
      assertActive
      throwIfAborted
      let reply ← chat input
      assertActive
      k reply) log r) :
    (executedIds log = [] ∧ log.countP isChat ≤ 1 ∧ ∃ e, r = .error e) ∨
      ∃ reply log', log = replyEvents input reply ++ log' ∧ Runs (k reply) log' r := by
  rcases runs_bind.mp h with ⟨e, hactive, rfl⟩ | ⟨_, before, after, rfl, hactive, hthen⟩
  · rcases runs_assertActive hactive with ⟨-, hr⟩ | ⟨e, rfl, -⟩
    · cases hr
    · exact .inl ⟨rfl, by simp [isChat], _, rfl⟩
  rcases runs_assertActive hactive with ⟨rfl, -⟩ | ⟨_, -, hr⟩
  swap
  · cases hr
  rcases runs_bind.mp hthen with ⟨e, haborted, rfl⟩ | ⟨_, before, after, rfl, haborted, hask⟩
  · rcases runs_throwIfAborted haborted with ⟨-, hr⟩ | ⟨rfl, -⟩
    · cases hr
    · exact .inl ⟨rfl, by simp [isChat, activeEvent], _, rfl⟩
  rcases runs_throwIfAborted haborted with ⟨rfl, -⟩ | ⟨-, hr⟩
  swap
  · cases hr
  rcases runs_bind.mp hask with ⟨e, hchat, rfl⟩ | ⟨reply, before, after, rfl, hchat, hagain⟩
  · rw [runs_chat hchat]
    exact .inl ⟨rfl, by simp [isChat, activeEvent, notAbortedEvent], _, rfl⟩
  rw [runs_chat hchat]
  rcases runs_bind.mp hagain with ⟨e, hactive', rfl⟩ | ⟨_, before, after, rfl, hactive', hk⟩
  · rcases runs_assertActive hactive' with ⟨-, hr⟩ | ⟨e, rfl, -⟩
    · cases hr
    · exact .inl ⟨rfl, Nat.le_refl 1, _, rfl⟩
  rcases runs_assertActive hactive' with ⟨rfl, -⟩ | ⟨_, -, hr⟩
  · exact .inr ⟨reply, after, rfl, hk⟩
  · cases hr

theorem finishTurn_eq_ok {turn : ConversationTurn} {additions : List AIChatMessage}
    {reply : AIChatReply} {result : TurnResult} (h : finishTurn turn additions reply = .ok result) :
    result.additions = additions ++ [.assistant (some result.text) []] := by
  obtain ⟨_, -, h⟩ := bind_eq_ok.mp h
  cases h
  rfl

theorem acceptCalls_eq_ok {turn : ConversationTurn} {rounds toolCount : ℕ} {callIds : List String}
    {calls : List ToolCall} {validated : List (ToolCall × Json)}
    (h : acceptCalls P turn rounds toolCount callIds calls = .ok validated) :
    toolCount + calls.length ≤ 6 ∧ ValidBatch P turn.tools callIds calls ∧
      validated.map Prod.fst = calls ∧
      ∀ v ∈ validated, toolArguments P turn.tools v.1 = .ok v.2 := by
  obtain ⟨_, hlimit, h⟩ := bind_eq_ok.mp h
  have hlimit := throwIf_eq_ok.mp hlimit
  exact ⟨not_lt.mp fun hmore ↦ hlimit (.inr hmore), validateCalls_eq_ok h⟩

/-- A batch that asks for no reply requests no calls. -/
theorem requestedIds_of_noChat {batch : List TurnEvent} (h : ∀ e ∈ batch, isChat e = false) :
    batch.countP isChat = 0 ∧ requestedIds batch = [] := by
  constructor
  · rw [List.countP_eq_zero]
    intro e he
    rw [h e he]
    decide
  · apply List.flatMap_eq_nil_iff.mpr
    intro e he
    have hchat := h e he
    obtain ⟨q, y⟩ := e
    cases q with
    | chat _ => cases hchat
    | assertActive => rfl
    | aborted => rfl
    | researchLegal _ => rfl
    | execute _ _ _ => rfl

theorem requestedIds_replyEvents (input : AIChatInput) (reply : AIChatReply) :
    requestedIds (replyEvents input reply) = reply.toolCalls.map ToolCall.id := by
  simp [requestedIds, replyEvents, requestedCalls, replied, activeEvent, notAbortedEvent]

/-- The calls of a reply that was accepted are a batch of which none is executed yet. -/
theorem InBatch.start {input : AIChatInput} {reply : AIChatReply}
    (h : ValidBatch P tools (requestedIds history) reply.toolCalls) :
    InBatch P tools (history ++ replyEvents input reply) reply.toolCalls 0 := by
  refine ⟨history ++ [activeEvent, notAbortedEvent], [activeEvent], input, reply,
    by simp [replyEvents], rfl, by simp [isChat, activeEvent], ?_, rfl⟩
  rw [requestedIds_append]
  exact (List.append_nil (requestedIds history)).symm ▸ h

/-- The ids of a valid batch are new, and new together with those before. -/
theorem ValidBatch.nodup_append {callIds : List String} {calls : List ToolCall}
    (h : ValidBatch P tools callIds calls) (hnodup : callIds.Nodup) :
    (callIds ++ calls.map ToolCall.id).Nodup := by
  refine List.nodup_append.mpr ⟨hnodup, h.nodup, ?_⟩
  rintro id hid _ hid' rfl
  obtain ⟨call, hcall, rfl⟩ := List.mem_map.mp hid'
  exact h.fresh call hcall hid

theorem runs_conversationRounds {turn : ConversationTurn} {rounds : ℕ}
    {additions : List AIChatMessage} {toolCount : ℕ} {callIds : List String}
    {r : Except Failure TurnResult}
    (h : Runs (conversationRounds P turn rounds additions toolCount callIds) log r)
    (hids : requestedIds history = callIds) (hcount : toolCount ≤ 6)
    (hblocks : ToolBlocks additions callIds) (hnodup : callIds.Nodup) :
    Obeys P turn.tools history log ∧ log.countP isChat ≤ rounds ∧
      toolCount + (executedIds log).length ≤ 6 ∧
      ∀ result, r = .ok result → ∃ blocks ids,
        result.additions = blocks ++ [.assistant (some result.text) []] ∧ ToolBlocks blocks ids ∧
          ids.Nodup := by
  induction rounds generalizing additions toolCount callIds log r history with
  | zero =>
    obtain ⟨rfl, rfl⟩ := runs_throw.mp h
    exact ⟨obeys_nil, le_rfl, hcount, nofun⟩
  | succ rounds ih =>
    rw [conversationRounds] at h
    rcases runs_reply h with ⟨hnone, hasked, e, rfl⟩ | ⟨reply, log', rfl, hrun⟩
    · refine ⟨obeys_of_executedIds hnone, hasked.trans (Nat.le_add_left 1 _), ?_, nofun⟩
      rw [hnone]
      exact hcount
    clear h
    have hreply : ∀ input, (replyEvents input reply).countP isChat = 1 := fun input ↦ rfl
    have hquiet : ∀ input, Obeys P turn.tools history (replyEvents input reply) :=
      fun input ↦ obeys_of_executedIds rfl
    split_ifs at hrun with hcalls
    · -- the last round
      obtain ⟨rfl, rfl⟩ := runs_lift.mp hrun
      rw [List.append_nil]
      refine ⟨hquiet _, (hreply _).le.trans (Nat.le_add_left 1 _), hcount, fun result hresult ↦ ?_⟩
      exact ⟨additions, callIds, finishTurn_eq_ok hresult, hblocks, hnodup⟩
    rcases runs_lift_bind.mp hrun with ⟨e, -, rfl, rfl⟩ | ⟨validated, haccept, hbatch⟩
    · rw [List.append_nil]
      exact ⟨hquiet _, (hreply _).le.trans (Nat.le_add_left 1 _), hcount, nofun⟩
    obtain ⟨hlimit, hvalid, hmap, harguments⟩ := acceptCalls_eq_ok haccept
    have hlength : validated.length = reply.toolCalls.length := by
      rw [← hmap, List.length_map]
    have hstart : ∀ input, InBatch P turn.tools (history ++ replyEvents input reply)
        reply.toolCalls 0 := fun input ↦ .start (hids.symm ▸ hvalid)
    rcases runs_bind.mp hbatch with
      ⟨e, hexecute, rfl⟩ | ⟨results, batch, rest, rfl, hexecute, hlater⟩
    · obtain ⟨hobeys, hchat, hran, -⟩ := runs_executeCalls hexecute (hstart _) hmap harguments
      refine ⟨obeys_append.mpr ⟨hquiet _, hobeys⟩, ?_, ?_, nofun⟩
      · rw [List.countP_append, hreply, (requestedIds_of_noChat hchat).1]
        exact Nat.le_add_left 1 _
      · rw [executedIds_append, List.length_append]
        exact le_trans (Nat.add_le_add_left (le_of_eq_of_le (Nat.zero_add _) hran) _)
          (hlength ▸ hlimit)
    · obtain ⟨hobeys, hchat, hran, hresults⟩ :=
        runs_executeCalls hexecute (hstart _) hmap harguments
      have hresults := hresults results rfl
      rw [hmap] at hresults
      have hids' : ∀ input, requestedIds (history ++ (replyEvents input reply ++ batch)) =
          callIds ++ reply.toolCalls.map ToolCall.id := by
        intro input
        rw [requestedIds_append, requestedIds_append, hids, (requestedIds_of_noChat hchat).2,
          requestedIds_replyEvents, List.append_nil]
      have hcount' : toolCount + validated.length ≤ 6 := by
        rw [hlength]
        exact hlimit
      obtain ⟨hobeys', hasked, hcount', hresult⟩ := ih hlater (hids' _) hcount'
        (.block hblocks hcalls hresults) (hvalid.nodup_append hnodup)
      refine ⟨?_, ?_, ?_, hresult⟩
      · rw [← List.append_assoc]
        exact obeys_append.mpr ⟨obeys_append.mpr ⟨hquiet _, hobeys⟩, hobeys'⟩
      · rw [List.countP_append, List.countP_append, hreply, (requestedIds_of_noChat hchat).1, Nat.zero_add,
          Nat.add_comm]
        exact Nat.succ_le_succ hasked
      · rw [executedIds_append, executedIds_append, List.length_append, List.length_append]
        refine le_trans ?_ hcount'
        rw [Nat.add_assoc]
        refine Nat.add_le_add_left ?_ _
        rw [← Nat.add_assoc]
        exact Nat.add_le_add_right (le_of_eq_of_le (Nat.zero_add _) hran) _

/-- A turn keeps its promises whatever is answered. -/
theorem runs_runConversationTurn {turn : ConversationTurn} {r : Except Failure TurnResult}
    (h : Runs (runConversationTurn P turn) log r) : TurnBounded P turn log r := by
  rcases runs_lift_bind.mp h with ⟨e, -, rfl, rfl⟩ | ⟨_, -, hrounds⟩
  · exact ⟨Nat.zero_le _, Nat.zero_le _, obeys_nil, nofun⟩
  · have hstart : requestedIds [] = [] := rfl
    obtain ⟨hobeys, hasked, hcount, hresult⟩ :=
      runs_conversationRounds hrounds hstart (Nat.zero_le _) .nil List.nodup_nil
    exact ⟨hasked, le_of_eq_of_le (Nat.zero_add _).symm hcount, hobeys, hresult⟩

/-! ## Policy decisions -/

theorem runs_policyAttempts {T : Type} {schema : PolicySchema T} {name requestId : String}
    {maxTokens : Option ℕ} {attempts : ℕ} {messages : List AIChatMessage} {problems : List String}
    {r : Except Failure T}
    (h : Runs (policyAttempts P schema name requestId maxTokens attempts messages problems) log r) :
    log.countP isProviderCall ≤ attempts := by
  induction attempts generalizing messages problems log r with
  | zero =>
    obtain ⟨rfl, -⟩ := runs_throw.mp h
    exact le_rfl
  | succ attempts ih =>
    obtain ⟨answer, log', rfl, hanswer⟩ := runs_ask.mp h
    have hmore : log'.countP isProviderCall ≤ attempts := by
      cases answer with
      | error e =>
        change Runs (if !isOutputInvalid e ∨ attempts = 0 then _ else _) log' r at hanswer
        split_ifs at hanswer
        · obtain ⟨rfl, -⟩ := runs_throw.mp hanswer
          exact Nat.zero_le _
        · exact ih hanswer
      | ok reply =>
        simp only [Interaction.bind] at hanswer
        cases hdecision : readDecision P schema name reply with
        | ok decision =>
          rw [hdecision] at hanswer
          obtain ⟨rfl, -⟩ := runs_done.mp hanswer
          exact Nat.zero_le _
        | error found =>
          rw [hdecision] at hanswer
          dsimp only at hanswer
          split_ifs at hanswer
          · obtain ⟨rfl, -⟩ := runs_throw.mp hanswer
            exact Nat.zero_le _
          · exact ih hanswer
    rw [List.countP_cons_of_pos (by rfl)]
    exact Nat.succ_le_succ hmore

/-- A decision asks the provider twice at most: a repair is the only thing that follows a reply. -/
theorem runs_policyDecision {T : Type} {schema : PolicySchema T}
    {name instruction requestId : String} {data : Json} {maxTokens : Option ℕ}
    {customerProse : Bool} {r : Except Failure T}
    (h : Runs (policyDecision P schema name instruction data requestId maxTokens customerProse)
      log r) :
    log.countP isProviderCall ≤ 2 := by
  rcases runs_lift_bind.mp h with ⟨_, -, rfl, -⟩ | ⟨_, -, hattempts⟩
  · exact Nat.zero_le _
  · refine (runs_policyAttempts hattempts).trans ?_
    split_ifs
    · exact le_rfl
    · exact Nat.le_succ _

/-! ## The bounded provider -/

/-- What is asked before a call of the bounded provider is not asked of the provider, and the
seventh call goes no further. -/
theorem runs_beforeCall {calls : ℕ} {r : Except Failure (Except Failure Unit × ℕ)}
    (h : Runs (beforeCall calls) log r) : log.countP isProviderCall = 0 ∧
      ∃ begun calls', r = .ok (begun, calls') ∧ calls ≤ calls' ∧
        (begun = .ok () → calls' = calls + 1 ∧ calls < 6) := by
  obtain ⟨active, log', rfl, hactive⟩ := runs_ask.mp h
  cases active with
  | error e =>
    obtain ⟨rfl, rfl⟩ := runs_done.mp hactive
    exact ⟨rfl, _, calls, rfl, le_rfl, nofun⟩
  | ok a =>
    obtain ⟨aborted, log', rfl, haborted⟩ := runs_ask.mp hactive
    cases aborted with
    | true =>
      obtain ⟨rfl, rfl⟩ := runs_done.mp haborted
      exact ⟨rfl, _, calls, rfl, le_rfl, nofun⟩
    | false =>
      change Runs (if 6 < calls + 1 then _ else _) log' r at haborted
      split_ifs at haborted with hlimit
      · obtain ⟨rfl, rfl⟩ := runs_done.mp haborted
        exact ⟨rfl, _, calls + 1, rfl, Nat.le_succ _, nofun⟩
      · obtain ⟨rfl, rfl⟩ := runs_done.mp haborted
        exact ⟨rfl, _, calls + 1, rfl, Nat.le_succ _, fun _ ↦ ⟨rfl, Nat.lt_of_succ_le
          (not_lt.mp hlimit)⟩⟩

/-- A call costs at least what it asks of the provider. -/
def Spends (calls : ℕ) (log : List TurnEvent) (calls' : ℕ) : Prop :=
  calls ≤ calls' ∧ (log.countP isProviderCall = 0 ∨
    log.countP isProviderCall = 1 ∧ calls < 6 ∧ calls < calls')

/-- A call of the bounded provider that gets past the checks and then asks the provider at most
once. -/
theorem runs_begun {α : Type} {calls : ℕ}
    {k : Except Failure Unit × ℕ → TurnProgram (Except Failure α × ℕ)}
    {r : Except Failure (Except Failure α × ℕ)} (h : Runs (beforeCall calls >>= k) log r)
    (hrefused : ∀ e calls', k (.error e, calls') = done (.error e, calls'))
    (hk : ∀ log' r', Runs (k (.ok (), calls + 1)) log' r' →
      log'.countP isProviderCall ≤ 1 ∧ ∃ answer, r' = .ok (answer, calls + 1)) :
    ∃ answer calls', r = .ok (answer, calls') ∧ Spends calls log calls' := by
  rcases runs_bind.mp h with ⟨e, hbefore, rfl⟩ | ⟨begun, before, after, rfl, hbefore, hthen⟩
  · obtain ⟨-, _, _, hr, -⟩ := runs_beforeCall hbefore
    cases hr
  obtain ⟨hnone, begun, calls', hr, hle, hbegun⟩ := runs_beforeCall hbefore
  cases hr
  cases begun with
  | error e =>
    rw [hrefused] at hthen
    obtain ⟨rfl, rfl⟩ := runs_done.mp hthen
    exact ⟨_, _, rfl, hle, .inl (by rw [List.append_nil, hnone])⟩
  | ok a =>
    obtain ⟨rfl, hlimit⟩ := hbegun rfl
    obtain ⟨hasked, answer, rfl⟩ := hk _ _ hthen
    refine ⟨answer, _, rfl, hle, ?_⟩
    rw [List.countP_append, hnone, Nat.zero_add]
    rcases Nat.le_one_iff_eq_zero_or_eq_one.mp hasked with hzero | hone
    · exact .inl hzero
    · exact .inr ⟨hone, hlimit, Nat.lt_succ_self _⟩

/-- The last check of a call asks the provider nothing. -/
theorem runs_unlessAborted {α : Type} {calls : ℕ} {found : α}
    {r : Except Failure (Except Failure α × ℕ)}
    (h : Runs (do
      let aborted ← askAborted
      if aborted then done (.error providerTimedOut, calls)
      else done (.ok found, calls)) log r) :
    log.countP isProviderCall = 0 ∧ ∃ answer, r = .ok (answer, calls) := by
  obtain ⟨aborted, log', rfl, haborted⟩ := runs_ask.mp h
  cases aborted with
  | true =>
    obtain ⟨rfl, rfl⟩ := runs_done.mp haborted
    exact ⟨rfl, _, rfl⟩
  | false =>
    obtain ⟨rfl, rfl⟩ := runs_done.mp haborted
    exact ⟨rfl, _, rfl⟩

theorem runs_boundedChat {provider : ProviderFeatures} {calls : ℕ} {input : AIChatInput}
    {r : Except Failure (Except Failure AIChatReply × ℕ)}
    (h : Runs (boundedChat provider calls input) log r) :
    ∃ answer calls', r = .ok (answer, calls') ∧ Spends calls log calls' := by
  apply runs_begun h fun _ _ ↦ rfl
  intro log r hthen
  change Runs (if !provider.chats then _ else _) log r at hthen
  split_ifs at hthen
  · obtain ⟨rfl, rfl⟩ := runs_done.mp hthen
    exact ⟨Nat.zero_le _, _, rfl⟩
  obtain ⟨answer, log', rfl, hanswer⟩ := runs_ask.mp hthen
  cases answer with
  | error e =>
    obtain ⟨rfl, rfl⟩ := runs_done.mp hanswer
    exact ⟨le_rfl, _, rfl⟩
  | ok reply =>
    obtain ⟨hnone, hanswered⟩ := runs_unlessAborted hanswer
    refine ⟨?_, hanswered⟩
    rw [List.countP_cons, hnone]
    exact le_rfl

/-- Research is asked for once, or not at all. -/
theorem runs_researchOrNone {provider : ProviderFeatures} {input : Json}
    {r : Except Failure (Except Failure Json)} (h : Runs (researchOrNone provider input) log r) :
    log.countP isProviderCall ≤ 1 ∧ ∃ answer, r = .ok answer := by
  unfold researchOrNone at h
  split_ifs at h
  · obtain ⟨answer, log', rfl, hanswer⟩ := runs_ask.mp h
    obtain ⟨rfl, rfl⟩ := runs_done.mp hanswer
    exact ⟨le_rfl, answer, rfl⟩
  · obtain ⟨rfl, rfl⟩ := runs_done.mp h
    exact ⟨Nat.zero_le _, _, rfl⟩

theorem runs_boundedResearch {provider : ProviderFeatures} {calls : ℕ} {input : Json}
    {r : Except Failure (Except Failure Json × ℕ)}
    (h : Runs (boundedResearch provider calls input) log r) :
    ∃ answer calls', r = .ok (answer, calls') ∧ Spends calls log calls' := by
  apply runs_begun h fun _ _ ↦ rfl
  intro log r hthen
  rcases runs_bind.mp hthen with ⟨e, hask, rfl⟩ | ⟨answer, asked, rest, rfl, hask, hchecks⟩
  · obtain ⟨-, answer, hr⟩ := runs_researchOrNone hask
    cases hr
  have hasked := (runs_researchOrNone hask).1
  have hspends : ∀ {rest : List TurnEvent}, rest.countP isProviderCall = 0 →
      (asked ++ rest).countP isProviderCall ≤ 1 := by
    intro rest hrest
    rw [List.countP_append, hrest]
    exact hasked
  cases answer with
  | error e =>
    obtain ⟨rfl, rfl⟩ := runs_done.mp hchecks
    exact ⟨hspends rfl, _, rfl⟩
  | ok found =>
    obtain ⟨active, log', rfl, hactive⟩ := runs_ask.mp hchecks
    cases active with
    | error e =>
      obtain ⟨rfl, rfl⟩ := runs_done.mp hactive
      exact ⟨hspends rfl, _, rfl⟩
    | ok a =>
      obtain ⟨hnone, hanswered⟩ := runs_unlessAborted hactive
      refine ⟨hspends ?_, hanswered⟩
      rw [List.countP_cons, hnone]
      rfl

/-- Whatever the program, it asks the provider at most as often as there are calls left. -/
theorem runs_bounded {α : Type} {provider : ProviderFeatures} {calls : ℕ} {p : TurnProgram α}
    {r : Except Failure α} (h : Runs (boundedConversationProvider provider calls p) log r) :
    log.countP isProviderCall ≤ 6 - calls := by
  have hspend : ∀ {calls calls' : ℕ} {before after : List TurnEvent}, Spends calls before calls' →
      after.countP isProviderCall ≤ 6 - calls' →
      (before ++ after).countP isProviderCall ≤ 6 - calls := by
    rintro calls calls' before after ⟨hle, hnone | ⟨hone, hlimit, hlt⟩⟩ hafter
    · rw [List.countP_append, hnone, Nat.zero_add]
      exact hafter.trans (Nat.sub_le_sub_left hle 6)
    · rw [List.countP_append, hone]
      omega
  induction p generalizing calls log r with
  | done a =>
    obtain ⟨rfl, -⟩ := runs_done.mp h
    exact Nat.zero_le _
  | throw e =>
    obtain ⟨rfl, -⟩ := runs_throw.mp h
    exact Nat.zero_le _
  | ask q next ih =>
    cases q with
    | chat input =>
      rcases runs_bind.mp h with ⟨e, hcall, -⟩ | ⟨answer, before, after, rfl, hcall, hrest⟩
      · obtain ⟨_, _, hr, -⟩ := runs_boundedChat hcall
        cases hr
      · obtain ⟨answer, calls', hr, hspends⟩ := runs_boundedChat hcall
        cases hr
        exact hspend hspends (ih _ hrest)
    | researchLegal input =>
      rcases runs_bind.mp h with ⟨e, hcall, -⟩ | ⟨answer, before, after, rfl, hcall, hrest⟩
      · obtain ⟨_, _, hr, -⟩ := runs_boundedResearch hcall
        cases hr
      · obtain ⟨answer, calls', hr, hspends⟩ := runs_boundedResearch hcall
        cases hr
        exact hspend hspends (ih _ hrest)
    | assertActive =>
      obtain ⟨y, log', rfl, hrest⟩ := runs_ask.mp h
      have hcount := ih y hrest
      rwa [List.countP_cons_of_neg (by simp [isProviderCall])]
    | aborted =>
      obtain ⟨y, log', rfl, hrest⟩ := runs_ask.mp h
      have hcount := ih y hrest
      rwa [List.countP_cons_of_neg (by simp [isProviderCall])]
    | execute name argumentsValue callId =>
      obtain ⟨y, log', rfl, hrest⟩ := runs_ask.mp h
      have hcount := ih y hrest
      rwa [List.countP_cons_of_neg (by simp [isProviderCall])]

end

/-- Against every environment, a turn is bounded and its protocol well formed, and a program of any
kind that has the bounded provider asks the provider at most six times. -/
theorem conversation_bounded (P : Platform)
    (environment : List TurnEvent → (q : TurnQuery) → TurnAnswer q) :
    (∀ turn : ConversationTurn,
      TurnBounded P turn (play environment [] (runConversationTurn P turn)).1
        (play environment [] (runConversationTurn P turn)).2) ∧
      ∀ (provider : ProviderFeatures) (α : Type) (program : TurnProgram α),
        (play environment [] (boundedConversationProvider provider 0 program)).1.countP
          isProviderCall ≤ 6 :=
  ⟨fun _ ↦ runs_runConversationTurn (runs_play environment [] _),
    fun _ _ _ ↦ runs_bounded (runs_play environment [] _)⟩

end KmtLegal
