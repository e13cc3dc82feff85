import KmtLegal.Conversations.Threads
import KmtLegal.Services.Engagement

/-!
# Closed conversations

A closed thread is marked by its status and by the time it was closed.  The services of the
conversations and of the assistant write into open threads only; a message about a service request
goes into the thread of the request without a look at it.
-/

namespace KmtLegal

open Relational

/-! ## Calls -/

inductive ConversationCall where
  | createOrContinueClientConversation (call : ClientMessage)
  | replyClientConversation (call : ClientMessage) (threadId : String)
  | replyClientConversationInTransaction (call : ClientMessage)
  | replyAdminConversation (call : StaffMessage)
  | updateAdminConversation (call : UpdateConversation)
  /-- `actOnServiceRequest` with the action `message`. -/
  | messageServiceRequest (call : ActOnServiceRequest) (body : String) (internal : Bool)
  | sendOfficeMessage (call : OfficeMessage)

def ConversationCall.serve (P : Platform) (s : Inbox) : ConversationCall → Except Failure Inbox
  | createOrContinueClientConversation call =>
    (KmtLegal.createOrContinueClientConversation s.db call).map fun db ↦ { s with db }
  | replyClientConversation call threadId =>
    (KmtLegal.replyClientConversation P s.db call threadId).map fun db ↦ { s with db }
  | replyClientConversationInTransaction call =>
    (KmtLegal.replyClientConversationInTransaction s.db call).map fun db ↦ { s with db }
  | replyAdminConversation call =>
    (KmtLegal.replyAdminConversation P s.db call).map fun db ↦ { s with db }
  | updateAdminConversation call =>
    (KmtLegal.updateAdminConversation P s.db call).map fun db ↦ { s with db }
  | messageServiceRequest call body internal =>
    (actOnServiceRequest P s.db { call with action := .message body internal }).map
      fun db ↦ { s with db }
  | sendOfficeMessage call => KmtLegal.sendOfficeMessage P s call

/-- One call; a call that throws is rolled back. -/
def conversationStep (P : Platform) (s : Inbox) (call : ConversationCall) : Inbox :=
  commit (call.serve P s) s

/-! ## Marks -/

def ConversationThread.isClosed (thread : ConversationThread) : Bool := thread.status.isClosed

/-- A thread has the time of its closing exactly if its status is `CLOSED` or `ARCHIVED`. -/
def ClosedMarked (db : Database) : Prop :=
  ∀ id thread, db.conversationThreads.lookup id = some thread →
    (thread.closedAt.isSome ↔ thread.isClosed)

/-- Closed threads stay as they are, and get no message. -/
structure ClosedKept (db db' : Database) : Prop where
  threads : ∀ id thread, db.conversationThreads.lookup id = some thread → thread.isClosed →
    db'.conversationThreads.lookup id = some thread
  messages : ∀ id m, db'.conversationMessages.lookup id = some m →
    db.conversationMessages.lookup id = some m ∨
      ∀ thread, db.conversationThreads.lookup m.threadId = some thread → ¬thread.isClosed

/-- The call writes a message into the thread of its service request. -/
def ActOnServiceRequest.PostsTo (db : Database) (call : ActOnServiceRequest) (internal : Bool)
    (threadId : Uuid) : Prop :=
  ∃ isVisible row, serviceRequestWhere db call.actor = .ok isVisible ∧
    (db.serviceRequests.lookup call.id).filter isVisible = some row ∧
    row.revision = call.revision ∧ row.status ∉ [.completed, .cancelled] ∧
    (call.isOwn row ∨ call.isManager ∨ call.isLawyer row) ∧ internal = false ∧
    row.conversationThreadId = some threadId

/-- A message about a service request meets no closed thread. -/
def ConversationCall.MeetsOpenThread (db : Database) : ConversationCall → Prop
  | messageServiceRequest call _ internal => ∀ threadId, call.PostsTo db internal threadId →
      ∀ thread, db.conversationThreads.lookup threadId = some thread → ¬thread.isClosed
  | _ => True

/-! ## Writing into one thread -/

variable {P : Platform} {db db' db'' : Database}

/-- A call writes into one thread, which is not closed before or after it. -/
structure PostedTo (db db' : Database) (threadId : Uuid) : Prop where
  before : ∀ thread, db.conversationThreads.lookup threadId = some thread → ¬thread.isClosed
  others : ∀ id, id ≠ threadId → db'.conversationThreads.lookup id = db.conversationThreads.lookup id
  after : ∀ thread', db'.conversationThreads.lookup threadId = some thread' → ¬thread'.isClosed ∧
    (thread'.closedAt = none ∨ ∃ thread, db.conversationThreads.lookup threadId = some thread ∧
      thread'.closedAt = thread.closedAt)
  messages : ∀ id m, db'.conversationMessages.lookup id = some m →
    db.conversationMessages.lookup id = some m ∨ m.threadId = threadId

namespace PostedTo

variable {threadId : Uuid}

theorem closedKept (h : PostedTo db db' threadId) : ClosedKept db db' where
  threads id thread hthread hclosed := by
    have hne : id ≠ threadId := by
      rintro rfl
      exact h.before thread hthread hclosed
    rw [h.others id hne, hthread]
  messages id m hm := by
    rcases h.messages id m hm with hold | rfl
    · exact .inl hold
    · exact .inr h.before

theorem closedMarked (h : PostedTo db db' threadId) (hmarked : ClosedMarked db) :
    ClosedMarked db' := by
  intro id thread' hthread'
  by_cases hid : id = threadId
  · subst hid
    obtain ⟨hopen, hnone | ⟨thread, hthread, hsame⟩⟩ := h.after thread' hthread'
    · rw [hnone]
      exact ⟨nofun, fun hclosed ↦ absurd hclosed hopen⟩
    · rw [hsame, hmarked id thread hthread]
      exact ⟨fun hclosed ↦ absurd hclosed (h.before thread hthread), fun hclosed ↦ absurd hclosed hopen⟩
  · rw [h.others id hid] at hthread'
    exact hmarked id thread' hthread'

/-- What the rest of the database holds does not matter. -/
theorem of_eq (h : PostedTo db db' threadId)
    (hthreads : db''.conversationThreads = db'.conversationThreads)
    (hmessages : db''.conversationMessages = db'.conversationMessages) : PostedTo db db'' threadId where
  before := h.before
  others := by rw [hthreads]; exact h.others
  after := by rw [hthreads]; exact h.after
  messages := by rw [hmessages]; exact h.messages

/-- Two writes into one thread in a row. -/
theorem trans (h : PostedTo db db' threadId) (h' : PostedTo db' db'' threadId) :
    PostedTo db db'' threadId where
  before := h.before
  others id hid := (h'.others id hid).trans (h.others id hid)
  after thread'' hthread'' := by
    obtain ⟨hopen, hnone | ⟨thread', hthread', hsame⟩⟩ := h'.after thread'' hthread''
    · exact ⟨hopen, .inl hnone⟩
    · obtain ⟨-, hnone | ⟨thread, hthread, hsame'⟩⟩ := h.after thread' hthread'
      · exact ⟨hopen, .inl (hsame.trans hnone)⟩
      · exact ⟨hopen, .inr ⟨thread, hthread, hsame.trans hsame'⟩⟩
  messages id m hm := by
    rcases h'.messages id m hm with hm' | heq
    · exact h.messages id m hm'
    · exact .inr heq

end PostedTo

/-- Neither threads nor messages differ. -/
structure ThreadsKept (db db' : Database) : Prop where
  threads : db'.conversationThreads = db.conversationThreads
  messages : db'.conversationMessages = db.conversationMessages

namespace ThreadsKept

theorem closedKept (h : ThreadsKept db db') : ClosedKept db db' where
  threads id thread hthread _ := by rw [h.threads, hthread]
  messages id m hm := .inl (by rw [← h.messages, hm])

theorem closedMarked (h : ThreadsKept db db') (hmarked : ClosedMarked db) : ClosedMarked db' := by
  unfold ClosedMarked
  rw [h.threads]
  exact hmarked

end ThreadsKept

/-! ## The statements -/

theorem createThread_eq_ok {id : Uuid} {thread : ConversationThread}
    (h : db.createThread id thread = .ok db') : db.conversationThreads.lookup id = none ∧
      db' = { db with conversationThreads := db.conversationThreads.insert id thread } := by
  simp only [Database.createThread, bind_eq_ok, orThrow_eq_ok, pure_eq_ok,
    Table.create_eq_some] at h
  obtain ⟨_, ⟨hnone, rfl⟩, rfl⟩ := h
  exact ⟨hnone, rfl⟩

theorem createMessage_eq_ok {id : Uuid} {m : ConversationMessage}
    (h : db.createMessage id m = .ok db') : db.conversationMessages.lookup id = none ∧
      db' = { db with conversationMessages := db.conversationMessages.insert id m } := by
  simp only [Database.createMessage, bind_eq_ok, orThrow_eq_ok, pure_eq_ok,
    Table.create_eq_some] at h
  obtain ⟨_, ⟨hnone, rfl⟩, rfl⟩ := h
  exact ⟨hnone, rfl⟩

theorem updateThread_eq_ok {id : Uuid} {f : ConversationThread → ConversationThread}
    (h : db.updateThread id f = .ok db') :
    db' = { db with conversationThreads := db.conversationThreads.update id f } := by
  simp only [Database.updateThread, bind_eq_ok, pure_eq_ok] at h
  obtain ⟨_, -, rfl⟩ := h
  rfl

/-- A new thread is written into as one that is not there. -/
theorem postedTo_createThread {id : Uuid} {thread : ConversationThread}
    (h : db.createThread id thread = .ok db') (hopen : thread.isClosed = false)
    (hmark : thread.closedAt = none) : PostedTo db db' id := by
  obtain ⟨hnone, rfl⟩ := createThread_eq_ok h
  refine ⟨fun t ht ↦ ?_, fun id' hid ↦ ?_, fun t ht ↦ ?_, fun _ _ hm ↦ .inl hm⟩
  · rw [hnone] at ht
    cases ht
  · rw [Table.lookup_insert, if_neg hid]
  · rw [Table.lookup_insert, if_pos rfl] at ht
    obtain rfl := Option.some.inj ht
    exact ⟨Bool.eq_false_iff.mp hopen, .inl hmark⟩

/-- A thread that is open and stays so. -/
theorem postedTo_updateThread {id : Uuid} {f : ConversationThread → ConversationThread}
    (h : db.updateThread id f = .ok db')
    (hbefore : ∀ thread, db.conversationThreads.lookup id = some thread → ¬thread.isClosed)
    (hopen : ∀ thread, (f thread).isClosed = false)
    (hmark : ∀ thread, (f thread).closedAt = none ∨ (f thread).closedAt = thread.closedAt) :
    PostedTo db db' id := by
  obtain rfl := updateThread_eq_ok h
  refine ⟨hbefore, fun id' hid ↦ Table.lookup_update_of_ne _ _ hid, fun t ht ↦ ?_,
    fun _ _ hm ↦ .inl hm⟩
  rw [Table.lookup_update_self] at ht
  obtain ⟨thread, hthread, rfl⟩ := Option.map_eq_some_iff.mp ht
  exact ⟨Bool.eq_false_iff.mp (hopen thread), (hmark thread).imp (fun hnone ↦ hnone) fun hsame ↦ ⟨thread, hthread, hsame⟩⟩

/-- A message into an open thread. -/
theorem postedTo_createMessage {id threadId : Uuid} {m : ConversationMessage}
    (hmarked : ∀ thread, db.conversationThreads.lookup threadId = some thread → ¬thread.isClosed)
    (hthread : m.threadId = threadId) (h : db.createMessage id m = .ok db') :
    PostedTo db db' threadId := by
  obtain ⟨-, rfl⟩ := createMessage_eq_ok h
  refine ⟨hmarked, fun _ _ ↦ rfl, fun t ht ↦ ⟨hmarked t ht, .inr ⟨t, ht, rfl⟩⟩, fun id' m' hm ↦ ?_⟩
  rw [Table.lookup_insert] at hm
  split_ifs at hm
  · obtain rfl := Option.some.inj hm
    exact .inr hthread
  · exact .inl hm

theorem postedTo_postMessage {messageId threadId : Uuid} {sender : ConversationSender}
    {actor : Principal} {body : String} {now : Time}
    (hbefore : ∀ thread, db.conversationThreads.lookup threadId = some thread → ¬thread.isClosed)
    (h : postMessage db messageId threadId sender actor body now = .ok db') :
    PostedTo db db' threadId := by
  obtain ⟨db₁, hmessage, h⟩ := bind_eq_ok.mp h
  have hcreated := postedTo_createMessage hbefore rfl hmessage
  obtain ⟨-, rfl⟩ := createMessage_eq_ok hmessage
  refine hcreated.trans (postedTo_updateThread h hbefore (fun thread ↦ ?_) (fun _ ↦ .inl rfl))
  show ConversationThreadStatus.isClosed
    (if sender = .client then .waitingStaff else .waitingClient) = false
  split_ifs <;> decide

theorem lockActiveConversationThread_eq_ok {threadId : Uuid} {clientId : Option Uuid}
    (h : lockActiveConversationThread db threadId clientId = .ok ()) (thread : ConversationThread)
    (hthread : db.conversationThreads.lookup threadId = some thread) : ¬thread.isClosed := by
  simp only [lockActiveConversationThread, throwIf_eq_ok, hthread, Option.any_some] at h
  intro hclosed
  have hstatus : thread.status.isClosed = true := hclosed
  simp [hstatus] at h

/-! ## The calls -/

theorem createOrContinue_posts {call : ClientMessage}
    (h : createOrContinueClientConversation db call = .ok db') : ∃ threadId, PostedTo db db' threadId := by
  unfold createOrContinueClientConversation at h
  obtain ⟨clientId, -, h⟩ := bind_eq_ok.mp h
  obtain ⟨_, -, h⟩ := bind_eq_ok.mp h
  split at h
  · rename_i threadId _ _
    obtain ⟨_, hlock, h⟩ := bind_eq_ok.mp h
    exact ⟨threadId, postedTo_postMessage (lockActiveConversationThread_eq_ok hlock) h⟩
  · obtain ⟨db₁, hcreate, h⟩ := bind_eq_ok.mp h
    have hcreated := postedTo_createThread hcreate rfl rfl
    exact ⟨call.newThreadId, hcreated.trans
      (postedTo_postMessage (fun thread hthread ↦ (hcreated.after thread hthread).1) h)⟩

theorem replyInTransaction_posts {call : ClientMessage}
    (h : replyClientConversationInTransaction db call = .ok db') :
    ∃ threadId, PostedTo db db' threadId := by
  unfold replyClientConversationInTransaction at h
  obtain ⟨clientId, -, h⟩ := bind_eq_ok.mp h
  obtain ⟨⟨db₁, threadId⟩, hthread, h⟩ := bind_eq_ok.mp h
  obtain ⟨_, hlock, h⟩ := bind_eq_ok.mp h
  have hposted := postedTo_postMessage (lockActiveConversationThread_eq_ok hlock) h
  unfold replyThread at hthread
  split at hthread
  · obtain ⟨rfl, rfl⟩ := Prod.mk.inj (pure_eq_ok.mp hthread)
    exact ⟨_, hposted⟩
  · obtain ⟨db₂, hcreate, hpair⟩ := bind_eq_ok.mp hthread
    obtain ⟨rfl, rfl⟩ := Prod.mk.inj (pure_eq_ok.mp hpair)
    exact ⟨_, (postedTo_createThread hcreate rfl rfl).trans hposted⟩

theorem replyClient_posts {call : ClientMessage} {threadId : String}
    (h : replyClientConversation P db call threadId = .ok db') :
    ∃ threadId, PostedTo db db' threadId := by
  obtain ⟨_, -, h⟩ := bind_eq_ok.mp h
  obtain ⟨_, -, h⟩ := bind_eq_ok.mp h
  obtain ⟨_, -, h⟩ := bind_eq_ok.mp h
  obtain ⟨_, -, h⟩ := bind_eq_ok.mp h
  exact replyInTransaction_posts h

theorem replyAdmin_posts {call : StaffMessage} (h : replyAdminConversation P db call = .ok db') :
    ∃ threadId, PostedTo db db' threadId := by
  obtain ⟨_, -, h⟩ := bind_eq_ok.mp h
  obtain ⟨threadId, -, h⟩ := bind_eq_ok.mp h
  obtain ⟨_, -, h⟩ := bind_eq_ok.mp h
  obtain ⟨_, -, h⟩ := bind_eq_ok.mp h
  obtain ⟨_, hlock, h⟩ := bind_eq_ok.mp h
  obtain ⟨db₁, hpost, h⟩ := bind_eq_ok.mp h
  obtain rfl := pure_eq_ok.mp h
  exact ⟨threadId, (postedTo_postMessage (lockActiveConversationThread_eq_ok hlock) hpost).of_eq rfl rfl⟩

/-- A manager writes both marks. -/
theorem UpdateConversation.thread_marked (call : UpdateConversation) {thread : ConversationThread}
    (h : thread.closedAt.isSome ↔ thread.isClosed) :
    (call.thread thread).closedAt.isSome ↔ (call.thread thread).isClosed := by
  unfold UpdateConversation.thread ConversationThread.isClosed
  cases call.status with
  | none => exact h
  | some status =>
    cases hclosed : status.isClosed with
    | true => simp [hclosed]
    | false => simp [hclosed]

theorem updateAdmin_marked {call : UpdateConversation}
    (h : updateAdminConversation P db call = .ok db') (hmarked : ClosedMarked db) :
    ClosedMarked db' := by
  obtain ⟨threadId, -, h⟩ := bind_eq_ok.mp h
  obtain ⟨_, -, h⟩ := bind_eq_ok.mp h
  obtain ⟨_, -, h⟩ := bind_eq_ok.mp h
  obtain ⟨_, -, h⟩ := bind_eq_ok.mp h
  obtain ⟨_, -, h⟩ := bind_eq_ok.mp h
  obtain ⟨_, -, h⟩ := bind_eq_ok.mp h
  obtain ⟨_, -, h⟩ := bind_eq_ok.mp h
  obtain ⟨db₁, hupdate, h⟩ := bind_eq_ok.mp h
  obtain rfl := pure_eq_ok.mp h
  obtain rfl := updateThread_eq_ok hupdate
  intro id thread' hthread'
  rw [Database.updateSession, Table.lookup_update] at hthread'
  split_ifs at hthread'
  · obtain ⟨thread, hthread, rfl⟩ := Option.map_eq_some_iff.mp hthread'
    exact call.thread_marked (hmarked id thread hthread)
  · exact hmarked id thread' hthread'

/-- A message is written for those who may, into the thread of the request or into none. -/
theorem messageService_eq_ok {call : ActOnServiceRequest} {row : ServiceRequest} {body : String}
    {internal : Bool} {effect : ServiceEffect}
    (h : messageService db call row body internal = .ok effect) :
    effect.db = db ∨ (call.isOwn row ∨ call.isManager ∨ call.isLawyer row) ∧ internal = false ∧
      ∃ threadId, row.conversationThreadId = some threadId ∧
        postServiceMessage db call row threadId body = .ok effect.db := by
  obtain ⟨_, hpermitted, h⟩ := bind_eq_ok.mp h
  obtain ⟨_, -, h⟩ := bind_eq_ok.mp h
  rw [throwIf_eq_ok] at hpermitted
  cases hthreadId : row.conversationThreadId with
  | none =>
    simp only [hthreadId] at h
    obtain rfl := pure_eq_ok.mp h
    exact .inl rfl
  | some threadId =>
    simp only [hthreadId] at h
    cases internal with
    | true =>
      obtain rfl := pure_eq_ok.mp h
      exact .inl rfl
    | false =>
      obtain ⟨db₁, hpost, h⟩ := bind_eq_ok.mp h
      obtain rfl := pure_eq_ok.mp h
      refine .inr ⟨?_, rfl, threadId, rfl, hpost⟩
      by_contra hnone
      push Not at hnone
      exact hpermitted (by simpa using hnone)

/-- A message about a service request goes into the thread of the request, or into none. -/
theorem messageServiceRequest_posts {call : ActOnServiceRequest} {body : String} {internal : Bool}
    (hmeets : (ConversationCall.messageServiceRequest call body internal).MeetsOpenThread db)
    (h : actOnServiceRequest P db { call with action := .message body internal } = .ok db') :
    ThreadsKept db db' ∨ ∃ threadId, PostedTo db db' threadId := by
  unfold actOnServiceRequest at h
  obtain ⟨isVisible, hwhere, h⟩ := bind_eq_ok.mp h
  obtain ⟨row, hrow, h⟩ := bind_eq_ok.mp h
  obtain ⟨_, hrevision, h⟩ := bind_eq_ok.mp h
  obtain ⟨_, hstatus, h⟩ := bind_eq_ok.mp h
  obtain ⟨effect, heffect, h⟩ := bind_eq_ok.mp h
  obtain ⟨_, -, h⟩ := bind_eq_ok.mp h
  obtain rfl := pure_eq_ok.mp h
  rw [orThrow_eq_ok] at hrow
  rw [throwIf_eq_ok, not_not] at hrevision
  rw [throwIf_eq_ok] at hstatus
  rcases messageService_eq_ok heffect with hsame | ⟨hpermitted, rfl, threadId, hthreadId, hpost⟩
  · exact .inl ⟨by rw [hsame], by rw [hsame]⟩
  · simp only [postServiceMessage, bind_eq_ok, orThrow_eq_ok, throwIf_eq_ok, pure_eq_ok,
      Table.create_eq_some] at hpost
    obtain ⟨_, ⟨-, rfl⟩, _, -, hdb⟩ := hpost
    have hopen : ∀ thread, db.conversationThreads.lookup threadId = some thread →
        ¬thread.isClosed :=
      hmeets threadId ⟨isVisible, row, hwhere, hrow, hrevision, hstatus, hpermitted, rfl, hthreadId⟩
    suffices hposted : PostedTo db effect.db threadId from
      .inr ⟨threadId, hposted.of_eq rfl rfl⟩
    rw [← hdb]
    refine ⟨hopen, fun id hid ↦ Table.lookup_update_of_ne _ _ hid, fun t ht ↦ ?_, fun id m hm ↦ ?_⟩
    · rw [Table.lookup_update_self] at ht
      obtain ⟨thread, hthread, rfl⟩ := Option.map_eq_some_iff.mp ht
      refine ⟨?_, .inr ⟨thread, hthread, rfl⟩⟩
      show ¬ConversationThreadStatus.isClosed (if _ then _ else _)
      split_ifs <;> decide
    · rw [Table.lookup_insert] at hm
      by_cases hid : id = call.newMessageId
      · rw [if_pos hid] at hm
        obtain rfl := Option.some.inj hm
        exact .inr rfl
      · rw [if_neg hid] at hm
        exact .inl hm

/-! ### Messages to the office -/

theorem lookup_createMessages {l : List (Uuid × ConversationMessage)} {id : Uuid}
    {m : ConversationMessage} (h : (db.createMessages l).conversationMessages.lookup id = some m) :
    db.conversationMessages.lookup id = some m ∨ (id, m) ∈ l := by
  unfold Database.createMessages at h
  simp only at h
  generalize db.conversationMessages = t at h ⊢
  induction l generalizing t with
  | nil => exact .inl h
  | cons e l ih =>
    rw [List.foldl_cons] at h
    rcases ih _ h with hold | hmem
    · split_ifs at hold
      · exact .inl hold
      · rw [Table.lookup_insert] at hold
        split_ifs at hold with hid
        · obtain rfl := Option.some.inj hold
          exact .inr (by rw [hid]; exact List.mem_cons_self)
        · exact .inl hold
    · exact .inr (List.mem_cons_of_mem e hmem)

theorem transcript_thread {t : StoredTurn} {threadId id : Uuid} {m : ConversationMessage}
    (h : (id, m) ∈ t.transcript P threadId) : m.threadId = threadId := by
  unfold StoredTurn.transcript at h
  rcases List.mem_cons.mp h with heq | h
  · rw [(Prod.mk.inj heq).2]
  · split at h
    · split_ifs at h
      · cases h
      · rw [(Prod.mk.inj (List.mem_singleton.mp h)).2]
    · cases h

/-- Messages are written into a thread that is open. -/
theorem postedTo_createMessages {l : List (Uuid × ConversationMessage)} {threadId : Uuid}
    (hopen : ∀ thread, db.conversationThreads.lookup threadId = some thread → ¬thread.isClosed)
    (hl : ∀ e ∈ l, e.2.threadId = threadId) : PostedTo db (db.createMessages l) threadId := by
  refine ⟨hopen, fun _ _ ↦ rfl, fun t ht ↦ ⟨hopen t ht, .inr ⟨t, ht, rfl⟩⟩, fun id m hm ↦ ?_⟩
  rcases lookup_createMessages hm with hold | hmem
  · exact .inl hold
  · exact .inr (hl _ hmem)

/-- A transcript is written into its thread. -/
theorem postedTo_syncAssistantTranscript {s : Inbox} (sessionId : Uuid) {threadId : Uuid}
    (hopen : ∀ thread, s.db.conversationThreads.lookup threadId = some thread → ¬thread.isClosed) :
    PostedTo s.db (syncAssistantTranscript P s sessionId threadId).db threadId := by
  refine postedTo_createMessages hopen fun e he ↦ ?_
  obtain ⟨t, -, ht⟩ := List.mem_flatMap.mp he
  exact transcript_thread ht

theorem ensureAssistantHandoff_posts {s s' : Inbox} {sessionId newThreadId threadId : Uuid}
    {now : Time}
    (hopen : ∀ session id thread, s.db.assistantSessions.lookup sessionId = some session →
      session.conversationThreadId = some id → s.db.conversationThreads.lookup id = some thread →
        ¬thread.isClosed)
    (h : ensureAssistantHandoff P s sessionId newThreadId now = .ok (s', threadId)) :
    PostedTo s.db s'.db threadId := by
  obtain ⟨session, hsession, h⟩ := bind_eq_ok.mp h
  rw [orThrow_eq_ok] at hsession
  split at h
  · rename_i id hid
    obtain ⟨rfl, rfl⟩ := Prod.mk.inj (pure_eq_ok.mp h)
    exact postedTo_syncAssistantTranscript _ fun thread ↦ hopen session id thread hsession hid
  · obtain ⟨db₁, hcreate, h⟩ := bind_eq_ok.mp h
    obtain ⟨rfl, rfl⟩ := Prod.mk.inj (pure_eq_ok.mp h)
    have hcreated := postedTo_createThread hcreate rfl rfl
    set db₂ := { db₁ with
      assistantSessions := db₁.assistantSessions.update sessionId fun session ↦
        { session with conversationThreadId := some newThreadId } }
    have hbound : PostedTo s.db db₂ newThreadId := hcreated.of_eq rfl rfl
    have hsync := postedTo_syncAssistantTranscript (P := P) (s := { s with db := db₂ }) sessionId
      fun thread hthread ↦ (hbound.after thread hthread).1
    exact hbound.trans hsync

theorem sendOfficeMessage_posts {s s' : Inbox} {call : OfficeMessage}
    (h : sendOfficeMessage P s call = .ok s') : ∃ threadId, PostedTo s.db s'.db threadId := by
  obtain ⟨fresh, hfresh, h⟩ := bind_eq_ok.mp h
  obtain ⟨_, -, h⟩ := bind_eq_ok.mp h
  obtain ⟨_, -, h⟩ := bind_eq_ok.mp h
  obtain ⟨_, hoffice, h⟩ := bind_eq_ok.mp h
  obtain ⟨_, -, h⟩ := bind_eq_ok.mp h
  obtain ⟨⟨s₁, threadId⟩, hensure, h⟩ := bind_eq_ok.mp h
  obtain ⟨db₂, hupdate, h⟩ := bind_eq_ok.mp h
  obtain rfl := pure_eq_ok.mp h
  rw [orThrow_eq_ok] at hfresh
  have hposted := ensureAssistantHandoff_posts (fun session id thread hsession hid hthread ↦ by
    obtain rfl := Option.some.inj (hfresh.symm.trans hsession)
    simp only [assertOfficeThreadOpen, hid, bind_eq_ok, orThrow_eq_ok, throwIf_eq_ok] at hoffice
    obtain ⟨_, hthread', hopen⟩ := hoffice
    obtain rfl := Option.some.inj (hthread.symm.trans hthread')
    exact hopen) hensure
  have hwaiting : PostedTo s₁.db db₂ threadId :=
    postedTo_updateThread hupdate (fun thread hthread ↦ (hposted.after thread hthread).1)
      (fun _ ↦ rfl) (fun _ ↦ .inr rfl)
  exact ⟨threadId, (hposted.trans hwaiting).of_eq rfl rfl⟩

/-! ## Every history -/

/-- Every call but a manager's writes into an open thread, if messages about service requests do. -/
theorem serve_posts {s s' : Inbox} {call : ConversationCall} (hmeets : call.MeetsOpenThread s.db)
    (hother : ∀ c, call ≠ .updateAdminConversation c) (h : call.serve P s = .ok s') :
    ThreadsKept s.db s'.db ∨ ∃ threadId, PostedTo s.db s'.db threadId := by
  cases call with
  | createOrContinueClientConversation call =>
    obtain ⟨db', hdb, rfl⟩ := map_eq_ok.mp h
    exact .inr (createOrContinue_posts hdb)
  | replyClientConversation call threadId =>
    obtain ⟨db', hdb, rfl⟩ := map_eq_ok.mp h
    exact .inr (replyClient_posts hdb)
  | replyClientConversationInTransaction call =>
    obtain ⟨db', hdb, rfl⟩ := map_eq_ok.mp h
    exact .inr (replyInTransaction_posts hdb)
  | replyAdminConversation call =>
    obtain ⟨db', hdb, rfl⟩ := map_eq_ok.mp h
    exact .inr (replyAdmin_posts hdb)
  | updateAdminConversation call => exact absurd rfl (hother call)
  | messageServiceRequest call body internal =>
    obtain ⟨db', hdb, rfl⟩ := map_eq_ok.mp h
    exact messageServiceRequest_posts hmeets hdb
  | sendOfficeMessage call => exact .inr (sendOfficeMessage_posts h)

/-- What a call leaves of closed threads. -/
def LeavesClosed (P : Platform) (s : Inbox) (call : ConversationCall) : Prop :=
  (∃ c, call = .updateAdminConversation c) ∨ ClosedKept s.db (conversationStep P s call).db

theorem conversationStep_marked {s : Inbox} {call : ConversationCall} (hmarked : ClosedMarked s.db)
    (hmeets : call.MeetsOpenThread s.db) : ClosedMarked (conversationStep P s call).db := by
  refine commit_of (P := fun s' : Inbox ↦ ClosedMarked s'.db) hmarked fun s' h ↦ ?_
  by_cases hupdate : ∃ c, call = .updateAdminConversation c
  · obtain ⟨c, rfl⟩ := hupdate
    obtain ⟨db', hdb, rfl⟩ := map_eq_ok.mp h
    exact updateAdmin_marked hdb hmarked
  · rcases serve_posts hmeets (not_exists.mp hupdate) h with hkept | ⟨threadId, hposted⟩
    · exact hkept.closedMarked hmarked
    · exact hposted.closedMarked hmarked

theorem conversationStep_leavesClosed {s : Inbox} {call : ConversationCall}
    (hmeets : call.MeetsOpenThread s.db) : LeavesClosed P s call := by
  by_cases hupdate : ∃ c, call = .updateAdminConversation c
  · exact .inl hupdate
  · refine .inr (commit_of (P := fun s' : Inbox ↦ ClosedKept s.db s'.db)
      (ThreadsKept.closedKept ⟨rfl, rfl⟩) fun s' h ↦ ?_)
    rcases serve_posts hmeets (not_exists.mp hupdate) h with hkept | ⟨threadId, hposted⟩
    · exact hkept.closedKept
    · exact hposted.closedKept

def sampleThread : Uuid := "5e9d7c3a-1b2f-4a6e-8d4c-7f0a9b8c6d5e"

/-- A request in progress, with its thread. -/
def sampleInbox : Inbox where
  db := { sampleServices with
    serviceRequests := AList.singleton "request"
      { sampleServiceRequest with
        status := .inProgress, conversationThreadId := some sampleThread }
    conversationThreads := AList.singleton sampleThread { clientId := some "client" } }

/-- The client writes about her request. -/
def sampleServiceMessage : ConversationCall :=
  .messageServiceRequest (sampleServiceCall true 0 (.message "Any news?" false)) "Any news?" false

/-- A manager closes the thread. -/
def sampleClosing : ConversationCall :=
  .updateAdminConversation
    { actor := ⟨"staff", "Office Admin", none, none⟩, threadId := sampleThread
      status := some .closed, updatedAt := 0, now := 5 }

theorem sampleInbox_marked : ClosedMarked sampleInbox.db := by
  intro id thread hthread
  rw [← Table.mem_rows] at hthread
  cases List.mem_singleton.mp hthread
  exact ⟨nofun, nofun⟩

end KmtLegal
