import KmtLegal.Conversations.AccountLinks
import KmtLegal.Relational.Kept

/-!
# What a session carries over to an account

The thread of a session always exists, and so does its request, and no other session refers to
either.  While the session is a guest's, the request is one that a link takes over; this is what
makes a link leave nothing behind.
-/

namespace KmtLegal.Linking

open Relational

variable {db db' : Links} {sessionId id c : Uuid} {session : SessionLinks}

/-! ## References -/

/-- No two sessions refer to the same row. -/
def Unique (sessions : Table Uuid SessionLinks) (column : SessionLinks → Option Uuid) : Prop :=
  ∀ k k' s s' id, sessions.lookup k = some s → sessions.lookup k' = some s' →
    column s = some id → column s' = some id → k = k'

/-- No session refers to the row. -/
def Unreferenced (sessions : Table Uuid SessionLinks) (column : SessionLinks → Option Uuid)
    (id : Uuid) : Prop :=
  ∀ k s, sessions.lookup k = some s → column s ≠ some id

section

variable {sessions : Table Uuid SessionLinks} {column : SessionLinks → Option Uuid}
  {f : SessionLinks → SessionLinks}

/-- What is stored after a session was rewritten. -/
theorem lookup_update_cases (hsession : sessions.lookup sessionId = some session) {k : Uuid}
    {s : SessionLinks} (hs : (sessions.update sessionId f).lookup k = some s) :
    k = sessionId ∧ s = f session ∨ k ≠ sessionId ∧ sessions.lookup k = some s := by
  rw [Table.lookup_update] at hs
  split_ifs at hs with hk
  · subst hk
    rw [hsession] at hs
    cases hs
    exact .inl ⟨rfl, rfl⟩
  · exact .inr ⟨hk, hs⟩

/-- A session may be rewritten to refer to what it referred to before, or to a row of its own. -/
theorem Unique.update (h : Unique sessions column)
    (hsession : sessions.lookup sessionId = some session)
    (hf : ∀ id, column (f session) = some id →
      column session = some id ∨ Unreferenced sessions column id) :
    Unique (sessions.update sessionId f) column := by
  intro k k' s s' id hs hs' hid hid'
  obtain ⟨rfl, rfl⟩ | ⟨-, hs₀⟩ := lookup_update_cases hsession hs
  · obtain ⟨rfl, -⟩ | ⟨-, hs₀'⟩ := lookup_update_cases hsession hs'
    · rfl
    · rcases hf id hid with hold | hnew
      · exact h _ _ _ _ id hsession hs₀' hold hid'
      · exact absurd hid' (hnew k' s' hs₀')
  · obtain ⟨rfl, rfl⟩ | ⟨-, hs₀'⟩ := lookup_update_cases hsession hs'
    · rcases hf id hid' with hold | hnew
      · exact h _ _ _ _ id hs₀ hsession hid hold
      · exact absurd hid (hnew k s hs₀)
    · exact h _ _ _ _ id hs₀ hs₀' hid hid'

/-- A new session that refers to nothing. -/
theorem Unique.insert (h : Unique sessions column) (hnew : column session = none) :
    Unique (AList.insert sessionId session sessions) column := by
  intro k k' s s' id hs hs' hid hid'
  rw [Table.lookup_insert] at hs hs'
  split_ifs at hs with hk
  · cases hs
    rw [hnew] at hid
    cases hid
  · split_ifs at hs' with hk'
    · cases hs'
      rw [hnew] at hid'
      cases hid'
    · exact h k k' s s' id hs hs' hid hid'

end

/-! ## The links of a session -/

/-- The request and its appointments are the owner's, who is the client of the session `client`; a
guest's request can be taken over. -/
def RequestOf (db : Links) (client : Option Uuid) (id owner : Uuid) : Prop :=
  ∃ q, db.requests.lookup id = some q ∧ q.clientId = some owner ∧
    (∀ c, client = some c → owner = c) ∧
    (client = none → q.confirmationSource ≠ "STAFF_APPROVAL" ∧ db.isLead owner) ∧
    ∀ p appointment, db.appointments.lookup p = some appointment →
      appointment.consultationRequestId = some id → appointment.clientId = owner

/-- The thread of a session exists and is that of its client, and so is its request. -/
structure Sound (db : Links) (session : SessionLinks) : Prop where
  thread : ∀ id, session.conversationThreadId = some id →
    ∃ owner, db.threads.lookup id = some owner ∧ ∀ c, session.clientId = some c → owner = some c
  request : ∀ id, session.consultationRequestId = some id →
    ∃ owner, RequestOf db session.clientId id owner

/-- Every session is sound, and no two refer to one thread or request. -/
structure Invariant (db : Links) : Prop where
  sound : ∀ id session, db.sessions.lookup id = some session → Sound db session
  thread_unique : Unique db.sessions (·.conversationThreadId)
  request_unique : Unique db.sessions (·.consultationRequestId)
  appointments : db.AppointmentsKeyed

theorem Sound.belongs (h : Sound db session) (hc : session.clientId = some c) :
    Belongs db session c := by
  refine ⟨fun id hid ↦ ?_, fun id q hid hq ↦ ?_, fun id q p a hid hq hclient ha hrequest ↦ ?_⟩
  · obtain ⟨owner, howner, hsame⟩ := h.thread id hid
    rw [howner, hsame c hc]
  · obtain ⟨owner, q', hq', howner, hsame, -, -⟩ := h.request id hid
    cases hq.symm.trans hq'
    exact .inl (by rw [howner, hsame c hc])
  · obtain ⟨owner, q', hq', howner, hsame, -, happointments⟩ := h.request id hid
    cases hq.symm.trans hq'
    rw [happointments p a ha hrequest, hsame c hc]

theorem Invariant.carried (h : Invariant db) : Carried db := fun id session _ hsession ↦
  (h.sound id session hsession).belongs

/-- A session stays sound if nothing it refers to is touched, and leads stay leads. -/
theorem Sound.frame (h : Sound db session)
    (hthread : ∀ id, session.conversationThreadId = some id →
      db'.threads.lookup id = db.threads.lookup id)
    (hrequest : ∀ id, session.consultationRequestId = some id →
      db'.requests.lookup id = db.requests.lookup id)
    (hlead : ∀ owner, db.isLead owner → db'.isLead owner)
    (happointment : ∀ id p a, session.consultationRequestId = some id →
      db'.appointments.lookup p = some a → a.consultationRequestId = some id →
      db.appointments.lookup p = some a) : Sound db' session := by
  refine ⟨fun id hid ↦ ?_, fun id hid ↦ ?_⟩
  · rw [hthread id hid]
    exact h.thread id hid
  · obtain ⟨owner, q, hq, howner, hsame, hguest, happointments⟩ := h.request id hid
    refine ⟨owner, q, (hrequest id hid).trans hq, howner, hsame, fun hnone ↦ ?_, ?_⟩
    · exact ⟨(hguest hnone).1, hlead owner (hguest hnone).2⟩
    · exact fun p a ha hid' ↦ happointments p a (happointment id p a hid ha hid') hid'

/-- No session refers to a thread that does not exist. -/
theorem Invariant.unreferenced_thread (h : Invariant db) (hid : db.threads.lookup id = none) :
    Unreferenced db.sessions (·.conversationThreadId) id := by
  intro k s hs hthread
  obtain ⟨owner, howner, -⟩ := (h.sound k s hs).thread id hthread
  rw [hid] at howner
  cases howner

/-- No session refers to a request that does not exist. -/
theorem Invariant.unreferenced_request (h : Invariant db) (hid : db.requests.lookup id = none) :
    Unreferenced db.sessions (·.consultationRequestId) id := by
  intro k s hs hrequest
  obtain ⟨-, q, hq, -⟩ := (h.sound k s hs).request id hrequest
  rw [hid] at hq
  cases hq

/-- A session is rewritten, together with the rows it refers to. -/
theorem Invariant.rewrite {f : SessionLinks → SessionLinks} (h : Invariant db)
    (hsession : db.sessions.lookup sessionId = some session)
    (hsessions : db'.sessions = db.sessions.update sessionId f)
    (hthread : ∀ id, (f session).conversationThreadId = some id →
      session.conversationThreadId = some id ∨
        Unreferenced db.sessions (·.conversationThreadId) id)
    (hrequest : ∀ id, (f session).consultationRequestId = some id →
      session.consultationRequestId = some id ∨
        Unreferenced db.sessions (·.consultationRequestId) id)
    (hthis : Sound db' (f session))
    (hothers : ∀ k s, k ≠ sessionId → db.sessions.lookup k = some s → Sound db' s)
    (happointments : db'.AppointmentsKeyed) : Invariant db' := by
  refine ⟨fun k s hs ↦ ?_, ?_, ?_, happointments⟩
  · rw [hsessions] at hs
    obtain ⟨-, rfl⟩ | ⟨hk, hs⟩ := lookup_update_cases hsession hs
    · exact hthis
    · exact hothers k s hk hs
  · rw [hsessions]
    exact h.thread_unique.update hsession hthread
  · rw [hsessions]
    exact h.request_unique.update hsession hrequest


/-! ## Inserts -/

theorem createClient_eq_some {client : ClientLinks} :
    db.createClient id client = some db' ↔
      db.clients.lookup id = none ∧ { db with clients := db.clients.insert id client } = db' := by
  simp [Links.createClient, Table.create_eq_some, and_assoc]

theorem createThread_eq_some {owner : Option Uuid} :
    db.createThread id owner = some db' ↔
      db.threads.lookup id = none ∧ { db with threads := db.threads.insert id owner } = db' := by
  simp [Links.createThread, Table.create_eq_some, and_assoc]

theorem createRequest_eq_some {request : RequestLinks} :
    db.createRequest id request = some db' ↔
      db.requests.lookup id = none ∧
        { db with requests := db.requests.insert id request } = db' := by
  simp [Links.createRequest, Table.create_eq_some, and_assoc]

theorem createAppointment_eq_some {appointment : AppointmentLinks} :
    db.createAppointment id appointment = some db' ↔
      db.appointments.lookup id = none ∧
        { db with appointments := db.appointments.insert id appointment } = db' := by
  simp [Links.createAppointment, Table.create_eq_some, and_assoc]

theorem isLead_insert {client : ClientLinks} (h : db.clients.lookup id = none) {owner : Uuid}
    (howner : db.isLead owner) :
    { db with clients := db.clients.insert id client }.isLead owner := by
  unfold Links.isLead at howner ⊢
  cases hc : db.clients.lookup owner with
  | none => rw [hc] at howner; cases howner
  | some r => rwa [Table.lookup_insert_of_some h hc, ← hc]

/-- A client with an account is no lead. -/
theorem isLead_of_insert {client : ClientLinks} (hclient : client.userId ≠ none) {owner : Uuid}
    (howner : { db with clients := db.clients.insert id client }.isLead owner) :
    db.isLead owner := by
  unfold Links.isLead at howner ⊢
  rw [Table.lookup_insert] at howner
  split at howner
  · simp [hclient] at howner
  · exact howner

theorem Invariant.createSession {clientId : Option Uuid} (h : Invariant db) :
    Invariant { db with sessions := db.sessions.insert id { clientId } } := by
  refine ⟨fun k s hs ↦ ?_, h.thread_unique.insert rfl, h.request_unique.insert rfl,
    h.appointments⟩
  rw [Table.lookup_insert] at hs
  split_ifs at hs
  · cases hs
    exact ⟨fun _ ↦ nofun, fun _ ↦ nofun⟩
  · exact (h.sound k s hs).frame (fun _ _ ↦ rfl) (fun _ _ ↦ rfl) (fun _ h ↦ h)
      fun _ _ _ _ ha _ ↦ ha

theorem Invariant.createClient {client : ClientLinks} (h : Invariant db)
    (hdb : db.createClient id client = some db') : Invariant db' := by
  obtain ⟨hid, rfl⟩ := createClient_eq_some.mp hdb
  refine ⟨fun k session hsession ↦ ?_, h.thread_unique, h.request_unique, h.appointments⟩
  exact (h.sound k session hsession).frame (fun _ _ ↦ rfl) (fun _ _ ↦ rfl)
    (fun _ ↦ isLead_insert hid) fun _ _ _ _ ha _ ↦ ha

theorem Invariant.createThread {owner : Option Uuid} (h : Invariant db)
    (hdb : db.createThread id owner = some db') : Invariant db' := by
  obtain ⟨hid, rfl⟩ := createThread_eq_some.mp hdb
  refine ⟨fun k session hsession ↦ ?_, h.thread_unique, h.request_unique, h.appointments⟩
  refine (h.sound k session hsession).frame (fun thread hthread ↦ ?_) (fun _ _ ↦ rfl)
    (fun _ h ↦ h) fun _ _ _ _ ha _ ↦ ha
  obtain ⟨owner', howner, -⟩ := (h.sound k session hsession).thread thread hthread
  rw [howner]
  exact Table.lookup_insert_of_some hid howner

theorem Invariant.createRequest {request : RequestLinks} (h : Invariant db)
    (hdb : db.createRequest id request = some db') : Invariant db' := by
  obtain ⟨hid, rfl⟩ := createRequest_eq_some.mp hdb
  refine ⟨fun k session hsession ↦ ?_, h.thread_unique, h.request_unique, fun p a r ha hr ↦ ?_⟩
  · refine (h.sound k session hsession).frame (fun _ _ ↦ rfl) (fun r hr ↦ ?_) (fun _ h ↦ h)
      fun _ _ _ _ ha _ ↦ ha
    obtain ⟨-, q, hq, -⟩ := (h.sound k session hsession).request r hr
    rw [hq]
    exact Table.lookup_insert_of_some hid hq
  · obtain ⟨q, hq⟩ := h.appointments p a r ha hr
    exact ⟨q, Table.lookup_insert_of_some hid hq⟩

/-- An appointment of a request that no session refers to yet. -/
theorem Invariant.createAppointment {p r : Uuid} {q : RequestLinks} (h : Invariant db)
    (hq : db.requests.lookup r = some q)
    (hnew : Unreferenced db.sessions (·.consultationRequestId) r)
    (hdb : db.createAppointment p { clientId := c, consultationRequestId := some r } = some db') :
    Invariant db' := by
  obtain ⟨hp, rfl⟩ := createAppointment_eq_some.mp hdb
  refine ⟨fun k session hsession ↦ ?_, h.thread_unique, h.request_unique, fun p' a r' ha hr ↦ ?_⟩
  · refine (h.sound k session hsession).frame (fun _ _ ↦ rfl) (fun _ _ ↦ rfl) (fun _ h ↦ h) ?_
    intro r' p' a hr' ha hrequest
    rw [Table.lookup_insert] at ha
    split at ha
    · cases ha
      cases hrequest
      exact absurd hr' (hnew k session hsession)
    · exact ha
  · rw [Table.lookup_insert] at ha
    split at ha
    · cases ha
      cases hr
      exact ⟨q, hq⟩
    · exact h.appointments p' a r' ha hr

/-! ## Linking -/

/-- What taking over the request of a session writes, `request` being the one it refers to. -/
inductive TakenOver (db : Links) (request : Option Uuid) (c : Uuid) :
    Table Uuid RequestLinks → Table Uuid AppointmentLinks → Prop
  /-- There is none, or it is the client's already, or it cannot be attached. -/
  | kept (h : ∀ id q, request = some id → db.requests.lookup id = some q → ¬db.canAttach q c) :
    TakenOver db request c db.requests db.appointments
  | attached {id : Uuid} {q : RequestLinks} (hid : request = some id)
    (hq : db.requests.lookup id = some q) (h : db.canAttach q c) :
    TakenOver db request c (db.rebindRequest id q c).requests (db.rebindRequest id q c).appointments

theorem bindRequest_cases {request : Option Uuid}
    (h : request.elim (some db) (db.bindRequest c) = some db') :
    ∃ requests appointments, TakenOver db request c requests appointments ∧
      db' = { db with requests, appointments } := by
  cases request with
  | none =>
    cases h
    exact ⟨_, _, .kept fun _ _ ↦ nofun, rfl⟩
  | some id =>
    unfold Links.bindRequest at h
    simp only [Option.elim_some, Option.bind_eq_bind, Option.bind_eq_some_iff] at h
    obtain ⟨q, hq, h⟩ := h
    split_ifs at h with hattach
    · cases h
      exact ⟨_, _, .attached rfl hq hattach, rfl⟩
    · cases h
      refine ⟨_, _, .kept fun id' q' hid hq' ↦ ?_, rfl⟩
      cases hid
      cases hq.symm.trans hq'
      exact hattach

/-- A link rewrites the session and its thread, and takes the request over. -/
theorem link_cases (hsession : db.sessions.lookup sessionId = some session)
    (h : db.link sessionId c = some db') :
    ∃ requests appointments,
      TakenOver db session.consultationRequestId c requests appointments ∧
      db' = { db with
        sessions := db.sessions.update sessionId fun s ↦ { s with clientId := some c }
        threads := session.conversationThreadId.elim db.threads fun id ↦
          db.threads.update id fun _ ↦ some c
        requests, appointments } := by
  have hlookup : (db.updateSession sessionId fun s ↦ { s with clientId := some c }).sessions.lookup
      sessionId = some { session with clientId := some c } := by
    rw [Links.updateSession, Table.lookup_update_self, hsession]
    rfl
  unfold Links.link Links.bindAssistantThreadIdentity at h
  rw [hlookup, Option.bind_eq_bind, Option.bind_some, Option.bind_eq_bind,
    Option.bind_eq_some_iff] at h
  obtain ⟨db₁, hdb₁, h⟩ := h
  obtain ⟨requests, appointments, htaken, rfl⟩ := bindRequest_cases hdb₁
  have htaken' : TakenOver db session.consultationRequestId c requests appointments := by
    cases htaken with
    | kept hkept => exact .kept hkept
    | attached hid hq hattach => exact .attached hid hq hattach
  refine ⟨requests, appointments, htaken', ?_⟩
  cases hthread : session.conversationThreadId with
  | none => simpa [hthread, Links.updateSession] using h.symm
  | some thread => simpa [hthread, Links.updateSession, Links.setThreadClient] using h.symm

/-- The foreign key outlives a request's going over. -/
theorem Links.AppointmentsKeyed.rebindRequest {q : RequestLinks} (h : db.AppointmentsKeyed) :
    (db.rebindRequest id q c).AppointmentsKeyed := by
  intro p a r ha hr
  simp only [Links.rebindRequest, Table.lookup_updateMany, Option.map_eq_some_iff] at ha
  obtain ⟨a₀, ha₀, ha⟩ := ha
  have hr₀ : a₀.consultationRequestId = some r := by
    split_ifs at ha with hmoved
    · subst ha
      exact hr
    · rwa [ha]
  obtain ⟨q₀, hq₀⟩ := h p a₀ r ha₀ hr₀
  rw [Links.rebindRequest, Table.lookup_update]
  split_ifs
  · exact ⟨_, by rw [hq₀]; rfl⟩
  · exact ⟨q₀, hq₀⟩

/-- A link that nobody else's session stands in the way of. -/
theorem Invariant.link (h : Invariant db) (hsession : db.sessions.lookup sessionId = some session)
    (hown : ∀ c', session.clientId = some c' → c' = c) (hdb : db.link sessionId c = some db') :
    Invariant db' := by
  obtain ⟨requests, appointments, htaken, rfl⟩ := link_cases hsession hdb
  refine h.rewrite (f := fun s ↦ { s with clientId := some c }) hsession rfl
    (fun _ hid ↦ .inl hid) (fun _ hid ↦ .inl hid) ⟨?_, ?_⟩ ?_ ?_
  · intro thread hthread
    obtain ⟨owner, howner, -⟩ := (h.sound _ _ hsession).thread thread hthread
    refine ⟨some c, ?_, fun c' hc' ↦ hc'⟩
    simp only at hthread
    simp [hthread, howner]
  · intro r hr
    obtain ⟨owner, q, hq, howner, hsame, hguest, happointments⟩ :=
      (h.sound _ _ hsession).request r hr
    cases htaken with
    | kept hkept =>
      -- a guest's request can be attached, so it is the client's already
      have hclient : owner = c := by
        cases hc : session.clientId with
        | some c' => rw [hsame c' hc, hown c' hc]
        | none =>
          by_contra hne
          obtain ⟨hsource, hlead⟩ := hguest hc
          exact hkept r q hr hq (by simp [Links.canAttach, howner, hne, hsource, hlead])
      refine ⟨owner, q, hq, howner, fun c' hc' ↦ ?_, nofun, happointments⟩
      cases hc'
      exact hclient
    | attached hid hq' hattach =>
      cases hr.symm.trans hid
      cases hq.symm.trans hq'
      refine ⟨c, { q with clientId := some c }, ?_, rfl, fun c' hc' ↦ ?_, nofun,
        fun p a ha har ↦ ?_⟩
      · simp [Links.rebindRequest, hq]
      · cases hc'
        rfl
      · simp only [Links.rebindRequest, Table.lookup_updateMany, Option.map_eq_some_iff] at ha
        obtain ⟨a₀, ha₀, ha⟩ := ha
        split_ifs at ha with hmoved
        · cases ha
          rfl
        · subst ha
          simp [har, howner, happointments p a₀ ha₀ har] at hmoved
  · intro k s hk hs
    refine (h.sound k s hs).frame (fun thread hthread ↦ ?_) (fun r hr ↦ ?_) (fun _ h ↦ h)
      fun r p a hr ha har ↦ ?_
    · cases hown : session.conversationThreadId with
      | none => rfl
      | some thread' =>
        have hne : thread ≠ thread' := by
          rintro rfl
          exact hk (h.thread_unique _ _ _ _ _ hs hsession hthread hown)
        simp [hne]
    · cases htaken with
      | kept => rfl
      | @attached r' q hid hq hattach =>
        have hne : r ≠ r' := by
          rintro rfl
          exact hk (h.request_unique _ _ _ _ _ hs hsession hr hid)
        simp [Links.rebindRequest, hne]
    · cases htaken with
      | kept => exact ha
      | attached hid hq hattach =>
        simp only [Links.rebindRequest, Table.lookup_updateMany, Option.map_eq_some_iff] at ha
        obtain ⟨a₀, ha₀, ha⟩ := ha
        split_ifs at ha with hmoved
        · subst ha
          simp only [decide_eq_true_eq] at hmoved
          rw [hmoved.1] at har
          cases har
          exact absurd (h.request_unique _ _ _ _ _ hs hsession hr hid) hk
        · rwa [← ha]
  · cases htaken with
    | kept => exact h.appointments
    | @attached r' q hid hq hattach => exact h.appointments.rebindRequest

/-! ## Threads -/

theorem Sound.setSessions {sessions : Table Uuid SessionLinks} (h : Sound db session) :
    Sound { db with sessions } session := ⟨h.thread, h.request⟩

/-- The thread of a session goes to its client. -/
theorem Invariant.setThreadClient (h : Invariant db)
    (hsession : db.sessions.lookup sessionId = some session)
    (hthread : session.conversationThreadId = some id)
    (hown : ∀ c', session.clientId = some c' → c' = c) : Invariant (db.setThreadClient id c) := by
  refine ⟨fun k s hs ↦ ⟨fun t ht ↦ ?_, (h.sound k s hs).request⟩, h.thread_unique,
    h.request_unique, h.appointments⟩
  obtain ⟨owner, howner, hclient⟩ := (h.sound k s hs).thread t ht
  by_cases hid : t = id
  · subst hid
    cases h.thread_unique k sessionId s session t hs hsession ht hthread
    cases hs.symm.trans hsession
    exact ⟨some c, by simp [Links.setThreadClient, howner], fun c' hc' ↦ by rw [hown c' hc']⟩
  · exact ⟨owner, by simp [Links.setThreadClient, hid, howner], hclient⟩

/-- The handoff opens a thread for a session that has none. -/
theorem Invariant.ensureAssistantHandoff {newThreadId threadId : Uuid} (h : Invariant db)
    (hsession : db.sessions.lookup sessionId = some session)
    (hdb : db.ensureAssistantHandoff sessionId newThreadId = some (db', threadId)) :
    Invariant db' ∧ db'.sessions.lookup sessionId =
      some { session with conversationThreadId := some threadId } := by
  unfold Links.ensureAssistantHandoff at hdb
  rw [hsession, Option.bind_eq_bind, Option.bind_some] at hdb
  cases hthread : session.conversationThreadId with
  | some thread =>
    rw [hthread] at hdb
    cases hdb
    refine ⟨h, ?_⟩
    rw [hsession, ← hthread]
  | none =>
    rw [hthread] at hdb
    simp only [Option.bind_eq_bind, Option.bind_eq_some_iff] at hdb
    obtain ⟨db₁, hcreate, hdb⟩ := hdb
    cases hdb
    have h₁ := h.createThread hcreate
    obtain ⟨hnew, rfl⟩ := createThread_eq_some.mp hcreate
    have hsession' : (Links.updateSession { db with
        threads := db.threads.insert newThreadId session.clientId } sessionId fun s ↦
          { s with conversationThreadId := some newThreadId }).sessions.lookup sessionId =
        some { session with conversationThreadId := some newThreadId } := by
      rw [Links.updateSession, Table.lookup_update_self, hsession]
      rfl
    refine ⟨h₁.rewrite (f := fun s ↦ { s with conversationThreadId := some newThreadId })
      hsession rfl (fun t ht ↦ ?_) (fun _ hr ↦ .inl hr) ⟨fun t ht ↦ ?_, ?_⟩
      (fun k s _ hs ↦ (h₁.sound k s hs).setSessions) h₁.appointments, hsession'⟩
    · cases ht
      exact .inr (h.unreferenced_thread hnew)
    · cases ht
      exact ⟨session.clientId, by simp [Links.updateSession], fun _ hc ↦ hc⟩
    · exact (h₁.sound _ _ hsession).request

/-! ## Requests -/

/-- The session refers to a request of its client, and the thread goes to that client. -/
theorem Invariant.placeBooking {call : Booking} {requestId : Uuid} (h : Invariant db)
    (hsession : db.sessions.lookup call.sessionId = some session)
    (hrequest : session.consultationRequestId = some requestId ∨
      Unreferenced db.sessions (·.consultationRequestId) requestId)
    (hof : RequestOf db session.clientId requestId c)
    (hdb : db.placeBooking call requestId c = some db') : Invariant db' := by
  unfold Links.placeBooking at hdb
  simp only [Option.bind_eq_bind, Option.bind_eq_some_iff] at hdb
  obtain ⟨⟨db₂, threadId⟩, hhandoff, hdb⟩ := hdb
  cases hdb
  have h₁ : Invariant (db.updateSession call.sessionId fun s ↦
      { s with consultationRequestId := some requestId }) := by
    refine h.rewrite (f := fun s ↦ { s with consultationRequestId := some requestId }) hsession rfl
      (fun _ ht ↦ .inl ht) (fun r hr ↦ ?_) ⟨(h.sound _ _ hsession).thread, fun r hr ↦ ?_⟩
      (fun k s _ hs ↦ (h.sound k s hs).setSessions) h.appointments
    · cases hr
      exact hrequest
    · cases hr
      exact ⟨c, hof⟩
  have hsession₁ : (db.updateSession call.sessionId fun s ↦
      { s with consultationRequestId := some requestId }).sessions.lookup call.sessionId =
      some { session with consultationRequestId := some requestId } := by
    rw [Links.updateSession, Table.lookup_update_self, hsession]
    rfl
  obtain ⟨h₂, hsession₂⟩ := h₁.ensureAssistantHandoff hsession₁ hhandoff
  obtain ⟨q, -, -, hsame, -⟩ := hof
  exact h₂.setThreadClient hsession₂ rfl fun c' hc' ↦ (hsame c' hc').symm

/-- The client of a booking is that of the session, or a lead. -/
theorem Invariant.clientOfBooking {client : Option Uuid} (h : Invariant db)
    (hdb : db.clientOfBooking id client = some (db', c)) :
    Invariant db' ∧ db'.sessions = db.sessions ∧ (∀ c', client = some c' → c' = c) ∧
      (client = none → db'.isLead c) := by
  cases client with
  | some c' =>
    cases hdb
    refine ⟨h, rfl, fun c' hc' ↦ ?_, nofun⟩
    cases hc'
    rfl
  | none =>
    simp only [Links.clientOfBooking, Option.map_eq_some_iff] at hdb
    obtain ⟨db₁, hcreate, hdb⟩ := hdb
    cases hdb
    have h₁ := h.createClient hcreate
    obtain ⟨-, rfl⟩ := createClient_eq_some.mp hcreate
    exact ⟨h₁, rfl, nofun, fun _ ↦ by simp [Links.isLead]⟩

/-- The request of a new booking is the client's, and so is its appointment. -/
theorem Invariant.createBooking {call : Booking} {client : Option Uuid} (h : Invariant db)
    (hsame : ∀ c', client = some c' → c' = c) (hlead : client = none → db.isLead c)
    (hdb : db.createBooking call c = some db') :
    Invariant db' ∧ db'.sessions = db.sessions ∧ RequestOf db' client call.newRequestId c ∧
      Unreferenced db'.sessions (·.consultationRequestId) call.newRequestId := by
  unfold Links.createBooking at hdb
  dsimp only at hdb
  generalize hsource : (if call.action = .confirm then "PUBLISHED_SLOT" else "CALLBACK_REQUEST") =
    source at hdb
  have hreview : source ≠ "STAFF_APPROVAL" := by
    rw [← hsource]
    split_ifs <;> decide
  simp only [Option.bind_eq_bind, Option.bind_eq_some_iff] at hdb
  obtain ⟨db₁, hcreate, hdb⟩ := hdb
  have h₁ := h.createRequest hcreate
  obtain ⟨hnew, rfl⟩ := createRequest_eq_some.mp hcreate
  have hunreferenced := h.unreferenced_request hnew
  have hlookup : (db.requests.insert call.newRequestId
      { clientId := some c, confirmationSource := source }).lookup call.newRequestId =
      some { clientId := some c, confirmationSource := source } := AList.lookup_insert _
  -- the foreign key: nothing is there for a request that did not exist
  have hnone : ∀ p a, db.appointments.lookup p = some a →
      a.consultationRequestId ≠ some call.newRequestId := by
    intro p a ha hr
    obtain ⟨q, hq⟩ := h.appointments p a _ ha hr
    rw [hnew] at hq
    cases hq
  split_ifs at hdb
  · have h₂ := h₁.createAppointment hlookup hunreferenced hdb
    obtain ⟨-, rfl⟩ := createAppointment_eq_some.mp hdb
    refine ⟨h₂, rfl, ⟨_, hlookup, rfl, fun c' hc' ↦ (hsame c' hc').symm,
      fun hc ↦ ⟨hreview, hlead hc⟩, fun p a ha hr ↦ ?_⟩, hunreferenced⟩
    rw [Table.lookup_insert] at ha
    split_ifs at ha
    · cases ha
      rfl
    · exact absurd hr (hnone p a ha)
  · cases hdb
    exact ⟨h₁, rfl, ⟨_, hlookup, rfl, fun c' hc' ↦ (hsame c' hc').symm,
      fun hc ↦ ⟨hreview, hlead hc⟩, fun p a ha hr ↦ absurd hr (hnone p a ha)⟩, hunreferenced⟩

/-! ## Calls -/

/-- What a call that is not refused does. -/
inductive Served (db : Links) : LinkCall → Links → Prop
  /-- A private read in a linked session, or a cancellation. -/
  | unchanged (call : LinkCall) : Served db call db
  | created {sessionId : Uuid} {clientId : Option Uuid}
    (hid : db.sessions.lookup sessionId = none) :
    Served db (.createAssistantSession sessionId clientId)
      { db with sessions := db.sessions.insert sessionId { clientId } }
  | linked {call : LinkCall} {db' : Links} {sessionId c : Uuid} {session : SessionLinks}
    (hsession : db.sessions.lookup sessionId = some session)
    (hown : ∀ c', session.clientId = some c' → c' = c) (h : db.link sessionId c = some db') :
    Served db call db'
  | registered {call : LinkCall} {db' : Links} {sessionId c : Uuid} {session : SessionLinks}
    {client : ClientLinks} (hid : db.clients.lookup c = none) (haccount : client.userId ≠ none)
    (hsession : db.sessions.lookup sessionId = some session) (hguest : session.clientId = none)
    (h : { db with clients := db.clients.insert c client }.link sessionId c = some db') :
    Served db call db'
  /-- The interview does not bind. -/
  | interviewed {sessionId c threadId : Uuid} {session : SessionLinks}
    (hsession : db.sessions.lookup sessionId = some session)
    (hown : ∀ c', session.clientId = some c' → c' = c) (hid : db.threads.lookup threadId = none) :
    Served db (.submitFormation sessionId c threadId)
      ({ db with threads := db.threads.insert threadId (some c) }.updateSession sessionId fun s ↦
        { s with clientId := some c })
  /-- A request for the office to review. -/
  | requested {sessionId c requestId : Uuid} {session : SessionLinks}
    (hsession : db.sessions.lookup sessionId = some session) (hclient : session.clientId = some c)
    (hid : db.requests.lookup requestId = none) :
    Served db (.submitConversationRequest sessionId c requestId)
      ({ db with requests := db.requests.insert requestId { clientId := some c } }.updateSession
        sessionId fun s ↦ { s with consultationRequestId := some requestId })
  | booked {call : Booking} {db₁ db₂ db' : Links} {c : Uuid} {session : SessionLinks}
    (hsession : db.sessions.lookup call.sessionId = some session)
    (hclient : db.clientOfBooking call.newClientId session.clientId = some (db₁, c))
    (hbooking : db₁.createBooking call c = some db₂)
    (h : db₂.placeBooking call call.newRequestId c = some db') :
    Served db (.mutateDirectBooking call) db'
  | rescheduled {call : Booking} {db₁ db' : Links} {requestId c : Uuid} {session : SessionLinks}
    {q : RequestLinks} (hsession : db.sessions.lookup call.sessionId = some session)
    (hrequest : session.consultationRequestId = some requestId)
    (hq : db.requests.lookup requestId = some q)
    (hclient : db.clientOfBooking call.newClientId (q.clientId.or session.clientId) =
      some (db₁, c))
    (h : db₁.placeBooking call requestId c = some db') : Served db (.mutateDirectBooking call) db'

theorem served_linkOwned {call : LinkCall} (h : db.linkOwned sessionId c = some db') :
    Served db call db' := by
  unfold Links.linkOwned at h
  simp only [Option.bind_eq_bind, Option.bind_eq_some_iff] at h
  obtain ⟨session, hsession, h⟩ := h
  split_ifs at h with hown
  exact .linked hsession (fun c' hc' ↦ by simpa [hc'] using hown) h

theorem served_linkNewClient {call : LinkCall} {source : String} {newUserId : Uuid}
    (h : db.linkNewClient source sessionId c newUserId = some db') : Served db call db' := by
  unfold Links.linkNewClient at h
  simp only [Option.bind_eq_bind, Option.bind_eq_some_iff] at h
  obtain ⟨session, hsession, h⟩ := h
  split_ifs at h with hguest
  simp only [Option.bind_eq_some_iff] at h
  obtain ⟨db₁, hcreate, h⟩ := h
  obtain ⟨hid, rfl⟩ := createClient_eq_some.mp hcreate
  exact .registered hid (by simp) hsession (by simpa using hguest) h

theorem served_completeClientVerification {call : LinkCall} {newUserId : Uuid}
    {existing : Option Uuid}
    (h : db.completeClientVerification sessionId c newUserId existing = some db') :
    Served db call db' := by
  cases existing with
  | none => exact served_linkNewClient h
  | some clientId =>
    rw [Links.completeClientVerification] at h
    split_ifs at h
    exact served_linkOwned h

theorem served_privateRead {call : LinkCall} (h : db.privateRead sessionId c = some db') :
    Served db call db' := by
  unfold Links.privateRead at h
  simp only [Option.bind_eq_bind, Option.bind_eq_some_iff] at h
  obtain ⟨session, hsession, h⟩ := h
  split_ifs at h with haccount hsame hguest
  · cases h
    exact .unchanged call
  · exact .linked hsession (fun c' hc' ↦ by simp [hc'] at hguest) h

theorem served_submitFormation (h : db.submitFormation sessionId c id = some db') :
    Served db (.submitFormation sessionId c id) db' := by
  unfold Links.submitFormation at h
  simp only [Option.bind_eq_bind, Option.bind_eq_some_iff] at h
  obtain ⟨session, hsession, h⟩ := h
  split_ifs at h with hguard
  simp only [Option.bind_eq_some_iff] at h
  obtain ⟨db₁, hcreate, h⟩ := h
  cases h
  obtain ⟨hid, rfl⟩ := createThread_eq_some.mp hcreate
  exact .interviewed hsession (fun c' hc' ↦ by simpa [hc'] using hguard.1) hid

theorem served_submitConversationRequest
    (h : db.submitConversationRequest sessionId c id = some db') :
    Served db (.submitConversationRequest sessionId c id) db' := by
  unfold Links.submitConversationRequest at h
  simp only [Option.bind_eq_bind, Option.bind_eq_some_iff] at h
  obtain ⟨session, hsession, h⟩ := h
  split_ifs at h with hguard
  simp only [Option.bind_eq_some_iff] at h
  obtain ⟨db₁, hcreate, h⟩ := h
  cases h
  obtain ⟨hid, rfl⟩ := createRequest_eq_some.mp hcreate
  exact .requested hsession hguard.1 hid

theorem served_mutateDirectBooking {call : Booking} (h : db.mutateDirectBooking call = some db') :
    Served db (.mutateDirectBooking call) db' := by
  unfold Links.mutateDirectBooking at h
  rw [Option.bind_eq_bind, Option.bind_eq_some_iff] at h
  obtain ⟨session, hsession, h⟩ := h
  split at h
  · cases h
  cases hrequest : session.consultationRequestId with
  | none =>
    rw [hrequest] at h
    dsimp only at h
    split_ifs at h
    simp only [Option.bind_eq_bind, Option.bind_eq_some_iff] at h
    obtain ⟨⟨db₁, clientId⟩, hclient, db₂, hbooking, h⟩ := h
    exact .booked hsession hclient hbooking h
  | some requestId =>
    rw [hrequest] at h
    simp only [Option.bind_eq_bind, Option.bind_eq_some_iff] at h
    obtain ⟨q, hq, h⟩ := h
    split_ifs at h
    · rw [Option.bind_eq_some_iff] at h
      obtain ⟨⟨db₁, clientId⟩, hclient, h⟩ := h
      exact .rescheduled hsession hrequest hq hclient h
    · cases h
      exact .unchanged _

theorem LinkCall.served {call : LinkCall} (h : call.serve db = some db') : Served db call db' := by
  cases call with
  | createAssistantSession sessionId clientId =>
    simp only [LinkCall.serve, Option.map_eq_some_iff, Table.create_eq_some] at h
    obtain ⟨sessions, ⟨hid, rfl⟩, rfl⟩ := h
    exact .created hid
  | attachAuthenticatedClient => exact served_linkOwned h
  | registerConversationClient => exact served_linkNewClient h
  | completeClientVerification => exact served_completeClientVerification h
  | privateRead => exact served_privateRead h
  | submitFormation => exact served_submitFormation h
  | submitConversationRequest => exact served_submitConversationRequest h
  | mutateDirectBooking => exact served_mutateDirectBooking h

/-- The request is new, and there is nothing of it yet. -/
theorem Invariant.requested (h : Invariant db)
    (hsession : db.sessions.lookup sessionId = some session) (hclient : session.clientId = some c)
    (hid : db.requests.lookup id = none) :
    Invariant ({ db with requests := db.requests.insert id { clientId := some c } }.updateSession
      sessionId fun s ↦ { s with consultationRequestId := some id }) := by
  have h₁ : Invariant { db with requests := db.requests.insert id { clientId := some c } } :=
    h.createRequest (createRequest_eq_some.mpr ⟨hid, rfl⟩)
  refine h₁.rewrite (f := fun s ↦ { s with consultationRequestId := some id }) hsession
    rfl (fun _ ht ↦ .inl ht) (fun r hr ↦ ?_) ⟨(h₁.sound _ _ hsession).thread, fun r hr ↦ ?_⟩
    (fun k s _ hs ↦ (h₁.sound k s hs).setSessions) h₁.appointments
  · cases hr
    exact .inr (h.unreferenced_request hid)
  · cases hr
    refine ⟨c, _, AList.lookup_insert _, rfl, fun c' hc' ↦ ?_, fun hc ↦ ?_, fun p a ha hr ↦ ?_⟩
    · exact Option.some.inj (hclient.symm.trans hc')
    · rw [hclient] at hc
      cases hc
    · obtain ⟨q, hq⟩ := h.appointments p a _ ha hr
      rw [hid] at hq
      cases hq

/-- What a guest has would be left behind. -/
theorem Invariant.interviewed (h : Invariant db)
    (hsession : db.sessions.lookup sessionId = some session)
    (hown : ∀ c', session.clientId = some c' → c' = c) (hid : db.threads.lookup id = none)
    (hlinked : LinkedBefore db (.submitFormation sessionId c id)) :
    Invariant ({ db with threads := db.threads.insert id (some c) }.updateSession sessionId fun s ↦
      { s with clientId := some c }) := by
  have h₁ : Invariant { db with threads := db.threads.insert id (some c) } :=
    h.createThread (createThread_eq_some.mpr ⟨hid, rfl⟩)
  refine h₁.rewrite (f := fun s ↦ { s with clientId := some c }) hsession rfl
    (fun _ ht ↦ .inl ht) (fun _ hr ↦ .inl hr) ?_
    (fun k s _ hs ↦ (h₁.sound k s hs).setSessions) h₁.appointments
  cases hclient : session.clientId with
  | some c' =>
    obtain rfl := hown c' hclient
    have hsame : { session with clientId := some c' } = session := by rw [← hclient]
    rw [hsame]
    exact (h₁.sound _ _ hsession).setSessions
  | none =>
    obtain ⟨hthread, hrequest⟩ := hlinked session hsession hclient
    refine ⟨fun t ht ↦ ?_, fun r hr ↦ ?_⟩
    · rw [hthread] at ht
      cases ht
    · rw [hrequest] at hr
      cases hr

theorem Invariant.served {call : LinkCall} (h : Invariant db) (hlinked : LinkedBefore db call)
    (hdb : Served db call db') : Invariant db' := by
  cases hdb with
  | unchanged => exact h
  | created => exact h.createSession
  | linked hsession hown hlink => exact h.link hsession hown hlink
  | registered hid _ hsession hguest hlink =>
    exact (h.createClient (createClient_eq_some.mpr ⟨hid, rfl⟩)).link hsession
      (fun c' hc' ↦ by simp [hguest] at hc') hlink
  | interviewed hsession hown hid => exact h.interviewed hsession hown hid hlinked
  | requested hsession hclient hid => exact h.requested hsession hclient hid
  | booked hsession hclient hbooking hplace =>
    obtain ⟨h₁, hsessions₁, hsame, hlead⟩ := h.clientOfBooking hclient
    obtain ⟨h₂, hsessions₂, hof, hunreferenced⟩ := h₁.createBooking hsame hlead hbooking
    refine h₂.placeBooking ?_ (.inr hunreferenced) hof hplace
    rw [hsessions₂, hsessions₁, hsession]
  | rescheduled hsession hrequest hq hclient hplace =>
    -- the client of the booking is the one the request has
    obtain ⟨owner, hof⟩ := (h.sound _ _ hsession).request _ hrequest
    obtain ⟨q', hq', howner, -⟩ := id hof
    cases hq.symm.trans hq'
    rw [howner, Option.some_or] at hclient
    cases hclient
    exact h.placeBooking hsession (.inl hrequest) hof hplace

/-- A call that throws is rolled back. -/
theorem Invariant.linkStep {call : LinkCall} (h : Invariant db) (hlinked : LinkedBefore db call) :
    Invariant (linkStep db call) := by
  unfold Linking.linkStep
  cases hdb : call.serve db with
  | none => exact h
  | some db' => exact h.served hlinked (LinkCall.served hdb)

end KmtLegal.Linking
