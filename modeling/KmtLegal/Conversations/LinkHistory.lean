import KmtLegal.Conversations.CarriedLinks

/-!
# The client of a conversation, over every run

No call moves a session to another client, or a request away from a client of its own; for this
nothing has to be known of the state the call finds.  That a link leaves nothing behind needs the
invariant, and the interview is the one service that breaks it: it links the session without
binding what the session refers to.
-/

namespace KmtLegal.Linking

open Relational

variable {db db' : Links} {sessionId id c : Uuid} {session : SessionLinks}

/-! ## What is never rewritten -/

/-- A session keeps the client it has. -/
def SessionLinks.Keeps (s s' : SessionLinks) : Prop :=
  ∀ c, s.clientId = some c → s'.clientId = some c

theorem SessionLinks.Keeps.refl (s : SessionLinks) : s.Keeps s := fun _ hc ↦ hc

theorem SessionLinks.Keeps.trans (s s' s'' : SessionLinks) (h : s.Keeps s') (h' : s'.Keeps s'') :
    s.Keeps s'' := fun c hc ↦ h' c (h c hc)

/-- Nothing that is linked changes hands. -/
structure Kept (db db' : Links) : Prop where
  sessions : Table.RowsKept SessionLinks.Keeps db.sessions db'.sessions
  requests : Table.RowsKept (fun q q' : RequestLinks ↦ q'.clientId = q.clientId) db.requests db'.requests

theorem Kept.refl (db : Links) : Kept db db := ⟨.refl .refl, .refl fun _ ↦ rfl⟩

theorem Kept.trans {db'' : Links} (h : Kept db db') (h' : Kept db' db'') : Kept db db'' :=
  ⟨h.sessions.trans SessionLinks.Keeps.trans h'.sessions,
    h.requests.trans (fun _ _ _ hq hq' ↦ hq'.trans hq) h'.requests⟩

theorem Kept.clientsKept (h : Kept db db') : ClientsKept db db' :=
  ⟨h.sessions, fun id q hq _ ↦ h.requests id q hq⟩

theorem kept_updateSession {f : SessionLinks → SessionLinks}
    (hf : ∀ s, db.sessions.lookup sessionId = some s → s.Keeps (f s)) :
    Kept db (db.updateSession sessionId f) :=
  ⟨.update .refl hf, .refl fun _ ↦ rfl⟩

theorem kept_createClient {client : ClientLinks} (h : db.createClient id client = some db') :
    Kept db db' := by
  obtain ⟨-, rfl⟩ := createClient_eq_some.mp h
  exact ⟨.refl .refl, .refl fun _ ↦ rfl⟩

theorem kept_createThread {owner : Option Uuid} (h : db.createThread id owner = some db') :
    Kept db db' := by
  obtain ⟨-, rfl⟩ := createThread_eq_some.mp h
  exact ⟨.refl .refl, .refl fun _ ↦ rfl⟩

theorem kept_createRequest {request : RequestLinks} (h : db.createRequest id request = some db') :
    Kept db db' := by
  obtain ⟨hid, rfl⟩ := createRequest_eq_some.mp h
  exact ⟨.refl .refl, .insert (fun _ ↦ rfl) hid⟩

theorem kept_createAppointment {appointment : AppointmentLinks}
    (h : db.createAppointment id appointment = some db') : Kept db db' := by
  obtain ⟨-, rfl⟩ := createAppointment_eq_some.mp h
  exact ⟨.refl .refl, .refl fun _ ↦ rfl⟩

theorem kept_placeBooking {call : Booking} {requestId : Uuid}
    (h : db.placeBooking call requestId c = some db') : Kept db db' := by
  unfold Links.placeBooking Links.ensureAssistantHandoff at h
  simp only [Option.bind_eq_bind, Option.bind_eq_some_iff] at h
  obtain ⟨⟨db₁, threadId⟩, ⟨session, -, hthread⟩, h⟩ := h
  cases h
  have h₀ : Kept db (db.updateSession call.sessionId fun s ↦
      { s with consultationRequestId := some requestId }) := kept_updateSession fun _ _ ↦ .refl _
  refine h₀.trans ?_
  cases hc : session.conversationThreadId with
  | some =>
    rw [hc] at hthread
    cases hthread
    exact ⟨.refl .refl, .refl fun _ ↦ rfl⟩
  | none =>
    rw [hc] at hthread
    simp only [Option.bind_eq_some_iff] at hthread
    obtain ⟨db₂, hcreate, hthread⟩ := hthread
    cases hthread
    have h₁ : Kept db₂ (db₂.updateSession call.sessionId fun s ↦
        { s with conversationThreadId := some call.newThreadId }) :=
      kept_updateSession fun _ _ ↦ .refl _
    have h₂ := (kept_createThread hcreate).trans h₁
    exact ⟨h₂.sessions, h₂.requests⟩

theorem kept_clientOfBooking {client : Option Uuid}
    (h : db.clientOfBooking id client = some (db', c)) : Kept db db' := by
  cases client with
  | some =>
    cases h
    exact .refl db
  | none =>
    simp only [Links.clientOfBooking, Option.map_eq_some_iff] at h
    obtain ⟨db₁, hcreate, h⟩ := h
    cases h
    exact kept_createClient hcreate

theorem kept_createBooking {call : Booking} (h : db.createBooking call c = some db') :
    Kept db db' := by
  unfold Links.createBooking at h
  simp only [Option.bind_eq_bind, Option.bind_eq_some_iff] at h
  obtain ⟨db₁, hcreate, h⟩ := h
  refine (kept_createRequest hcreate).trans ?_
  split at h
  · exact kept_createAppointment h
  · cases h
    exact .refl _

/-- A link takes over the request of a lead at most. -/
theorem clientsKept_link (hsession : db.sessions.lookup sessionId = some session)
    (hown : ∀ c', session.clientId = some c' → c' = c) (h : db.link sessionId c = some db') :
    ClientsKept db db' := by
  obtain ⟨requests, appointments, htaken, rfl⟩ := link_cases hsession h
  refine ⟨Table.RowsKept.update SessionLinks.Keeps.refl fun s hs c' hc' ↦ ?_, fun id q hq hlead ↦ ?_⟩
  · cases hs.symm.trans hsession
    exact congrArg some (hown c' hc').symm
  · cases htaken with
    | kept => exact ⟨q, hq, rfl⟩
    | @attached r q' hid hq' hattach =>
      have hne : id ≠ r := by
        rintro rfl
        cases hq.symm.trans hq'
        simp only [Links.canAttach, decide_eq_true_eq] at hattach
        exact hlead hattach.2.2
      exact ⟨q, by simp [Links.rebindRequest, hne, hq], rfl⟩

/-- The new client has an account, so the leads are those there were. -/
theorem clientsKept_register {client : ClientLinks} (haccount : client.userId ≠ none)
    (hsession : db.sessions.lookup sessionId = some session) (hguest : session.clientId = none)
    (h : { db with clients := db.clients.insert c client }.link sessionId c = some db') :
    ClientsKept db db' := by
  have hsession₁ : { db with clients := db.clients.insert c client }.sessions.lookup sessionId =
      some session := hsession
  obtain ⟨hsessions, hrequests⟩ :=
    clientsKept_link hsession₁ (fun c' hc' ↦ by simp [hguest] at hc') h
  refine ⟨hsessions, fun id q hq hlead ↦ hrequests id q hq fun hnew ↦ hlead ?_⟩
  obtain ⟨owner, howner, hisLead⟩ := (Option.any_eq_true ..).mp hnew
  exact (Option.any_eq_true ..).mpr ⟨owner, howner, isLead_of_insert haccount hisLead⟩

theorem Served.clientsKept {call : LinkCall} (h : Served db call db') : ClientsKept db db' := by
  cases h with
  | unchanged => exact (Kept.refl db).clientsKept
  | created hid => exact Kept.clientsKept ⟨.insert .refl hid, .refl fun _ ↦ rfl⟩
  | linked hsession hown hlink => exact clientsKept_link hsession hown hlink
  | registered _ haccount hsession hguest hlink =>
    exact clientsKept_register haccount hsession hguest hlink
  | interviewed hsession hown hid =>
    refine ((kept_createThread (createThread_eq_some.mpr ⟨hid, rfl⟩)).trans
      (kept_updateSession fun s hs c' hc' ↦ ?_)).clientsKept
    cases hs.symm.trans hsession
    rw [← hown c' hc']
  | requested _ _ hid =>
    refine ((kept_createRequest (createRequest_eq_some.mpr ⟨hid, rfl⟩)).trans
      (kept_updateSession fun s hs c hc ↦ ?_)).clientsKept
    exact hc
  | booked _ hclient hbooking hplace =>
    exact (((kept_clientOfBooking hclient).trans (kept_createBooking hbooking)).trans
      (kept_placeBooking hplace)).clientsKept
  | rescheduled _ _ _ hclient hplace =>
    exact ((kept_clientOfBooking hclient).trans (kept_placeBooking hplace)).clientsKept

theorem clientsKept_linkStep (db : Links) (call : LinkCall) :
    ClientsKept db (linkStep db call) := by
  unfold linkStep
  cases h : call.serve db with
  | none => exact (Kept.refl db).clientsKept
  | some db' => exact (LinkCall.served h).clientsKept

/-! ## Runs -/

/-- Without sessions there is nothing to carry over. -/
theorem invariant_of_fresh (hfresh : db.sessions = ∅) (hkeyed : db.AppointmentsKeyed) :
    Invariant db := by
  refine ⟨fun k s hs ↦ ?_, fun k k' s s' r hs ↦ ?_, fun k k' s s' r hs ↦ ?_, hkeyed⟩ <;>
    simp [hfresh] at hs

/-- An office with a client who has an account. -/
def sampleOffice : Links :=
  { clients := AList.insert "client" { userId := some "user", source := some "website" } ∅ }

/-- A guest takes a published slot. -/
def guestBooking : List LinkCall :=
  [.createAssistantSession "session" none,
    .mutateDirectBooking
      { sessionId := "session", action := .confirm, newClientId := "lead",
        newRequestId := "request", newAppointmentId := "appointment", newThreadId := "thread" }]

/-- No call moves a session to another client, or a request away from a client who is not an
isolated lead.  What a session has is carried over as long as no interview is submitted from a
guest's session that has a thread or a request. -/
theorem account_links (db : Links) (hfresh : db.sessions = ∅) (hkeyed : db.AppointmentsKeyed)
    (calls : List LinkCall) :
    AllSteps linkStep (fun db call ↦ ClientsKept db (linkStep db call)) db calls ∧
      (AllSteps linkStep LinkedBefore db calls → AllStates linkStep Carried db calls) := by
  refine ⟨?_, fun hlinked ↦ ?_⟩
  · exact allSteps_of_invariant (J := fun _ ↦ True) (fun _ _ _ ↦ trivial)
      (fun db call _ ↦ clientsKept_linkStep db call) trivial calls
  · exact allStates_mono (fun _ ↦ Invariant.carried) (allStates_of_allSteps
      (fun _ _ ↦ Invariant.linkStep) (invariant_of_fresh hfresh hkeyed) hlinked)

/-- The guest signs in and attaches the conversation before the interview is submitted. -/
theorem account_links_attached :
    AllStates linkStep Carried sampleOffice (guestBooking ++
      [.attachAuthenticatedClient "session" "client",
        .submitFormation "session" "client" "formation"]) := by
  refine (account_links sampleOffice rfl (fun p a r ha ↦ ?_) _).2
    ⟨trivial, trivial, trivial, fun session hsession hguest ↦ ?_, trivial⟩
  · cases ha
  · cases hsession
    cases hguest

/-- The guest signs in and submits an interview from the conversation: the session is the client's
from now on, while the thread and the booking stay with the lead. -/
theorem interview_leaves_booking :
    let db := run linkStep sampleOffice
      (guestBooking ++ [.submitFormation "session" "client" "formation"])
    db.sessions.lookup "session" = some
        { clientId := some "client", consultationRequestId := some "request"
          conversationThreadId := some "thread" } ∧
      db.threads.lookup "thread" = some (some "lead") ∧
      db.requests.lookup "request" = some
        { clientId := some "lead", confirmationSource := "PUBLISHED_SLOT" } ∧
      db.isLead "lead" ∧ ¬Carried db := by
  refine ⟨by decide, by decide, by decide, by decide, fun h ↦ ?_⟩
  have hthread := (h "session" _ "client" rfl rfl).thread "thread" rfl
  exact absurd hthread (by decide)

end KmtLegal.Linking
