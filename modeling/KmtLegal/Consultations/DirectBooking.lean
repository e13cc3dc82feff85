import KmtLegal.Clients
import KmtLegal.Admin.OutcomePolicy

/-!
# Direct booking

The transaction of `mutateDirectBooking`: a client in a conversation confirms one of the published
times, moves or cancels the appointment, or asks to be called back.  Every action has a key, and an
action that was done is not done again.
-/

namespace KmtLegal

open Relational Js Scheduling

/-! ## Actions -/

structure BookingContact where
  fullName : String
  phone : String
  contactChannel : String
  deriving DecidableEq

/-- The actions of `directBookingInputSchema`, each with the fields it requires. -/
inductive DirectBookingAction where
  | confirm (contact : BookingContact) (startsAt : Time)
  | reschedule (startsAt : Time)
  | cancel
  | requestCallback (contact : BookingContact)
  deriving DecidableEq

namespace DirectBookingAction

def contact : DirectBookingAction → Option BookingContact
  | confirm contact _ => some contact
  | requestCallback contact => some contact
  | reschedule _ | cancel => none

def startsAt : DirectBookingAction → Option Time
  | confirm _ startsAt => some startsAt
  | reschedule startsAt => some startsAt
  | cancel | requestCallback _ => none

/-- `editing`: the action is about an appointment that exists. -/
def isEditing : DirectBookingAction → Bool
  | reschedule _ | cancel => true
  | confirm _ _ | requestCallback _ => false

end DirectBookingAction

/-- The readings of the clock in one call. -/
structure DirectBookingClock where
  openedAt : Time
  checkedAt : Time
  searchedAt : Time
  offeredAt : Time
  writtenAt : Time
  deriving DecidableEq

/-- A call of `mutateDirectBooking` in the conversation of the caller. -/
structure MutateDirectBooking where
  sessionId : Uuid
  actorClientId : Option Uuid := none
  action : DirectBookingAction
  key : String
  revision : ℕ
  /-- The hash of the body. -/
  requestHash : String
  clock : DirectBookingClock
  newClientId : Uuid
  newConsultationId : Uuid
  newAppointmentId : Uuid

/-! ## The booking of a conversation -/

/-- The latest primary appointment: `orderBy: { createdAt: "desc" }`. -/
def latestPrimaryAppointment (db : Database) (consultationId : Uuid) :
    Option (Uuid × Appointment) :=
  (db.appointments.findMany (fun _ p ↦ p.isPrimaryOf consultationId)
    (fun x y ↦ y.2.createdAt ≤ x.2.createdAt) 1).head?

theorem latestPrimary_eq_some {db : Database} {consultationId id : Uuid} {p : Appointment}
    (h : latestPrimaryAppointment db consultationId = some (id, p)) :
    db.appointments.lookup id = some p ∧ p.isPrimaryOf consultationId :=
  Table.mem_findMany (List.mem_of_mem_head? h)

/-- The request of the conversation, unless it waits for the office. -/
def existingBooking (db : Database) (session : AssistantSession) :
    Except Failure (Option (Uuid × ConsultationRequest)) :=
  match session.consultationRequestId with
  | none => .ok none
  | some id => do
    let c ← orThrow (db.consultationRequests.lookup id) .recordNotFound
    throwIf (c.confirmationSource = "STAFF_APPROVAL")
      (.conflict "Existing request requires office review.")
    return some (id, c)

/-- The appointment an edit is about, if it can still be changed. -/
def editableBooking (db : Database) (existing : Option (Uuid × ConsultationRequest)) (now : Time) :
    Except Failure ((Uuid × ConsultationRequest) × Uuid × Appointment) := do
  let (id, c) ← orThrow existing (.conflict "Appointment cannot be changed.")
  let (appointmentId, p) ← orThrow (latestPrimaryAppointment db id)
    (.conflict "Appointment cannot be changed.")
  throwIf (p.status ∉ [.scheduled, .rescheduled] ∨ p.startsAt ≤ now ∨ c.outcomeStatus ≠ .pending)
    (.conflict "Appointment cannot be changed.")
  return ((id, c), appointmentId, p)

/-- A new booking needs consent and no request before it. -/
def assertNewBooking (session : AssistantSession)
    (existing : Option (Uuid × ConsultationRequest)) : Except Failure Unit :=
  throwIf (existing.isSome ∨ ¬session.bookingConsent)
    (.conflict "Explicit booking consent required.")

/-! ## Cancelling -/

/-- What a cancellation writes into the consultation. -/
def ConsultationRequest.cancelByClient (now : Time) (c : ConsultationRequest) :
    ConsultationRequest :=
  { c with
    status := .rejected
    outcomeStatus := .cancelled
    outcomeAt := some now
    outcomeVersion := c.outcomeVersion + 1 }

/-- The writes of `cancel_booking`. -/
def cancelDirectBooking (db : Database) (consultationId appointmentId : Uuid) (now : Time) :
    Database :=
  (db.updateAppointment appointmentId fun p ↦ { p with status := .cancelled }).updateConsultation
    consultationId (.cancelByClient now)

/-! ## Placing -/

/-- Another active booking of a published time for the phone number. -/
def hasActiveBooking (db : Database) (existingId : Option Uuid) (phone : Option String)
    (now : Time) : Bool :=
  db.consultationRequests.any fun id c ↦
    some id ≠ existingId ∧ c.phoneCanonical = phone ∧ c.confirmationSource = "PUBLISHED_SLOT" ∧
      db.appointments.any fun _ p ↦
        p.consultationRequestId = some id ∧ now < p.startsAt ∧ p.status.isActive

/-- The offered slot at the time asked for; a callback needs none. -/
def offeredSlot (A : Availability) (db : Database) (call : MutateDirectBooking)
    (excluded : Option Uuid) : Except Failure (Option DirectSlot) :=
  match call.action.startsAt with
  | none => .ok none
  | some startsAt => do
    let slot ← orThrow ((A.directSlots db startsAt call.clock.offeredAt excluded).find?
      fun slot ↦ slot.startsAt = startsAt) (.of 409 .appointmentConflict "Time is unavailable.")
    return some slot

/-- The checks for a slot under one scope. -/
def assertSlotFree (db : Database) (slot : Option DirectSlot) (excluded : Option Uuid)
    (scope : DirectSlot → AppointmentConflictScope) : Except Failure Unit :=
  match slot with
  | none => .ok ()
  | some slot => assertNoAppointmentConflict db
      { startsAt := slot.startsAt, endsAt := slot.endsAt, scope := scope slot
        excludeAppointmentId := excluded }

/-- The client of the booking; a guest becomes a lead of her own. -/
def clientOfBooking (db : Database) (call : MutateDirectBooking) (known : Option Uuid)
    (phone : Option String) (slot : Option DirectSlot) : Except Failure (Database × Uuid) :=
  match known with
  | some id => .ok (db, id)
  | none => do
    -- without contact details the row cannot be written
    let contact ← orThrow call.action.contact .typeError
    let db ← db.createClient call.newClientId
      { fullName := contact.fullName
        phone := contact.phone
        phoneCanonical := phone
        status := .lead
        source := some "assistant_guest_booking"
        assignedLawyerId := slot.map DirectSlot.lawyerId
        updatedAt := call.clock.writtenAt }
    return (db, call.newClientId)

/-- The lawyer of the slot, for a client who is still that lead. -/
def assignGuest (db : Database) (clientId : Uuid) (slot : DirectSlot) (now : Time) : Database :=
  { db with
    clients := db.clients.updateMany
      (fun id client ↦ id = clientId ∧ client.source = some "assistant_guest_booking" ∧
        client.userId = none)
      fun client ↦ { client with assignedLawyerId := some slot.lawyerId, updatedAt := now } }

/-- `directBookingCopy[locale].defaultSummary`. -/
def defaultSummary (locale : String) : String :=
  if locale = "en" then "Contact the office about its legal services."
  else "التواصل مع المكتب بشأن خدماته القانونية."

/-- `directBookingCopy[locale].appointmentTitle`. -/
def directAppointmentTitle (locale : String) : String :=
  if locale = "en" then "KMT Legal contact appointment" else "موعد تواصل مع KMT Legal"

/-- The request a new booking creates. -/
def newDirectRequest (A : Availability) (call : MutateDirectBooking) (session : AssistantSession)
    (contact : BookingContact) (clientId : Uuid) (phone : Option String)
    (slot : Option DirectSlot) : ConsultationRequest :=
  let locale := if session.locale = "en" then "en" else "ar"
  let service := session.draft.service.getD "legal-consultation"
  { clientId := some clientId
    publicReference := some ("CONS-" ++ toUpperCase
      (String.ofList (call.newConsultationId.toList.filter (· ≠ '-'))))
    publicServiceSlug := some service
    fullName := contact.fullName
    phone := contact.phone
    phoneCanonical := phone
    serviceCategory := A.bookingCategory service locale
    summary := session.draft.summary.getD (defaultSummary locale)
    preferredMode := .phone
    contactChannel := contact.contactChannel
    locale
    confirmationSource := if slot.isSome then "PUBLISHED_SLOT" else "CALLBACK_REQUEST"
    status := if slot.isSome then .scheduled else .new
    assignedLawyerId := slot.map DirectSlot.lawyerId
    requestedStartsAt := slot.map DirectSlot.startsAt
    requestedEndsAt := slot.map DirectSlot.endsAt
    createdAt := call.clock.writtenAt }

/-- The appointment of a confirmed booking. -/
def newDirectAppointment (call : MutateDirectBooking) (session : AssistantSession)
    (clientId : Uuid) (slot : DirectSlot) : Appointment where
  clientId
  lawyerId := some slot.lawyerId
  consultationRequestId := some call.newConsultationId
  title := directAppointmentTitle session.locale
  type := .consultation
  mode := .phone
  startsAt := slot.startsAt
  endsAt := slot.endsAt
  status := .scheduled
  createdAt := call.clock.writtenAt

/-- What a move writes into the appointment. -/
def DirectSlot.move (slot : DirectSlot) (p : Appointment) : Appointment :=
  { p with
    lawyerId := some slot.lawyerId
    startsAt := slot.startsAt
    endsAt := slot.endsAt
    status := .rescheduled }

/-- What a move writes into the consultation. -/
def DirectSlot.write (slot : DirectSlot) (c : ConsultationRequest) : ConsultationRequest :=
  { c with
    assignedLawyerId := some slot.lawyerId
    requestedStartsAt := some slot.startsAt
    requestedEndsAt := some slot.endsAt
    outcomeVersion := c.outcomeVersion + 1 }

/-- The writes of `confirm_booking` and `request_callback`. -/
def createDirectBooking (A : Availability) (db : Database) (call : MutateDirectBooking)
    (session : AssistantSession) (clientId : Uuid) (phone : Option String)
    (slot : Option DirectSlot) : Except Failure Database := do
  let contact ← orThrow call.action.contact .typeError
  let consultationRequests ← orThrow (db.consultationRequests.create call.newConsultationId
    (newDirectRequest A call session contact clientId phone slot)) .uniqueConstraint
  let db := { db with consultationRequests }
  match slot with
  | none => return db
  | some slot =>
    (assignGuest db clientId slot call.clock.writtenAt).createAppointment call.newAppointmentId
      (newDirectAppointment call session clientId slot)

/-- The writes of `reschedule_booking`. -/
def moveDirectBooking (db : Database) (consultationId appointmentId clientId : Uuid)
    (slot : DirectSlot) (now : Time) : Database :=
  ((assignGuest db clientId slot now).updateAppointment appointmentId slot.move).updateConsultation
    consultationId slot.write

/-- The session after a booking was placed. -/
def AssistantSession.place (consultationId : Uuid) (fullName : Option String)
    (phone : Option String) (slot : Option DirectSlot) (session : AssistantSession) :
    AssistantSession :=
  { session with
    consultationRequestId := some consultationId
    draft := { session.draft with
      fullName
      phone := some ("+" ++ phone.getD "null")
      preferredMode := some .phone
      requestedStartsAt := (slot.map DirectSlot.startsAt).or session.draft.requestedStartsAt } }

/-- The slot and the client of a booking that is placed or moved, with everything checked. -/
def prepareDirectBooking (A : Availability) (db : Database) (call : MutateDirectBooking)
    (session : AssistantSession) (existing : Option (Uuid × ConsultationRequest))
    (appointmentId : Option Uuid) (phone : Option String) :
    Except Failure (Database × Uuid × Option DirectSlot) := do
  throwIf (hasActiveBooking db (existing.map Prod.fst) phone call.clock.searchedAt)
    (.of 409 .appointmentConflict "An active booking already exists.")
  let slot ← offeredSlot A db call appointmentId
  assertSlotFree db slot appointmentId fun _ ↦ .officeConsultation
  assertSlotFree db slot appointmentId fun slot ↦ .lawyer slot.lawyerId
  let known := (existing.bind fun e ↦ e.2.clientId).or session.clientId
  let (db, clientId) ← clientOfBooking db call known phone slot
  assertSlotFree db slot appointmentId fun _ ↦ .client clientId
  return (db, clientId, slot)

/-- `cancel_booking` and `reschedule_booking`. -/
def editDirectBooking (A : Availability) (db : Database) (call : MutateDirectBooking)
    (session : AssistantSession) (existing : Option (Uuid × ConsultationRequest)) :
    Except Failure Database := do
  let ((id, c), appointmentId, _) ← editableBooking db existing call.clock.checkedAt
  match call.action with
  | .cancel => return cancelDirectBooking db id appointmentId call.clock.writtenAt
  | _ =>
    let phone := canonicalPhone c.phone
    let (db, clientId, slot) ← prepareDirectBooking A db call session existing
      (some appointmentId) phone
    let slot ← orThrow slot .typeError
    let db := moveDirectBooking db id appointmentId clientId slot call.clock.writtenAt
    return { db with
      assistantSessions := db.assistantSessions.update call.sessionId
        (.place id (some c.fullName) phone (some slot)) }

/-- `confirm_booking` and `request_callback`. -/
def placeDirectBooking (A : Availability) (db : Database) (call : MutateDirectBooking)
    (session : AssistantSession) (existing : Option (Uuid × ConsultationRequest)) :
    Except Failure Database := do
  assertNewBooking session existing
  let phone := call.action.contact.bind fun contact ↦ canonicalPhone contact.phone
  let (db, clientId, slot) ← prepareDirectBooking A db call session none none phone
  let db ← createDirectBooking A db call session clientId phone slot
  return { db with
    assistantSessions := db.assistantSessions.update call.sessionId
      (.place call.newConsultationId (call.action.contact.map BookingContact.fullName) phone slot) }

/-- What an action that is not done yet does. -/
def serveDirectBooking (A : Availability) (db : Database) (call : MutateDirectBooking)
    (session : AssistantSession) : Except Failure Database := do
  let existing ← existingBooking db session
  if call.action.isEditing then editDirectBooking A db call session existing
  else placeDirectBooking A db call session existing

/-- `mutateDirectBooking(token, body, actor)`. -/
def mutateDirectBooking (A : Availability) (db : Database) (call : MutateDirectBooking) :
    Except Failure Database := do
  let session ← orThrow (db.assistantSessions.lookup call.sessionId) .recordNotFound
  throwIf (session.expiresAt ≤ call.clock.openedAt ∨
      (session.clientId.isSome ∧ session.clientId ≠ call.actorClientId))
    (.of 401 .authRequired "Authentication required.")
  match db.assistantBookingActions.lookup (call.sessionId, call.key) with
  | some hash => do
    throwIf (hash ≠ call.requestHash) (.conflict "Booking action changed.")
    return db
  | none => do
    throwIf (session.revision ≠ call.revision ∨ session.leaseId.isSome)
      (.conflict "Conversation changed.")
    let db ← serveDirectBooking A db call session
    return { db with
      assistantSessions := db.assistantSessions.update call.sessionId fun s ↦
        { s with revision := s.revision + 1 }
      assistantBookingActions :=
        db.assistantBookingActions.insert (call.sessionId, call.key) call.requestHash }

/-! ## What a call that succeeded did -/

/-- What an action does to the appointments and the consultations. -/
inductive DirectBookingOutcome (db : Database) (call : MutateDirectBooking) (db' : Database) : Prop
  /-- The action was done before. -/
  | replayed (happointments : db'.appointments = db.appointments)
      (hconsultations : db'.consultationRequests = db.consultationRequests)
  | cancelled (id : Uuid) (c : ConsultationRequest) (appointmentId : Uuid) (p : Appointment)
      (hc : db.consultationRequests.lookup id = some c) (hpending : c.outcomeStatus = .pending)
      (hp : db.appointments.lookup appointmentId = some p) (hprimary : p.isPrimaryOf id)
      (happointments : db'.appointments =
        db.appointments.update appointmentId fun p ↦ { p with status := .cancelled })
      (hconsultations : db'.consultationRequests =
        db.consultationRequests.update id (.cancelByClient call.clock.writtenAt))
  | moved (id : Uuid) (c : ConsultationRequest) (appointmentId : Uuid) (p : Appointment)
      (slot : DirectSlot) (hc : db.consultationRequests.lookup id = some c)
      (hpending : c.outcomeStatus = .pending)
      (hp : db.appointments.lookup appointmentId = some p) (hprimary : p.isPrimaryOf id)
      (hfits : (lawyerCalendar db).Fits appointmentId
        ⟨some slot.lawyerId, slot.startsAt, slot.endsAt⟩)
      (happointments : db'.appointments = db.appointments.update appointmentId slot.move)
      (hconsultations : db'.consultationRequests = db.consultationRequests.update id slot.write)
  /-- A request is created, and an appointment with it unless the client wants to be called. -/
  | created (c : ConsultationRequest)
      (hfresh : db.consultationRequests.lookup call.newConsultationId = none)
      (happointments : db'.appointments = db.appointments ∨ ∃ p,
        p.consultationRequestId = some call.newConsultationId ∧
        db.appointments.lookup call.newAppointmentId = none ∧
        (lawyerCalendar db).Fits call.newAppointmentId ⟨p.lawyerId, p.startsAt, p.endsAt⟩ ∧
        db'.appointments = AList.insert call.newAppointmentId p db.appointments)
      (hconsultations : db'.consultationRequests =
        AList.insert call.newConsultationId c db.consultationRequests)

section

variable {A : Availability} {db db' : Database} {call : MutateDirectBooking}
  {session : AssistantSession}

/-- The preparation writes no more than a new client, and the slot it finds fits its lawyer. -/
theorem prepareDirectBooking_ok {existing : Option (Uuid × ConsultationRequest)}
    {appointmentId : Option Uuid} {phone : Option String} {clientId : Uuid}
    {slot : Option DirectSlot}
    (h : prepareDirectBooking A db call session existing appointmentId phone =
      .ok (db', clientId, slot)) :
    db' = { db with clients := db'.clients } ∧
      ∀ s ∈ slot, ∀ id, (∀ i ∈ appointmentId, i = id) →
        (lawyerCalendar db).Fits id ⟨some s.lawyerId, s.startsAt, s.endsAt⟩ := by
  simp only [prepareDirectBooking, bind_eq_ok, Prod.exists, pure_eq_ok, Prod.mk.injEq] at h
  obtain ⟨_, -, slot', -, _, -, _, hlawyer, db₁, _, hclient, _, -, rfl, rfl, rfl⟩ := h
  constructor
  · unfold clientOfBooking at hclient
    split at hclient
    · cases hclient
      rfl
    · simp only [bind_eq_ok, Database.createClient_eq_ok, pure_eq_ok, Prod.mk.injEq] at hclient
      obtain ⟨_, -, _, ⟨-, rfl⟩, rfl, -⟩ := hclient
      rfl
  · rintro s rfl id hid
    exact fits_of_assertNoAppointmentConflict hlawyer hid

/-- An edit is about a primary appointment of a pending consultation. -/
theorem editableBooking_ok {existing : Option (Uuid × ConsultationRequest)} {now : Time}
    {id appointmentId : Uuid} {c : ConsultationRequest} {p : Appointment}
    (hexisting : existingBooking db session = .ok existing)
    (h : editableBooking db existing now = .ok ((id, c), appointmentId, p)) :
    db.consultationRequests.lookup id = some c ∧ c.outcomeStatus = .pending ∧
      db.appointments.lookup appointmentId = some p ∧ p.isPrimaryOf id := by
  simp only [editableBooking, bind_eq_ok, Prod.exists, orThrow_eq_ok, throwIf_eq_ok, pure_eq_ok,
    Prod.mk.injEq, not_or, Decidable.not_not] at h
  obtain ⟨_, _, rfl, _, _, hlatest, _, ⟨-, -, hpending⟩, ⟨rfl, rfl⟩, rfl, rfl⟩ := h
  obtain ⟨hp, hprimary⟩ := latestPrimary_eq_some hlatest
  refine ⟨?_, hpending, hp, hprimary⟩
  unfold existingBooking at hexisting
  split at hexisting
  · cases hexisting
  · simp only [bind_eq_ok, orThrow_eq_ok, pure_eq_ok, Option.some.injEq, Prod.mk.injEq] at hexisting
    obtain ⟨_, hc, _, -, rfl, rfl⟩ := hexisting
    exact hc

/-- The request and the appointment of a new booking. -/
theorem createDirectBooking_ok {db₀ : Database} {clientId : Uuid} {phone : Option String}
    {slot : Option DirectSlot}
    (h : createDirectBooking A db₀ call session clientId phone slot = .ok db')
    (hframe : db₀ = { db with clients := db₀.clients })
    (hfits : ∀ s ∈ slot, (lawyerCalendar db).Fits call.newAppointmentId
      ⟨some s.lawyerId, s.startsAt, s.endsAt⟩) :
    DirectBookingOutcome db call db' := by
  generalize db₀.clients = clients at hframe
  subst hframe
  simp only [createDirectBooking, bind_eq_ok, orThrow_eq_ok, Table.create_eq_some] at h
  obtain ⟨contact, -, _, ⟨hfresh, rfl⟩, h⟩ := h
  refine .created (newDirectRequest A call session contact clientId phone slot) hfresh ?_ ?_
  · cases slot with
    | none =>
      cases h
      exact .inl rfl
    | some slot =>
      obtain ⟨hnew, rfl⟩ := Database.createAppointment_eq_ok.mp h
      exact .inr ⟨_, rfl, hnew, hfits slot rfl, rfl⟩
  · cases slot with
    | none =>
      cases h
      rfl
    | some slot =>
      obtain ⟨-, rfl⟩ := Database.createAppointment_eq_ok.mp h
      rfl

/-- Only the two tables matter. -/
theorem DirectBookingOutcome.congr {db'' : Database} (h : DirectBookingOutcome db call db')
    (happ : db''.appointments = db'.appointments)
    (hcons : db''.consultationRequests = db'.consultationRequests) :
    DirectBookingOutcome db call db'' := by
  cases h with
  | replayed happ' hcons' => exact .replayed (happ.trans happ') (hcons.trans hcons')
  | cancelled id c appointmentId p hc hpending hp hprimary happ' hcons' =>
    exact .cancelled id c appointmentId p hc hpending hp hprimary (happ.trans happ')
      (hcons.trans hcons')
  | moved id c appointmentId p slot hc hpending hp hprimary hfits happ' hcons' =>
    exact .moved id c appointmentId p slot hc hpending hp hprimary hfits (happ.trans happ')
      (hcons.trans hcons')
  | created c hfresh happ' hcons' =>
    rw [← happ] at happ'
    exact .created c hfresh happ' (hcons.trans hcons')

theorem editDirectBooking_ok {existing : Option (Uuid × ConsultationRequest)}
    (hexisting : existingBooking db session = .ok existing)
    (h : editDirectBooking A db call session existing = .ok db') :
    DirectBookingOutcome db call db' := by
  simp only [editDirectBooking, bind_eq_ok, Prod.exists] at h
  obtain ⟨id, c, appointmentId, p, heditable, h⟩ := h
  obtain ⟨hc, hpending, hp, hprimary⟩ := editableBooking_ok hexisting heditable
  split at h
  · cases h
    exact .cancelled id c appointmentId p hc hpending hp hprimary rfl rfl
  · simp only [bind_eq_ok, Prod.exists, orThrow_eq_ok, pure_eq_ok] at h
    obtain ⟨db₁, clientId, _, hprepare, slot, rfl, rfl⟩ := h
    obtain ⟨hframe, hfits⟩ := prepareDirectBooking_ok hprepare
    generalize db₁.clients = clients at hframe
    subst hframe
    exact .moved id c appointmentId p slot hc hpending hp hprimary
      (hfits slot rfl appointmentId fun i hi ↦ (Option.some.inj hi).symm) rfl rfl

theorem placeDirectBooking_ok {existing : Option (Uuid × ConsultationRequest)}
    (h : placeDirectBooking A db call session existing = .ok db') :
    DirectBookingOutcome db call db' := by
  simp only [placeDirectBooking, bind_eq_ok, Prod.exists, pure_eq_ok] at h
  obtain ⟨_, -, db₁, clientId, slot, hprepare, db₂, hcreate, rfl⟩ := h
  obtain ⟨hframe, hfits⟩ := prepareDirectBooking_ok hprepare
  exact (createDirectBooking_ok hcreate hframe fun s hs ↦
    hfits s hs _ fun _ h ↦ absurd h (Option.not_mem_none _)).congr rfl rfl

/-- An action that succeeded was done before, or it has one of its outcomes. -/
theorem mutateDirectBooking_ok (h : mutateDirectBooking A db call = .ok db') :
    DirectBookingOutcome db call db' := by
  simp only [mutateDirectBooking, bind_eq_ok] at h
  obtain ⟨session, -, _, -, h⟩ := h
  split at h
  · simp only [bind_eq_ok, pure_eq_ok] at h
    obtain ⟨_, -, rfl⟩ := h
    exact .replayed rfl rfl
  · simp only [bind_eq_ok, pure_eq_ok, serveDirectBooking] at h
    obtain ⟨_, -, db₁, ⟨existing, hexisting, hserve⟩, rfl⟩ := h
    have houtcome : DirectBookingOutcome db call db₁ := by
      by_cases hediting : call.action.isEditing
      · rw [if_pos hediting] at hserve
        exact editDirectBooking_ok hexisting hserve
      · rw [if_neg hediting] at hserve
        exact placeDirectBooking_ok hserve
    exact houtcome.congr rfl rfl

end

end KmtLegal
