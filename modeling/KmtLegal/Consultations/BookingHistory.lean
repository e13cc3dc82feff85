import KmtLegal.Consultations.DirectBooking
import KmtLegal.Js.Stringify
import KmtLegal.Platform
import KmtLegal.Relational.Run

/-!
# What direct booking promises

The bodies of the calls as `directBookingInputSchema` accepts them, and what holds of every sequence
of calls.  An action is recorded with its key and a hash of its body, so that a repeated call finds
it done; a phone number has at most one published time to come, and a conversation keeps the request
it has.
-/

namespace KmtLegal

open Relational Js

/-! ## Bodies -/

inductive DirectBookingActionName where
  | confirmBooking | rescheduleBooking | cancelBooking | requestCallback
  deriving DecidableEq

def DirectBookingActionName.text : DirectBookingActionName → String
  | confirmBooking => "confirm_booking"
  | rescheduleBooking => "reschedule_booking"
  | cancelBooking => "cancel_booking"
  | requestCallback => "request_callback"

theorem DirectBookingActionName.text_injective : Function.Injective text := by
  intro a b h
  cases a <;> cases b <;> first | rfl | exact absurd h (by decide)

/-- The fields of `directBookingInputSchema`. -/
structure DirectBookingBody where
  action : DirectBookingActionName
  key : Uuid
  revision : ℕ
  fullName : Option String := none
  phone : Option String := none
  contactChannel : Option String := none
  startsAt : Option String := none
  deriving DecidableEq

namespace DirectBookingBody

/-- The contact details, if none is missing. -/
def contact (body : DirectBookingBody) : Option BookingContact := do
  let fullName ← body.fullName
  let phone ← body.phone
  let contactChannel ← body.contactChannel
  return { fullName, phone, contactChannel }

/-- The action the schema accepts, with the fields it requires. -/
def request (P : Platform) (body : DirectBookingBody) : Option DirectBookingAction := do
  match body.action with
  | .confirmBooking => return .confirm (← body.contact) (← body.startsAt.bind P.parseDate)
  | .rescheduleBooking => return .reschedule (← body.startsAt.bind P.parseDate)
  | .cancelBooking => return .cancel
  | .requestCallback => return .requestCallback (← body.contact)

/-- A field that is left out if it has no value. -/
def textField (key : String) (value : Option String) : List (String × Json) :=
  (value.map fun s ↦ (key, Json.str s)).toList

def fields (body : DirectBookingBody) : List (String × Json) :=
  [("action", .str body.action.text), ("key", .str body.key),
    ("revision", .num (toString body.revision)), ("confirmed", .bool true)] ++
    textField "fullName" body.fullName ++ textField "phone" body.phone ++
    textField "contactChannel" body.contactChannel ++ textField "startsAt" body.startsAt

def json (body : DirectBookingBody) : Json := .obj body.fields

theorem optional_fields (body : DirectBookingBody) :
    Json.field body.fields "fullName" = body.fullName.map .str ∧
      Json.field body.fields "phone" = body.phone.map .str ∧
      Json.field body.fields "contactChannel" = body.contactChannel.map .str ∧
      Json.field body.fields "startsAt" = body.startsAt.map .str := by
  obtain ⟨_, _, _, fullName, phone, contactChannel, startsAt⟩ := body
  cases fullName <;> cases phone <;> cases contactChannel <;> cases startsAt <;>
    exact ⟨rfl, rfl, rfl, rfl⟩

/-- The text of a body tells all of its fields. -/
theorem json_injective : Function.Injective json := by
  intro a b h
  have hfields := Json.obj.inj h
  have hfield := fun key ↦ congrArg (Json.field · key) hfields
  have hstr : Function.Injective (Option.map Json.str) :=
    Option.map_injective fun _ _ ↦ Json.str.inj
  obtain ⟨hname, hphone, hchannel, hstarts⟩ := a.optional_fields
  obtain ⟨hname', hphone', hchannel', hstarts'⟩ := b.optional_fields
  have haction : a.action.text = b.action.text := Json.str.inj (Option.some.inj (hfield "action"))
  have hkey : a.key = b.key := Json.str.inj (Option.some.inj (hfield "key"))
  have hrevision : a.revision = b.revision :=
    natText_injective (Json.num.inj (Option.some.inj (hfield "revision")))
  rw [DirectBookingBody.mk.injEq]
  refine ⟨?_, hkey, hrevision, ?_, ?_, ?_, ?_⟩
  · exact DirectBookingActionName.text_injective haction
  · exact hstr (hname.symm.trans ((hfield "fullName").trans hname'))
  · exact hstr (hphone.symm.trans ((hfield "phone").trans hphone'))
  · exact hstr (hchannel.symm.trans ((hfield "contactChannel").trans hchannel'))
  · exact hstr (hstarts.symm.trans ((hfield "startsAt").trans hstarts'))

theorem json_numeric (body : DirectBookingBody) : body.json.numeric := by
  obtain ⟨_, _, revision, fullName, phone, contactChannel, startsAt⟩ := body
  have hrevision : isNumberText revision.repr := isNumberText_nat revision
  cases fullName <;> cases phone <;> cases contactChannel <;> cases startsAt <;>
    simp [json, fields, textField, Json.numeric, Json.fieldsNumeric, hrevision]

end DirectBookingBody

/-- A call with a body the schema has accepted. -/
structure DirectBookingCall (P : Platform) where
  sessionId : Uuid
  actorClientId : Option Uuid := none
  body : DirectBookingBody
  action : DirectBookingAction
  accepted : body.request P = some action
  clock : DirectBookingClock
  newClientId : Uuid
  newConsultationId : Uuid
  newAppointmentId : Uuid

namespace DirectBookingCall

variable {P : Platform}

/-- `JSON.stringify(body)`. -/
def text (call : DirectBookingCall P) : String := call.body.json.stringify

def mutate (call : DirectBookingCall P) : MutateDirectBooking where
  sessionId := call.sessionId
  actorClientId := call.actorClientId
  action := call.action
  key := call.body.key
  revision := call.body.revision
  requestHash := P.sha256 call.text
  clock := call.clock
  newClientId := call.newClientId
  newConsultationId := call.newConsultationId
  newAppointmentId := call.newAppointmentId

theorem body_eq {a b : DirectBookingCall P} (h : a.text = b.text) : a.body = b.body :=
  DirectBookingBody.json_injective
    (Json.stringify_inj a.body.json_numeric b.body.json_numeric h)

end DirectBookingCall

/-! ## What a call writes -/

/-- What an action writes that is done for the first time. -/
inductive BookingWrite (db : Database) (call : MutateDirectBooking) (session : AssistantSession)
    (db' : Database) : Prop
  | cancelled (id appointmentId : Uuid)
      (happointments : db'.appointments =
        db.appointments.update appointmentId fun p ↦ { p with status := .cancelled })
      (hconsultations : db'.consultationRequests =
        db.consultationRequests.update id (.cancelByClient call.clock.writtenAt))
      (hsessions : db'.assistantSessions = db.assistantSessions)
  | moved (id : Uuid) (c : ConsultationRequest) (appointmentId : Uuid) (p : Appointment)
      (slot : DirectSlot) (hid : session.consultationRequestId = some id)
      (hc : db.consultationRequests.lookup id = some c)
      (hp : db.appointments.lookup appointmentId = some p)
      (hprimary : p.consultationRequestId = some id)
      (hfree : hasActiveBooking db (some id) (canonicalPhone c.phone) call.clock.searchedAt = false)
      (happointments : db'.appointments = db.appointments.update appointmentId slot.move)
      (hconsultations : db'.consultationRequests = db.consultationRequests.update id slot.write)
      (hsessions : db'.assistantSessions = db.assistantSessions.update call.sessionId
        (.place id (some c.fullName) (canonicalPhone c.phone) (some slot)))
  | created (c : ConsultationRequest) (slot : Option DirectSlot)
      (hid : session.consultationRequestId = none)
      (hfresh : db.consultationRequests.lookup call.newConsultationId = none)
      (hphone : c.phoneCanonical = canonicalPhone c.phone)
      (hfree : hasActiveBooking db none c.phoneCanonical call.clock.searchedAt = false)
      (happointments : db'.appointments = db.appointments ∨ ∃ p,
        p.consultationRequestId = some call.newConsultationId ∧
        db'.appointments = AList.insert call.newAppointmentId p db.appointments)
      (hconsultations : db'.consultationRequests =
        AList.insert call.newConsultationId c db.consultationRequests)
      (hsessions : db'.assistantSessions = db.assistantSessions.update call.sessionId
        (.place call.newConsultationId (some c.fullName) (canonicalPhone c.phone) slot))

section

variable {A : Availability} {db db' : Database} {call : MutateDirectBooking}
  {session : AssistantSession}

/-- No other booking of the number is found. -/
theorem prepareDirectBooking_free {existing : Option (Uuid × ConsultationRequest)}
    {appointmentId : Option Uuid} {phone : Option String} {clientId : Uuid}
    {slot : Option DirectSlot}
    (h : prepareDirectBooking A db call session existing appointmentId phone =
      .ok (db', clientId, slot)) :
    hasActiveBooking db (existing.map Prod.fst) phone call.clock.searchedAt = false := by
  simp only [prepareDirectBooking, bind_eq_ok, throwIf_eq_ok] at h
  obtain ⟨_, hfree, -⟩ := h
  exact Bool.eq_false_iff.mpr hfree

theorem editableBooking_existing {existing : Option (Uuid × ConsultationRequest)} {now : Time}
    {id appointmentId : Uuid} {c : ConsultationRequest} {p : Appointment}
    (h : editableBooking db existing now = .ok ((id, c), appointmentId, p)) :
    existing = some (id, c) := by
  simp only [editableBooking, bind_eq_ok, Prod.exists, orThrow_eq_ok, throwIf_eq_ok, pure_eq_ok,
    Prod.mk.injEq] at h
  obtain ⟨_, _, rfl, _, _, -, _, -, ⟨rfl, rfl⟩, -, -⟩ := h
  rfl

/-- The request of a conversation is the one the session names. -/
theorem existingBooking_ok {existing : Option (Uuid × ConsultationRequest)}
    (h : existingBooking db session = .ok existing) :
    session.consultationRequestId = existing.map Prod.fst := by
  unfold existingBooking at h
  split at h
  · rename_i hnone
    cases h
    exact hnone
  · rename_i id hsome
    simp only [bind_eq_ok, pure_eq_ok] at h
    obtain ⟨_, -, _, -, rfl⟩ := h
    exact hsome

theorem createDirectBooking_write {db₀ : Database} {clientId : Uuid} {phone : Option String}
    {slot : Option DirectSlot}
    (h : createDirectBooking A db₀ call session clientId phone slot = .ok db')
    (hframe : db₀ = { db with clients := db₀.clients }) :
    ∃ contact, call.action.contact = some contact ∧
      db.consultationRequests.lookup call.newConsultationId = none ∧
      (db'.appointments = db.appointments ∨ ∃ p,
        p.consultationRequestId = some call.newConsultationId ∧
        db'.appointments = AList.insert call.newAppointmentId p db.appointments) ∧
      db'.consultationRequests = AList.insert call.newConsultationId
        (newDirectRequest A call session contact clientId phone slot) db.consultationRequests ∧
      db'.assistantSessions = db.assistantSessions ∧
      db'.assistantBookingActions = db.assistantBookingActions := by
  generalize db₀.clients = clients at hframe
  subst hframe
  simp only [createDirectBooking, bind_eq_ok, orThrow_eq_ok, Table.create_eq_some] at h
  obtain ⟨contact, hcontact, _, ⟨hfresh, rfl⟩, h⟩ := h
  refine ⟨contact, hcontact, hfresh, ?_⟩
  cases slot with
  | none =>
    cases h
    exact ⟨.inl rfl, rfl, rfl, rfl⟩
  | some slot =>
    obtain ⟨-, rfl⟩ := Database.createAppointment_eq_ok.mp h
    exact ⟨.inr ⟨_, rfl, rfl⟩, rfl, rfl, rfl⟩

theorem editDirectBooking_write {existing : Option (Uuid × ConsultationRequest)}
    (hexisting : existingBooking db session = .ok existing)
    (h : editDirectBooking A db call session existing = .ok db') :
    BookingWrite db call session db' ∧
      db'.assistantBookingActions = db.assistantBookingActions := by
  simp only [editDirectBooking, bind_eq_ok, Prod.exists] at h
  obtain ⟨id, c, appointmentId, p, heditable, h⟩ := h
  obtain ⟨hc, -, hp, hprimary⟩ := editableBooking_ok hexisting heditable
  have hid := existingBooking_ok hexisting
  rw [editableBooking_existing heditable] at hid
  split at h
  · cases h
    exact ⟨.cancelled id appointmentId rfl rfl rfl, rfl⟩
  · simp only [bind_eq_ok, Prod.exists, orThrow_eq_ok, pure_eq_ok] at h
    obtain ⟨db₁, clientId, _, hprepare, slot, rfl, rfl⟩ := h
    obtain ⟨hframe, -⟩ := prepareDirectBooking_ok hprepare
    have hfree := prepareDirectBooking_free hprepare
    rw [editableBooking_existing heditable] at hfree
    generalize db₁.clients = clients at hframe
    subst hframe
    exact ⟨.moved id c appointmentId p slot hid hc hp (of_decide_eq_true hprimary).1 hfree rfl rfl
      rfl, rfl⟩

theorem placeDirectBooking_write {existing : Option (Uuid × ConsultationRequest)}
    (hexisting : existingBooking db session = .ok existing)
    (h : placeDirectBooking A db call session existing = .ok db') :
    BookingWrite db call session db' ∧
      db'.assistantBookingActions = db.assistantBookingActions := by
  simp only [placeDirectBooking, assertNewBooking, bind_eq_ok, throwIf_eq_ok, not_or,
    Prod.exists, pure_eq_ok] at h
  obtain ⟨_, ⟨hnone, -⟩, db₁, clientId, slot, hprepare, db₂, hcreate, rfl⟩ := h
  have hid := existingBooking_ok hexisting
  rw [Option.not_isSome_iff_eq_none.mp hnone] at hid
  obtain ⟨hframe, -⟩ := prepareDirectBooking_ok hprepare
  have hfree := prepareDirectBooking_free hprepare
  obtain ⟨contact, hcontact, hfresh, happointments, hconsultations, hsessions, hactions⟩ :=
    createDirectBooking_write hcreate hframe
  rw [hcontact] at hconsultations hfree
  refine ⟨.created (newDirectRequest A call session contact clientId (canonicalPhone contact.phone)
    slot) slot hid hfresh rfl hfree happointments hconsultations ?_, hactions⟩
  simp only [hsessions, hcontact]
  rfl

/-- An action that is done for the first time is recorded with its key. -/
theorem mutateDirectBooking_write (h : mutateDirectBooking A db call = .ok db')
    (hnew : db.assistantBookingActions.lookup (call.sessionId, call.key) = none) :
    ∃ session db₁, db.assistantSessions.lookup call.sessionId = some session ∧
      BookingWrite db call session db₁ ∧
      db' = { db₁ with
        assistantSessions := db₁.assistantSessions.update call.sessionId fun s ↦
          { s with revision := s.revision + 1 }
        assistantBookingActions :=
          db.assistantBookingActions.insert (call.sessionId, call.key) call.requestHash } := by
  simp only [mutateDirectBooking, bind_eq_ok, orThrow_eq_ok, hnew, pure_eq_ok] at h
  obtain ⟨session, hsession, _, -, _, -, db₁, hserve, rfl⟩ := h
  simp only [serveDirectBooking, bind_eq_ok] at hserve
  obtain ⟨existing, hexisting, hserve⟩ := hserve
  have hwrite : BookingWrite db call session db₁ ∧
      db₁.assistantBookingActions = db.assistantBookingActions := by
    by_cases hediting : call.action.isEditing
    · rw [if_pos hediting] at hserve
      exact editDirectBooking_write hexisting hserve
    · rw [if_neg hediting] at hserve
      exact placeDirectBooking_write hexisting hserve
  exact ⟨session, db₁, hsession, hwrite.1, by rw [hwrite.2]⟩

end

/-! ## One booking to come for a phone number -/

/-- The request has an active appointment after `t`. -/
def HasAppointmentAfter (db : Database) (t : Time) (id : Uuid) : Prop :=
  ∃ appointmentId p, db.appointments.lookup appointmentId = some p ∧
    p.consultationRequestId = some id ∧ t < p.startsAt ∧ p.status.isActive

/-- A request for a published time. -/
def PublishedRequest (db : Database) (id : Uuid) (phone : Option String) : Prop :=
  ∃ c, db.consultationRequests.lookup id = some c ∧ c.confirmationSource = "PUBLISHED_SLOT" ∧
    canonicalPhone c.phone = phone

/-- At most one request for a published time of each number has an active appointment after `t`. -/
def OneBookingPerPhone (db : Database) (t : Time) : Prop :=
  ∀ id id' phone, PublishedRequest db id phone → PublishedRequest db id' phone →
    HasAppointmentAfter db t id → HasAppointmentAfter db t id' → id = id'

/-- The column is what is made of the number. -/
def CanonicalColumn (db : Database) : Prop :=
  ∀ id c, db.consultationRequests.lookup id = some c → c.confirmationSource = "PUBLISHED_SLOT" →
    c.phoneCanonical = canonicalPhone c.phone

section

variable {A : Availability} {db db' : Database} {call : MutateDirectBooking}
  {session : AssistantSession} {t : Time} {id : Uuid}

/-- The search finds every other request with an appointment to come. -/
theorem not_appointmentAfter_of_free {existingId : Option Uuid} {phone : Option String} {now : Time}
    (hcolumn : CanonicalColumn db) (hfree : hasActiveBooking db existingId phone now = false)
    (hpublished : PublishedRequest db id phone) (hother : some id ≠ existingId) (ht : now ≤ t) :
    ¬HasAppointmentAfter db t id := by
  rintro ⟨appointmentId, p, hp, hof, hafter, hactive⟩
  obtain ⟨c, hc, hsource, hphone⟩ := hpublished
  have hfound := Table.any_eq_false.mp hfree id c hc
  refine hfound (decide_eq_true ⟨hother, (hcolumn id c hc hsource).trans hphone, hsource, ?_⟩)
  exact Table.any_iff.mpr ⟨appointmentId, p, hp,
    decide_eq_true ⟨hof, lt_of_le_of_lt ht hafter, hactive⟩⟩

/-- Nothing new comes up. -/
theorem OneBookingPerPhone.of_subset (h : OneBookingPerPhone db t)
    (hpublished : ∀ j phone, PublishedRequest db' j phone → PublishedRequest db j phone)
    (hafter : ∀ j, HasAppointmentAfter db' t j → HasAppointmentAfter db t j) :
    OneBookingPerPhone db' t := fun j k phone hj hk hj' hk' ↦
  h j k phone (hpublished j phone hj) (hpublished k phone hk) (hafter j hj') (hafter k hk')

/-- A request that gets an appointment is the only one if no other was found. -/
theorem OneBookingPerPhone.of_free (h : OneBookingPerPhone db t) (id : Uuid)
    (hpublished : ∀ j phone, j ≠ id → PublishedRequest db' j phone → PublishedRequest db j phone)
    (hafter : ∀ j, j ≠ id → HasAppointmentAfter db' t j → HasAppointmentAfter db t j)
    (hfree : ∀ j phone, j ≠ id → PublishedRequest db' id phone → PublishedRequest db j phone →
      ¬HasAppointmentAfter db t j) :
    OneBookingPerPhone db' t := by
  intro j k phone hj hk hj' hk'
  by_cases hjid : j = id
  · by_cases hkid : k = id
    · exact hjid.trans hkid.symm
    · subst hjid
      exact absurd (hafter k hkid hk') (hfree k phone hkid hj (hpublished k phone hkid hk))
  · by_cases hkid : k = id
    · subst hkid
      exact absurd (hafter j hjid hj') (hfree j phone hjid hk (hpublished j phone hjid hj))
    · exact h j k phone (hpublished j phone hjid hj) (hpublished k phone hkid hk)
        (hafter j hjid hj') (hafter k hkid hk')

/-- Neither the number nor the source of a request changes. -/
theorem requests_of_update {k : Uuid} {f : ConsultationRequest → ConsultationRequest}
    (hconsultations : db'.consultationRequests = db.consultationRequests.update k f)
    (hf : ∀ c, (f c).confirmationSource = c.confirmationSource ∧ (f c).phone = c.phone ∧
      (f c).phoneCanonical = c.phoneCanonical) :
    (∀ j phone, PublishedRequest db' j phone → PublishedRequest db j phone) ∧
      (CanonicalColumn db → CanonicalColumn db') := by
  have hrow : ∀ j c', db'.consultationRequests.lookup j = some c' →
      ∃ c, db.consultationRequests.lookup j = some c ∧
        c'.confirmationSource = c.confirmationSource ∧ c'.phone = c.phone ∧
        c'.phoneCanonical = c.phoneCanonical := by
    intro j c' hc'
    by_cases hj : j = k
    · subst hj
      rw [hconsultations, Table.lookup_update_self, Option.map_eq_some_iff] at hc'
      obtain ⟨c, hc, rfl⟩ := hc'
      exact ⟨c, hc, hf c⟩
    · rw [hconsultations, Table.lookup_update_of_ne _ _ hj] at hc'
      exact ⟨c', hc', rfl, rfl, rfl⟩
  constructor
  · rintro j phone ⟨c', hc', hsource', hphone'⟩
    obtain ⟨c, hc, hsource, hphone, -⟩ := hrow j c' hc'
    exact ⟨c, hc, hsource ▸ hsource', hphone ▸ hphone'⟩
  · intro hcolumn j c' hc' hsource'
    obtain ⟨c, hc, hsource, hphone, hcanonical⟩ := hrow j c' hc'
    rw [hphone, hcanonical]
    exact hcolumn j c hc (hsource ▸ hsource')

/-- An action keeps one booking for a number: it looks for another one before it writes. -/
theorem BookingWrite.oneBooking (hwrite : BookingWrite db call session db')
    (hcolumn : CanonicalColumn db) (h : OneBookingPerPhone db t)
    (ht : call.clock.searchedAt ≤ t) : CanonicalColumn db' ∧ OneBookingPerPhone db' t := by
  cases hwrite with
  | cancelled id appointmentId happointments hconsultations hsessions =>
    obtain ⟨hpublished, hcolumn'⟩ := requests_of_update hconsultations fun _ ↦ ⟨rfl, rfl, rfl⟩
    refine ⟨hcolumn' hcolumn, h.of_subset hpublished ?_⟩
    rintro j ⟨i, p, hp, hof, hafter, hactive⟩
    by_cases hi : i = appointmentId
    · subst hi
      rw [happointments, Table.lookup_update_self, Option.map_eq_some_iff] at hp
      obtain ⟨_, -, rfl⟩ := hp
      cases hactive
    · rw [happointments, Table.lookup_update_of_ne _ _ hi] at hp
      exact ⟨i, p, hp, hof, hafter, hactive⟩
  | moved id c appointmentId p slot hid hc hp hprimary hfree happointments hconsultations =>
    obtain ⟨hpublished, hcolumn'⟩ := requests_of_update hconsultations fun _ ↦ ⟨rfl, rfl, rfl⟩
    refine ⟨hcolumn' hcolumn, h.of_free id (fun j phone _ ↦ hpublished j phone) ?_ ?_⟩
    · rintro j hj ⟨i, q, hq, hof, hafter, hactive⟩
      by_cases hi : i = appointmentId
      · subst hi
        rw [happointments, Table.lookup_update_self, hp] at hq
        obtain rfl := Option.some.inj hq
        exact absurd (Option.some.inj (hprimary.symm.trans hof)).symm hj
      · rw [happointments, Table.lookup_update_of_ne _ _ hi] at hq
        exact ⟨i, q, hq, hof, hafter, hactive⟩
    · intro j phone hj hnew hold
      obtain ⟨c', hc', -, hphone⟩ := hpublished id phone hnew
      obtain rfl := Option.some.inj (hc.symm.trans hc')
      rw [hphone] at hfree
      exact not_appointmentAfter_of_free hcolumn hfree hold (fun h ↦ hj (Option.some.inj h)) ht
  | created c slot hid hfresh hphone hfree happointments hconsultations =>
    have hrow : ∀ j, j ≠ call.newConsultationId →
        db'.consultationRequests.lookup j = db.consultationRequests.lookup j := by
      intro j hj
      rw [hconsultations, Table.lookup_insert, if_neg hj]
    have hnew : db'.consultationRequests.lookup call.newConsultationId = some c := by
      rw [hconsultations, Table.lookup_insert, if_pos rfl]
    have hpublished : ∀ j phone, j ≠ call.newConsultationId → PublishedRequest db' j phone →
        PublishedRequest db j phone := by
      rintro j phone hj ⟨c', hc', hrest⟩
      exact ⟨c', hrow j hj ▸ hc', hrest⟩
    refine ⟨?_, h.of_free call.newConsultationId hpublished ?_ ?_⟩
    · intro j c' hc' hsource
      by_cases hj : j = call.newConsultationId
      · subst hj
        rw [hnew] at hc'
        rw [← Option.some.inj hc', hphone]
      · exact hcolumn j c' (hrow j hj ▸ hc') hsource
    · rintro j hj ⟨i, q, hq, hof, hafter, hactive⟩
      rcases happointments with hsame | ⟨p, hp, hinsert⟩
      · exact ⟨i, q, hsame ▸ hq, hof, hafter, hactive⟩
      · by_cases hi : i = call.newAppointmentId
        · subst hi
          rw [hinsert, Table.lookup_insert, if_pos rfl] at hq
          obtain rfl := Option.some.inj hq
          exact absurd (Option.some.inj (hp.symm.trans hof)).symm hj
        · rw [hinsert, Table.lookup_insert, if_neg hi] at hq
          exact ⟨i, q, hq, hof, hafter, hactive⟩
    · intro j phone hj hcreated hold
      obtain ⟨c', hc', -, hphone'⟩ := hcreated
      obtain rfl := Option.some.inj (hnew.symm.trans hc')
      rw [hphone, hphone'] at hfree
      exact not_appointmentAfter_of_free hcolumn hfree hold nofun ht

/-- A session keeps the request it has: only a session without one gets one. -/
theorem BookingWrite.keepsRequest (hwrite : BookingWrite db call session db')
    (hsession : db.assistantSessions.lookup call.sessionId = some session) {sessionId : Uuid}
    {s : AssistantSession} (hs : db.assistantSessions.lookup sessionId = some s)
    (hid : s.consultationRequestId = some id) :
    ∃ s', db'.assistantSessions.lookup sessionId = some s' ∧ s'.consultationRequestId = some id := by
  have hplaced : ∀ i fullName phone slot, (∀ j ∈ session.consultationRequestId, j = i) →
      db'.assistantSessions = db.assistantSessions.update call.sessionId
        (.place i fullName phone slot) →
      ∃ s', db'.assistantSessions.lookup sessionId = some s' ∧
        s'.consultationRequestId = some id := by
    intro i fullName phone slot hi hsessions
    by_cases hsame : sessionId = call.sessionId
    · subst hsame
      obtain rfl := Option.some.inj (hsession.symm.trans hs)
      rw [hsessions, Table.lookup_update_self, hs, Option.map_some]
      exact ⟨_, rfl, congrArg some (hi id hid).symm⟩
    · rw [hsessions, Table.lookup_update_of_ne _ _ hsame]
      exact ⟨s, hs, hid⟩
  cases hwrite with
  | cancelled _ _ _ _ hsessions => exact ⟨s, hsessions ▸ hs, hid⟩
  | moved i c _ _ slot hown _ _ _ _ _ _ hsessions =>
    refine hplaced i _ _ _ (fun j hj ↦ ?_) hsessions
    exact Option.some.inj (hj.symm.trans hown)
  | created c slot hown _ _ _ _ _ hsessions =>
    refine hplaced call.newConsultationId _ _ _ (fun j hj ↦ ?_) hsessions
    cases hown.symm.trans hj

end

/-! ## Sequences of calls -/

section

variable {P : Platform} (A : Availability)

/-- The database after a call. -/
def bookingStep (db : Database) (call : DirectBookingCall P) : Database :=
  commit (mutateDirectBooking A db call.mutate) db

/-- The call fails, and nothing is written. -/
def RejectsBooking (db : Database) (call : DirectBookingCall P) : Prop :=
  (∃ e, mutateDirectBooking A db call.mutate = .error e) ∧ bookingStep A db call = db

/-- The session is open to the caller. -/
def AdmitsCaller (db : Database) (call : DirectBookingCall P) : Prop :=
  ∃ session, db.assistantSessions.lookup call.sessionId = some session ∧
    call.clock.openedAt < session.expiresAt ∧
    (session.clientId = none ∨ session.clientId = call.actorClientId)

/-- What the sequence of calls promises.  `call` is made after the calls of `before`, and `again`
after those of `middle`. -/
structure BookingPromise (db : Database) (calls : List (DirectBookingCall P)) : Prop where
  once : ∀ before call middle again after, calls = before ++ call :: middle ++ again :: after →
    call.sessionId = again.sessionId → call.body.key = again.body.key →
    bookingStep A (run (bookingStep A) db before) call ≠ run (bookingStep A) db before →
    bookingStep A (run (bookingStep A) db (before ++ call :: middle)) again =
      run (bookingStep A) db (before ++ call :: middle)
  repeated : ∀ before call middle again after, calls = before ++ call :: middle ++ again :: after →
    call.sessionId = again.sessionId → call.body = again.body →
    (mutateDirectBooking A (run (bookingStep A) db before) call.mutate).isOk →
    AdmitsCaller (run (bookingStep A) db (before ++ call :: middle)) again →
    mutateDirectBooking A (run (bookingStep A) db (before ++ call :: middle)) again.mutate =
      .ok (run (bookingStep A) db (before ++ call :: middle))
  changed : ∀ before call middle again after, calls = before ++ call :: middle ++ again :: after →
    call.sessionId = again.sessionId → call.body.key = again.body.key → call.body ≠ again.body →
    (mutateDirectBooking A (run (bookingStep A) db before) call.mutate).isOk →
    RejectsBooking A (run (bookingStep A) db (before ++ call :: middle)) again
  stale : ∀ before call after, calls = before ++ call :: after → ∀ session,
    (run (bookingStep A) db before).assistantSessions.lookup call.sessionId = some session →
    (run (bookingStep A) db before).assistantBookingActions.lookup
      (call.sessionId, call.body.key) = none →
    session.revision ≠ call.body.revision ∨ session.leaseId.isSome →
    RejectsBooking A (run (bookingStep A) db before) call
  onePhone : ∀ before after, calls = before ++ after → ∀ t,
    (∀ call ∈ before, call.clock.searchedAt ≤ t) →
    OneBookingPerPhone (run (bookingStep A) db before) t
  oneRequest : ∀ before middle after, calls = before ++ middle ++ after → ∀ sessionId session id,
    (run (bookingStep A) db before).assistantSessions.lookup sessionId = some session →
    session.consultationRequestId = some id →
    ∃ session', (run (bookingStep A) db (before ++ middle)).assistantSessions.lookup sessionId =
      some session' ∧ session'.consultationRequestId = some id

end

section

variable {P : Platform} {A : Availability} {db db' : Database} {call : DirectBookingCall P}

theorem bookingStep_of_error {e : Failure}
    (h : mutateDirectBooking A db call.mutate = .error e) : RejectsBooking A db call :=
  ⟨⟨e, h⟩, by rw [bookingStep, h, commit_error]⟩

/-- A call whose key is recorded is only compared with the record. -/
theorem mutateDirectBooking_done {hash : String}
    (h : db.assistantBookingActions.lookup (call.sessionId, call.body.key) = some hash) :
    (∃ e, mutateDirectBooking A db call.mutate = .error e) ∨
      (mutateDirectBooking A db call.mutate = .ok db ∧ hash = P.sha256 call.text) := by
  cases hact : mutateDirectBooking A db call.mutate with
  | error e => exact .inl ⟨e, rfl⟩
  | ok db' =>
    simp only [mutateDirectBooking, bind_eq_ok, DirectBookingCall.mutate, h, pure_eq_ok] at hact
    obtain ⟨_, -, _, -, _, hhash, rfl⟩ := hact
    exact .inr ⟨rfl, not_not.mp (throwIf_eq_ok.mp hhash)⟩

theorem bookingStep_done {hash : String}
    (h : db.assistantBookingActions.lookup (call.sessionId, call.body.key) = some hash) :
    bookingStep A db call = db := by
  rcases mutateDirectBooking_done (A := A) h with ⟨e, he⟩ | ⟨hok, -⟩
  · exact (bookingStep_of_error he).2
  · rw [bookingStep, hok, commit_ok]

/-- A call that was made before is found done, as long as its caller is let in. -/
theorem mutateDirectBooking_again
    (h : db.assistantBookingActions.lookup (call.sessionId, call.body.key) =
      some (P.sha256 call.text)) (hadmits : AdmitsCaller db call) :
    mutateDirectBooking A db call.mutate = .ok db := by
  obtain ⟨session, hsession, hopen, hown⟩ := hadmits
  have hguard : ¬(session.expiresAt ≤ call.mutate.clock.openedAt ∨
      (session.clientId.isSome ∧ session.clientId ≠ call.mutate.actorClientId)) := by
    rintro (hexpired | ⟨hsome, hother⟩)
    · exact absurd hopen (not_lt.mpr hexpired)
    · rcases hown with hnone | hsame
      · rw [hnone] at hsome
        cases hsome
      · exact hother hsame
  have hsame : ¬P.sha256 call.text ≠ call.mutate.requestHash := not_not.mpr rfl
  unfold mutateDirectBooking
  rw [show db.assistantSessions.lookup call.mutate.sessionId = some session from hsession,
    orThrow_some, ok_bind, throwIf_of_not hguard, ok_bind,
    show db.assistantBookingActions.lookup (call.mutate.sessionId, call.mutate.key) = _ from h]
  simp only [throwIf_of_not hsame, ok_bind]
  rfl

/-- A call that is not done is made in the conversation its caller has seen, and in no other. -/
theorem mutateDirectBooking_stale {session : AssistantSession}
    (hsession : db.assistantSessions.lookup call.sessionId = some session)
    (hnew : db.assistantBookingActions.lookup (call.sessionId, call.body.key) = none)
    (hstale : session.revision ≠ call.body.revision ∨ session.leaseId.isSome) :
    ∃ e, mutateDirectBooking A db call.mutate = .error e := by
  cases hact : mutateDirectBooking A db call.mutate with
  | error e => exact ⟨e, rfl⟩
  | ok db' =>
    simp only [mutateDirectBooking, DirectBookingCall.mutate, hsession, orThrow_some, ok_bind,
      bind_eq_ok, hnew] at hact
    obtain ⟨_, -, _, hcurrent, -⟩ := hact
    exact absurd hstale (throwIf_eq_ok.mp hcurrent)

/-- A call changes nothing, or it does its action for the first time. -/
theorem bookingStep_cases (A : Availability) (db : Database) (call : DirectBookingCall P) :
    bookingStep A db call = db ∨
      (db.assistantBookingActions.lookup (call.sessionId, call.body.key) = none ∧
        mutateDirectBooking A db call.mutate = .ok (bookingStep A db call)) := by
  cases hdone : db.assistantBookingActions.lookup (call.sessionId, call.body.key) with
  | some hash => exact .inl (bookingStep_done hdone)
  | none =>
    cases hact : mutateDirectBooking A db call.mutate with
    | error e => exact .inl (bookingStep_of_error hact).2
    | ok db' => exact .inr ⟨rfl, by rw [bookingStep, hact, commit_ok]⟩

/-- The record of an action is kept. -/
theorem bookingStep_recorded {entry : Uuid × String} {hash : String}
    (h : db.assistantBookingActions.lookup entry = some hash) :
    (bookingStep A db call).assistantBookingActions.lookup entry = some hash := by
  rcases bookingStep_cases A db call with hsame | ⟨hnew, hact⟩
  · rwa [hsame]
  · obtain ⟨_, db₁, -, -, hdb⟩ := mutateDirectBooking_write hact hnew
    rw [hdb, Table.lookup_insert, if_neg]
    · exact h
    · rintro rfl
      cases hnew.symm.trans h

/-- A call that succeeded is recorded. -/
theorem recorded_of_isOk (h : (mutateDirectBooking A db call.mutate).isOk) :
    (bookingStep A db call).assistantBookingActions.lookup (call.sessionId, call.body.key) =
      some (P.sha256 call.text) := by
  cases hact : mutateDirectBooking A db call.mutate with
  | error e =>
    rw [hact] at h
    cases h
  | ok db' =>
    rw [bookingStep, hact, commit_ok]
    cases hdone : db.assistantBookingActions.lookup (call.sessionId, call.body.key) with
    | some hash =>
      rcases mutateDirectBooking_done (A := A) hdone with ⟨e, he⟩ | ⟨hok, rfl⟩
      · cases hact.symm.trans he
      · rw [Except.ok.inj (hact.symm.trans hok), hdone]
    | none =>
      obtain ⟨_, db₁, -, -, rfl⟩ := mutateDirectBooking_write hact hdone
      exact (Table.lookup_insert _ _ _ _).trans (if_pos rfl)

/-- A session keeps the request it has. -/
theorem bookingStep_request {sessionId id : Uuid} {session : AssistantSession}
    (hsession : db.assistantSessions.lookup sessionId = some session)
    (hid : session.consultationRequestId = some id) :
    ∃ session', (bookingStep A db call).assistantSessions.lookup sessionId = some session' ∧
      session'.consultationRequestId = some id := by
  rcases bookingStep_cases A db call with hsame | ⟨hnew, hact⟩
  · refine ⟨session, ?_, hid⟩
    rwa [hsame]
  · obtain ⟨own, db₁, hown, hwrite, hdb⟩ := mutateDirectBooking_write hact hnew
    obtain ⟨session', hsession', hid'⟩ := hwrite.keepsRequest hown hsession hid
    rw [hdb]
    simp only [Table.lookup_update, hsession']
    split_ifs
    · exact ⟨_, rfl, hid'⟩
    · exact ⟨_, rfl, hid'⟩

/-- A call keeps one booking for each number, after the time it searched at. -/
theorem bookingStep_onePhone {t : Time} (hcolumn : CanonicalColumn db) (h : OneBookingPerPhone db t)
    (ht : call.clock.searchedAt ≤ t) :
    CanonicalColumn (bookingStep A db call) ∧ OneBookingPerPhone (bookingStep A db call) t := by
  rcases bookingStep_cases A db call with hsame | ⟨hnew, hact⟩
  · rw [hsame]
    exact ⟨hcolumn, h⟩
  · obtain ⟨_, db₁, -, hwrite, hdb⟩ := mutateDirectBooking_write hact hnew
    rw [hdb]
    exact hwrite.oneBooking hcolumn h ht

/-! ### Runs -/

theorem run_recorded {entry : Uuid × String} {hash : String}
    (h : db.assistantBookingActions.lookup entry = some hash) (l : List (DirectBookingCall P)) :
    (run (bookingStep A) db l).assistantBookingActions.lookup entry = some hash :=
  run_invariant (I := fun db : Database ↦ db.assistantBookingActions.lookup entry = some hash)
    (fun _ _ ↦ bookingStep_recorded) h l

theorem run_request {sessionId id : Uuid}
    (h : ∃ session, db.assistantSessions.lookup sessionId = some session ∧
      session.consultationRequestId = some id) (l : List (DirectBookingCall P)) :
    ∃ session, (run (bookingStep A) db l).assistantSessions.lookup sessionId = some session ∧
      session.consultationRequestId = some id :=
  run_invariant (I := fun db : Database ↦ ∃ session,
    db.assistantSessions.lookup sessionId = some session ∧ session.consultationRequestId = some id)
    (fun _ _ ⟨_, hsession, hid⟩ ↦ bookingStep_request hsession hid) h l

theorem run_onePhone {t : Time} (hcolumn : CanonicalColumn db) (h : OneBookingPerPhone db t)
    (l : List (DirectBookingCall P)) (ht : ∀ call ∈ l, call.clock.searchedAt ≤ t) :
    CanonicalColumn (run (bookingStep A) db l) ∧ OneBookingPerPhone (run (bookingStep A) db l) t := by
  induction l generalizing db with
  | nil => exact ⟨hcolumn, h⟩
  | cons call l ih =>
    obtain ⟨hcall, hrest⟩ := List.forall_mem_cons.mp ht
    obtain ⟨hcolumn', h'⟩ := bookingStep_onePhone (A := A) hcolumn h hcall
    exact ih hcolumn' h' hrest

/-- The record of a call is there for the calls after it. -/
theorem recorded_after {before : List (DirectBookingCall P)} (middle : List (DirectBookingCall P))
    (h : (mutateDirectBooking A (run (bookingStep A) db before) call.mutate).isOk) :
    (run (bookingStep A) db (before ++ call :: middle)).assistantBookingActions.lookup
      (call.sessionId, call.body.key) = some (P.sha256 call.text) := by
  rw [run_append, run_cons]
  exact run_recorded (recorded_of_isOk h) middle

/-- Starting without a request for a published time, every sequence of calls keeps the promises. -/
theorem direct_booking_promises
    (hstart : ∀ id c, db.consultationRequests.lookup id = some c →
      c.confirmationSource ≠ "PUBLISHED_SLOT") (calls : List (DirectBookingCall P))
    (hsha : ∀ a ∈ calls, ∀ b ∈ calls, P.sha256 a.text = P.sha256 b.text → a.text = b.text) :
    BookingPromise A db calls where
  once := by
    intro before call middle again after _ hsession hkey heffect
    have hok : (mutateDirectBooking A (run (bookingStep A) db before) call.mutate).isOk := by
      cases hact : mutateDirectBooking A (run (bookingStep A) db before) call.mutate with
      | error e => exact absurd (bookingStep_of_error hact).2 heffect
      | ok _ => rfl
    have hrecorded := recorded_after middle hok
    rw [hsession, hkey] at hrecorded
    exact bookingStep_done hrecorded
  repeated := by
    intro before call middle again after _ hsession hbody hok hadmits
    have hrecorded := recorded_after middle hok
    have htext : call.text = again.text := by rw [DirectBookingCall.text, hbody]; rfl
    rw [hsession, hbody, htext] at hrecorded
    exact mutateDirectBooking_again hrecorded hadmits
  changed := by
    intro before call middle again after hcalls hsession hkey hbody hok
    have hrecorded := recorded_after middle hok
    rw [hsession, hkey] at hrecorded
    rcases mutateDirectBooking_done (A := A) hrecorded with ⟨e, he⟩ | ⟨-, hhash⟩
    · exact bookingStep_of_error he
    · have hcall : call ∈ calls := by simp [hcalls]
      have hagain : again ∈ calls := by simp [hcalls]
      exact absurd (DirectBookingCall.body_eq (hsha call hcall again hagain hhash)) hbody
  stale := by
    intro before call after _ session hsession hnew hstale
    obtain ⟨e, he⟩ := mutateDirectBooking_stale (A := A) hsession hnew hstale
    exact bookingStep_of_error he
  onePhone := by
    intro before after _ t ht
    have hnone : ∀ id phone, ¬PublishedRequest db id phone := by
      rintro id phone ⟨c, hc, hsource, -⟩
      exact hstart id c hc hsource
    refine (run_onePhone ?_ ?_ before ht).2
    · intro id c hc hsource
      exact absurd hsource (hstart id c hc)
    · intro id id' phone hid
      exact absurd hid (hnone id phone)
  oneRequest := by
    intro before middle after _ sessionId session id hsession hid
    rw [run_append]
    exact run_request ⟨session, hsession, hid⟩ middle

end

/-! ## A booking that is made again and cancelled -/

def sampleConfirmBody : DirectBookingBody where
  action := .confirmBooking
  key := "6fa459ea-ee8a-4ca4-894e-db77e160355e"
  revision := 0
  fullName := some "Guest"
  phone := some "+201000000000"
  contactChannel := some "PHONE"
  startsAt := some "2027-01-10T10:00:00.000Z"

def sampleCancelBody : DirectBookingBody :=
  { action := .cancelBooking, key := "16fd2706-8baf-433b-82eb-8c7fada847da", revision := 1 }

def bookingPlatform : Platform :=
  { plainPlatform with
    parseDate := fun text ↦ if text = "2027-01-10T10:00:00.000Z" then some 1799575200000 else none
    sha256 := fun text ↦
      if text = sampleConfirmBody.json.stringify then
        "89e4cd4f57a8e6d0af8b8313c934af823bc230979b6be51b045d28e1e436ceb7"
      else if text = sampleCancelBody.json.stringify then
        "a656aedb9a8641ebde0680404fbc63c0da0d1949416617585cd7df902e4cebde"
      else "" }

/-- One time is offered. -/
def oneTime : Availability where
  offersRequested _ _ _ _ _ := false
  directSlots _ _ _ _ := [{
    startsAt := 1799575200000
    endsAt := 1799578800000
    lawyerId := "lawyer" }]
  bookingCategory service _ := service

/-- A guest who has agreed to book. -/
def sampleChat : Database where
  assistantSessions := (∅ : Table Uuid AssistantSession).insert "session"
    { locale := "en", bookingConsent := true, expiresAt := 1799086400000 }

def sampleClock (now : Time) : DirectBookingClock := ⟨now, now, now, now, now⟩

def sampleConfirm (now : Time) : DirectBookingCall bookingPlatform where
  sessionId := "session"
  body := sampleConfirmBody
  action := .confirm ⟨"Guest", "+201000000000", "PHONE"⟩ 1799575200000
  accepted := by decide
  clock := sampleClock now
  newClientId := "client"
  newConsultationId := "consultation"
  newAppointmentId := "appointment"

def sampleCancel (now : Time) : DirectBookingCall bookingPlatform where
  sessionId := "session"
  body := sampleCancelBody
  action := .cancel
  accepted := by decide
  clock := sampleClock now
  newClientId := "client"
  newConsultationId := "consultation"
  newAppointmentId := "appointment"

theorem sha256_sampleConfirm (now : Time) : bookingPlatform.sha256 (sampleConfirm now).text =
    "89e4cd4f57a8e6d0af8b8313c934af823bc230979b6be51b045d28e1e436ceb7" := by
  simp only [bookingPlatform, DirectBookingCall.text, sampleConfirm, if_true]

/-- The call with its hash worked out. -/
def sampleConfirmed (now : Time) : MutateDirectBooking :=
  { (sampleConfirm now).mutate with
    requestHash := "89e4cd4f57a8e6d0af8b8313c934af823bc230979b6be51b045d28e1e436ceb7" }

theorem mutate_sampleConfirm (now : Time) : (sampleConfirm now).mutate = sampleConfirmed now := by
  rw [sampleConfirmed, ← sha256_sampleConfirm now]
  rfl

/-- The repeated call succeeds though the session has another revision, and fails when the session
has expired. -/
theorem repeated_confirm_expired :
    (mutateDirectBooking oneTime sampleChat (sampleConfirm 1799000000000).mutate).isOk ∧
      (mutateDirectBooking oneTime
        (bookingStep oneTime sampleChat (sampleConfirm 1799000000000))
        (sampleConfirm 1799000060000).mutate).isOk ∧
      (∃ session, (bookingStep oneTime sampleChat
        (sampleConfirm 1799000000000)).assistantSessions.lookup "session" = some session ∧
        session.revision ≠ (sampleConfirm 1799000060000).body.revision) ∧
      ¬(mutateDirectBooking oneTime
        (bookingStep oneTime sampleChat (sampleConfirm 1799000000000))
        (sampleConfirm 1799090000000).mutate).isOk := by
  have hstep : bookingStep oneTime sampleChat (sampleConfirm 1799000000000) =
      commit (mutateDirectBooking oneTime sampleChat (sampleConfirmed 1799000000000))
        sampleChat := by
    rw [bookingStep, mutate_sampleConfirm]
  simp only [mutate_sampleConfirm, hstep]
  refine ⟨by decide +kernel, by decide +kernel, ?_, by decide +kernel⟩
  have hrevision : ((commit (mutateDirectBooking oneTime sampleChat
      (sampleConfirmed 1799000000000)) sampleChat).assistantSessions.lookup "session").map
      AssistantSession.revision = some 1 := by decide +kernel
  obtain ⟨session, hsession, hone⟩ := Option.map_eq_some_iff.mp hrevision
  refine ⟨session, hsession, ?_⟩
  rw [hone]
  decide

def sampleBookingCalls : List (DirectBookingCall bookingPlatform) :=
  [sampleConfirm 1799000000000, sampleConfirm 1799000060000, sampleCancel 1799000120000]

theorem direct_booking_promises_sampleChat :
    BookingPromise oneTime sampleChat sampleBookingCalls := by
  have htext : Json.stringify sampleCancelBody.json ≠ Json.stringify sampleConfirmBody.json := by
    intro h
    exact absurd (DirectBookingBody.json_injective
      (Json.stringify_inj (DirectBookingBody.json_numeric _) (DirectBookingBody.json_numeric _) h))
      (by decide)
  have hconfirm := sha256_sampleConfirm
  have hcancel : ∀ now, bookingPlatform.sha256 (sampleCancel now).text =
      "a656aedb9a8641ebde0680404fbc63c0da0d1949416617585cd7df902e4cebde" := by
    intro now
    simp only [bookingPlatform, DirectBookingCall.text, sampleCancel, if_true]
    rw [if_neg htext]
  refine direct_booking_promises (fun id _ h ↦ ?_) sampleBookingCalls ?_
  · cases (AList.lookup_empty id).symm.trans h
  intro a ha b hb hhash
  simp only [sampleBookingCalls, List.mem_cons, List.not_mem_nil, or_false] at ha hb
  rcases ha with rfl | rfl | rfl <;> rcases hb with rfl | rfl | rfl
  · rfl
  · rfl
  · rw [hconfirm, hcancel] at hhash
    exact absurd hhash (by decide)
  · rfl
  · rfl
  · rw [hconfirm, hcancel] at hhash
    exact absurd hhash (by decide)
  · rw [hconfirm, hcancel] at hhash
    exact absurd hhash (by decide)
  · rw [hconfirm, hcancel] at hhash
    exact absurd hhash (by decide)
  · rfl

end KmtLegal
