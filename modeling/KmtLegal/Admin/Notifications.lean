import KmtLegal.Admin.OfficeLists
import KmtLegal.Http.Payloads
import KmtLegal.Relational.Paging
import Mathlib.Data.Prod.Lex
import Mathlib.Data.String.Basic

/-!
# The notification centre

`listAdminNotifications` of `notification-service.ts`: the notifications of an actor and the
consultations waiting for a review, merged, without a notification of a consultation that is listed
itself, and read page by page.

A moment is its time in milliseconds; its text is written into a cursor.  Where a notification leads is
a column here, and what the query schema coerces is given.
-/

namespace KmtLegal

open Relational Js Scheduling

/-! ## Rows and items -/

/-- A row of `notifications`. -/
structure NotificationRow where
  userId : Uuid
  title : String
  body : String
  type : String
  resourceType : Option String := none
  resourceId : Option String := none
  /-- `safeNotificationHref(…)`. -/
  href : Option String := none
  readAt : Option Time := none
  createdAt : Time
  deriving DecidableEq

structure NotificationStore where
  office : OfficeStore
  notifications : Table Uuid NotificationRow := ∅

def NotificationStore.db (s : NotificationStore) : Database := s.office.db

/-- `notificationCenterKindSchema`. -/
inductive NotificationCenterKind where
  | generic | consultationReview
  deriving DecidableEq

def NotificationCenterKind.text : NotificationCenterKind → String
  | generic => "generic"
  | consultationReview => "consultation-review"

def NotificationCenterKind.ofText (text : String) : Option NotificationCenterKind :=
  [NotificationCenterKind.generic, .consultationReview].find? (·.text = text)

theorem NotificationCenterKind.text_injective : Function.Injective NotificationCenterKind.text := by
  intro a b h
  cases a <;> cases b <;> first | rfl | exact absurd h (by decide)

/-- `notificationCursorSchema`. -/
structure NotificationCursor where
  createdAt : Time
  kind : NotificationCenterKind
  id : Uuid
  deriving DecidableEq

/-- What only items of one kind have. -/
inductive NotificationDetails where
  | generic (row : NotificationRow)
  | consultationReview (reference applicantDisplayName href : String) (startsAt : Option Time)
  deriving DecidableEq

structure NotificationCenterItem extends NotificationCursor where
  details : NotificationDetails
  deriving DecidableEq

def genericItem (notification : Uuid × NotificationRow) : NotificationCenterItem where
  createdAt := notification.2.createdAt
  kind := .generic
  id := notification.1
  details := .generic notification.2

/-- The first scheduled appointment of a consultation. -/
def firstScheduledAt (db : Database) (consultationId : Uuid) : Option Time :=
  (db.appointments.findMany
    (fun _ a ↦ a.isPrimaryOf consultationId ∧ a.status = .scheduled)
    (fun a b ↦ a.2.startsAt < b.2.startsAt ∨ (a.2.startsAt = b.2.startsAt ∧ a.1 ≤ b.1)) 1).head?.map
      (·.2.startsAt)

/-- `consultationItem(consultation)`. -/
def consultationItem (db : Database) (consultation : Uuid × ConsultationRequest) :
    NotificationCenterItem where
  createdAt := consultation.2.createdAt
  kind := .consultationReview
  id := consultation.1
  details := .consultationReview (consultationReference consultation.1) consultation.2.fullName
    ("/admin/consultations/" ++ consultation.1) (firstScheduledAt db consultation.1)

/-! ## Order and cursors -/

/-- `itemOrder(left, right)`; ids compare as texts. -/
def itemOrder (left right : NotificationCursor) : Ordering :=
  (Ord.compare right.createdAt left.createdAt).then
    ((Ord.compare left.kind.text right.kind.text).then (Ord.compare left.id right.id))

def NotificationCursor.json (item : NotificationCursor) : Json :=
  .obj [("createdAt", .str (isoText item.createdAt)), ("kind", .str item.kind.text),
    ("id", .str item.id)]

/-- `encodeCursor(item)`. -/
def encodeCursor (item : NotificationCursor) : String := encodePayload item.json

section

variable (P : Platform) (isDatetime : String → Bool)

/-- `notificationCursorSchema.parse`, where `z.string().datetime()` accepts the texts `isDatetime`,
which all are dates. -/
def parseCursor : Json → Option NotificationCursor
  | .obj fields => do
    guard (fields.all fun field ↦ field.1 ∈ ["createdAt", "kind", "id"])
    let .str createdAt ← Json.field fields "createdAt" | none
    let .str kind ← Json.field fields "kind" | none
    let .str id ← Json.field fields "id" | none
    guard (isDatetime createdAt ∧ P.isUuid id)
    return { createdAt := ← P.parseDate createdAt, kind := ← NotificationCenterKind.ofText kind, id }
  | _ => none

/-- `decodeCursor(value)`. -/
def decodeCursor (value : String) : Except Failure NotificationCursor :=
  orThrow ((decodePayload P value).bind (parseCursor P isDatetime))
    (.validation "Notification cursor is invalid.")

/-! ## The query -/

inductive AdminNotificationQuery where
  | preview (limit : ℕ)
  | center (pageSize : ℕ) (cursor : Option String)
  deriving DecidableEq

def invalidNotificationQuery : Failure := .validation "Notification query is invalid."

/-- `adminNotificationQuerySchema`, of coerced numbers. -/
def adminNotificationQuery (limit pageSize : Option ℕ) (cursor : Option String) :
    Except Failure AdminNotificationQuery := do
  throwIf (limit.any fun n ↦ ¬(1 ≤ n ∧ n ≤ 10)) invalidNotificationQuery
  throwIf (pageSize.any fun n ↦ ¬(1 ≤ n ∧ n ≤ 50)) invalidNotificationQuery
  let trimmed := cursor.map trim
  throwIf (trimmed.any fun text ↦ 1000 < length text) invalidNotificationQuery
  let cursor := trimmed.filter (· ≠ "")
  throwIf (limit.isSome ∧ (pageSize.isSome ∨ cursor.isSome)) invalidNotificationQuery
  if pageSize.isSome ∨ cursor.isSome then pure (.center (pageSize.getD 20) cursor)
  else pure (.preview (limit.getD 5))

/-! ## The listing -/

/-- `dedupeKey(resourceType, resourceId)`. -/
def dedupeKey (resourceType resourceId : Option String) : Option String :=
  match orNull resourceType, orNull resourceId with
  | some resourceType, some resourceId => some (resourceType ++ ":" ++ resourceId)
  | _, _ => none

structure NotificationCenterSnapshot where
  genericUnreadCount : ℕ
  consultationReviewCount : ℕ
  attentionCount : ℕ
  nextCursor : Option String
  items : List NotificationCenterItem
  deriving DecidableEq

namespace NotificationStore

variable (s : NotificationStore) (actor : Principal) (asOf : Time)

/-- The consultations that wait for the actor's review. -/
def consultations : List (Uuid × ConsultationRequest) :=
  match consultationReviewScope actor with
  | some isInScope =>
    s.db.consultationRequests.select (unreviewedConsultationWhere s.office asOf isInScope)
  | none => []

def notificationsOf : List (Uuid × NotificationRow) :=
  s.notifications.select fun _ row ↦ row.userId = actor.id

/-- The notifications of none of the consultations. -/
def visibleGeneric : List (Uuid × NotificationRow) :=
  let consultationKeys := (s.consultations actor asOf).map fun c ↦
    dedupeKey (some "ConsultationRequest") (some c.1)
  (s.notificationsOf actor).filter fun n ↦
    dedupeKey n.2.resourceType n.2.resourceId = none ∨
      dedupeKey n.2.resourceType n.2.resourceId ∉ consultationKeys

def allItems : List NotificationCenterItem :=
  ((s.visibleGeneric actor asOf).map genericItem ++
    (s.consultations actor asOf).map (consultationItem s.db)).insertionSort
      fun a b ↦ itemOrder a.toNotificationCursor b.toNotificationCursor ≠ .gt

end NotificationStore

/-- `listAdminNotifications({ actor, query, asOf })`. -/
def listAdminNotifications (s : NotificationStore) (actor : Principal) (limit pageSize : Option ℕ)
    (cursor : Option String) (asOf : Time) : Except Failure NotificationCenterSnapshot := do
  throwIf (¬hasPermission actor "notification.read.self")
    (.permissionDenied "Notification read permission is required.")
  let query ← adminNotificationQuery limit pageSize cursor
  let cursor ← match query with
    | .center _ (some text) => some <$> decodeCursor P isDatetime text
    | _ => pure none
  let allItems : List NotificationCenterItem := s.allItems actor asOf
  let remainingItems : List NotificationCenterItem := match cursor with
    | some cursor =>
      allItems.filter fun item ↦ itemOrder item.toNotificationCursor cursor = Ordering.gt
    | none => allItems
  let pageSize := match query with
    | .preview limit => limit
    | .center pageSize _ => pageSize
  let items := remainingItems.take pageSize
  pure
    { genericUnreadCount := (s.notificationsOf actor).countP (·.2.readAt = none)
      consultationReviewCount := (s.consultations actor asOf).length
      attentionCount := (s.visibleGeneric actor asOf).countP (·.2.readAt = none) +
        (s.consultations actor asOf).length
      nextCursor := if items.length < remainingItems.length then
          items.getLast?.map fun item ↦ encodeCursor item.toNotificationCursor
        else none
      items }

end

/-! ## The order -/

namespace NotificationCursor

/-- The place of an item in the order. -/
def key (a : NotificationCursor) : ℤᵒᵈ ×ₗ String ×ₗ String :=
  toLex (OrderDual.toDual a.createdAt, toLex (a.kind.text, a.id))

/-- The later moment comes first, then the kind, then the lower id. -/
def Before (a b : NotificationCursor) : Prop :=
  b.createdAt < a.createdAt ∨ (a.createdAt = b.createdAt ∧
    (a.kind.text < b.kind.text ∨ (a.kind.text = b.kind.text ∧ a.id < b.id)))

theorem key_lt_iff {a b : NotificationCursor} : a.key < b.key ↔ a.Before b := by
  simp [key, Before, Prod.Lex.toLex_lt_toLex]

theorem key_injective : Function.Injective key := by
  rintro ⟨createdAt, kind, id⟩ ⟨createdAt', kind', id'⟩ h
  simp only [key, EmbeddingLike.apply_eq_iff_eq, Prod.mk.injEq] at h
  obtain ⟨rfl, hkind, rfl⟩ := h
  rw [NotificationCenterKind.text_injective hkind]

end NotificationCursor

theorem itemOrder_gt_iff {a b : NotificationCursor} : itemOrder a b = .gt ↔ b.key < a.key := by
  rw [NotificationCursor.key_lt_iff]
  simp only [itemOrder, NotificationCursor.Before, Ordering.then_eq_gt, compare_gt_iff_gt,
    compare_eq_iff_eq]
  rw [@eq_comm _ b.kind.text a.kind.text]

theorem itemOrder_ne_gt_iff {a b : NotificationCursor} : itemOrder a b ≠ .gt ↔ a.key ≤ b.key := by
  rw [ne_eq, itemOrder_gt_iff, not_lt]

/-! ## A cursor comes back -/

/-- A UUID in lower case. -/
structure IsLowerUuid (P : Platform) (id : Uuid) : Prop where
  isUuid : P.isUuid id
  length : id.toList.length = 36
  chars : ∀ c ∈ id.toList, c ∈ '-' :: hexDigits

/-- The characters of moments and ids. -/
def cursorChars : List Char := ['-', ':', '.', 'T', 'Z'] ++ hexDigits

theorem escapeChar_of_mem_cursorChars {c : Char} (h : c ∈ cursorChars) : escapeChar c = [c] := by
  have hall : cursorChars.all fun c ↦ escapeChar c = [c] := by decide
  exact of_decide_eq_true (List.all_eq_true.mp hall c h)

theorem length_quoteChars {text : String} (h : ∀ c ∈ text.toList, c ∈ cursorChars) :
    (quoteChars text).length = text.toList.length + 2 := by
  have hplain : text.toList.flatMap escapeChar = text.toList := by
    rw [List.flatMap_congr fun c hc ↦ escapeChar_of_mem_cursorChars (h c hc), List.flatMap_singleton']
  rw [quoteChars, List.length_cons, List.length_append, hplain, List.length_singleton]

theorem mem_paddedDigits {width n : ℕ} {c : Char} (h : c ∈ paddedDigits width n) :
    c ∈ cursorChars := by
  induction width generalizing n with
  | zero => cases h
  | succ width ih =>
    rcases List.mem_append.mp h with h | h
    · exact ih h
    · obtain rfl := List.mem_singleton.mp h
      have hall : ∀ d : Fin 10, Char.ofNat (48 + d.val) ∈ cursorChars := by decide
      exact hall ⟨n % 10, Nat.mod_lt _ (by decide)⟩

theorem length_paddedDigits (width n : ℕ) : (paddedDigits width n).length = width := by
  induction width generalizing n with
  | zero => rfl
  | succ width ih => rw [paddedDigits, List.length_append, ih, List.length_singleton]

/-- The year is one of four digits. -/
def HasIsoYear (t : Time) : Prop :=
  0 ≤ (civilDate (t / 86400000)).year ∧ (civilDate (t / 86400000)).year ≤ 9999

theorem length_isoText {t : Time} (h : HasIsoYear t) : (isoText t).toList.length = 24 := by
  have hyear : isoYear (civilDate (t / 86400000)).year =
      paddedDigits 4 (civilDate (t / 86400000)).year.toNat := if_pos h
  simp [isoText, hyear, length_paddedDigits]

theorem mem_isoText {t : Time} (h : HasIsoYear t) {c : Char} (hc : c ∈ (isoText t).toList) :
    c ∈ cursorChars := by
  simp only [isoText, isoYear, if_pos (show _ ∧ _ from h), String.toList_ofList, List.mem_append,
    List.mem_singleton, or_assoc] at hc
  rcases hc with hc | rfl | hc | rfl | hc | rfl | hc | rfl | hc | rfl | hc | rfl | hc | rfl <;>
    first | exact mem_paddedDigits hc | decide

/-- What the centre relies on: `JSON.parse` undoes `JSON.stringify`, `new Date` undoes `toISOString`,
and `z.string().datetime()` accepts a year of four digits. -/
structure CursorFormats (P : Platform) (isDatetime : String → Bool) (c : NotificationCursor) :
    Prop where
  parseJson : P.parseJson c.json.stringify = some c.json
  parseDate : P.parseDate (isoText c.createdAt) = some c.createdAt
  isDatetime : HasIsoYear c.createdAt → isDatetime (isoText c.createdAt)

/-- A cursor that can be written and read. -/
structure NotificationCursor.Readable (P : Platform) (isDatetime : String → Bool)
    (c : NotificationCursor) : Prop where
  createdAt : HasIsoYear c.createdAt
  id : IsLowerUuid P c.id
  formats : CursorFormats P isDatetime c

section

variable {P : Platform} {isDatetime : String → Bool} {c : NotificationCursor}

theorem decodeCursor_encodeCursor (hc : c.Readable P isDatetime) :
    decodeCursor P isDatetime (encodeCursor c) = .ok c := by
  have hpayload : decodePayload P (encodeCursor c) = some c.json := by
    simp only [decodePayload, encodeCursor, encodePayload, base64urlBytes_base64url, utf8Text_utf8,
      Option.getD_some]
    exact hc.formats.parseJson
  have hkind : NotificationCenterKind.ofText c.kind.text = some c.kind := by
    cases c.kind <;> rfl
  rw [decodeCursor, hpayload, orThrow_eq_ok]
  simp [NotificationCursor.json, parseCursor, Json.field, List.lookup,
    hc.formats.isDatetime hc.createdAt, hc.id.isUuid, hc.formats.parseDate, hkind, guard]

theorem length_chars_json (hc : c.Readable P isDatetime) : (Json.chars c.json).length ≤ 113 := by
  have hcreated : (quoteChars (isoText c.createdAt)).length = 26 := by
    rw [length_quoteChars fun _ ↦ mem_isoText hc.createdAt, length_isoText hc.createdAt]
  have hid : (quoteChars c.id).length = 38 := by
    have hplain : ∀ d ∈ c.id.toList, d ∈ cursorChars := by
      intro d hd
      rcases List.mem_cons.mp (hc.id.chars d hd) with rfl | hhex
      · exact List.mem_cons_self
      · exact List.mem_append_right _ hhex
    rw [length_quoteChars hplain, hc.id.length]
  have hkind : (quoteChars c.kind.text).length ≤ 21 := by
    cases c.kind <;> decide
  have hkeys : (quoteChars "createdAt").length = 11 ∧ (quoteChars "kind").length = 6 ∧
      (quoteChars "id").length = 4 := by decide
  simp only [NotificationCursor.json, Json.chars, Json.fieldChars, List.length_cons, List.length_append,
    hcreated, hid, hkeys.1, hkeys.2.1, hkeys.2.2, List.length_nil]
  omega

theorem length_encodeCursor (hchars : (Json.chars c.json).length ≤ 187) :
    (encodeCursor c).toList.length ≤ 1000 := by
  have hbytes : ∀ l : List Char, (l.flatMap String.utf8EncodeChar).length ≤ 4 * l.length := by
    intro l
    induction l with
    | nil => exact le_rfl
    | cons d l ih =>
      rw [List.flatMap_cons, List.length_append, String.length_utf8EncodeChar, List.length_cons]
      have hsize := d.utf8Size_le_four
      omega
  have hutf8 : (utf8 c.json.stringify).length ≤ 4 * (Json.chars c.json).length := by
    rw [utf8, Json.stringify, String.toList_ofList]
    exact hbytes _
  rw [encodeCursor, encodePayload, length_base64url]
  omega

theorem not_isSpace_of_mem_base64url {bytes : List UInt8} {d : Char}
    (h : d ∈ (base64url bytes).toList) : isSpace d = false := by
  have hall : ∀ n : Fin 64, isSpace (sextetChar n) = false := by decide
  rw [base64url, String.toList_ofList, List.mem_map] at h
  obtain ⟨n, hn, rfl⟩ := h
  exact hall ⟨n, sextets_lt bytes n hn⟩

theorem trim_encodeCursor (c : NotificationCursor) : trim (encodeCursor c) = encodeCursor c := by
  have hspace : ∀ d ∈ (encodeCursor c).toList, isSpace d = false :=
    fun _ ↦ not_isSpace_of_mem_base64url
  have hfront : (encodeCursor c).toList.dropWhile isSpace = (encodeCursor c).toList :=
    List.dropWhile_eq_self_iff.mpr fun hl ↦ by simp [hspace _ (List.getElem_mem hl)]
  have hback : (encodeCursor c).toList.rdropWhile isSpace = (encodeCursor c).toList :=
    List.rdropWhile_eq_self_iff.mpr fun hl ↦ by simp [hspace _ (List.getLast_mem hl)]
  rw [trim, hfront, hback, String.ofList_toList]

/-- The query schema lets a cursor through. -/
theorem adminNotificationQuery_center (hchars : (Json.chars c.json).length ≤ 187) {n : ℕ}
    (hn : 1 ≤ n ∧ n ≤ 50) :
    adminNotificationQuery none (some n) (some (encodeCursor c)) =
      .ok (.center n (some (encodeCursor c))) := by
  have hlength : length (encodeCursor c) ≤ 1000 := by
    have hunits : length (encodeCursor c) = (encodeCursor c).toList.length :=
      length_of_lt fun _ ↦ lt_of_mem_base64url
    rw [hunits]
    exact length_encodeCursor hchars
  have hne : encodeCursor c ≠ "" := by
    intro hempty
    have hlength := length_base64url (utf8 c.json.stringify)
    rw [show base64url (utf8 c.json.stringify) = "" from hempty] at hlength
    have hbytes : 0 < (utf8 c.json.stringify).length := by
      simp only [utf8, Json.stringify, String.toList_ofList, NotificationCursor.json, Json.chars,
        List.flatMap_cons, List.length_append, String.length_utf8EncodeChar]
      exact Nat.add_pos_left (Char.utf8Size_pos _) _
    simp only [String.toList_empty, List.length_nil] at hlength
    omega
  have htrim : (some (encodeCursor c)).map trim = some (encodeCursor c) :=
    congrArg some (trim_encodeCursor c)
  have hfilter : (some (encodeCursor c)).filter (· ≠ "") = some (encodeCursor c) := by
    simp [Option.filter, hne]
  simp only [adminNotificationQuery, htrim, hfilter, throwIf, Option.any_none, Option.any_some,
    Bool.false_eq_true, if_false, hn.1, hn.2, and_self, not_true, decide_false, not_lt.mpr hlength,
    Option.isSome_none, Option.isSome_some, false_and, or_self, if_true, Option.getD_some, ok_bind]
  rfl

/-! ## Which items there are -/

variable {s : NotificationStore} {actor : Principal} {asOf : Time}

/-- A consultation that waits for the actor's review. -/
def NotificationStore.IsUnreviewed (s : NotificationStore) (actor : Principal) (asOf : Time) (id : Uuid)
    (c : ConsultationRequest) : Prop :=
  s.db.consultationRequests.lookup id = some c ∧
    (hasPermission actor "consultation.review.any" ∨
      hasPermission actor "consultation.review.assigned" ∧ c.assignedLawyerId = some actor.id) ∧
    c.status = .scheduled ∧ c.secretaryReviewedAt = none ∧
    consultationOutcomeViewWhere .current asOf s.db id c

/-- A notification of the actor whose resource is none of these consultations. -/
def NotificationStore.IsVisible (s : NotificationStore) (actor : Principal) (asOf : Time) (id : Uuid)
    (row : NotificationRow) : Prop :=
  s.notifications.lookup id = some row ∧ row.userId = actor.id ∧
    ¬∃ consultationId c, s.IsUnreviewed actor asOf consultationId c ∧
      row.resourceType = some "ConsultationRequest" ∧ row.resourceId = some consultationId

theorem mem_consultations {e : Uuid × ConsultationRequest} :
    e ∈ s.consultations actor asOf ↔ s.IsUnreviewed actor asOf e.1 e.2 := by
  obtain ⟨id, c⟩ := e
  unfold NotificationStore.consultations consultationReviewScope NotificationStore.IsUnreviewed
  by_cases hany : hasPermission actor "consultation.review.any" = true
  · simp [hany, Table.mem_select, unreviewedConsultationWhere, isUnreviewed,
      NotificationStore.db, and_assoc]
  · by_cases hassigned : hasPermission actor "consultation.review.assigned" = true
    · simp [hany, hassigned, Table.mem_select, unreviewedConsultationWhere, isUnreviewed,
      NotificationStore.db, and_assoc]
    · simp [hany, hassigned]

theorem append_colon_inj {a b l r : List Char} (hl : ':' ∉ l) (hr : ':' ∉ r)
    (h : a ++ ':' :: b = l ++ ':' :: r) : a = l ∧ b = r := by
  induction a generalizing l with
  | nil =>
    cases l with
    | nil => exact ⟨rfl, (List.cons.inj h).2⟩
    | cons c l => exact absurd ((List.cons.inj h).1 ▸ List.mem_cons_self) hl
  | cons d a ih =>
    cases l with
    | nil =>
      refine absurd ?_ hr
      rw [← (List.cons.inj h).2]
      exact List.mem_append_right _ List.mem_cons_self
    | cons c l =>
      rw [List.cons_append, List.cons_append] at h
      obtain ⟨hhead, htail⟩ := List.cons.inj h
      obtain ⟨rfl, rfl⟩ := ih (fun hmem ↦ hl (List.mem_cons_of_mem _ hmem)) htail
      exact ⟨congrArg (· :: a) hhead, rfl⟩

/-- A key names the resource it was made of. -/
theorem dedupeKey_eq_iff {resourceType resourceId : Option String} {id : Uuid}
    (hid : IsLowerUuid P id) :
    dedupeKey resourceType resourceId = dedupeKey (some "ConsultationRequest") (some id) ↔
      resourceType = some "ConsultationRequest" ∧ resourceId = some id := by
  have hne : id ≠ "" := by
    rintro rfl
    exact absurd hid.length (by decide)
  have hcolon : ':' ∉ id.toList := fun hmem ↦ absurd (hid.chars ':' hmem) (by decide)
  have hright : dedupeKey (some "ConsultationRequest") (some id) =
      some ("ConsultationRequest" ++ ":" ++ id) := by
    simp [dedupeKey, orNull, Option.filter, hne]
  constructor
  · intro h
    rw [hright] at h
    unfold dedupeKey at h
    split at h
    · rename_i type resource htype hresource
      obtain ⟨rfl, -⟩ := Option.filter_eq_some_iff.mp htype
      obtain ⟨rfl, -⟩ := Option.filter_eq_some_iff.mp hresource
      have hlist := congrArg String.toList (Option.some.inj h)
      simp only [String.toList_append] at hlist
      have hsplit : type.toList ++ ':' :: resource.toList =
          "ConsultationRequest".toList ++ ':' :: id.toList := by
        simpa using hlist
      obtain ⟨htype, hresource⟩ := append_colon_inj (by decide) hcolon hsplit
      exact ⟨congrArg some (String.toList_injective htype),
        congrArg some (String.toList_injective hresource)⟩
    · cases h
  · rintro ⟨rfl, rfl⟩
    rfl

/-- Every id of the centre is a lower-case UUID. -/
def NotificationStore.IdsAreUuids (s : NotificationStore) (P : Platform) : Prop :=
  (∀ id row, s.notifications.lookup id = some row → IsLowerUuid P id) ∧
    ∀ id c, s.db.consultationRequests.lookup id = some c → IsLowerUuid P id

/-- Every moment of the centre is in a year of four digits. -/
def NotificationStore.MomentsAreIso (s : NotificationStore) : Prop :=
  (∀ id row, s.notifications.lookup id = some row → HasIsoYear row.createdAt) ∧
    ∀ id c, s.db.consultationRequests.lookup id = some c → HasIsoYear c.createdAt

theorem mem_visibleGeneric (hids : s.IdsAreUuids P) {e : Uuid × NotificationRow} :
    e ∈ s.visibleGeneric actor asOf ↔ s.IsVisible actor asOf e.1 e.2 := by
  obtain ⟨id, row⟩ := e
  have hkey : (dedupeKey row.resourceType row.resourceId = none ∨
      dedupeKey row.resourceType row.resourceId ∉ (s.consultations actor asOf).map fun c ↦
        dedupeKey (some "ConsultationRequest") (some c.1)) ↔
      ¬∃ consultationId c, s.IsUnreviewed actor asOf consultationId c ∧
        row.resourceType = some "ConsultationRequest" ∧ row.resourceId = some consultationId := by
    rw [← not_iff_not, not_not, not_or, not_not]
    constructor
    · rintro ⟨-, hmem⟩
      obtain ⟨c, hc, heq⟩ := List.mem_map.mp hmem
      have hunreviewed := mem_consultations.mp hc
      exact ⟨c.1, c.2, hunreviewed, (dedupeKey_eq_iff (hids.2 _ _ hunreviewed.1)).mp heq.symm⟩
    · rintro ⟨consultationId, c, hunreviewed, hresource⟩
      have heq := (dedupeKey_eq_iff (hids.2 _ _ hunreviewed.1)).mpr hresource
      refine ⟨?_, List.mem_map.mpr ⟨(consultationId, c), mem_consultations.mpr hunreviewed, heq.symm⟩⟩
      rw [heq]
      have hne : consultationId ≠ "" := by
        rintro rfl
        exact absurd (hids.2 _ _ hunreviewed.1).length (by decide)
      simp [dedupeKey, orNull, Option.filter, hne]
  simp only [NotificationStore.visibleGeneric, NotificationStore.notificationsOf, List.mem_filter,
    Table.mem_select, decide_eq_true_eq, hkey, NotificationStore.IsVisible, and_assoc]

/-! ## The items in their order -/

/-- The place of an item in the order. -/
def NotificationCenterItem.key (a : NotificationCenterItem) : ℤᵒᵈ ×ₗ String ×ₗ String :=
  a.toNotificationCursor.key

/-- An unread notification, or a consultation to review. -/
def NotificationCenterItem.needsAttention (a : NotificationCenterItem) : Bool :=
  match a.details with
  | .generic row => row.readAt = none
  | .consultationReview _ _ _ _ => true

/-- What the actor sees in the centre. -/
def NotificationStore.Shows (s : NotificationStore) (actor : Principal) (asOf : Time)
    (a : NotificationCenterItem) : Prop :=
  (∃ id row, s.IsVisible actor asOf id row ∧ a = genericItem (id, row)) ∨
    ∃ id c, s.IsUnreviewed actor asOf id c ∧ a = consultationItem s.db (id, c)

theorem allItems_eq : s.allItems actor asOf = Paging.sortBy NotificationCenterItem.key
    ((s.visibleGeneric actor asOf).map genericItem ++
      (s.consultations actor asOf).map (consultationItem s.db)) := by
  simp only [NotificationStore.allItems, Paging.sortBy, itemOrder_ne_gt_iff, NotificationCenterItem.key]
  congr

theorem mem_allItems (hids : s.IdsAreUuids P) {a : NotificationCenterItem} :
    a ∈ s.allItems actor asOf ↔ s.Shows actor asOf a := by
  rw [allItems_eq, Paging.mem_sortBy, List.mem_append, List.mem_map, List.mem_map]
  simp only [mem_visibleGeneric hids, mem_consultations, NotificationStore.Shows, Prod.exists,
    @eq_comm _ a]

/-- No two items have the same place. -/
theorem nodup_keys : (((s.visibleGeneric actor asOf).map genericItem ++
    (s.consultations actor asOf).map (consultationItem s.db)).map NotificationCenterItem.key).Nodup := by
  have hgeneric : ((s.visibleGeneric actor asOf).map genericItem).Pairwise
      fun a b ↦ a.key ≠ b.key := by
    refine List.pairwise_map.mpr (List.Pairwise.filter _ ?_)
    exact (Table.pairwise_select _ _).imp fun hid hkey ↦
      hid (congrArg (·.id) (NotificationCursor.key_injective hkey))
  have hconsultations : ((s.consultations actor asOf).map (consultationItem s.db)).Pairwise
      fun a b ↦ a.key ≠ b.key := by
    unfold NotificationStore.consultations
    split
    · exact List.pairwise_map.mpr ((Table.pairwise_select _ _).imp fun hid hkey ↦
        hid (congrArg (·.id) (NotificationCursor.key_injective hkey)))
    · exact .nil
  refine List.pairwise_map.mpr (List.pairwise_append.mpr ⟨hgeneric, hconsultations, ?_⟩)
  intro a ha b hb hkey
  obtain ⟨n, -, rfl⟩ := List.mem_map.mp ha
  obtain ⟨c, -, rfl⟩ := List.mem_map.mp hb
  have hkind := congrArg (·.kind) (NotificationCursor.key_injective hkey)
  cases hkind

theorem ascending_allItems : Paging.Ascending NotificationCenterItem.key (s.allItems actor asOf) := by
  rw [allItems_eq]
  exact Paging.ascending_sortBy nodup_keys

theorem countP_needsAttention : (s.allItems actor asOf).countP NotificationCenterItem.needsAttention =
    (s.visibleGeneric actor asOf).countP (·.2.readAt = none) + (s.consultations actor asOf).length := by
  rw [allItems_eq, Paging.sortBy, (List.perm_insertionSort _ _).countP_eq, List.countP_append,
    List.countP_map, List.countP_map]
  congr 1
  exact List.countP_eq_length.mpr fun _ _ ↦ rfl

/-- The formats hold up for what the actor sees. -/
def NotificationStore.HasCursorFormats (s : NotificationStore) (P : Platform)
    (isDatetime : String → Bool) (actor : Principal) (asOf : Time) : Prop :=
  ∀ a, s.Shows actor asOf a → CursorFormats P isDatetime a.toNotificationCursor

theorem readable_of_shows (hids : s.IdsAreUuids P) (hiso : s.MomentsAreIso)
    (hformats : s.HasCursorFormats P isDatetime actor asOf) {a : NotificationCenterItem}
    (h : s.Shows actor asOf a) : a.toNotificationCursor.Readable P isDatetime := by
  have hcursor := hformats a h
  rcases h with ⟨id, row, hvisible, rfl⟩ | ⟨id, c, hunreviewed, rfl⟩
  · exact ⟨hiso.1 id row hvisible.1, hids.1 id row hvisible.1, hcursor⟩
  · exact ⟨hiso.2 id c hunreviewed.1, hids.2 id c hunreviewed.1, hcursor⟩

/-! ## Page by page -/

/-- A cursor that can be written and read. -/
abbrev ReadableCursor (P : Platform) (isDatetime : String → Bool) :=
  { c : NotificationCursor // c.Readable P isDatetime }

theorem encodeCursor_injective :
    Function.Injective fun c : ReadableCursor P isDatetime ↦ encodeCursor c.1 := by
  intro a b h
  have hdecode := congrArg (decodeCursor P isDatetime) h
  simp only [decodeCursor_encodeCursor a.2, decodeCursor_encodeCursor b.2] at hdecode
  exact Subtype.ext (Except.ok.inj hdecode)

/-- What comes after a cursor. -/
def NotificationStore.remaining (s : NotificationStore) (actor : Principal) (asOf : Time)
    (start : Option (ReadableCursor P isDatetime)) : List NotificationCenterItem :=
  (s.allItems actor asOf).filter fun a ↦ ∀ c ∈ start, c.1.key < a.key

/-- A page of the centre: what a listing shows, and the cursor whose text it gives. -/
def NotificationPage (s : NotificationStore) (actor : Principal) (n : ℕ) (asOf : Time)
    (start : Option (ReadableCursor P isDatetime))
    (page : Paging.Page NotificationCenterItem (ReadableCursor P isDatetime)) : Prop :=
  ∃ snapshot, listAdminNotifications P isDatetime s actor none (some n)
      (start.map fun c ↦ encodeCursor c.1) asOf = .ok snapshot ∧
    page.records = snapshot.items ∧ page.hasMore = snapshot.nextCursor.isSome ∧
    page.cursor.map (fun c ↦ encodeCursor c.1) = snapshot.nextCursor

/-- The cursor after `n` of the remaining items. -/
def NotificationStore.nextText (s : NotificationStore) (actor : Principal) (asOf : Time) (n : ℕ)
    (start : Option (ReadableCursor P isDatetime)) : Option String :=
  if n < (s.remaining actor asOf start).length then
    ((s.remaining actor asOf start).take n).getLast?.map fun a ↦ encodeCursor a.toNotificationCursor
  else none

/-- What a listing after a cursor answers. -/
theorem listAdminNotifications_eq (hread : hasPermission actor "notification.read.self") {n : ℕ}
    (hn : 1 ≤ n ∧ n ≤ 50) (start : Option (ReadableCursor P isDatetime)) :
    ∃ snapshot, listAdminNotifications P isDatetime s actor none (some n)
        (start.map fun c ↦ encodeCursor c.1) asOf = .ok snapshot ∧
      snapshot.items = (s.remaining actor asOf start).take n ∧
      snapshot.attentionCount = (s.allItems actor asOf).countP NotificationCenterItem.needsAttention ∧
      snapshot.nextCursor = s.nextText actor asOf n start := by
  have hquery : adminNotificationQuery none (some n) (start.map fun c ↦ encodeCursor c.1) =
      .ok (.center n (start.map fun c ↦ encodeCursor c.1)) := by
    cases start with
    | none => simp [adminNotificationQuery, throwIf, hn.1, not_lt.mpr hn.2, ok_bind]
    | some c =>
      exact adminNotificationQuery_center ((length_chars_json c.2).trans (by decide)) hn
  have hlength : ((s.remaining actor asOf start).take n).length <
      (s.remaining actor asOf start).length ↔ n < (s.remaining actor asOf start).length := by
    rw [List.length_take]
    omega
  refine ⟨{
    genericUnreadCount := (s.notificationsOf actor).countP (·.2.readAt = none)
    consultationReviewCount := (s.consultations actor asOf).length
    attentionCount := (s.visibleGeneric actor asOf).countP (·.2.readAt = none) +
      (s.consultations actor asOf).length
    nextCursor := s.nextText actor asOf n start
    items := (s.remaining actor asOf start).take n }, ?_, rfl, countP_needsAttention.symm, rfl⟩
  simp only [listAdminNotifications, throwIf, hread, not_true, if_false, hquery, ok_bind,
    NotificationStore.nextText]
  cases start with
  | none =>
    have hremaining : s.remaining actor asOf (none : Option (ReadableCursor P isDatetime)) =
        s.allItems actor asOf := by
      simp [NotificationStore.remaining]
    rw [hremaining] at hlength ⊢
    simp only [Option.map_none, pure_bind, hlength]
    rfl
  | some c =>
    have hremaining : (s.allItems actor asOf).filter (fun item ↦
        itemOrder item.toNotificationCursor c.1 = Ordering.gt) = s.remaining actor asOf (some c) := by
      simp [NotificationStore.remaining, itemOrder_gt_iff, NotificationCenterItem.key]
    simp only [Option.map_some, decodeCursor_encodeCursor c.2, Except.map, Functor.map, ok_bind,
      hremaining, hlength]
    rfl

/-- A text that is no cursor is refused. -/
theorem listAdminNotifications_refused {text : String} {e : Failure} {n : ℕ}
    (hread : hasPermission actor "notification.read.self")
    (hquery : adminNotificationQuery none (some n) (some text) = .ok (.center n (some text)))
    (hdecode : decodeCursor P isDatetime text = .error e) :
    listAdminNotifications P isDatetime s actor none (some n) (some text) asOf = .error e := by
  simp only [listAdminNotifications, throwIf, hread, not_true, if_false, hquery, ok_bind, hdecode]
  rfl

theorem mem_remaining_none {a : NotificationCenterItem} (hids : s.IdsAreUuids P) :
    a ∈ s.remaining actor asOf (none : Option (ReadableCursor P isDatetime)) ↔
      s.Shows actor asOf a := by
  simp [NotificationStore.remaining, mem_allItems hids]

/-- After the last item of a page come those that page left out. -/
theorem remaining_next {start : Option (ReadableCursor P isDatetime)} {n : ℕ}
    {last : NotificationCenterItem} (hreadable : last.toNotificationCursor.Readable P isDatetime)
    (hlast : ((s.remaining actor asOf start).take n).getLast? = some last) :
    s.remaining actor asOf (some ⟨last.toNotificationCursor, hreadable⟩) =
      (s.remaining actor asOf start).drop n := by
  have hascending : Paging.Ascending NotificationCenterItem.key (s.remaining actor asOf start) :=
    ascending_allItems.filter _
  rw [← hascending.filter_after hlast, NotificationStore.remaining, NotificationStore.remaining,
    List.filter_filter]
  refine List.filter_congr fun a _ ↦ ?_
  have hmem : last ∈ s.remaining actor asOf start :=
    List.mem_of_mem_take (List.mem_of_mem_getLast? hlast)
  have hafter := of_decide_eq_true (List.mem_filter.mp hmem).2
  rw [Bool.eq_iff_iff, Bool.and_eq_true, decide_eq_true_eq, decide_eq_true_eq, decide_eq_true_eq]
  constructor
  · intro h
    have hlt : last.key < a.key := h _ rfl
    exact ⟨hlt, fun c hc ↦ (hafter c hc).trans hlt⟩
  · rintro ⟨hlt, -⟩ c hc
    obtain rfl := Option.some.inj hc
    exact hlt

/-- The cursor that is given is that of the last item of the page. -/
theorem exists_nextCursor (hids : s.IdsAreUuids P) (hiso : s.MomentsAreIso)
    (hformats : s.HasCursorFormats P isDatetime actor asOf) {n : ℕ} (hn : 1 ≤ n)
    (start : Option (ReadableCursor P isDatetime)) :
    ∃ cursor : Option (ReadableCursor P isDatetime),
      cursor.map (fun c ↦ encodeCursor c.1) = s.nextText actor asOf n start ∧
      (cursor.isSome ↔ n < (s.remaining actor asOf start).length) ∧
      ∀ c ∈ cursor, s.remaining actor asOf (some c) = (s.remaining actor asOf start).drop n := by
  by_cases hmore : n < (s.remaining actor asOf start).length
  · have hne : (s.remaining actor asOf start).take n ≠ [] := by
      rw [← List.length_pos_iff, List.length_take]
      omega
    have hlast := List.getLast?_eq_some_getLast hne
    have hmem := List.mem_of_mem_take (List.mem_of_mem_getLast? hlast)
    have hshows := (mem_allItems hids).mp (List.mem_of_mem_filter hmem)
    have hreadable := readable_of_shows hids hiso hformats hshows
    refine ⟨some ⟨_, hreadable⟩, ?_, by simp [hmore], fun c hc ↦ ?_⟩
    · rw [NotificationStore.nextText, if_pos hmore, hlast]
      rfl
    · obtain rfl := Option.some.inj hc
      exact remaining_next hreadable hlast
  · exact ⟨none, by rw [NotificationStore.nextText, if_neg hmore]; rfl, by simp [hmore], by simp⟩

/-- The listing goes through what the actor sees in pages of `n`. -/
theorem notificationPages (hread : hasPermission actor "notification.read.self")
    (hids : s.IdsAreUuids P) (hiso : s.MomentsAreIso)
    (hformats : s.HasCursorFormats P isDatetime actor asOf) {n : ℕ} (hn : 1 ≤ n ∧ n ≤ 50) :
    Paging.Pages n (fun start : Option (ReadableCursor P isDatetime) ↦ s.remaining actor asOf start)
      (NotificationPage s actor n asOf) := by
  have hpage : ∀ {start : Option (ReadableCursor P isDatetime)} {page},
      NotificationPage s actor n asOf start page →
        page.records = (s.remaining actor asOf start).take n ∧
        page.hasMore = (s.nextText actor asOf n start).isSome ∧
        page.cursor.map (fun c ↦ encodeCursor c.1) = s.nextText actor asOf n start := by
    rintro start page ⟨snapshot, hsnapshot, hrecords, hmore, hcursor⟩
    obtain ⟨snapshot', hsnapshot', hitems, -, hnext⟩ := listAdminNotifications_eq hread hn start
    obtain rfl := Except.ok.inj (hsnapshot.symm.trans hsnapshot')
    exact ⟨hrecords.trans hitems, hnext ▸ hmore, hcursor.trans hnext⟩
  have hmoreIff : ∀ {start : Option (ReadableCursor P isDatetime)} {page},
      NotificationPage s actor n asOf start page →
        (page.hasMore = true ↔ n < (s.remaining actor asOf start).length) := by
    intro start page h
    obtain ⟨cursor, hcursor, hsome, -⟩ := exists_nextCursor hids hiso hformats hn.1 start
    rw [(hpage h).2.1, ← hcursor, Option.isSome_map]
    exact hsome
  refine ⟨fun start ↦ ?_, fun h ↦ (hpage h).1, hmoreIff, fun {start page} h hmore ↦ ?_⟩
  · obtain ⟨snapshot, hsnapshot, -, -, hnext⟩ := listAdminNotifications_eq hread hn start
    obtain ⟨cursor, hcursor, -, -⟩ := exists_nextCursor hids hiso hformats hn.1 start
    exact ⟨⟨snapshot.items, snapshot.nextCursor.isSome, cursor⟩, snapshot, hsnapshot, rfl, rfl,
      hcursor.trans hnext.symm⟩
  · obtain ⟨cursor, hcursor, hsome, hrest⟩ := exists_nextCursor hids hiso hformats hn.1 start
    obtain ⟨c, rfl⟩ := Option.isSome_iff_exists.mp (hsome.mpr ((hmoreIff h).mp hmore))
    have hmap : page.cursor.map (fun c ↦ encodeCursor c.1) = (some c).map fun c ↦ encodeCursor c.1 :=
      (hpage h).2.2.trans hcursor.symm
    exact ⟨c, Option.map_injective encodeCursor_injective hmap, hrest c rfl⟩

/-- Every listing counts what needs attention among all that the actor sees. -/
theorem attentionCount_eq {limit pageSize : Option ℕ} {cursor : Option String}
    {snapshot : NotificationCenterSnapshot}
    (h : listAdminNotifications P isDatetime s actor limit pageSize cursor asOf = .ok snapshot) :
    snapshot.attentionCount = (s.allItems actor asOf).countP NotificationCenterItem.needsAttention := by
  obtain ⟨-, -, h⟩ := bind_eq_ok.mp h
  obtain ⟨query, -, h⟩ := bind_eq_ok.mp h
  rw [countP_needsAttention]
  rcases query with limit | ⟨pageSize, _ | text⟩ <;>
  · obtain ⟨decoded, -, h⟩ := bind_eq_ok.mp h
    rw [← Except.ok.inj h]

/-- Whoever follows the cursors from the first page reads what the actor sees, all of it and each item
once, in its order; and every listing, whatever its page, counts the items among them that need
attention. -/
theorem notifications_read_once (hread : hasPermission actor "notification.read.self")
    (hids : s.IdsAreUuids P) (hiso : s.MomentsAreIso)
    (hformats : s.HasCursorFormats P isDatetime actor asOf) {n : ℕ} (hn : 1 ≤ n ∧ n ≤ 50) :
    (∃ pages, Paging.Reads (NotificationPage s actor n asOf)
      (none : Option (ReadableCursor P isDatetime)) pages) ∧
    ∀ pages, Paging.Reads (NotificationPage s actor n asOf)
        (none : Option (ReadableCursor P isDatetime)) pages →
      (pages.flatMap (·.records)).Pairwise
        (fun a b ↦ a.toNotificationCursor.Before b.toNotificationCursor) ∧
      (∀ a, a ∈ pages.flatMap (·.records) ↔ s.Shows actor asOf a) ∧
      (∀ page ∈ pages, page.records.length ≤ n) ∧
      ∀ limit pageSize cursor snapshot,
        listAdminNotifications P isDatetime s actor limit pageSize cursor asOf = .ok snapshot →
          snapshot.attentionCount =
            (pages.flatMap (·.records)).countP NotificationCenterItem.needsAttention := by
  have hpages := notificationPages hread hids hiso hformats hn
  refine ⟨hpages.exists_reads hn.1 none, fun pages hreads ↦ ?_⟩
  have hall : pages.flatMap (·.records) = s.allItems actor asOf := by
    rw [hpages.flatMap_records hreads]
    simp [NotificationStore.remaining]
  refine ⟨?_, fun a ↦ ?_, hpages.length_records_le hreads, fun limit pageSize cursor snapshot h ↦ ?_⟩
  · rw [hall]
    exact ascending_allItems.imp NotificationCursor.key_lt_iff.mp
  · rw [hall, mem_allItems hids]
  · rw [hall, attentionCount_eq h]

end

/-! ## A notification and a consultation -/

def sampleCentreId : Uuid := "11111111-1111-4111-8111-111111111111"

/-- A consultation to review, a notification of it, and one with the id of the consultation. -/
def sampleCentre (createdAt : Time) : NotificationStore where
  office :=
    { documents :=
        { db :=
            { consultationRequests := AList.insert sampleCentreId
                { fullName := "", phone := "", serviceCategory := "", summary := ""
                  preferredMode := .phone, status := .scheduled, createdAt } ∅
              appointments := AList.insert "a"
                { clientId := "c", consultationRequestId := some sampleCentreId, title := ""
                  type := .consultation, mode := .phone, startsAt := 0, endsAt := 1
                  status := .scheduled } ∅ } } }
  notifications := AList.insert "22222222-2222-4222-8222-222222222222"
    { userId := "u", title := "", body := "", type := "CONSULTATION"
      resourceType := some "ConsultationRequest", resourceId := some sampleCentreId, createdAt }
    (AList.insert sampleCentreId
      { userId := "u", title := "", body := "", type := "SYSTEM", createdAt } ∅)

def sampleCentreActor : Principal where
  id := "u"
  roleName := "Super Admin"

def sampleNotificationCursor (t : Time) : NotificationCursor := ⟨t, .generic, sampleCentreId⟩

def sampleConsultationCursor (t : Time) : NotificationCursor :=
  ⟨t, .consultationReview, sampleCentreId⟩

/-- A platform for the cursors of the sample. -/
def centrePlatform (t : Time) : Platform :=
  { plainPlatform with
    parseJson := fun text ↦
      [(sampleNotificationCursor t).json, (sampleConsultationCursor t).json].find? (·.stringify = text)
    parseDate := fun text ↦ if text = isoText t then some t else none }

/-- A text with the sign of an expanded year is no moment to the validation library. -/
def unsignedYear (text : String) : Bool :=
  text.toList.head? ≠ some '+' ∧ text.toList.head? ≠ some '-'

theorem notifications_read_once_sample :
    ∃ (s : NotificationStore) (actor : Principal), (s.allItems actor 0).length = 2 ∧
      ∃ pages, Paging.Reads (NotificationPage s actor 1 0)
        (none : Option (ReadableCursor (centrePlatform 0) unsignedYear)) pages := by
  have hiso : HasIsoYear 0 := ⟨by decide +kernel, by decide +kernel⟩
  have hnotifications : ∀ e ∈ (sampleCentre 0).notifications.rows, e.2.createdAt = 0 ∧
      (centrePlatform 0).isUuid e.1 ∧ e.1.toList.length = 36 ∧
        e.1.toList.all fun c ↦ c ∈ '-' :: hexDigits := by
    decide +kernel
  have hconsultations : ∀ e ∈ (sampleCentre 0).db.consultationRequests.rows, e.2.createdAt = 0 ∧
      (centrePlatform 0).isUuid e.1 ∧ e.1.toList.length = 36 ∧
        e.1.toList.all fun c ↦ c ∈ '-' :: hexDigits := by
    decide +kernel
  have hids : (sampleCentre 0).IdsAreUuids (centrePlatform 0) := by
    refine ⟨fun id row h ↦ ?_, fun id c h ↦ ?_⟩
    · obtain ⟨-, huuid, hlength, hchars⟩ := hnotifications (id, row) (Table.mem_rows.mpr h)
      exact ⟨huuid, hlength, fun c hc ↦ of_decide_eq_true (List.all_eq_true.mp hchars c hc)⟩
    · obtain ⟨-, huuid, hlength, hchars⟩ := hconsultations (id, c) (Table.mem_rows.mpr h)
      exact ⟨huuid, hlength, fun c hc ↦ of_decide_eq_true (List.all_eq_true.mp hchars c hc)⟩
  have hmoments : (sampleCentre 0).MomentsAreIso := by
    refine ⟨fun id row h ↦ ?_, fun id c h ↦ ?_⟩
    · exact (hnotifications (id, row) (Table.mem_rows.mpr h)).1 ▸ hiso
    · exact (hconsultations (id, c) (Table.mem_rows.mpr h)).1 ▸ hiso
  have hformats : (sampleCentre 0).HasCursorFormats (centrePlatform 0) unsignedYear
      sampleCentreActor 0 := by
    have hne : (sampleNotificationCursor 0).json.stringify ≠
        (sampleConsultationCursor 0).json.stringify := by
      decide +kernel
    have hjson : ∀ c ∈ [sampleNotificationCursor 0, sampleConsultationCursor 0],
        (centrePlatform 0).parseJson c.json.stringify = some c.json := by
      intro c hc
      rcases List.mem_pair.mp hc with rfl | rfl <;> simp [centrePlatform, hne]
    have hall : ∀ a ∈ (sampleCentre 0).allItems sampleCentreActor 0,
        a.toNotificationCursor ∈ [sampleNotificationCursor 0, sampleConsultationCursor 0] ∧
          (centrePlatform 0).parseDate (isoText a.createdAt) = some a.createdAt ∧
          unsignedYear (isoText a.createdAt) := by
      decide +kernel
    intro a ha
    obtain ⟨hcursor, hdate, hdatetime⟩ := hall a ((mem_allItems hids).mpr ha)
    exact ⟨hjson _ hcursor, hdate, fun _ ↦ hdatetime⟩
  exact ⟨sampleCentre 0, sampleCentreActor, by decide +kernel,
    (notifications_read_once (by decide) hids hmoments hformats ⟨le_rfl, by decide⟩).1⟩

theorem sampleCentre_allItems :
    ((sampleCentre 253402300800000).allItems sampleCentreActor 0).map (·.toNotificationCursor) =
      [sampleConsultationCursor 253402300800000, sampleNotificationCursor 253402300800000] := by
  decide +kernel

/-- The cursor is short enough for the query, and its year is no moment to the library. -/
theorem sampleCursor_refused :
    (Json.chars (sampleConsultationCursor 253402300800000).json).length ≤ 187 ∧
      ∀ json ∈ [(sampleNotificationCursor 253402300800000).json,
          (sampleConsultationCursor 253402300800000).json],
        parseCursor (centrePlatform 253402300800000) unsignedYear json = none := by
  decide +kernel

theorem decodeCursor_sample :
    decodeCursor (centrePlatform 253402300800000) unsignedYear
        (encodeCursor (sampleConsultationCursor 253402300800000)) =
      .error (.validation "Notification cursor is invalid.") := by
  have hpayload : decodePayload (centrePlatform 253402300800000)
      (encodeCursor (sampleConsultationCursor 253402300800000)) =
        (centrePlatform 253402300800000).parseJson
          (sampleConsultationCursor 253402300800000).json.stringify := by
    simp only [decodePayload, encodeCursor, encodePayload, base64urlBytes_base64url, utf8Text_utf8,
      Option.getD_some]
  have hnone : (decodePayload (centrePlatform 253402300800000)
      (encodeCursor (sampleConsultationCursor 253402300800000))).bind
        (parseCursor (centrePlatform 253402300800000) unsignedYear) = none := by
    rw [hpayload, Option.bind_eq_none_iff]
    intro json hjson
    dsimp only [centrePlatform] at hjson
    exact sampleCursor_refused.2 json (List.mem_of_find?_eq_some hjson)
  rw [decodeCursor, hnone]
  rfl

/-- From the year 10000 on, the cursor that the centre gives is one that it refuses. -/
theorem expandedYear_stops_pages :
    ((sampleCentre 253402300800000).allItems sampleCentreActor 0).length = 2 ∧
    (listAdminNotifications (centrePlatform 253402300800000) unsignedYear
        (sampleCentre 253402300800000) sampleCentreActor none (some 1) none 0).map
          (fun snapshot ↦ (snapshot.items.length, snapshot.nextCursor)) =
      .ok (1, some (encodeCursor (sampleConsultationCursor 253402300800000))) ∧
    listAdminNotifications (centrePlatform 253402300800000) unsignedYear
        (sampleCentre 253402300800000) sampleCentreActor none (some 1)
          (some (encodeCursor (sampleConsultationCursor 253402300800000))) 0 =
      .error (.validation "Notification cursor is invalid.") := by
  have hread : hasPermission sampleCentreActor "notification.read.self" := by decide
  obtain ⟨a, items, hall, ha, hitems⟩ := List.map_eq_cons_iff.mp sampleCentre_allItems
  obtain ⟨b, items, rfl, -, hnil⟩ := List.map_eq_cons_iff.mp hitems
  obtain rfl := List.map_eq_nil_iff.mp hnil
  refine ⟨by rw [hall]; rfl, ?_, ?_⟩
  · have hquery : adminNotificationQuery none (some 1) none = .ok (.center 1 none) := by decide
    simp only [listAdminNotifications, throwIf, hread, not_true, if_false, hquery, ok_bind, pure_bind,
      hall]
    rw [← ha]
    rfl
  · exact listAdminNotifications_refused hread
      (adminNotificationQuery_center sampleCursor_refused.1 (by decide)) decodeCursor_sample

end KmtLegal
