import KmtLegal.Portal.Records

/-!
# Account records, page by page

A cursor is a place in the order of the records, and the queries ask for what comes after it.  Six
rows of each table are enough to know the first six of all, so that a page holds the next five and
knows whether there is more; whoever follows the cursors reads every record once.
-/

namespace KmtLegal

open Relational Js

/-! ## The order of records -/

namespace RecordCursor

/-- The later change comes first, then the lower id, then the lower kind. -/
def Before (a b : RecordCursor) : Prop :=
  b.updatedAt < a.updatedAt ∨ (a.updatedAt = b.updatedAt ∧
    (a.id < b.id ∨ (a.id = b.id ∧ a.kind.text < b.kind.text)))

/-- The place of a record in the order. -/
def key (a : RecordCursor) : ℤᵒᵈ ×ₗ String ×ₗ String :=
  toLex (OrderDual.toDual a.updatedAt, toLex (a.id, a.kind.text))

theorem key_lt_iff {a b : RecordCursor} : a.key < b.key ↔ a.Before b := by
  simp [key, Before, Prod.Lex.toLex_lt_toLex]

theorem key_injective : Function.Injective key := by
  rintro ⟨⟨kind, id⟩, updatedAt⟩ ⟨⟨kind', id'⟩, updatedAt'⟩ h
  simp only [key, EmbeddingLike.apply_eq_iff_eq, Prod.mk.injEq] at h
  obtain ⟨rfl, rfl, hkind⟩ := h
  rw [RecordKind.text_injective hkind]

/-- The queries ask for the rows after the cursor. -/
theorem after_iff {cursor : Option RecordCursor} {a : RecordCursor} :
    after cursor a.kind a.id a.updatedAt ↔ ∀ c ∈ cursor, c.Before a := by
  cases cursor with
  | none => simp [after]
  | some c =>
    simp only [after, Before, decide_eq_true_eq, Option.mem_def, Option.some.injEq, forall_eq']
    constructor
    · rintro (h | ⟨h, hid⟩ | ⟨hkind, h, hid⟩)
      · exact .inl h
      · exact .inr ⟨h.symm, .inl hid⟩
      · exact .inr ⟨h.symm, .inr ⟨hid.symm, hkind⟩⟩
    · rintro (h | ⟨h, hid | ⟨hid, hkind⟩⟩)
      · exact .inl h
      · exact .inr (.inl ⟨h.symm, hid⟩)
      · exact .inr (.inr ⟨hkind, h.symm, hid.symm⟩)

end RecordCursor

namespace ClientRecord

def key (a : ClientRecord) : ℤᵒᵈ ×ₗ String ×ₗ String := a.toRecordCursor.key

/-- Records are sorted by their place in the order. -/
theorem compare_ne_gt_iff {a b : ClientRecord} : a.compare b ≠ .gt ↔ a.key ≤ b.key := by
  rw [← not_lt, key, key, RecordCursor.key_lt_iff, ne_eq, not_iff_not]
  simp only [ClientRecord.compare, RecordCursor.Before, Ordering.then_eq_gt, compare_gt_iff_gt,
    compare_eq_iff_eq]
  rw [@eq_comm _ b.id a.id]

end ClientRecord

theorem page_records (records : List ClientRecord) :
    (page records).records = (Paging.sortBy ClientRecord.key records).take 5 := by
  simp only [page, Paging.sortBy, ClientRecord.compare_ne_gt_iff]

theorem page_hasMore (records : List ClientRecord) :
    (page records).hasMore = true ↔ 5 < (Paging.sortBy ClientRecord.key records).length := by
  simp [page]

theorem page_cursor {records : List ClientRecord} (h : (page records).hasMore = true) :
    (page records).cursor = (page records).records.getLast?.map (·.toRecordCursor) :=
  if_pos (of_decide_eq_true h)

/-! ## What an account owns -/

namespace ListClientAssistantRecords

variable (call : ListClientAssistantRecords) (s : PortalStore)

/-- The records of a kind that are the client's, and the one asked for with a reference. -/
def ownedOf (kind : RecordKind) : List ClientRecord :=
  let source := s.source call.actor call.ref kind
  match source.own with
  | .error _ => []
  | .ok own => (source.table.select fun id row ↦ own id row ∧ call.ref.all (·.id = id)).map
    (call.record s kind source.updatedAt)

/-- The kinds in the order of the queries. -/
def kinds : List RecordKind :=
  [.consultation, .serviceRequest, .case, .appointment, .hearing, .document, .payment,
    .conversation, .profile]

/-- The records of a kind, if they are asked for. -/
def asked (kind : RecordKind) : List ClientRecord :=
  if call.includes kind then call.ownedOf s kind else []

/-- The client's records of the category. -/
def owned : List ClientRecord := kinds.flatMap (call.asked s)

/-- A listing has a page for the client: the account is active, and the client may read
conversations if they are asked for. -/
structure Permitted : Prop where
  active : ∃ client, assertActiveServiceClient s.db call.actor = .ok client
  conversations : call.includes .conversation → canUseClientConversations call.actor

/-- Whether a record is shown after a cursor; the profile is, whatever the cursor. -/
def isShown (cursor : Option RecordCursor) (r : ClientRecord) : Bool :=
  r.kind = .profile ∨ after cursor r.kind r.id r.updatedAt

/-- What the client is shown after a cursor. -/
def remaining (cursor : Option RecordCursor) : List ClientRecord :=
  Paging.sortBy ClientRecord.key ((call.owned s).filter (isShown cursor))

variable {call s}

theorem kind_of_mem_ownedOf {r : ClientRecord} {kind : RecordKind}
    (hr : r ∈ call.ownedOf s kind) : r.kind = kind := by
  simp only [ownedOf] at hr
  split at hr
  · cases hr
  · obtain ⟨e, -, rfl⟩ := List.mem_map.mp hr
    rfl

theorem mem_asked {r : ClientRecord} {kind : RecordKind} :
    r ∈ call.asked s kind ↔ call.includes kind ∧ r ∈ call.ownedOf s kind := by
  unfold asked
  split_ifs with h <;> simp [h]

theorem mem_owned {r : ClientRecord} :
    r ∈ call.owned s ↔ call.includes r.kind ∧ r ∈ call.ownedOf s r.kind := by
  have hall : ∀ kind, kind ∈ kinds := by
    intro kind
    cases kind <;> decide
  simp only [owned, List.mem_flatMap, mem_asked]
  constructor
  · rintro ⟨kind, -, hincludes, hr⟩
    rw [kind_of_mem_ownedOf hr]
    exact ⟨hincludes, hr⟩
  · exact fun h ↦ ⟨r.kind, hall _, h⟩

/-- The tables may be read. -/
theorem Permitted.own_eq_ok (h : call.Permitted s) {kind : RecordKind} (hkind : call.includes kind) :
    ∃ own, (s.source call.actor call.ref kind).own = .ok own := by
  obtain ⟨client, hactive⟩ := h.active
  simp only [assertActiveServiceClient, bind_eq_ok, orThrow_eq_ok, throwIf_eq_ok] at hactive
  obtain ⟨clientId, hclient, _, hself, -⟩ := hactive
  have hself : hasPermission call.actor "client.read.self" = true := by simpa using hself
  have hportal : assertClientPortalAccess call.actor = .ok clientId := by
    simp [assertClientPortalAccess, hself, hclient, throwIf, orThrow]
  cases kind with
  | consultation => simp [PortalStore.source, PortalStore.ownConsultationRequestWhere, hportal]
  | serviceRequest =>
    simp only [PortalStore.source, serviceRequestWhere, hself, hclient, Option.isSome_some, and_self,
      if_true]
    split_ifs <;> simp
  | case => simp [PortalStore.source, PortalStore.ownCaseWhere, hportal]
  | hearing => simp [PortalStore.source, PortalStore.ownCaseWhere, hportal]
  | appointment =>
    simp [PortalStore.source, PortalStore.ownVisiblePortalAppointmentWhere, hportal]
  | document => exact ⟨_, rfl⟩
  | payment => exact ⟨_, rfl⟩
  | conversation => simp [PortalStore.source, h.conversations hkind, throwIf]
  | profile => simp [PortalStore.source, PortalStore.ownClientWhere, hportal]

/-! ## What a query finds -/

theorem ownedOf_eq {kind : RecordKind} {own : Uuid → (s.source call.actor call.ref kind).Row → Bool}
    (hown : (s.source call.actor call.ref kind).own = .ok own) :
    call.ownedOf s kind =
      ((s.source call.actor call.ref kind).table.select fun id row ↦
        own id row ∧ call.ref.all (·.id = id)).map
          (call.record s kind (s.source call.actor call.ref kind).updatedAt) := by
  simp only [ownedOf, hown]

/-- Rows of one kind are in the order of their records. -/
theorem key_record_le_iff {kind : RecordKind} {ρ : Type} {updatedAt : Uuid → ρ → Time}
    {a b : Uuid × ρ} :
    (updatedAt b.1 b.2 < updatedAt a.1 a.2 ∨ (updatedAt a.1 a.2 = updatedAt b.1 b.2 ∧ a.1 ≤ b.1)) ↔
      (call.record s kind updatedAt a).key ≤ (call.record s kind updatedAt b).key := by
  rw [ClientRecord.key, ClientRecord.key, RecordCursor.key, RecordCursor.key, Prod.Lex.toLex_le_toLex,
    Prod.Lex.toLex_le_toLex]
  simp [record, le_iff_lt_or_eq]

/-- The first six rows after the cursor are the first six records that are shown. -/
theorem map_findMany {ρ : Type} {t : Table Uuid ρ} {own : Uuid → ρ → Bool}
    {updatedAt : Uuid → ρ → Time} {cursor : Option RecordCursor} {kind : RecordKind}
    (hkind : kind ≠ .profile) :
    (t.findMany (fun id row ↦ own id row ∧ after cursor kind id (updatedAt id row) ∧
        call.ref.all (·.id = id))
      (fun a b ↦ updatedAt b.1 b.2 < updatedAt a.1 a.2 ∨
        (updatedAt a.1 a.2 = updatedAt b.1 b.2 ∧ a.1 ≤ b.1)) 6).map (call.record s kind updatedAt) =
      (Paging.sortBy ClientRecord.key
        (((t.select fun id row ↦ own id row ∧ call.ref.all (·.id = id)).map
          (call.record s kind updatedAt)).filter (isShown cursor))).take 6 := by
  have hrows : (t.select fun id row ↦ own id row ∧ after cursor kind id (updatedAt id row) ∧
        call.ref.all (·.id = id)) =
      (t.select fun id row ↦ own id row ∧ call.ref.all (·.id = id)).filter
        (isShown cursor ∘ call.record s kind updatedAt) := by
    rw [Table.select, Table.select, List.filter_filter]
    refine List.filter_congr fun e _ ↦ ?_
    simp [isShown, record, hkind, Bool.and_left_comm]
  rw [Table.findMany, List.map_take, List.filter_map, Paging.sortBy, hrows]
  refine congrArg (List.take 6) ?_
  exact List.map_insertionSort _ _ _ _ fun _ _ _ _ ↦ key_record_le_iff

/-- A query finds the first six of what is shown. -/
theorem findMany_eq {cursor : Option RecordCursor} {kind : RecordKind} (hkind : kind ≠ .profile)
    {own : Uuid → (s.source call.actor call.ref kind).Row → Bool}
    (hown : (s.source call.actor call.ref kind).own = .ok own) :
    call.findMany s cursor kind = .ok
      ((Paging.sortBy ClientRecord.key ((call.ownedOf s kind).filter (isShown cursor))).take 6) := by
  rw [ownedOf_eq hown, ← map_findMany hkind]
  simp only [findMany, hown, ok_bind]
  rfl

/-- The profile has the id of the account, or that of the reference. -/
theorem own_profile {own : Uuid → Client → Bool}
    (hown : (s.source call.actor call.ref .profile).own = .ok own) :
    ∃ id, ∀ k row, own k row → k = id ∧ call.ref.all (·.id = k) := by
  obtain ⟨clientId, -, heq⟩ := bind_eq_ok.mp hown
  cases heq
  refine ⟨(call.ref.map (·.id)).getD clientId, fun k row h ↦ ?_⟩
  obtain ⟨rfl, -⟩ := of_decide_eq_true h
  refine ⟨rfl, ?_⟩
  cases call.ref <;> simp

theorem findProfile_eq {own : Uuid → Client → Bool}
    (hown : (s.source call.actor call.ref .profile).own = .ok own) :
    call.findProfile s = .ok (call.ownedOf s .profile) := by
  obtain ⟨id, hid⟩ := own_profile hown
  have hrows : (s.db.clients.select fun id row ↦ own id row ∧ call.ref.all (·.id = id)) =
      s.db.clients.select own := by
    refine List.filter_congr fun e _ ↦ ?_
    rw [Bool.eq_iff_iff, decide_eq_true_eq]
    exact ⟨And.left, fun h ↦ ⟨h, (hid _ _ h).2⟩⟩
  have hfirst := Table.toList_findFirst (t := s.db.clients) fun k r h ↦ (hid k r h).1
  rw [ownedOf_eq hown]
  simp only [findProfile, hown]
  exact congrArg (fun rows : List (Uuid × Client) ↦ Except.ok
    (rows.map (call.record s .profile fun _ row ↦ row.updatedAt))) (hfirst.trans hrows.symm)

/-- Nobody has two profiles. -/
theorem length_ownedOf_profile : (call.ownedOf s .profile).length ≤ 1 := by
  cases hown : (s.source call.actor call.ref .profile).own with
  | error e => simp [ownedOf, hown]
  | ok own =>
    have hfound := findProfile_eq hown
    simp only [findProfile, hown, ok_bind, pure_eq_ok] at hfound
    rw [← hfound, List.length_map, Option.length_toList]
    split <;> omega

/-- What is found of a kind are the first six records that are shown. -/
theorem find_eq (h : call.Permitted s) (cursor : Option RecordCursor) (kind : RecordKind) :
    call.find s cursor kind = .ok
      ((Paging.sortBy ClientRecord.key ((call.asked s kind).filter (isShown cursor))).take 6) := by
  unfold find asked
  split_ifs with hincludes hprofile
  · subst hprofile
    obtain ⟨own, hown⟩ := h.own_eq_ok hincludes
    have hshown : (call.ownedOf s .profile).filter (isShown cursor) = call.ownedOf s .profile :=
      List.filter_eq_self.mpr fun r hr ↦ by simp [isShown, kind_of_mem_ownedOf hr]
    rw [findProfile_eq hown, hshown]
    have hlength : (call.ownedOf s .profile).length ≤ 1 := length_ownedOf_profile
    generalize call.ownedOf s .profile = l at hlength
    match l, hlength with
    | [], _ => rfl
    | [_], _ => rfl
  · obtain ⟨own, hown⟩ := h.own_eq_ok hincludes
    exact findMany_eq hprofile hown
  · rfl

/-! ## Page by page -/

/-- What is made a page of. -/
theorem run_eq (h : call.Permitted s) (cursor : Option RecordCursor) :
    call.run s cursor = .ok (page (kinds.map fun kind ↦
      (Paging.sortBy ClientRecord.key ((call.asked s kind).filter (isShown cursor))).take 6).flatten) := by
  obtain ⟨client, hactive⟩ := h.active
  simp only [run, hactive, ok_bind, find_eq h, kinds, List.map_cons, List.map_nil, List.flatten_cons,
    List.flatten_nil, List.append_nil, List.append_assoc]
  rfl

/-- No two records have the same place. -/
theorem nodup_key_owned : ((call.owned s).map ClientRecord.key).Nodup := by
  refine List.pairwise_map.mpr (List.pairwise_flatMap.mpr ⟨fun kind _ ↦ ?_, ?_⟩)
  · unfold asked
    split_ifs
    · unfold ownedOf
      dsimp only
      split
      · exact .nil
      · refine List.pairwise_map.mpr ((Table.pairwise_select _ _).imp fun hid hkey ↦ hid ?_)
        exact congrArg (·.id) (RecordCursor.key_injective hkey)
    · exact .nil
  · have hne : kinds.Pairwise (· ≠ ·) := by decide
    refine hne.imp fun hkind a ha b hb hkey ↦ hkind ?_
    rw [← kind_of_mem_ownedOf (mem_asked.mp ha).2, ← kind_of_mem_ownedOf (mem_asked.mp hb).2]
    exact congrArg (·.kind) (RecordCursor.key_injective hkey)

theorem ascending_remaining (cursor : Option RecordCursor) :
    Paging.Ascending ClientRecord.key (call.remaining s cursor) :=
  Paging.ascending_sortBy (nodup_key_owned.sublist (List.filter_sublist.map _))

theorem mem_remaining {cursor : Option RecordCursor} {r : ClientRecord} :
    r ∈ call.remaining s cursor ↔ r ∈ call.owned s ∧
      (r.kind = .profile ∨ ∀ c ∈ cursor, c.Before r.toRecordCursor) := by
  simp [remaining, isShown, RecordCursor.after_iff]

/-- Six records of each table are enough for six records. -/
theorem take_found (cursor : Option RecordCursor) :
    (Paging.sortBy ClientRecord.key (kinds.map fun kind ↦
        (Paging.sortBy ClientRecord.key ((call.asked s kind).filter (isShown cursor))).take 6).flatten).take 6 =
      (call.remaining s cursor).take 6 := by
  have hsources : (kinds.map fun kind ↦ (call.asked s kind).filter (isShown cursor)).flatten =
      (call.owned s).filter (isShown cursor) := by
    rw [owned, List.filter_flatMap, List.flatMap_def]
  have hnodup : ((kinds.map fun kind ↦
      (call.asked s kind).filter (isShown cursor)).flatten.map ClientRecord.key).Nodup := by
    rw [hsources]
    exact nodup_key_owned.sublist (List.filter_sublist.map _)
  have hmerge := Paging.take_merge (n := 6) hnodup
  rw [List.map_map, hsources] at hmerge
  exact hmerge

/-- Where more than one record is the client's, none is the profile. -/
theorem kind_ne_profile (h : 1 < (call.owned s).length) {r : ClientRecord} (hr : r ∈ call.owned s) :
    r.kind ≠ .profile := by
  intro hkind
  have hincludes : call.includes .profile = true := hkind ▸ (mem_owned.mp hr).1
  have hcategory : call.category = .profile := by
    simpa [includes, RecordKind.category] using (of_decide_eq_true hincludes).2
  have hasked : ∀ kind, kind ≠ .profile → call.asked s kind = [] := by
    intro kind hne
    have hnot : ¬call.includes kind := by
      cases kind <;> simp [includes, hcategory, RecordKind.category] at hne ⊢
    exact if_neg hnot
  have howned : call.owned s = call.asked s .profile := by
    simp [owned, kinds, hasked]
  rw [howned, asked, if_pos hincludes] at h
  exact absurd h (not_lt.mpr length_ownedOf_profile)

/-- After the last record of a page come those that page left out. -/
theorem remaining_next {start : Option RecordCursor} {last : ClientRecord}
    (hmore : 5 < (call.remaining s start).length)
    (hlast : ((call.remaining s start).take 5).getLast? = some last) :
    call.remaining s (some last.toRecordCursor) = (call.remaining s start).drop 5 := by
  have hascending : Paging.Ascending ClientRecord.key (call.remaining s start) :=
    ascending_remaining start
  have hmemlast : last ∈ call.remaining s start :=
    List.mem_of_mem_take (List.mem_of_mem_getLast? hlast)
  have hlength : 1 < (call.owned s).length := by
    have hle : (call.remaining s start).length ≤ (call.owned s).length := by
      rw [remaining, Paging.length_sortBy]
      exact List.length_filter_le _ _
    omega
  rw [← hascending.filter_after hlast]
  refine Paging.Ascending.ext (hascending.filter _) (ascending_remaining _) fun r ↦ ?_
  rw [List.mem_filter, mem_remaining, mem_remaining, decide_eq_true_eq]
  have hbefore : ∀ r' : ClientRecord, last.key < r'.key ↔ last.toRecordCursor.Before r'.toRecordCursor :=
    fun _ ↦ RecordCursor.key_lt_iff
  constructor
  · rintro ⟨hr, hafter⟩
    have hlt := (hafter.resolve_left (kind_ne_profile hlength hr)) _ rfl
    refine ⟨⟨hr, .inr fun c hc ↦ ?_⟩, (hbefore r).mpr hlt⟩
    obtain ⟨hmem, hafter'⟩ := mem_remaining.mp hmemlast
    have hc := hafter'.resolve_left (kind_ne_profile hlength hmem) c hc
    exact RecordCursor.key_lt_iff.mp
      ((RecordCursor.key_lt_iff.mpr hc).trans (RecordCursor.key_lt_iff.mpr hlt))
  · rintro ⟨⟨hr, -⟩, hlt⟩
    exact ⟨hr, .inr fun c hc ↦ Option.some.inj hc ▸ (hbefore r).mp hlt⟩

/-- The listing goes through what the client is shown in pages of five. -/
theorem pages (h : call.Permitted s) :
    Paging.Pages 5 (call.remaining s) fun start page ↦ call.run s start = .ok page := by
  have hrecords : ∀ {start page}, call.run s start = .ok page →
      page.records = (call.remaining s start).take 5 := by
    intro start page hpage
    rw [run_eq h] at hpage
    have htake : _ = ((call.remaining s start).take 6).take 5 :=
      congrArg (List.take 5) (take_found start)
    rw [← Except.ok.inj hpage, page_records]
    simpa [List.take_take] using htake
  have hhasMore : ∀ {start page}, call.run s start = .ok page →
      (page.hasMore = true ↔ 5 < (call.remaining s start).length) := by
    intro start page hpage
    rw [run_eq h] at hpage
    rw [← Except.ok.inj hpage, page_hasMore]
    exact Paging.lt_length_iff_of_take_eq (take_found start)
  refine ⟨fun start ↦ ⟨_, run_eq h start⟩, hrecords, hhasMore, fun {start page} hpage hmore ↦ ?_⟩
  have hlength := (hhasMore hpage).mp hmore
  have hne : (call.remaining s start).take 5 ≠ [] := by
    rw [← List.length_pos_iff, List.length_take]
    omega
  have hlast := List.getLast?_eq_some_getLast hne
  refine ⟨_, ?_, remaining_next hlength hlast⟩
  have hcursor : page.cursor = page.records.getLast?.map (·.toRecordCursor) := by
    rw [run_eq h] at hpage
    rw [← Except.ok.inj hpage] at hmore ⊢
    exact page_cursor hmore
  rw [hcursor, hrecords hpage, hlast]
  rfl

end ListClientAssistantRecords

open ListClientAssistantRecords in
/-- Whoever follows the cursors from anywhere reads the client's records after it, all of them and
each once, in their order and at most five at a time; a page says that there is more exactly if there
is.  From no cursor these are all records of the category. -/
theorem records_read_once {call : ListClientAssistantRecords} {s : PortalStore}
    (h : call.Permitted s) (start : Option RecordCursor) :
    (∃ pages, Paging.Reads (fun start page ↦ call.run s start = .ok page) start pages) ∧
    (∀ pages, Paging.Reads (fun start page ↦ call.run s start = .ok page) start pages →
      (pages.flatMap (·.records)).Pairwise (fun a b ↦ a.Before b.toRecordCursor) ∧
      (∀ r, r ∈ pages.flatMap (·.records) ↔ r ∈ call.owned s ∧
        (r.kind = .profile ∨ ∀ c ∈ start, c.Before r.toRecordCursor)) ∧
      ∀ page ∈ pages, page.records.length ≤ 5) ∧
    ∀ page, call.run s start = .ok page → (page.hasMore = true ↔
      ∃ r ∈ call.owned s, (∀ c ∈ start, c.Before r.toRecordCursor) ∧
        ∀ r' ∈ page.records, r'.Before r.toRecordCursor) := by
  have hpages := call.pages h
  have hascending : Paging.Ascending ClientRecord.key (call.remaining s start) :=
    ascending_remaining start
  refine ⟨hpages.exists_reads (by omega) start, fun pages hreads ↦ ⟨?_, fun r ↦ ?_, ?_⟩,
    fun page hpage ↦ ?_⟩
  · rw [hpages.flatMap_records hreads]
    exact hascending.imp RecordCursor.key_lt_iff.mp
  · rw [hpages.flatMap_records hreads, mem_remaining]
  · exact hpages.length_records_le hreads
  · rw [hpages.hasMore hpage, hpages.records hpage]
    constructor
    · intro hlength
      have hsplit := List.take_append_drop 5 (call.remaining s start)
      have hdrop : (call.remaining s start)[5] ∈ (call.remaining s start).drop 5 := by
        rw [List.drop_eq_getElem_cons hlength]
        exact List.mem_cons_self
      obtain ⟨howned, hafter⟩ := mem_remaining.mp (List.mem_of_mem_drop hdrop)
      have hle : (call.remaining s start).length ≤ (call.owned s).length := by
        rw [remaining, Paging.length_sortBy]
        exact List.length_filter_le _ _
      refine ⟨_, howned, hafter.resolve_left (kind_ne_profile (by omega) howned), fun r' hr' ↦ ?_⟩
      have hpair : Paging.Ascending ClientRecord.key
          ((call.remaining s start).take 5 ++ (call.remaining s start).drop 5) := by rwa [hsplit]
      exact RecordCursor.key_lt_iff.mp ((List.pairwise_append.mp hpair).2.2 r' hr' _ hdrop)
    · rintro ⟨r, howned, hafter, hlater⟩
      by_contra hlength
      rw [List.take_of_length_le (not_lt.mp hlength)] at hlater
      have hself := hlater r (mem_remaining.mpr ⟨howned, .inr hafter⟩)
      exact absurd (RecordCursor.key_lt_iff.mpr hself) (lt_irrefl _)

/-- A consultation and a service request with the same id and moment are both read. -/
theorem records_read_once_sample :
    ∃ (call : ListClientAssistantRecords) (s : PortalStore), (call.owned s).length = 2 ∧
      ∃ pages, Paging.Reads (fun start page ↦ call.run s start = .ok page) none pages := by
  let client : Client := { userId := some "u", fullName := "", phone := "" }
  let user : User := { status := .active, roleName := "Client" }
  let consultation : ConsultationRequest :=
    { clientId := some "c", fullName := "", phone := "", serviceCategory := "", summary := "",
      preferredMode := .phone, status := .new }
  let request : ServiceRequest :=
    { reference := "", clientId := "c", kind := .contractDraft, locale := "ar", intake := {},
      idempotencyKey := "" }
  let s : PortalStore :=
    { db :=
        { clients := AList.insert "c" client ∅
          users := AList.insert "u" user ∅
          consultationRequests := AList.insert "a" consultation ∅
          serviceRequests := AList.insert "a" request ∅ } }
  let call : ListClientAssistantRecords :=
    { actor := { id := "u", roleName := "Client", clientId := some "c" }
      category := .requests
      locale := .ar }
  have hpermitted : call.Permitted s := ⟨⟨("c", client), by rfl⟩, by decide +kernel⟩
  exact ⟨call, s, by decide +kernel, (records_read_once hpermitted none).1⟩

end KmtLegal
