import KmtLegal.Admin.ManualCase
import KmtLegal.Js.Stringify
import KmtLegal.Relational.Run

/-!
# One case for one request

Calls of `createManualCase` in any order, between changes to accounts, edits of cases, and cases
that come from elsewhere.  A call is one transaction; if that meets a unique index, a second look
for the case follows, at any later time.
-/

namespace KmtLegal

open Relational Js

/-! ## Runs -/

inductive CaseMove where
  /-- A call, up to the end of its transaction. -/
  | create (call : CreateManualCase)
  /-- What a call does after its transaction met a unique index. -/
  | replay (call : CreateManualCase)
  /-- Clients, users, roles or sessions change. -/
  | accounts (change : Accounts → Accounts)
  /-- An edit of a case; no service sets `deletedAt`. -/
  | edit (id : Uuid) (change : CaseFile → CaseFile)
      (keeps : ∀ file, (change file).deletedAt = file.deletedAt)
  /-- A case of a consultation. -/
  | convert (id : Uuid) (file : CaseFile)
  /-- Another entry of the audit log. -/
  | audit (entry : CaseAudit) (other : entry.action ≠ manualCaseCreateAction)

def caseMove (P : Platform) (s : CaseDesk) : CaseMove → CaseDesk
  | .create call => commit ((createManualCase s P call).map Prod.fst) s
  | .replay _ => s
  | .accounts change => { s with accounts := change s.accounts }
  | .edit id change _ => { s with cases := s.cases.update id change }
  | .convert id file => commit (createLegalCase s id file) s
  | .audit entry _ => { s with auditLog := s.auditLog ++ [entry] }

/-- The call of a move. -/
def CaseMove.call? : CaseMove → Option CreateManualCase
  | create call | replay call => some call
  | accounts _ | edit _ _ _ | convert _ _ | audit _ _ => none

/-- The id of the case a call asks for. -/
def CreateManualCase.caseId (call : CreateManualCase) : Uuid :=
  storedUuid call.form.body.requestToken

/-- The text a call is hashed from. -/
def CreateManualCase.text (call : CreateManualCase) : String :=
  (normalizedCreatePayload call.form.body).stringify

/-- The call creates its case. -/
def CreatesCase (P : Platform) (s : CaseDesk) (call : CreateManualCase) : Prop :=
  ∃ s' answer, createManualCase s P call = .ok (s', answer) ∧ answer.replayed = false

/-- The call is a retry of the other: the actor is the same, and so is the normalised body. -/
def SameRequest (call retry : CreateManualCase) : Prop :=
  retry.actor.id = call.actor.id ∧ retry.form.body = call.form.body

/-- A call is answered with the case that is stored, as it is now, and nothing changes. -/
def Replays (P : Platform) (s : CaseDesk) (call : CreateManualCase) : Prop :=
  ∃ file, s.cases.lookup call.caseId = some file ∧
    createManualCase s P call = .ok (s, { case := s.dto call.caseId file, replayed := true })

/-- The same of the second look of a call. -/
def ReplaysLate (P : Platform) (s : CaseDesk) (call : CreateManualCase) : Prop :=
  ∃ file, s.cases.lookup call.caseId = some file ∧
    replayManualCase s P call = .ok { case := s.dto call.caseId file, replayed := true }

/-- The actor may create cases, and the client and the lawyer of the body could get a new one. -/
def CouldCreate (s : CaseDesk) (call : CreateManualCase) : Prop :=
  canCreateManualCase call.actor ∧ isActiveClient s call.form.body.clientId ∧
    isEligibleLawyer s call.form.body.assignedLawyerId

/-- The token is written as the store writes it. -/
def LowerCaseToken (call : CreateManualCase) : Prop :=
  call.caseId = call.form.body.requestToken

instance (call : CreateManualCase) : Decidable (LowerCaseToken call) :=
  inferInstanceAs (Decidable (_ = _))

/-- Two texts with the same characters inside, or one of them empty and the other absent. -/
def AlikeText (a b : Option String) : Prop := trim (a.getD "") = trim (b.getD "")

/-- Two forms that differ in surrounding white space, and in empty and absent optional texts. -/
structure AlikeForms (a b : ManualCaseForm) : Prop where
  requestToken : a.requestToken = b.requestToken
  clientId : a.clientId = b.clientId
  assignedLawyerId : a.assignedLawyerId = b.assignedLawyerId
  title : trim a.title = trim b.title
  caseType : trim a.caseType = trim b.caseType
  courtName : AlikeText a.courtName b.courtName
  externalCaseNumber : AlikeText a.externalCaseNumber b.externalCaseNumber
  priority : a.priority = b.priority
  summary : AlikeText a.summary b.summary
  parties : List.Forall₂ (fun p q : CaseParty ↦ trim p.name = trim q.name ∧
    p.partyType = q.partyType ∧ AlikeText p.notes q.notes) (a.parties.getD []) (b.parties.getD [])

/-! ## Bodies -/

theorem trim_trim (s : String) : trim (trim s) = trim s := by
  have hdrop : ∀ l : List Char, l.dropWhile isSpace = l →
      (l.rdropWhile isSpace).dropWhile isSpace = l.rdropWhile isSpace := by
    intro l hl
    rw [List.dropWhile_eq_self_iff] at hl ⊢
    intro hpos
    have hinit := List.rdropWhile_prefix isSpace (l := l)
    have hlen : 0 < l.length := lt_of_lt_of_le hpos hinit.length_le
    rw [hinit.getElem hpos]
    exact hl hlen
  unfold trim
  rw [String.toList_ofList, hdrop _ (List.dropWhile_idempotent isSpace _),
    List.rdropWhile_idempotent]

theorem normalizedNullableText_self (value : Option String) :
    normalizedNullableText (normalizedNullableText value) = normalizedNullableText value := by
  cases value with
  | none => rfl
  | some text =>
    unfold normalizedNullableText orNull
    by_cases h : trim text = ""
    · simp [h, Option.filter]
    · simp [Option.filter, h, trim_trim]

/-- A normalised body is its own. -/
@[simp] theorem body_form (form : ManualCaseForm) : form.body.form.body = form.body := by
  have hparty : CaseParty.normalized ∘ CaseParty.normalized = CaseParty.normalized := by
    funext party
    simp [CaseParty.normalized, trim_trim, normalizedNullableText_self]
  simp [ManualCaseForm.body, ManualCaseCreateInput.form, trim_trim, normalizedNullableText_self,
    hparty]

theorem normalizedNullableText_congr {a b : Option String} (h : AlikeText a b) :
    normalizedNullableText a = normalizedNullableText b := by
  have hdef : ∀ value : Option String,
      normalizedNullableText value = orNull (some (trim (value.getD ""))) := by
    intro value
    cases value with
    | none => rfl
    | some text => rfl
  rw [hdef, hdef, h]

theorem AlikeForms.body {a b : ManualCaseForm} (h : AlikeForms a b) : a.body = b.body := by
  have hparties : ∀ ps qs : List CaseParty, List.Forall₂ (fun p q : CaseParty ↦
      trim p.name = trim q.name ∧ p.partyType = q.partyType ∧ AlikeText p.notes q.notes) ps qs →
      ps.map CaseParty.normalized = qs.map CaseParty.normalized := by
    intro ps qs hall
    induction hall with
    | nil => rfl
    | cons hparty _ ih =>
      obtain ⟨hname, htype, hnotes⟩ := hparty
      rw [List.map_cons, List.map_cons, ih, CaseParty.normalized, CaseParty.normalized, hname,
        htype, normalizedNullableText_congr hnotes]
  simp only [ManualCaseForm.body, h.requestToken, h.clientId, h.assignedLawyerId, h.title,
    h.caseType, h.priority, normalizedNullableText_congr h.courtName,
    normalizedNullableText_congr h.externalCaseNumber, normalizedNullableText_congr h.summary,
    hparties _ _ h.parties]

theorem nullableJson_inj {a b : Option String} (h : nullableJson a = nullableJson b) : a = b := by
  cases a <;> cases b <;> cases h <;> rfl

theorem CaseParty.json_injective : Function.Injective CaseParty.json := by
  have htype : ∀ u v : PartyType, u.text = v.text → u = v := by
    intro u v
    cases u <;> cases v <;> decide
  rintro ⟨name, partyType, notes⟩ ⟨name', partyType', notes'⟩ h
  simp only [CaseParty.json, Json.obj.injEq, List.cons.injEq, Prod.mk.injEq, true_and,
    Json.str.injEq, and_true] at h
  obtain ⟨rfl, hpartyType, hnotes⟩ := h
  obtain rfl := htype _ _ hpartyType
  obtain rfl := nullableJson_inj hnotes
  rfl

/-- The payload determines the body. -/
theorem normalizedCreatePayload_inj {a b : ManualCaseCreateInput}
    (h : normalizedCreatePayload a = normalizedCreatePayload b) : a = b := by
  have hpriority : ∀ u v : CasePriority, u.text = v.text → u = v := by
    intro u v
    cases u <;> cases v <;> decide
  cases a
  cases b
  simp only [normalizedCreatePayload, Json.obj.injEq, List.cons.injEq, Prod.mk.injEq, true_and,
    Json.str.injEq, Json.arr.injEq, and_true] at h
  obtain ⟨rfl, rfl, rfl, rfl, rfl, hcourt, hnumber, hprio, hsummary, hparties⟩ := h
  obtain rfl := nullableJson_inj hcourt
  obtain rfl := nullableJson_inj hnumber
  obtain rfl := hpriority _ _ hprio
  obtain rfl := nullableJson_inj hsummary
  obtain rfl := List.map_injective_iff.mpr CaseParty.json_injective hparties
  rfl

theorem numeric_payload (body : ManualCaseCreateInput) :
    (normalizedCreatePayload body).numeric := by
  have hnullable : ∀ u : Option String, (nullableJson u).numeric = true := by
    intro u
    cases u <;> rfl
  have hparties : ∀ ps : List CaseParty, Json.itemsNumeric (ps.map CaseParty.json) = true := by
    intro ps
    induction ps with
    | nil => rfl
    | cons party ps ih =>
      simp [Json.itemsNumeric, CaseParty.json, Json.numeric, Json.fieldsNumeric, hnullable, ih]
  simp [normalizedCreatePayload, Json.numeric, Json.fieldsNumeric, hnullable, hparties]

/-- One text, one body. -/
theorem body_eq_of_text {a b : CreateManualCase} (h : a.text = b.text) :
    a.form.body = b.form.body :=
  normalizedCreatePayload_inj (Json.stringify_inj (numeric_payload _) (numeric_payload _) h)

/-! ## What a call does -/

section

variable {P : Platform} {s s' : CaseDesk} {call retry : CreateManualCase}

/-- The actor may create cases, and the schema accepts the form. -/
def CreateManualCase.Valid (P : Platform) (call : CreateManualCase) : Prop :=
  canCreateManualCase call.actor ∧ call.form.body.issues P = []

theorem manualCaseRequestHash_body (h : call.form.body.issues P = []) :
    manualCaseRequestHash P call.form.body.form = .ok (P.sha256 call.text) := by
  rw [manualCaseRequestHash, body_form, throwIf_of_not (not_not.mpr h)]
  rfl

theorem createManualCase_eq (h : call.Valid P) : createManualCase s P call =
    createManualCaseTransaction s P call call.form.body (P.sha256 call.text) := by
  obtain ⟨hpermission, hissues⟩ := h
  rw [createManualCase, assertManualCaseCreatePermission,
    throwIf_of_not (by simpa using hpermission), ok_bind, parseManualCase, throwIf_of_not (not_not.mpr hissues), ok_bind]
  change (manualCaseRequestHash P call.form.body.form >>= _) = _
  rw [manualCaseRequestHash_body hissues, ok_bind]

theorem valid_of_createManualCase {r : CaseDesk × ManualCaseAnswer}
    (h : createManualCase s P call = .ok r) : call.Valid P := by
  obtain ⟨_, hpermission, h⟩ := bind_eq_ok.mp h
  obtain ⟨_, hparse, -⟩ := bind_eq_ok.mp h
  obtain ⟨_, hissues, -⟩ := bind_eq_ok.mp hparse
  refine ⟨by simpa using throwIf_eq_ok.mp hpermission, ?_⟩
  exact not_not.mp (throwIf_eq_ok.mp hissues)

/-- The entry of the audit log a created case gets. -/
def CreateManualCase.entry (P : Platform) (call : CreateManualCase) : CaseAudit where
  actorId := some call.actor.id
  action := manualCaseCreateAction
  resourceType := "LegalCase"
  resourceId := some call.caseId
  requestHash := some (P.sha256 call.text)

/-- What a call that creates its case leaves. -/
def CaseDesk.withCase (s : CaseDesk) (P : Platform) (call : CreateManualCase) : CaseDesk :=
  { s with
    cases := s.cases.insert call.caseId (manualCaseFile P call.form.body call.now)
    auditLog := s.auditLog ++ [call.entry P] }

theorem replayForExistingCase_of_none {actorId : Uuid} {caseId hash : String}
    (h : s.cases.lookup (storedUuid caseId) = none) :
    replayForExistingCase s actorId caseId hash = .ok none := by
  rw [replayForExistingCase, h]

theorem replayForExistingCase_of_some {actorId : Uuid} {caseId hash : String} {file : CaseFile}
    (h : s.cases.lookup (storedUuid caseId) = some file) :
    replayForExistingCase s actorId caseId hash =
      if file.deletedAt = none ∧
          (s.auditLog.find? (isCreationOf actorId caseId)).bind CaseAudit.requestHash =
            some hash then
        .ok (some { case := s.dto (storedUuid caseId) file, replayed := true })
      else .error (.conflict "The request token is already bound to another case request.") := by
  rw [replayForExistingCase, h]

/-- A call that succeeds has looked for a case first: it returns that, or there was none and it
creates one. -/
theorem createManualCase_eq_ok {answer : ManualCaseAnswer}
    (h : createManualCase s P call = .ok (s', answer)) :
    call.Valid P ∧ CouldCreate s call ∧
      ((answer.replayed = true ∧ s' = s) ∨
        (answer.replayed = false ∧ s.cases.lookup call.caseId = none ∧
          s' = s.withCase P call)) := by
  have hvalid := valid_of_createManualCase h
  rw [createManualCase_eq hvalid] at h
  obtain ⟨_, hclient, h⟩ := bind_eq_ok.mp h
  obtain ⟨_, hlawyer, h⟩ := bind_eq_ok.mp h
  obtain ⟨found, hfound, h⟩ := bind_eq_ok.mp h
  have hcould : CouldCreate s call :=
    ⟨hvalid.1, by simpa [activeClient] using hclient, by simpa [eligibleLawyer] using hlawyer⟩
  refine ⟨hvalid, hcould, ?_⟩
  cases hcase : s.cases.lookup call.caseId with
  | some file =>
    rw [replayForExistingCase_of_some hcase] at hfound
    split_ifs at hfound
    cases hfound
    cases h
    exact .inl ⟨rfl, rfl⟩
  | none =>
    rw [replayForExistingCase_of_none hcase] at hfound
    cases hfound
    obtain ⟨created, hcreated, h⟩ := bind_eq_ok.mp h
    cases h
    obtain ⟨_, -, hcreated⟩ := bind_eq_ok.mp hcreated
    obtain ⟨cases, hcases, hcreated⟩ := bind_eq_ok.mp hcreated
    obtain ⟨-, rfl⟩ := Table.create_eq_some.mp (orThrow_eq_ok.mp hcases)
    cases hcreated
    exact .inr ⟨rfl, rfl, rfl⟩

/-! ## What is kept -/

/-- Every entry for a created case names a case that is there. -/
def AuditedCases (s : CaseDesk) : Prop :=
  ∀ e ∈ s.auditLog, e.action = manualCaseCreateAction →
    ∃ token, e.resourceId = some (storedUuid token) ∧ (s.cases.lookup (storedUuid token)).isSome

/-- The call has created its case: it is there, and its entry is the only one. -/
structure Bound (P : Platform) (call : CreateManualCase) (s : CaseDesk) : Prop where
  stored : ∃ file, s.cases.lookup call.caseId = some file ∧ file.deletedAt = none
  entry : call.entry P ∈ s.auditLog
  only : ∀ e ∈ s.auditLog, e.action = manualCaseCreateAction → e.resourceId = some call.caseId →
    e = call.entry P

/-- What a move can do: no case goes away or is deleted, and the new entries for created cases are
of calls that create theirs. -/
structure DeskChange (P : Platform) (s s' : CaseDesk) : Prop where
  cases : ∀ id file, s.cases.lookup id = some file →
    ∃ file', s'.cases.lookup id = some file' ∧ file'.deletedAt = file.deletedAt
  auditLog : ∃ entries, s'.auditLog = s.auditLog ++ entries ∧
    ∀ e ∈ entries, e.action = manualCaseCreateAction → ∃ call, e = CreateManualCase.entry P call ∧
      s.cases.lookup call.caseId = none ∧ (s'.cases.lookup call.caseId).isSome

/-- A new case leaves the others as they are. -/
theorem lookup_insert_case {id : Uuid} {new : CaseFile} (hnone : s.cases.lookup id = none)
    {id' : Uuid} {file : CaseFile} (hfile : s.cases.lookup id' = some file) :
    (s.cases.insert id new).lookup id' = some file := by
  have hne : id' ≠ id := by
    rintro rfl
    rw [hnone] at hfile
    cases hfile
  exact (AList.lookup_insert_ne hne).trans hfile

theorem deskChange (s : CaseDesk) (move : CaseMove) : DeskChange P s (caseMove P s move) := by
  have hsame : DeskChange P s s :=
    ⟨fun _ file hfile ↦ ⟨file, hfile, rfl⟩, [], (List.append_nil _).symm, nofun⟩
  cases move with
  | create call =>
    rw [caseMove]
    cases hcall : createManualCase s P call with
    | error e => exact hsame
    | ok r =>
      obtain ⟨s', answer⟩ := r
      obtain ⟨-, -, ⟨-, rfl⟩ | ⟨-, hnone, rfl⟩⟩ := createManualCase_eq_ok hcall
      · exact hsame
      · refine ⟨fun id file hfile ↦ ⟨file, lookup_insert_case hnone hfile, rfl⟩, _, rfl, ?_⟩
        intro e he _
        cases List.mem_singleton.mp he
        exact ⟨call, rfl, hnone, Option.isSome_iff_exists.mpr ⟨_, AList.lookup_insert _⟩⟩
  | replay _ => exact hsame
  | accounts _ => exact ⟨hsame.cases, hsame.auditLog⟩
  | edit id change keeps =>
    refine ⟨fun id' file hfile ↦ ?_, [], (List.append_nil _).symm, nofun⟩
    rw [caseMove, Table.lookup_update, hfile]
    split_ifs
    · exact ⟨change file, rfl, keeps file⟩
    · exact ⟨file, rfl, rfl⟩
  | convert id row =>
    rw [caseMove]
    cases hcreate : createLegalCase s id row with
    | error e => exact hsame
    | ok s' =>
      obtain ⟨_, -, hcreate⟩ := bind_eq_ok.mp hcreate
      obtain ⟨cases, hcases, hcreate⟩ := bind_eq_ok.mp hcreate
      obtain ⟨hnone, rfl⟩ := Table.create_eq_some.mp (orThrow_eq_ok.mp hcases)
      cases hcreate
      exact ⟨fun _ file hfile ↦ ⟨file, lookup_insert_case hnone hfile, rfl⟩, [],
        (List.append_nil _).symm, nofun⟩
  | audit entry other =>
    refine ⟨hsame.cases, [entry], rfl, fun e he haction ↦ ?_⟩
    cases List.mem_singleton.mp he
    exact absurd haction other

theorem AuditedCases.change (h : AuditedCases s) (hchange : DeskChange P s s') :
    AuditedCases s' := by
  obtain ⟨entries, hlog, hnew⟩ := hchange.auditLog
  intro e he haction
  rw [hlog] at he
  rcases List.mem_append.mp he with he | he
  · obtain ⟨token, htoken, hcase⟩ := h e he haction
    obtain ⟨file, hfile⟩ := Option.isSome_iff_exists.mp hcase
    obtain ⟨file', hfile', -⟩ := hchange.cases _ file hfile
    exact ⟨token, htoken, Option.isSome_iff_exists.mpr ⟨file', hfile'⟩⟩
  · obtain ⟨call, rfl, -, hcase⟩ := hnew e he haction
    exact ⟨_, rfl, hcase⟩

theorem Bound.change (h : Bound P call s) (hchange : DeskChange P s s') : Bound P call s' := by
  obtain ⟨entries, hlog, hnew⟩ := hchange.auditLog
  obtain ⟨file, hfile, hopen⟩ := h.stored
  obtain ⟨file', hfile', hdeleted⟩ := hchange.cases _ file hfile
  refine ⟨⟨file', hfile', hdeleted.trans hopen⟩, ?_, ?_⟩
  · rw [hlog]
    exact List.mem_append_left _ h.entry
  · intro e he haction hid
    rw [hlog] at he
    rcases List.mem_append.mp he with he | he
    · exact h.only e he haction hid
    · -- the id is taken, so that no other call creates a case under it
      obtain ⟨other, rfl, hnone, -⟩ := hnew e he haction
      rw [Option.some.inj hid, hfile] at hnone
      cases hnone

/-- After the call that creates it, a case is bound to that call. -/
theorem bound_of_createsCase (haudited : AuditedCases s) (h : CreatesCase P s call) :
    Bound P call (caseMove P s (.create call)) := by
  obtain ⟨s', answer, hcall, hnew⟩ := h
  obtain ⟨-, -, ⟨hreplayed, -⟩ | ⟨-, hnone, rfl⟩⟩ := createManualCase_eq_ok hcall
  · rw [hnew] at hreplayed
    cases hreplayed
  · rw [caseMove, hcall]
    refine ⟨⟨_, AList.lookup_insert _, rfl⟩, List.mem_append_right _ List.mem_cons_self, ?_⟩
    intro e he haction hid
    rcases List.mem_append.mp he with he | he
    · -- an older entry would name a case that is there
      obtain ⟨token, htoken, hcase⟩ := haudited e he haction
      rw [Option.some.inj (htoken.symm.trans hid), hnone] at hcase
      cases hcase
    · exact List.mem_singleton.mp he

/-- The id of a case is written in lower case. -/
theorem storedUuid_storedUuid (id : String) : storedUuid (storedUuid id) = storedUuid id := by
  have hlower : ∀ c : Char, c.toLower.toLower = c.toLower := by
    intro c
    by_cases hupper : c.val ≥ 'A'.val ∧ c.val ≤ 'Z'.val
    · have hval : c.toLower.val = c.val + ('a'.val - 'A'.val) := by
        simp only [Char.toLower, dif_pos hupper]
      rw [Char.toLower, dif_neg]
      rw [hval]
      have hlow := UInt32.le_iff_toNat_le.mp hupper.1
      have hhigh := UInt32.le_iff_toNat_le.mp hupper.2
      rintro ⟨-, hle⟩
      rw [UInt32.le_iff_toNat_le, UInt32.toNat_add] at hle
      have ha : 'A'.val.toNat = 65 := rfl
      have hz : 'Z'.val.toNat = 90 := rfl
      have hshift : ('a'.val - 'A'.val).toNat = 32 := rfl
      omega
    · have hsame : c.toLower = c := by rw [Char.toLower, dif_neg hupper]
      rw [hsame, hsame]
  simp [storedUuid, Function.comp_def, hlower]

/-- With its case bound, the look for an entry finds the one of the call, for the same actor and a
token in lower case. -/
theorem Bound.find? (h : Bound P call s) (haudited : AuditedCases s) {actorId : Uuid}
    {token hash : String} (htoken : storedUuid token = call.caseId) :
    (s.auditLog.find? (isCreationOf actorId token)).bind CaseAudit.requestHash = some hash ↔
      actorId = call.actor.id ∧ call.caseId = token ∧ hash = P.sha256 call.text := by
  constructor
  · intro hfind
    obtain ⟨e, he, hhash⟩ := Option.bind_eq_some_iff.mp hfind
    have hmem := List.mem_of_find?_eq_some he
    have hcreation : isCreationOf actorId token e := List.find?_some he
    obtain ⟨haction, -, hid, hactor⟩ := of_decide_eq_true hcreation
    obtain ⟨other, hother, -⟩ := haudited e hmem haction
    have hlower : call.caseId = token := by
      rw [← htoken, Option.some.inj (hid.symm.trans hother), storedUuid_storedUuid]
    rw [← hlower] at hid
    cases h.only e hmem haction hid
    exact ⟨(Option.some.inj hactor).symm, hlower, (Option.some.inj hhash).symm⟩
  · rintro ⟨rfl, hlower, rfl⟩
    have hcreation : ∀ e ∈ s.auditLog, isCreationOf call.actor.id token e → e = call.entry P := by
      intro e he hcreation
      obtain ⟨haction, -, hid, -⟩ := of_decide_eq_true hcreation
      rw [← hlower] at hid
      exact h.only e he haction hid
    cases hfind : s.auditLog.find? (isCreationOf call.actor.id token) with
    | none =>
      have hno := List.find?_eq_none.mp hfind _ h.entry
      exact absurd (decide_eq_true ⟨rfl, rfl, congrArg some hlower, rfl⟩) hno
    | some e =>
      rw [hcreation e (List.mem_of_find?_eq_some hfind) (List.find?_some hfind)]
      rfl

/-! ## Retries -/

/-- A call with the token of a case that was created finds it, if it is the same request and its
token is in lower case; else it is refused. -/
theorem Bound.replay (h : Bound P call s) (haudited : AuditedCases s)
    (hid : retry.caseId = call.caseId) {file : CaseFile}
    (hfile : s.cases.lookup call.caseId = some file) :
    replayForExistingCase s retry.actor.id retry.form.body.requestToken (P.sha256 retry.text) =
      if retry.actor.id = call.actor.id ∧ call.caseId = retry.form.body.requestToken ∧
          P.sha256 retry.text = P.sha256 call.text then
        .ok (some { case := s.dto call.caseId file, replayed := true })
      else .error (.conflict "The request token is already bound to another case request.") := by
  obtain ⟨file', hfile', hopen⟩ := h.stored
  obtain rfl := Option.some.inj (hfile.symm.trans hfile')
  have hcase : s.cases.lookup (storedUuid retry.form.body.requestToken) = some file := by
    rw [← hfile]
    exact congrArg (s.cases.lookup ·) hid
  have htoken : storedUuid retry.form.body.requestToken = call.caseId := hid
  rw [replayForExistingCase_of_some hcase, htoken]
  simp only [hopen, true_and, h.find? haudited htoken]

theorem SameRequest.caseId (h : SameRequest call retry) : retry.caseId = call.caseId := by
  rw [CreateManualCase.caseId, h.2]
  rfl

theorem SameRequest.text (h : SameRequest call retry) : retry.text = call.text := by
  rw [CreateManualCase.text, h.2]
  rfl

theorem SameRequest.issues (h : SameRequest call retry) (hvalid : call.Valid P) :
    retry.form.body.issues P = [] := by
  rw [h.2]
  exact hvalid.2

/-- A retry is answered with the case exactly if its actor, client and lawyer could still get one
and its token is in lower case. -/
theorem Bound.replays_iff (h : Bound P call s) (haudited : AuditedCases s)
    (hvalid : call.Valid P) (hsame : SameRequest call retry) :
    Replays P s retry ↔ CouldCreate s retry ∧ LowerCaseToken retry := by
  obtain ⟨file, hfile, -⟩ := h.stored
  have hid := hsame.caseId
  have hreplay := h.replay haudited hid hfile
  rw [hsame.1, hsame.text] at hreplay
  simp only [true_and, and_true] at hreplay
  constructor
  · rintro ⟨file', -, hcall⟩
    obtain ⟨-, hcould, -⟩ := createManualCase_eq_ok hcall
    refine ⟨hcould, ?_⟩
    by_contra hupper
    rw [LowerCaseToken, hid] at hupper
    rw [createManualCase_eq ⟨hcould.1, hsame.issues hvalid⟩] at hcall
    obtain ⟨_, -, hcall⟩ := bind_eq_ok.mp hcall
    obtain ⟨_, -, hcall⟩ := bind_eq_ok.mp hcall
    obtain ⟨found, hfound, -⟩ := bind_eq_ok.mp hcall
    rw [hsame.1, hsame.text, hreplay, if_neg hupper] at hfound
    cases hfound
  · rintro ⟨⟨hpermission, hclient, hlawyer⟩, hlower⟩
    rw [LowerCaseToken, hid] at hlower
    refine ⟨file, by rw [hid, hfile], ?_⟩
    rw [createManualCase_eq ⟨hpermission, hsame.issues hvalid⟩, createManualCaseTransaction,
      activeClient, throwIf_of_not (by simpa using hclient), ok_bind, eligibleLawyer,
      throwIf_of_not (by simpa using hlawyer), ok_bind, hsame.1, hsame.text, hreplay,
      if_pos hlower, ok_bind, hid]
    rfl

theorem Bound.replaysLate_iff (h : Bound P call s) (haudited : AuditedCases s)
    (hvalid : call.Valid P) (hsame : SameRequest call retry) :
    ReplaysLate P s retry ↔ LowerCaseToken retry := by
  obtain ⟨file, hfile, -⟩ := h.stored
  have hid := hsame.caseId
  have hissues := hsame.issues hvalid
  have hreplay := h.replay haudited hid hfile
  rw [hsame.1, hsame.text] at hreplay
  simp only [true_and, and_true] at hreplay
  have hlate : replayManualCase s P retry =
      (replayForExistingCase s call.actor.id retry.form.body.requestToken (P.sha256 call.text) >>=
        fun replay ↦ orThrow replay caseReferenceConflict) := by
    rw [replayManualCase, parseManualCase, throwIf_of_not (not_not.mpr hissues), ok_bind]
    change (manualCaseRequestHash P retry.form.body.form >>= _) = _
    rw [manualCaseRequestHash_body hissues, ok_bind, hsame.1, hsame.text]
  rw [ReplaysLate, LowerCaseToken, hlate, hreplay, hid]
  by_cases hlower : call.caseId = retry.form.body.requestToken
  · rw [if_pos hlower]
    exact iff_of_true ⟨file, hfile, rfl⟩ hlower
  · rw [if_neg hlower]
    refine iff_of_false ?_ hlower
    rintro ⟨_, -, hcall⟩
    cases hcall

/-- A call with the token and another actor or body is refused. -/
theorem Bound.rejects (h : Bound P call s) (haudited : AuditedCases s)
    (hid : retry.caseId = call.caseId) (hother : ¬SameRequest call retry)
    (hsha : P.sha256 retry.text = P.sha256 call.text → retry.text = call.text) :
    (∃ e, createManualCase s P retry = .error e) ∧ ∃ e, replayManualCase s P retry = .error e := by
  obtain ⟨file, hfile, -⟩ := h.stored
  have hreplay := h.replay haudited hid hfile
  rw [if_neg] at hreplay
  · constructor
    · cases hcall : createManualCase s P retry with
      | error e => exact ⟨e, rfl⟩
      | ok r =>
        rw [createManualCase_eq (valid_of_createManualCase hcall)] at hcall
        obtain ⟨_, -, hcall⟩ := bind_eq_ok.mp hcall
        obtain ⟨_, -, hcall⟩ := bind_eq_ok.mp hcall
        obtain ⟨found, hfound, -⟩ := bind_eq_ok.mp hcall
        rw [hreplay] at hfound
        cases hfound
    · cases hcall : replayManualCase s P retry with
      | error e => exact ⟨e, rfl⟩
      | ok r =>
        obtain ⟨body, hbody, hcall⟩ := bind_eq_ok.mp hcall
        obtain ⟨_, hissues, hbody⟩ := bind_eq_ok.mp hbody
        cases hbody
        rw [manualCaseRequestHash_body (not_not.mp (throwIf_eq_ok.mp hissues)), ok_bind] at hcall
        obtain ⟨found, hfound, -⟩ := bind_eq_ok.mp hcall
        rw [hreplay] at hfound
        cases hfound
  · rintro ⟨hactor, -, hhash⟩
    exact hother ⟨hactor, body_eq_of_text (hsha hhash)⟩

end

/-! ## Whole runs -/

/-- In the run `l`, `call` creates its case and `move` comes later, when `t` is stored. -/
def AfterCreation (P : Platform) (s : CaseDesk) (l : List CaseMove) (call : CreateManualCase)
    (move : CaseMove) (t : CaseDesk) : Prop :=
  ∃ l₁ l₂ l₃, l = l₁ ++ .create call :: (l₂ ++ move :: l₃) ∧
    CreatesCase P (run (caseMove P) s l₁) call ∧ t = run (caseMove P) s (l₁ ++ .create call :: l₂)

/-- One case for one request. -/
structure ExactlyOnce (P : Platform) (s : CaseDesk) (l : List CaseMove) : Prop where
  once : ∀ call other t, AfterCreation P s l call (.create other) t → CreatesCase P t other →
    call.caseId ≠ other.caseId
  retry : ∀ call retry t, AfterCreation P s l call (.create retry) t → SameRequest call retry →
    Replays P t retry
  retryLate : ∀ call retry t, AfterCreation P s l call (.replay retry) t →
    SameRequest call retry → ReplaysLate P t retry
  other : ∀ call other t, AfterCreation P s l call (.create other) t →
    other.caseId = call.caseId → ¬SameRequest call other →
    (∃ e, createManualCase t P other = .error e) ∧ caseMove P t (.create other) = t
  otherLate : ∀ call other t, AfterCreation P s l call (.replay other) t →
    other.caseId = call.caseId → ¬SameRequest call other →
    ∃ e, replayManualCase t P other = .error e
  alike : ∀ a b : ManualCaseForm, AlikeForms a b → a.body = b.body

/-- When a request is retried its actor may still create cases, its client and its lawyer could
still get one, and its token is in lower case. -/
structure RetriesInTime (P : Platform) (s : CaseDesk) (l : List CaseMove) : Prop where
  retry : ∀ call retry t, AfterCreation P s l call (.create retry) t → SameRequest call retry →
    CouldCreate t retry ∧ LowerCaseToken retry
  retryLate : ∀ call retry t, AfterCreation P s l call (.replay retry) t →
    SameRequest call retry → LowerCaseToken retry

section

variable {P : Platform} {s t : CaseDesk} {l : List CaseMove} {call : CreateManualCase}
  {move : CaseMove}

theorem run_auditedCases (h : AuditedCases s) (l : List CaseMove) :
    AuditedCases (run (caseMove P) s l) :=
  run_invariant (fun s move hs ↦ hs.change (deskChange s move)) h l

/-- After its creation a case stays bound to the call. -/
theorem bound_of_afterCreation (hstart : AuditedCases s) (h : AfterCreation P s l call move t) :
    AuditedCases t ∧ Bound P call t ∧ call.Valid P := by
  obtain ⟨l₁, l₂, l₃, -, hcreates, rfl⟩ := h
  have haudited := run_auditedCases (P := P) hstart l₁
  refine ⟨run_auditedCases hstart _, ?_, ?_⟩
  · rw [run_append, run_cons]
    exact run_invariant (fun s move hs ↦ hs.change (deskChange s move))
      (bound_of_createsCase haudited hcreates) l₂
  · obtain ⟨s', answer, hcall, -⟩ := hcreates
    exact valid_of_createManualCase hcall

theorem AfterCreation.mem (h : AfterCreation P s l call move t) :
    CaseMove.create call ∈ l ∧ move ∈ l := by
  obtain ⟨l₁, l₂, l₃, rfl, -⟩ := h
  simp

/-- Starting without entries for created cases, and with digests that do not collide, every run
makes one case for one request, exactly if its retries come in time. -/
theorem exactlyOnce_iff (P : Platform) (s : CaseDesk) (l : List CaseMove)
    (hstart : ∀ e ∈ s.auditLog, e.action ≠ manualCaseCreateAction)
    (hsha : ∀ a ∈ l.filterMap CaseMove.call?, ∀ b ∈ l.filterMap CaseMove.call?,
      P.sha256 a.text = P.sha256 b.text → a.text = b.text) :
    ExactlyOnce P s l ↔ RetriesInTime P s l := by
  have haudited : AuditedCases s := fun e he haction ↦ absurd haction (hstart e he)
  have hcalls : ∀ {call other : CreateManualCase} {move : CaseMove} {t : CaseDesk},
      AfterCreation P s l call move t → move.call? = some other →
      P.sha256 other.text = P.sha256 call.text → other.text = call.text := by
    intro call other move t h hmove
    exact hsha other (List.mem_filterMap.mpr ⟨move, h.mem.2, hmove⟩) call
      (List.mem_filterMap.mpr ⟨.create call, h.mem.1, rfl⟩)
  constructor
  · intro h
    constructor
    · intro call retry t hafter hsame
      obtain ⟨haudited, hbound, hvalid⟩ := bound_of_afterCreation haudited hafter
      exact (hbound.replays_iff haudited hvalid hsame).mp (h.retry call retry t hafter hsame)
    · intro call retry t hafter hsame
      obtain ⟨haudited, hbound, hvalid⟩ := bound_of_afterCreation haudited hafter
      exact (hbound.replaysLate_iff haudited hvalid hsame).mp
        (h.retryLate call retry t hafter hsame)
  · intro h
    refine ⟨?_, ?_, ?_, ?_, ?_, fun a b ↦ AlikeForms.body⟩
    · rintro call other t hafter ⟨s', answer, hcall, hnew⟩ hid
      obtain ⟨-, hbound, -⟩ := bound_of_afterCreation haudited hafter
      obtain ⟨file, hfile, -⟩ := hbound.stored
      obtain ⟨-, -, ⟨hreplayed, -⟩ | ⟨-, hnone, -⟩⟩ := createManualCase_eq_ok hcall
      · rw [hnew] at hreplayed
        cases hreplayed
      · rw [← hid, hfile] at hnone
        cases hnone
    · intro call retry t hafter hsame
      obtain ⟨haudited, hbound, hvalid⟩ := bound_of_afterCreation haudited hafter
      exact (hbound.replays_iff haudited hvalid hsame).mpr (h.retry call retry t hafter hsame)
    · intro call retry t hafter hsame
      obtain ⟨haudited, hbound, hvalid⟩ := bound_of_afterCreation haudited hafter
      exact (hbound.replaysLate_iff haudited hvalid hsame).mpr
        (h.retryLate call retry t hafter hsame)
    · intro call other t hafter hid hother
      obtain ⟨haudited, hbound, -⟩ := bound_of_afterCreation haudited hafter
      obtain ⟨e, he⟩ := (hbound.rejects haudited hid hother (hcalls hafter rfl)).1
      refine ⟨⟨e, he⟩, ?_⟩
      rw [caseMove, he]
      rfl
    · intro call other t hafter hid hother
      obtain ⟨haudited, hbound, -⟩ := bound_of_afterCreation haudited hafter
      exact (hbound.rejects haudited hid hother (hcalls hafter rfl)).2

end

/-! ## A retry after the client was archived -/

def clientCase : ManualCaseForm where
  requestToken := "73000000-0000-4000-8000-000000000001"
  clientId := "71000000-0000-4000-8000-000000000001"
  assignedLawyerId := "72000000-0000-4000-8000-000000000001"
  title := "Supply dispute"
  caseType := "Commercial"

def createClientCase : CreateManualCase where
  actor := { id := "admin", roleName := "Super Admin" }
  form := clientCase
  now := 10

/-- An active client and an active lawyer. -/
def clientDesk : CaseDesk where
  accounts := {
    roles := AList.singleton "role" { name := "Lawyer" }
    users := AList.singleton clientCase.assignedLawyerId
      { email := "lawyer@example.com", name := "Lawyer", roleId := "role", status := .active }
    clients := AList.singleton clientCase.clientId
      { fullName := "Mona", phone := "01000000001", status := .active } }

/-- The client is archived. -/
def archiveClient (acc : Accounts) : Accounts :=
  { acc with
    clients := acc.clients.update clientCase.clientId fun c ↦ { c with status := .archived } }

/-- The digest of the case. -/
def clientCasePlatform : Platform :=
  { plainPlatform with
    sha256 := fun text ↦
      if text = createClientCase.text then
        "087243b0e28ecc96bad4a9330a207609801a89ef1622e57b0031ce4dbdf02642"
      else "" }

/-- An answer tells whether the call has created its case. -/
theorem creates_of_answer {P : Platform} {s : CaseDesk} {call : CreateManualCase}
    (h : (createManualCase s P call).toOption.any fun r ↦ !r.2.replayed) :
    CreatesCase P s call := by
  cases hcall : createManualCase s P call with
  | error e =>
    rw [hcall] at h
    cases h
  | ok r =>
    rw [hcall] at h
    exact ⟨r.1, r.2, hcall, by simpa [Except.toOption] using h⟩

/-- A call changes no accounts. -/
theorem accounts_create (P : Platform) (s : CaseDesk) (call : CreateManualCase) :
    (caseMove P s (.create call)).accounts = s.accounts := by
  rw [caseMove]
  cases hcall : createManualCase s P call with
  | error e => rfl
  | ok r =>
    obtain ⟨s', answer⟩ := r
    obtain ⟨-, -, ⟨-, rfl⟩ | ⟨-, -, rfl⟩⟩ := createManualCase_eq_ok hcall
    · rfl
    · rfl

theorem creates_clientCase : CreatesCase clientCasePlatform clientDesk createClientCase :=
  creates_of_answer (by decide +kernel)

/-- Once the client is archived, the request that made the case is refused when it is sent again. -/
theorem archived_client_not_replayed :
    ¬ExactlyOnce clientCasePlatform clientDesk
      [.create createClientCase, .accounts archiveClient, .create createClientCase] := by
  intro h
  obtain ⟨_, -, hcall⟩ := h.retry createClientCase createClientCase _
    ⟨[], [.accounts archiveClient], [], rfl, creates_clientCase, rfl⟩ ⟨rfl, rfl⟩
  obtain ⟨-, ⟨-, hclient, -⟩, -⟩ := createManualCase_eq_ok hcall
  have haccounts : (run (caseMove clientCasePlatform) clientDesk
      ([] ++ [.create createClientCase, .accounts archiveClient])).accounts =
      archiveClient clientDesk.accounts :=
    congrArg archiveClient (accounts_create clientCasePlatform clientDesk createClientCase)
  rw [isActiveClient, haccounts] at hclient
  revert hclient
  decide +kernel

/-- Sent twice in a row, it is answered with the case. -/
theorem clientCase_exactlyOnce :
    ExactlyOnce clientCasePlatform clientDesk
      [.create createClientCase, .create createClientCase] := by
  refine (exactlyOnce_iff clientCasePlatform clientDesk _ nofun ?_).mpr ?_
  · intro a ha b hb _
    simp only [List.filterMap_cons, CaseMove.call?, List.filterMap_nil, List.mem_cons,
      List.not_mem_nil, or_false, or_self] at ha hb
    rw [ha, hb]
  · have hlast : ∀ call move t, AfterCreation clientCasePlatform clientDesk
        [.create createClientCase, .create createClientCase] call move t →
        move = .create createClientCase ∧
          t = caseMove clientCasePlatform clientDesk (.create createClientCase) := by
      rintro call move t ⟨l₁, l₂, l₃, hl, -, rfl⟩
      have hlength := congrArg List.length hl
      simp only [List.length_cons, List.length_nil, List.length_append] at hlength
      obtain rfl : l₁ = [] := List.eq_nil_of_length_eq_zero (by omega)
      obtain rfl : l₂ = [] := List.eq_nil_of_length_eq_zero (by omega)
      simp only [List.nil_append, List.cons.injEq] at hl
      obtain ⟨hcall, hmove, -⟩ := hl
      refine ⟨hmove.symm, ?_⟩
      rw [← hcall, List.nil_append, run_cons, run_nil]
    constructor
    · intro call retry t hafter _
      obtain ⟨hretry, ht⟩ := hlast call _ t hafter
      cases hretry
      rw [ht]
      refine ⟨⟨by decide, ?_, ?_⟩, by decide +kernel⟩
      · rw [isActiveClient, accounts_create]
        decide +kernel
      · rw [isEligibleLawyer, accounts_create]
        decide +kernel
    · intro call retry t hafter _
      obtain ⟨hretry, -⟩ := hlast call _ t hafter
      cases hretry

end KmtLegal
