import Mathlib.Data.List.DropRight
import KmtLegal.Accounts.Store
import KmtLegal.Admin.ConsultationReview

/-!
# Manual cases

`createManualCase` of `manual-case-service.ts`.  The form carries a token, which becomes the id of
the case; the audit log keeps a hash of the normalised body, and a form that is sent again gets the
case its token has.

The store writes ids in lower case, and looks them up whatever their case; the `resourceId` of an
audit log is a text.
-/

namespace KmtLegal

open Relational Js

/-! ## The form -/

inductive PartyType where
  | client | opposingParty | witness | expert | other
  deriving DecidableEq

def PartyType.text : PartyType → String
  | client => "CLIENT"
  | opposingParty => "OPPOSING_PARTY"
  | witness => "WITNESS"
  | expert => "EXPERT"
  | other => "OTHER"

def CasePriority.text : CasePriority → String
  | low => "LOW"
  | normal => "NORMAL"
  | high => "HIGH"
  | urgent => "URGENT"

/-- What `manualCasePartySchema` reads, and what it makes of it. -/
structure CaseParty where
  name : String
  partyType : PartyType
  notes : Option String := none
  deriving DecidableEq

/-- What `manualCaseCreateSchema` reads; `null` and an absent key are `none`. -/
structure ManualCaseForm where
  requestToken : String
  clientId : String
  assignedLawyerId : String
  title : String
  caseType : String
  courtName : Option String := none
  externalCaseNumber : Option String := none
  priority : Option CasePriority := none
  summary : Option String := none
  parties : Option (List CaseParty) := none
  deriving DecidableEq

structure ManualCaseCreateInput where
  requestToken : String
  clientId : String
  assignedLawyerId : String
  title : String
  caseType : String
  courtName : Option String
  externalCaseNumber : Option String
  priority : CasePriority
  summary : Option String
  parties : List CaseParty
  deriving DecidableEq

/-- `normalizedNullableText(value)`. -/
def normalizedNullableText (value : Option String) : Option String := orNull (value.map trim)

def CaseParty.normalized (party : CaseParty) : CaseParty :=
  { party with name := trim party.name, notes := normalizedNullableText party.notes }

/-- What the schema makes of a form it accepts. -/
def ManualCaseForm.body (form : ManualCaseForm) : ManualCaseCreateInput where
  requestToken := form.requestToken
  clientId := form.clientId
  assignedLawyerId := form.assignedLawyerId
  title := trim form.title
  caseType := trim form.caseType
  courtName := normalizedNullableText form.courtName
  externalCaseNumber := normalizedNullableText form.externalCaseNumber
  priority := form.priority.getD .normal
  summary := normalizedNullableText form.summary
  parties := (form.parties.getD []).map CaseParty.normalized

/-- The body as the input of another `parse`. -/
def ManualCaseCreateInput.form (body : ManualCaseCreateInput) : ManualCaseForm :=
  { body with priority := some body.priority, parties := some body.parties }

def uuidIssues (P : Platform) (path value : String) : List ApiErrorDetail :=
  if P.isUuid value then []
  else [{ path := some path, message := "Invalid UUID", code := some "invalid_format" }]

/-- `z.string().max(most)`. -/
def maxIssues (path value : String) (most : ℕ) : List ApiErrorDetail :=
  if length value ≤ most then []
  else [{
    path := some path
    message := "Too big: expected string to have <=" ++ toString most ++ " characters"
    code := some "too_big" }]

/-- `z.string().trim().min(least).max(most)`, of the trimmed text. -/
def trimmedTextIssues (path value : String) (least most : ℕ) : List ApiErrorDetail :=
  if length value < least then [{
    path := some path
    message := "Too small: expected string to have >=" ++ toString least ++ " characters"
    code := some "too_small" }]
  else maxIssues path value most

/-- `nullableTrimmedText(maxLength)`, of the normalised text. -/
def nullableTextIssues (path : String) (value : Option String) (maxLength : ℕ) :
    List ApiErrorDetail :=
  value.elim [] fun text ↦ maxIssues path text maxLength

def partyIssues (party : CaseParty) (i : ℕ) : List ApiErrorDetail :=
  let path := "parties." ++ toString i
  trimmedTextIssues (path ++ ".name") party.name 1 200 ++
    nullableTextIssues (path ++ ".notes") party.notes 1000

/-- What `manualCaseCreateSchema` finds wrong with a normalised body. -/
def ManualCaseCreateInput.issues (P : Platform) (body : ManualCaseCreateInput) :
    List ApiErrorDetail :=
  uuidIssues P "requestToken" body.requestToken ++ uuidIssues P "clientId" body.clientId ++
    uuidIssues P "assignedLawyerId" body.assignedLawyerId ++
    trimmedTextIssues "title" body.title 3 180 ++
    trimmedTextIssues "caseType" body.caseType 2 120 ++
    nullableTextIssues "courtName" body.courtName 240 ++
    nullableTextIssues "externalCaseNumber" body.externalCaseNumber 240 ++
    nullableTextIssues "summary" body.summary 5000 ++
    (body.parties.zipIdx.flatMap fun (party, i) ↦ partyIssues party i) ++
    if body.parties.length ≤ 20 then []
    else [{
      path := some "parties"
      message := "Too big: expected array to have <=20 items"
      code := some "too_big" }]

/-- `parseWithSchema(manualCaseCreateSchema, body, …)`. -/
def parseManualCase (P : Platform) (form : ManualCaseForm) :
    Except Failure ManualCaseCreateInput := do
  let issues := form.body.issues P
  throwIf (issues ≠ []) (.validation "Manual case payload is invalid." issues)
  return form.body

/-! ## The hash -/

def nullableJson (value : Option String) : Json := value.elim .null .str

def CaseParty.json (party : CaseParty) : Json :=
  .obj [("name", .str party.name), ("partyType", .str party.partyType.text),
    ("notes", nullableJson party.notes)]

/-- `normalizedCreatePayload(body)`. -/
def normalizedCreatePayload (body : ManualCaseCreateInput) : Json :=
  .obj [
    ("requestToken", .str body.requestToken),
    ("clientId", .str body.clientId),
    ("assignedLawyerId", .str body.assignedLawyerId),
    ("title", .str body.title),
    ("caseType", .str body.caseType),
    ("courtName", nullableJson body.courtName),
    ("externalCaseNumber", nullableJson body.externalCaseNumber),
    ("priority", .str body.priority.text),
    ("summary", nullableJson body.summary),
    ("parties", .arr (body.parties.map CaseParty.json))]

/-- `manualCaseRequestHash(input)`, which parses the form once more. -/
def manualCaseRequestHash (P : Platform) (form : ManualCaseForm) : Except Failure String := do
  throwIf (form.body.issues P ≠ []) .zodError
  return P.sha256 (normalizedCreatePayload form.body).stringify

/-! ## The store -/

/-- A UUID as a column of type `uuid` returns it. -/
def storedUuid (id : String) : Uuid := String.ofList (id.toList.map Char.toLower)

/-- A row of `cases` with its parties. -/
structure CaseFile where
  internalFileNumber : String
  clientId : Uuid
  assignedLawyerId : Uuid
  consultationRequestId : Option Uuid := none
  title : String
  caseType : String
  courtName : Option String := none
  externalCaseNumber : Option String := none
  status : CaseStatus := .new
  priority : CasePriority := .normal
  summary : Option String := none
  createdAt : Time
  updatedAt : Time
  deletedAt : Option Time := none
  parties : List CaseParty := []
  deriving DecidableEq

/-- The columns of `audit_logs` a replay reads; of the metadata, the hash. -/
structure CaseAudit where
  actorId : Option Uuid
  action : String
  resourceType : String
  resourceId : Option String
  requestHash : Option String := none
  deriving DecidableEq

structure CaseDesk where
  accounts : Accounts := {}
  cases : Table Uuid CaseFile := ∅
  auditLog : List CaseAudit := []

/-- `PLAN35_AUDIT_ACTIONS.manualCaseCreate`. -/
def manualCaseCreateAction : String := "case.manual_create"

/-- `ManualCaseDto`: the row, and the names it refers to. -/
structure ManualCaseDto where
  id : Uuid
  file : CaseFile
  clientName : Option String
  assignedLawyerName : Option String
  deriving DecidableEq

/-- `{ case, replayed }`. -/
structure ManualCaseAnswer where
  case : ManualCaseDto
  replayed : Bool
  deriving DecidableEq

/-- `toManualCaseDto(legalCase)`. -/
def CaseDesk.dto (s : CaseDesk) (id : Uuid) (file : CaseFile) : ManualCaseDto where
  id
  file
  clientName := (s.accounts.clients.lookup file.clientId).map Client.fullName
  assignedLawyerName := (s.accounts.users.lookup file.assignedLawyerId).map UserRecord.name

/-! ## Creating -/

/-- A call of `createManualCase`. -/
structure CreateManualCase where
  actor : Principal
  form : ManualCaseForm
  now : Time

/-- `canCreateManualCase(actor)`. -/
def canCreateManualCase (actor : Principal) : Bool := hasPermission actor "case.create.any"

/-- `assertManualCaseCreatePermission(actor)`. -/
def assertManualCaseCreatePermission (actor : Principal) : Except Failure Unit :=
  throwIf (!canCreateManualCase actor)
    (.permissionDenied "Manual case creation permission is required.")

section

variable (s : CaseDesk)

/-- A client `activeClient` finds. -/
def isActiveClient (clientId : String) : Bool :=
  (s.accounts.clients.lookup (storedUuid clientId)).any fun c ↦
    c.status = .active ∧ c.deletedAt = none

/-- A user `eligibleLawyer` finds. -/
def isEligibleLawyer (lawyerId : String) : Bool :=
  (s.accounts.users.lookup (storedUuid lawyerId)).any (s.accounts.hasActiveRole "Lawyer")

/-- `activeClient(client, clientId)`. -/
def activeClient (clientId : String) : Except Failure Unit :=
  throwIf (!isActiveClient s clientId) (.validation "An active existing client is required.")

/-- `eligibleLawyer(client, lawyerId)`. -/
def eligibleLawyer (lawyerId : String) : Except Failure Unit :=
  throwIf (!isEligibleLawyer s lawyerId) (.validation "An active eligible lawyer is required.")

/-- An entry `replayForExistingCase` looks for. -/
def isCreationOf (actorId : Uuid) (caseId : String) (a : CaseAudit) : Bool :=
  a.action = manualCaseCreateAction ∧ a.resourceType = "LegalCase" ∧ a.resourceId = some caseId ∧
    a.actorId = some actorId

/-- `replayForExistingCase(input)`. -/
def replayForExistingCase (actorId : Uuid) (caseId requestHash : String) :
    Except Failure (Option ManualCaseAnswer) :=
  match s.cases.lookup (storedUuid caseId) with
  | none => .ok none
  | some file =>
    let audit := s.auditLog.find? (isCreationOf actorId caseId)
    if file.deletedAt = none ∧ audit.bind CaseAudit.requestHash = some requestHash then
      .ok (some { case := s.dto (storedUuid caseId) file, replayed := true })
    else .error (.conflict "The request token is already bound to another case request.")

/-- `data` of `tx.legalCase.create`. -/
def manualCaseFile (P : Platform) (body : ManualCaseCreateInput) (now : Time) : CaseFile where
  internalFileNumber := legalCaseReference P body.requestToken now
  clientId := storedUuid body.clientId
  assignedLawyerId := storedUuid body.assignedLawyerId
  title := body.title
  caseType := body.caseType
  courtName := body.courtName
  externalCaseNumber := body.externalCaseNumber
  priority := body.priority
  summary := body.summary
  createdAt := now
  updatedAt := now
  parties := body.parties

/-- `tx.legalCase.create`: the id and the file number are unique. -/
def createLegalCase (id : Uuid) (file : CaseFile) : Except Failure CaseDesk := do
  throwIf (s.cases.any fun _ f ↦ f.internalFileNumber = file.internalFileNumber) .uniqueConstraint
  let cases ← orThrow (s.cases.create id file) .uniqueConstraint
  return { s with cases }

/-- `appendManualCaseCreateAudit(input)`; a digest survives the redaction. -/
def appendManualCaseCreateAudit (actor : Principal) (id : Uuid) (requestHash : String) : CaseDesk :=
  { s with auditLog := s.auditLog ++ [{
      actorId := some actor.id
      action := manualCaseCreateAction
      resourceType := "LegalCase"
      resourceId := some id
      requestHash := some requestHash }] }

/-- The case and its entry in the audit log. -/
def writeManualCase (P : Platform) (call : CreateManualCase) (body : ManualCaseCreateInput)
    (requestHash : String) : Except Failure (CaseDesk × ManualCaseAnswer) := do
  let id := storedUuid body.requestToken
  let file := manualCaseFile P body call.now
  let created ← createLegalCase s id file
  return (appendManualCaseCreateAudit created call.actor id requestHash,
    { case := created.dto id file, replayed := false })

/-- `createManualCaseTransaction(input)`. -/
def createManualCaseTransaction (P : Platform) (call : CreateManualCase)
    (body : ManualCaseCreateInput) (requestHash : String) :
    Except Failure (CaseDesk × ManualCaseAnswer) := do
  activeClient s body.clientId
  eligibleLawyer s body.assignedLawyerId
  let replay ← replayForExistingCase s call.actor.id body.requestToken requestHash
  replay.elim (writeManualCase s P call body requestHash) fun answer ↦ .ok (s, answer)

/-- `createManualCase(input)`, up to the end of its transaction. -/
def createManualCase (P : Platform) (call : CreateManualCase) :
    Except Failure (CaseDesk × ManualCaseAnswer) := do
  assertManualCaseCreatePermission call.actor
  let body ← parseManualCase P call.form
  let requestHash ← manualCaseRequestHash P body.form
  createManualCaseTransaction s P call body requestHash

/-- `caseReferenceConflict()`. -/
def caseReferenceConflict : Failure :=
  .of 409 .caseReferenceConflict
    "A unique case reference could not be generated. Create a new request and retry."

/-- `createManualCase(input)` after its transaction met a unique index: the case may be there by
now. -/
def replayManualCase (P : Platform) (call : CreateManualCase) :
    Except Failure ManualCaseAnswer := do
  let body ← parseManualCase P call.form
  let requestHash ← manualCaseRequestHash P body.form
  let replay ← replayForExistingCase s call.actor.id body.requestToken requestHash
  orThrow replay caseReferenceConflict

end

end KmtLegal
