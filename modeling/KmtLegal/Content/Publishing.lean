import KmtLegal.Auth.Policy
import KmtLegal.Database
import KmtLegal.Js.Pattern
import KmtLegal.Platform

/-!
# Articles, case studies and social drafts

`content-social-service.ts` creates and updates three kinds of content, and `knowledge-service.ts`
reads articles as references for the assistant.  The kinds have the same shape: the columns are
computed from the body, an actor without the approve permission of the kind may not write a row in a
protected status, and nothing but the author of a row survives an update.

A row is stored with the actor of the call that has written it last.
-/

namespace KmtLegal

open Relational Js

/-! ## Rows -/

inductive ContentStatus where
  | draft | review | published | archived
  deriving DecidableEq

inductive CaseStudyStatus where
  | draft | legalReview | approved | published | rejected | archived
  deriving DecidableEq

inductive SocialDraftStatus where
  | draft | legalReview | approved | scheduled | published | rejected | archived
  deriving DecidableEq

inductive ReferenceType where
  | article | judgment | legislation
  deriving DecidableEq

/-- The `referenceFields` of an article, but for `aiApproved`; accepted dates are parsed. -/
structure ReferenceFields where
  contentType : ReferenceType := .article
  sourceTitle : String := ""
  sourceUrl : String := ""
  referenceNumber : String := ""
  referenceYear : Option ℕ := none
  referenceDate : Option Time := none
  reviewedAt : Option Time := none
  deriving DecidableEq

/-- `referenceReady(value)`. -/
def referenceReady (value : ReferenceFields) : Bool :=
  value.sourceTitle ≠ "" ∧ value.sourceUrl ≠ "" ∧ value.reviewedAt.isSome ∧
    (value.contentType = .article ∨ value.referenceNumber ≠ "" ∧
      value.referenceYear.any (· ≠ 0) ∧ value.referenceDate.isSome)

structure Article where
  contentType : ReferenceType
  sourceTitle : Option String
  sourceUrl : Option String
  referenceNumber : Option String
  referenceYear : Option ℕ
  referenceDate : Option Time
  reviewedAt : Option Time
  reviewedById : Option Uuid
  aiApproved : Bool
  title : String
  slug : String
  locale : PublicLocale
  excerpt : String
  content : String
  category : String
  status : ContentStatus
  publishedAt : Option Time
  authorId : Uuid
  deriving DecidableEq

/-- The reference of a stored article, with empty texts for the columns that are not set. -/
def Article.reference (row : Article) : ReferenceFields where
  contentType := row.contentType
  sourceTitle := row.sourceTitle.getD ""
  sourceUrl := row.sourceUrl.getD ""
  referenceNumber := row.referenceNumber.getD ""
  referenceYear := row.referenceYear
  referenceDate := row.referenceDate
  reviewedAt := row.reviewedAt

structure CaseStudy where
  title : String
  slug : String
  locale : PublicLocale
  category : String
  challenge : String
  approach : String
  generalOutcome : String
  lessons : String
  status : CaseStudyStatus
  isAnonymized : Bool
  publishedAt : Option Time
  approvedById : Option Uuid
  deriving DecidableEq

structure SocialPostDraft where
  title : String
  platform : String
  content : String
  sourceType : Option String
  sourceId : Option String
  status : SocialDraftStatus
  scheduledAt : Option Time
  approvedById : Option Uuid
  createdById : Uuid
  deriving DecidableEq

/-- A row, and the actor of the call that has written it last. -/
structure Written (α : Type) where
  row : α
  writer : Principal

structure ContentStore where
  articles : Table Uuid (Written Article) := ∅
  caseStudies : Table Uuid (Written CaseStudy) := ∅
  socialPostDrafts : Table Uuid (Written SocialPostDraft) := ∅

/-! ## Permissions -/

def canCreateArticles (actor : Principal) : Bool := hasPermission actor "content.create.any"

def canApproveArticles (actor : Principal) : Bool := hasPermission actor "content.approve.any"

def canCreateCaseStudies (actor : Principal) : Bool := hasPermission actor "caseStudy.create.any"

def canApproveCaseStudies (actor : Principal) : Bool := hasPermission actor "caseStudy.approve.any"

def canCreateSocialDrafts (actor : Principal) : Bool := hasPermission actor "socialDraft.create.any"

def canApproveSocialDrafts (actor : Principal) : Bool :=
  hasPermission actor "socialDraft.approve.any"

def assertCreateArticle (actor : Principal) : Except Failure Unit :=
  throwIf (!canCreateArticles actor) (.permissionDenied "Article create permission is required.")

def assertCreateCaseStudy (actor : Principal) : Except Failure Unit :=
  throwIf (!canCreateCaseStudies actor)
    (.permissionDenied "Case study create permission is required.")

def assertCreateSocialDraft (actor : Principal) : Except Failure Unit :=
  throwIf (!canCreateSocialDrafts actor)
    (.permissionDenied "Social draft create permission is required.")

def assertArticleStatusAllowed (actor : Principal) (status : ContentStatus) : Except Failure Unit :=
  throwIf (status ∈ [.published, .archived] ∧ !canApproveArticles actor)
    (.permissionDenied "Article publish/archive permission is required.")

def assertCaseStudyStatusAllowed (actor : Principal) (status : CaseStudyStatus) :
    Except Failure Unit :=
  throwIf (status ∈ [.approved, .published, .rejected, .archived] ∧ !canApproveCaseStudies actor)
    (.permissionDenied "Case study approval permission is required.")

def assertSocialDraftStatusAllowed (actor : Principal) (status : SocialDraftStatus) :
    Except Failure Unit :=
  throwIf (status ∈ [.approved, .scheduled, .published, .rejected, .archived] ∧
      !canApproveSocialDrafts actor)
    (.permissionDenied "Social draft approval permission is required.")

/-! ### `protectedSourceStatuses` -/

def Article.isProtected (row : Article) : Bool := row.status ∈ [.published]

def CaseStudy.isProtected (row : CaseStudy) : Bool := row.status ∈ [.approved, .published]

def SocialPostDraft.isProtected (row : SocialPostDraft) : Bool :=
  row.status ∈ [.approved, .scheduled, .published]

def protectedSourceError : Failure :=
  .permissionDenied
    "An approver is required to edit content that is already approved, scheduled, or published."

/-! ## Columns -/

section

variable (P : Platform)

/-- `parseOptionalDate(value, field)`. -/
def parseOptionalDate (value : Option String) (field : String) : Except Failure (Option Time) :=
  match orNull (value.map trim) with
  | none => pure none
  | some trimmed => do
    let parsed ← orThrow (P.parseDate trimmed) (.validation (field ++ " is invalid."))
    pure (some parsed)

/-- `publishedAtFor(status, value)`. -/
def publishedAtFor (published : Bool) (value : Option String) (now : Time) :
    Except Failure (Option Time) := do
  let publishedAt ← parseOptionalDate P value "publishedAt"
  pure (if published then some (publishedAt.getD now) else publishedAt)

/-- `normalizeSocialDraftScheduledAt(status, value)`. -/
def normalizeSocialDraftScheduledAt (status : SocialDraftStatus) (value : Option String) :
    Except Failure (Option Time) := do
  let scheduledAt ← parseOptionalDate P value "scheduledAt"
  throwIf (status = .scheduled ∧ scheduledAt = none)
    (.validation "scheduledAt is required for scheduled social drafts.")
  throwIf (scheduledAt.isSome ∧ status ∉ [.scheduled, .published])
    (.validation "scheduledAt can be set only for scheduled or published social drafts.")
  pure scheduledAt

/-- What `adminArticleWriteSchema` accepts. -/
structure AdminArticleWriteInput extends ReferenceFields where
  aiApproved : Bool := false
  title : String
  slug : String
  locale : PublicLocale := .en
  excerpt : String
  content : String
  category : String
  status : ContentStatus := .draft
  publishedAt : Option String := none

def articleData (actor : Principal) (body : AdminArticleWriteInput) (now : Time) :
    Except Failure Article := do
  assertArticleStatusAllowed actor body.status
  throwIf (body.aiApproved ∧ !canApproveArticles actor)
    (.permissionDenied "Content approval permission required.")
  throwIf ((body.status = .published ∨ body.aiApproved) ∧ !referenceReady body.toReferenceFields)
    (.validation "Complete source and review metadata before publication.")
  throwIf (body.reviewedAt.any (now < ·)) (.validation "Review date cannot be in the future.")
  let publishedAt ← publishedAtFor P (body.status = .published) body.publishedAt now
  pure
    { contentType := body.contentType
      sourceTitle := orNull (some body.sourceTitle)
      sourceUrl := orNull (some body.sourceUrl)
      referenceNumber := orNull (some body.referenceNumber)
      referenceYear := body.referenceYear
      referenceDate := body.referenceDate
      reviewedAt := body.reviewedAt
      reviewedById := if body.reviewedAt.isSome ∧ canApproveArticles actor then some actor.id else none
      aiApproved := body.aiApproved ∧ body.status = .published
      title := body.title
      slug := body.slug
      locale := body.locale
      excerpt := body.excerpt
      content := body.content
      category := body.category
      status := body.status
      publishedAt
      authorId := actor.id }

/-- What `adminCaseStudyWriteSchema` accepts. -/
structure AdminCaseStudyWriteInput where
  title : String
  slug : String
  locale : PublicLocale := .en
  category : String
  challenge : String
  approach : String
  generalOutcome : String
  lessons : String
  status : CaseStudyStatus := .draft
  isAnonymized : Bool := false
  publishedAt : Option String := none

/-- `/KMT-\d{4}-\d+/i`, in capitals. -/
def referencePattern : RegularExpression Char :=
  let digit := anyOf "0123456789".toList
  literally "KMT-" * digit ^ 4 * literally "-" * atLeast 1 digit

/-- `/\b[A-Z0-9._%+-]+@[A-Z0-9.-]+\.[A-Z]{2,}\b/i`, in capitals. -/
def emailPattern : RegularExpression Char :=
  let letters := "ABCDEFGHIJKLMNOPQRSTUVWXYZ"
  atLeast 1 (anyOf (letters ++ "0123456789._%+-").toList) * literally "@" *
    atLeast 1 (anyOf (letters ++ "0123456789.-").toList) * literally "." *
    atLeast 2 (anyOf letters.toList)

/-- `/\+?\d[\d\s().-]{8,}\d/`. -/
def phonePattern : RegularExpression Char :=
  let digits := "0123456789".toList
  maybe (literally "+") * anyOf digits * atLeast 8 (anyOf (digits ++ spaceChars ++ "().-".toList)) *
    anyOf digits

/-- A text has what looks like a reference, an e-mail address or a phone number in it. -/
def hasPrivateIdentifiers (text : String) : Bool :=
  let capitals := text.toList.map Char.toUpper
  searches referencePattern false capitals ∨ searches emailPattern true capitals ∨
    searches phonePattern false text.toList

/-- The texts of a case study, as they are checked. -/
def serializedCaseStudy (title challenge approach generalOutcome lessons : String) : String :=
  String.intercalate "\n" [title, challenge, approach, generalOutcome, lessons]

def assertCaseStudyIsPublicSafe (body : AdminCaseStudyWriteInput) : Except Failure Unit :=
  if body.status ∉ [.approved, .published] then pure ()
  else do
    throwIf (!body.isAnonymized)
      (.validation "Approved or published case studies must be anonymized.")
    throwIf (hasPrivateIdentifiers (serializedCaseStudy body.title body.challenge body.approach
        body.generalOutcome body.lessons))
      (.validation "Case study contains obvious private identifiers.")

def caseStudyData (actor : Principal) (body : AdminCaseStudyWriteInput) (now : Time) :
    Except Failure CaseStudy := do
  assertCaseStudyStatusAllowed actor body.status
  assertCaseStudyIsPublicSafe body
  let publishedAt ← publishedAtFor P (body.status = .published) body.publishedAt now
  pure
    { title := body.title
      slug := body.slug
      locale := body.locale
      category := body.category
      challenge := body.challenge
      approach := body.approach
      generalOutcome := body.generalOutcome
      lessons := body.lessons
      status := body.status
      isAnonymized := body.isAnonymized
      publishedAt
      approvedById := if body.status ∈ [.approved, .published, .rejected] then some actor.id else none }

/-- What `adminSocialDraftWriteSchema` accepts. -/
structure AdminSocialDraftWriteInput where
  title : String
  platform : String
  content : String
  sourceType : Option String := none
  sourceId : Option String := none
  status : SocialDraftStatus := .draft
  scheduledAt : Option String := none

def socialDraftData (actor : Principal) (body : AdminSocialDraftWriteInput) :
    Except Failure SocialPostDraft := do
  assertSocialDraftStatusAllowed actor body.status
  let scheduledAt ← normalizeSocialDraftScheduledAt P body.status body.scheduledAt
  pure
    { title := body.title
      platform := body.platform
      content := body.content
      sourceType := orNull body.sourceType
      sourceId := orNull body.sourceId
      status := body.status
      scheduledAt
      approvedById := if body.status ∈ [.approved, .scheduled, .published] then some actor.id else none
      createdById := actor.id }

end

/-! ## Writing -/

section

variable {α : Type}

/-- The row cannot stand beside another one. -/
def isTaken (conflicts : α → α → Bool) (t : Table Uuid (Written α)) (id : Uuid) (row : α) : Bool :=
  t.any fun id' e ↦ id' ≠ id ∧ conflicts e.row row

/-- `create({ data })`. -/
def createContent (conflicts : α → α → Bool) (t : Table Uuid (Written α)) (id : Uuid)
    (actor : Principal) (data : α) : Except Failure (Table Uuid (Written α)) := do
  throwIf (isTaken conflicts t id data) (.conflict "Slug already exists.")
  orThrow (t.create id ⟨data, actor⟩) .uniqueConstraint

/-- The transaction of an update, under the lock of the row.  `data existing` keeps what an update
does not write. -/
def updateContent (conflicts : α → α → Bool) (isProtected : α → Bool) (missing : String)
    (t : Table Uuid (Written α)) (id : Uuid) (actor : Principal) (canApprove : Bool)
    (data : α → α) : Except Failure (Table Uuid (Written α)) := do
  let existing ← orThrow (t.lookup id) (.notFound missing)
  throwIf (!canApprove ∧ isProtected existing.row) protectedSourceError
  throwIf (isTaken conflicts t id (data existing.row)) (.conflict "Slug already exists.")
  pure (t.update id fun e ↦ ⟨data e.row, actor⟩)

end

/-- `@@unique([locale, slug])`. -/
def Article.conflicts (a b : Article) : Bool := a.locale = b.locale ∧ a.slug = b.slug

/-- `@@unique([locale, slug])`. -/
def CaseStudy.conflicts (a b : CaseStudy) : Bool := a.locale = b.locale ∧ a.slug = b.slug

/-- A call with an accepted body of type `β`. -/
structure ContentWrite (β : Type) where
  actor : Principal
  /-- The row of an update, or the new row. -/
  id : String
  body : β
  now : Time

section

variable (P : Platform) (s : ContentStore)

def createAdminArticle (call : ContentWrite AdminArticleWriteInput) : Except Failure ContentStore := do
  assertCreateArticle call.actor
  let data ← articleData P call.actor call.body call.now
  let articles ← createContent Article.conflicts s.articles call.id call.actor data
  pure { s with articles }

def updateAdminArticle (call : ContentWrite AdminArticleWriteInput) : Except Failure ContentStore := do
  assertCreateArticle call.actor
  let articleId ← P.parseUuid call.id "Article id is invalid."
  let data ← articleData P call.actor call.body call.now
  let articles ← updateContent Article.conflicts Article.isProtected "Article was not found."
    s.articles articleId call.actor (canApproveArticles call.actor)
    fun existing ↦ { data with authorId := existing.authorId }
  pure { s with articles }

def createAdminCaseStudy (call : ContentWrite AdminCaseStudyWriteInput) :
    Except Failure ContentStore := do
  assertCreateCaseStudy call.actor
  let data ← caseStudyData P call.actor call.body call.now
  let caseStudies ← createContent CaseStudy.conflicts s.caseStudies call.id call.actor data
  pure { s with caseStudies }

def updateAdminCaseStudy (call : ContentWrite AdminCaseStudyWriteInput) :
    Except Failure ContentStore := do
  assertCreateCaseStudy call.actor
  let caseStudyId ← P.parseUuid call.id "Case study id is invalid."
  let data ← caseStudyData P call.actor call.body call.now
  let caseStudies ← updateContent CaseStudy.conflicts CaseStudy.isProtected
    "Case study was not found." s.caseStudies caseStudyId call.actor
    (canApproveCaseStudies call.actor) fun _ ↦ data
  pure { s with caseStudies }

def createAdminSocialDraft (call : ContentWrite AdminSocialDraftWriteInput) :
    Except Failure ContentStore := do
  assertCreateSocialDraft call.actor
  let data ← socialDraftData P call.actor call.body
  let socialPostDrafts ← createContent (fun _ _ ↦ false) s.socialPostDrafts call.id call.actor data
  pure { s with socialPostDrafts }

def updateAdminSocialDraft (call : ContentWrite AdminSocialDraftWriteInput) :
    Except Failure ContentStore := do
  assertCreateSocialDraft call.actor
  let draftId ← P.parseUuid call.id "Social draft id is invalid."
  let data ← socialDraftData P call.actor call.body
  let socialPostDrafts ← updateContent (fun _ _ ↦ false) SocialPostDraft.isProtected
    "Social draft was not found." s.socialPostDrafts draftId call.actor
    (canApproveSocialDrafts call.actor)
    fun existing ↦ { data with createdById := existing.createdById }
  pure { s with socialPostDrafts }

end

/-! ## Reading -/

/-- `knowledgeQuerySchema`, with empty texts for what is not asked for. -/
structure KnowledgeQuery where
  q : String := ""
  type : Option ReferenceType := none
  topic : String := ""
  reference : String := ""
  year : Option ℕ := none
  /-- The first and the last millisecond of the days, where they are days. -/
  fromDate : Option Time := none
  toDate : Option Time := none

/-- `knowledgeWhere(locale, input)`; `contains` compares as the database does. -/
def knowledgeWhere (contains : String → String → Bool) (locale : PublicLocale) (v : KnowledgeQuery)
    (now : Time) (row : Article) : Bool :=
  row.locale = locale ∧
    (v.type.isSome ∨ row.contentType ∈ [.judgment, .legislation]) ∧
    v.type.all (fun type ↦ row.contentType = type) ∧
    row.status = .published ∧ row.publishedAt.any (· ≤ now) ∧ row.reviewedAt.any (· ≤ now) ∧
    row.reviewedById.isSome ∧ row.sourceUrl.isSome ∧ row.sourceTitle.isSome ∧
    (if v.reference = "" then row.referenceNumber.isSome
      else row.referenceNumber.any (contains · v.reference)) ∧
    row.referenceYear.isSome ∧ v.year.all (fun year ↦ row.referenceYear = some year) ∧
    (v.topic = "" ∨ contains row.category v.topic) ∧
    (v.q = "" ∨ contains row.title v.q ∨ contains row.excerpt v.q ∨ contains row.content v.q) ∧
    row.referenceDate.any fun date ↦
      v.fromDate.all (fun first ↦ first ≤ date) ∧ v.toDate.all (fun last ↦ date ≤ last)

/-- `approvedBusinessReferences(locale)`. -/
def approvedBusinessReferences (contains : String → String → Bool) (s : ContentStore)
    (locale : PublicLocale) (now : Time) : List (Uuid × Written Article) :=
  s.articles.findMany
    (fun _ e ↦ e.row.aiApproved ∧ (knowledgeWhere contains locale {} now e.row ∨
      e.row.locale = locale ∧ e.row.contentType = .article ∧ e.row.status = .published ∧
        e.row.publishedAt.any (· ≤ now) ∧ e.row.reviewedAt.any (· ≤ now) ∧
        e.row.reviewedById.isSome ∧ e.row.sourceUrl.isSome ∧ e.row.sourceTitle.isSome))
    (fun a b ↦ b.2.row.reviewedAt.getD 0 ≤ a.2.row.reviewedAt.getD 0) 20

end KmtLegal
