import KmtLegal.Content.Publishing
import KmtLegal.Relational.Run

/-!
# Nothing unapproved is public

Every write replaces all columns of a row, so that a row is as its last writer left it.  A row in a
protected status was written by an actor with the approve permission of its kind: nobody else can
write such a status, or a row that has one.
-/

namespace KmtLegal

open Relational

/-! ## Approved rows -/

structure ArticleApproved (e : Written Article) : Prop where
  approver : e.row.isProtected → canApproveArticles e.writer
  reference : e.row.isProtected → referenceReady e.row.reference
  reviewer : e.row.isProtected → e.row.reviewedById = some e.writer.id
  aiApproved : e.row.aiApproved → e.row.isProtected

structure CaseStudyApproved (e : Written CaseStudy) : Prop where
  approver : e.row.isProtected → canApproveCaseStudies e.writer ∧
    e.row.approvedById = some e.writer.id
  anonymized : e.row.isProtected → e.row.isAnonymized
  safe : e.row.isProtected → ¬hasPrivateIdentifiers (serializedCaseStudy e.row.title
    e.row.challenge e.row.approach e.row.generalOutcome e.row.lessons)

structure SocialDraftApproved (e : Written SocialPostDraft) : Prop where
  approver : e.row.isProtected → canApproveSocialDrafts e.writer ∧
    e.row.approvedById = some e.writer.id

/-- Every row of the table is one of `I`. -/
def AllRows {α : Type} (I : Written α → Prop) (t : Table Uuid (Written α)) : Prop :=
  ∀ id e, t.lookup id = some e → I e

structure ContentApproved (s : ContentStore) : Prop where
  articles : AllRows ArticleApproved s.articles
  caseStudies : AllRows CaseStudyApproved s.caseStudies
  socialPostDrafts : AllRows SocialDraftApproved s.socialPostDrafts

/-! ## Writing rows -/

section

variable {α : Type} {I : Written α → Prop} {conflicts : α → α → Bool} {isProtected : α → Bool}
  {missing : String} {t t' : Table Uuid (Written α)} {id : Uuid} {actor : Principal}

theorem allRows_empty : AllRows I ∅ := by
  intro id e he
  rw [AList.lookup_empty] at he
  cases he

theorem allRows_createContent {data : α} (h : AllRows I t)
    (hcreate : createContent conflicts t id actor data = .ok t') (hdata : I ⟨data, actor⟩) :
    AllRows I t' := by
  obtain ⟨_, -, hcreate⟩ := bind_eq_ok.mp hcreate
  rw [orThrow_eq_ok, Table.create_eq_some] at hcreate
  obtain ⟨-, rfl⟩ := hcreate
  intro id' e he
  rw [Table.lookup_insert] at he
  split_ifs at he
  · obtain rfl := Option.some.inj he
    exact hdata
  · exact h id' e he

theorem allRows_updateContent {canApprove : Bool} {data : α → α} (h : AllRows I t)
    (hupdate : updateContent conflicts isProtected missing t id actor canApprove data = .ok t')
    (hdata : ∀ row, I ⟨data row, actor⟩) : AllRows I t' := by
  obtain ⟨existing, -, hupdate⟩ := bind_eq_ok.mp hupdate
  obtain ⟨_, -, hupdate⟩ := bind_eq_ok.mp hupdate
  obtain ⟨_, -, hupdate⟩ := bind_eq_ok.mp hupdate
  obtain rfl := pure_eq_ok.mp hupdate
  intro id' e he
  rw [Table.lookup_update] at he
  split_ifs at he
  · obtain ⟨e₀, -, rfl⟩ := Option.map_eq_some_iff.mp he
    exact hdata e₀.row
  · exact h id' e he

/-- An actor who may not approve leaves protected rows as they are. -/
theorem updateContent_protected {canApprove : Bool} {data : α → α}
    (hupdate : updateContent conflicts isProtected missing t id actor canApprove data = .ok t')
    (hactor : canApprove = false) {id' : Uuid} {e : Written α} (he : t.lookup id' = some e)
    (hprotected : isProtected e.row) : t'.lookup id' = some e := by
  obtain ⟨existing, hexisting, hupdate⟩ := bind_eq_ok.mp hupdate
  obtain ⟨_, hallowed, hupdate⟩ := bind_eq_ok.mp hupdate
  obtain ⟨_, -, hupdate⟩ := bind_eq_ok.mp hupdate
  obtain rfl := pure_eq_ok.mp hupdate
  rw [orThrow_eq_ok] at hexisting
  rw [throwIf_eq_ok] at hallowed
  by_cases hid : id' = id
  · subst hid
    obtain rfl := Option.some.inj (he.symm.trans hexisting)
    exact absurd ⟨by rw [hactor]; rfl, hprotected⟩ hallowed
  · rw [Table.lookup_update_of_ne _ _ hid, he]

end

/-! ## The columns of each kind -/

variable {P : Platform} {actor : Principal} {now : Time}

theorem orNull_getD (text : String) : (Js.orNull (some text)).getD "" = text := by
  unfold Js.orNull
  by_cases h : text = ""
  · rw [h]
    rfl
  · simp [Option.filter, h]

/-- The columns of an article, whoever the author is. -/
theorem articleData_approved {body : AdminArticleWriteInput} {row : Article}
    (h : articleData P actor body now = .ok row) (authorId : Uuid) :
    ArticleApproved ⟨{ row with authorId }, actor⟩ := by
  simp only [articleData, bind_eq_ok, pure_eq_ok, assertArticleStatusAllowed, throwIf_eq_ok] at h
  obtain ⟨_, hstatus, _, -, _, hready, _, -, publishedAt, -, rfl⟩ := h
  have happrove : body.status = .published → canApproveArticles actor := by
    intro hpublished
    by_contra hno
    exact hstatus ⟨by simp [hpublished], by simpa using hno⟩
  have hreference : body.status = .published → referenceReady body.toReferenceFields := by
    intro hpublished
    by_contra hno
    exact hready ⟨.inl hpublished, by simpa using hno⟩
  have hprotected : ∀ row : Article, row.isProtected ↔ row.status = .published := by
    simp [Article.isProtected]
  constructor
  · intro hrow
    exact happrove ((hprotected _).mp hrow)
  · intro hrow
    have hready := hreference ((hprotected _).mp hrow)
    simpa only [Article.reference, orNull_getD] using hready
  · intro hrow
    have hpublished := (hprotected _).mp hrow
    have hready := hreference hpublished
    simp only [referenceReady, decide_eq_true_eq] at hready
    exact if_pos ⟨hready.2.2.1, happrove hpublished⟩
  · intro hai
    simp only [decide_eq_true_eq] at hai
    exact (hprotected _).mpr hai.2

theorem caseStudyData_approved {body : AdminCaseStudyWriteInput} {row : CaseStudy}
    (h : caseStudyData P actor body now = .ok row) : CaseStudyApproved ⟨row, actor⟩ := by
  simp only [caseStudyData, bind_eq_ok, pure_eq_ok, assertCaseStudyStatusAllowed,
    throwIf_eq_ok] at h
  obtain ⟨_, hstatus, _, hsafe, publishedAt, -, rfl⟩ := h
  have hpublic : body.status ∈ [.approved, .published] → body.isAnonymized ∧
      ¬hasPrivateIdentifiers (serializedCaseStudy body.title body.challenge body.approach
        body.generalOutcome body.lessons) := by
    intro hmem
    rw [assertCaseStudyIsPublicSafe, if_neg (not_not.mpr hmem)] at hsafe
    simp only [bind_eq_ok, throwIf_eq_ok] at hsafe
    obtain ⟨_, hanonymized, hidentifiers⟩ := hsafe
    exact ⟨by simpa using hanonymized, hidentifiers⟩
  constructor
  · intro hrow
    have hmem : body.status ∈ [.approved, .published] := of_decide_eq_true hrow
    have hrestricted : body.status ∈
        ([.approved, .published] ++ [.rejected, .archived] : List CaseStudyStatus) :=
      List.mem_append_left _ hmem
    have hnamed : body.status ∈ ([.approved, .published] ++ [.rejected] : List CaseStudyStatus) :=
      List.mem_append_left _ hmem
    refine ⟨?_, if_pos hnamed⟩
    by_contra hno
    exact hstatus ⟨hrestricted, by simpa using hno⟩
  · exact fun hrow ↦ (hpublic (of_decide_eq_true hrow)).1
  · exact fun hrow ↦ (hpublic (of_decide_eq_true hrow)).2

/-- The columns of a social draft, whoever has created it. -/
theorem socialDraftData_approved {body : AdminSocialDraftWriteInput} {row : SocialPostDraft}
    (h : socialDraftData P actor body = .ok row) (createdById : Uuid) :
    SocialDraftApproved ⟨{ row with createdById }, actor⟩ := by
  simp only [socialDraftData, bind_eq_ok, pure_eq_ok, assertSocialDraftStatusAllowed,
    throwIf_eq_ok] at h
  obtain ⟨_, hstatus, scheduledAt, -, rfl⟩ := h
  constructor
  intro hrow
  have hmem : body.status ∈ [.approved, .scheduled, .published] := of_decide_eq_true hrow
  have hrestricted : body.status ∈
      ([.approved, .scheduled, .published] ++ [.rejected, .archived] : List SocialDraftStatus) :=
    List.mem_append_left _ hmem
  refine ⟨?_, if_pos hmem⟩
  by_contra hno
  exact hstatus ⟨hrestricted, by simpa using hno⟩

/-! ## Every history -/

inductive ContentCall where
  | createAdminArticle (call : ContentWrite AdminArticleWriteInput)
  | updateAdminArticle (call : ContentWrite AdminArticleWriteInput)
  | createAdminCaseStudy (call : ContentWrite AdminCaseStudyWriteInput)
  | updateAdminCaseStudy (call : ContentWrite AdminCaseStudyWriteInput)
  | createAdminSocialDraft (call : ContentWrite AdminSocialDraftWriteInput)
  | updateAdminSocialDraft (call : ContentWrite AdminSocialDraftWriteInput)

def ContentCall.serve (P : Platform) (s : ContentStore) :
    ContentCall → Except Failure ContentStore
  | createAdminArticle call => KmtLegal.createAdminArticle P s call
  | updateAdminArticle call => KmtLegal.updateAdminArticle P s call
  | createAdminCaseStudy call => KmtLegal.createAdminCaseStudy P s call
  | updateAdminCaseStudy call => KmtLegal.updateAdminCaseStudy P s call
  | createAdminSocialDraft call => KmtLegal.createAdminSocialDraft P s call
  | updateAdminSocialDraft call => KmtLegal.updateAdminSocialDraft P s call

/-- One call; a call that throws is rolled back. -/
def contentStep (P : Platform) (s : ContentStore) (call : ContentCall) : ContentStore :=
  commit (call.serve P s) s

theorem serve_approved {s s' : ContentStore} {call : ContentCall} (h : ContentApproved s)
    (hserve : call.serve P s = .ok s') : ContentApproved s' := by
  cases call with
  | createAdminArticle call =>
    obtain ⟨_, -, hserve⟩ := bind_eq_ok.mp hserve
    obtain ⟨row, hdata, hserve⟩ := bind_eq_ok.mp hserve
    obtain ⟨articles, hcreate, hserve⟩ := bind_eq_ok.mp hserve
    obtain rfl := pure_eq_ok.mp hserve
    have hrow := articleData_approved hdata row.authorId
    exact ⟨allRows_createContent h.articles hcreate hrow, h.caseStudies, h.socialPostDrafts⟩
  | updateAdminArticle call =>
    obtain ⟨_, -, hserve⟩ := bind_eq_ok.mp hserve
    obtain ⟨_, -, hserve⟩ := bind_eq_ok.mp hserve
    obtain ⟨row, hdata, hserve⟩ := bind_eq_ok.mp hserve
    obtain ⟨articles, hupdate, hserve⟩ := bind_eq_ok.mp hserve
    obtain rfl := pure_eq_ok.mp hserve
    have hrow := fun existing : Article ↦ articleData_approved hdata existing.authorId
    exact ⟨allRows_updateContent h.articles hupdate hrow, h.caseStudies, h.socialPostDrafts⟩
  | createAdminCaseStudy call =>
    obtain ⟨_, -, hserve⟩ := bind_eq_ok.mp hserve
    obtain ⟨row, hdata, hserve⟩ := bind_eq_ok.mp hserve
    obtain ⟨caseStudies, hcreate, hserve⟩ := bind_eq_ok.mp hserve
    obtain rfl := pure_eq_ok.mp hserve
    have hrow := caseStudyData_approved hdata
    exact ⟨h.articles, allRows_createContent h.caseStudies hcreate hrow, h.socialPostDrafts⟩
  | updateAdminCaseStudy call =>
    obtain ⟨_, -, hserve⟩ := bind_eq_ok.mp hserve
    obtain ⟨_, -, hserve⟩ := bind_eq_ok.mp hserve
    obtain ⟨row, hdata, hserve⟩ := bind_eq_ok.mp hserve
    obtain ⟨caseStudies, hupdate, hserve⟩ := bind_eq_ok.mp hserve
    obtain rfl := pure_eq_ok.mp hserve
    have hrow := fun _ : CaseStudy ↦ caseStudyData_approved hdata
    exact ⟨h.articles, allRows_updateContent h.caseStudies hupdate hrow, h.socialPostDrafts⟩
  | createAdminSocialDraft call =>
    obtain ⟨_, -, hserve⟩ := bind_eq_ok.mp hserve
    obtain ⟨row, hdata, hserve⟩ := bind_eq_ok.mp hserve
    obtain ⟨socialPostDrafts, hcreate, hserve⟩ := bind_eq_ok.mp hserve
    obtain rfl := pure_eq_ok.mp hserve
    have hrow := socialDraftData_approved hdata row.createdById
    exact ⟨h.articles, h.caseStudies, allRows_createContent h.socialPostDrafts hcreate hrow⟩
  | updateAdminSocialDraft call =>
    obtain ⟨_, -, hserve⟩ := bind_eq_ok.mp hserve
    obtain ⟨_, -, hserve⟩ := bind_eq_ok.mp hserve
    obtain ⟨row, hdata, hserve⟩ := bind_eq_ok.mp hserve
    obtain ⟨socialPostDrafts, hupdate, hserve⟩ := bind_eq_ok.mp hserve
    obtain rfl := pure_eq_ok.mp hserve
    have hrow := fun existing : SocialPostDraft ↦
      socialDraftData_approved hdata existing.createdById
    exact ⟨h.articles, h.caseStudies, allRows_updateContent h.socialPostDrafts hupdate hrow⟩

/-- The references of the assistant were approved. -/
def ReferencesApproved (s : ContentStore) : Prop :=
  ∀ contains locale now, ∀ e ∈ approvedBusinessReferences contains s locale now,
    canApproveArticles e.2.writer ∧ referenceReady e.2.row.reference

theorem referencesApproved {s : ContentStore} (h : ContentApproved s) : ReferencesApproved s := by
  intro contains locale now e he
  obtain ⟨hrow, hselected⟩ := Table.mem_findMany he
  simp only [decide_eq_true_eq] at hselected
  have happroved := h.articles e.1 e.2 hrow
  have hprotected := happroved.aiApproved hselected.1
  exact ⟨happroved.approver hprotected, happroved.reference hprotected⟩

/-- Nothing unapproved becomes public. -/
theorem content_approved (P : Platform) {s : ContentStore} (h : ContentApproved s)
    (l : List ContentCall) :
    AllStates (contentStep P) (fun s ↦ ContentApproved s ∧ ReferencesApproved s) s l := by
  have hstates : AllStates (contentStep P) ContentApproved s l :=
    allStates_of_invariant (fun s call hs ↦ commit_of hs fun _ ↦ serve_approved hs) h l
  exact allStates_mono (fun s hs ↦ ⟨hs, referencesApproved hs⟩) hstates

/-! ### An article -/

theorem contentApproved_empty : ContentApproved {} :=
  ⟨allRows_empty, allRows_empty, allRows_empty⟩

/-- An approver publishes a reviewed article. -/
def sampleArticle : ContentWrite AdminArticleWriteInput where
  actor := ⟨"0f0e0d0c-1b1a-4918-8716-151413121110", "Super Admin", none, none⟩
  id := "4b3c2d1e-0f9a-4b8c-9d7e-6f5a4b3c2d1e"
  body :=
    { sourceTitle := "Companies Act", sourceUrl := "https://example.com/act", reviewedAt := some 10
      aiApproved := true, title := "Founding a company", slug := "founding-a-company"
      excerpt := "What a founder needs.", content := "The steps, the documents and the fees."
      category := "companies", status := .published }
  now := 20

theorem content_approved_sample :
    AllStates (contentStep plainPlatform) (fun s ↦ ContentApproved s ∧ ReferencesApproved s) {}
      [.createAdminArticle sampleArticle] :=
  content_approved plainPlatform contentApproved_empty [.createAdminArticle sampleArticle]

/-- The assistant may use it. -/
example : (approvedBusinessReferences (fun _ _ ↦ false) (contentStep plainPlatform {}
    (.createAdminArticle sampleArticle)) .en 20).length = 1 := by decide +kernel

end KmtLegal
