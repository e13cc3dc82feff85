import KmtLegal.Services.Engagement
import KmtLegal.Services.Formation

/-!
# Calls on interviews, interleaved

What each statement of a call does to the interviews, the reports and the requests, and what actions
on a service request leave of the draft that was submitted.
-/

namespace KmtLegal

open Relational

/-! ## Systems -/

/-- Any number of calls. -/
abbrev FormationCalls (ω : Type) := Processes ω Database FormationPhase

inductive FormationEvent (ω : Type) where
  /-- A statement of a call of `actOnFormation`. -/
  | work (w : ω) (move : FormationMove)
  | serve (call : ActOnServiceRequest)
  /-- Sessions and accounts change in any way. -/
  | others (assistantSessions : Table Uuid AssistantSession) (clients : Table Uuid Client)
      (users : Table Uuid User)

def formationStep {ω : Type} [DecidableEq ω] (P : Platform) (call : ω → ActOnFormation)
    (s : FormationCalls ω) : FormationEvent ω → FormationCalls ω
  | .work w move => interleave (fun w ↦ formationCallStep P (call w)) s (w, move)
  | .serve request => { s with store := serveServiceRequest P s.store request }
  | .others assistantSessions clients users =>
    { s with store := { s.store with assistantSessions, clients, users } }

/-! ## Interviews that go on -/

/-- The interview goes on: the draft stays as long as the revision does, and everything after the
submission. -/
def InterviewLater (a b : Option FormationInterview) : Prop :=
  ∀ row ∈ a, ∃ row' ∈ b, row'.id = row.id ∧ row'.locale = row.locale ∧
    row.revision ≤ row'.revision ∧ (row.revision = row'.revision → row'.draft = row.draft) ∧
    (row.serviceRequestId.isSome → row' = row)

namespace InterviewLater

theorem refl (a : Option FormationInterview) : InterviewLater a a := fun row hrow ↦
  ⟨row, hrow, rfl, rfl, le_rfl, fun _ ↦ rfl, fun _ ↦ rfl⟩

theorem trans {a b c : Option FormationInterview} (h : InterviewLater a b)
    (h' : InterviewLater b c) : InterviewLater a c := by
  intro row hrow
  obtain ⟨row', hrow', hid, hlocale, hle, hdraft, hclosed⟩ := h row hrow
  obtain ⟨row'', hrow'', hid', hlocale', hle', hdraft', hclosed'⟩ := h' row' hrow'
  refine ⟨row'', hrow'', hid'.trans hid, hlocale'.trans hlocale, hle.trans hle', ?_, ?_⟩
  · intro heq
    have hsame : row.revision = row'.revision := hle.antisymm (heq ▸ hle')
    rw [hdraft' (hsame ▸ heq), hdraft hsame]
  · intro hsome
    obtain rfl := hclosed hsome
    exact hclosed' hsome

end InterviewLater

/-! ## What a statement does -/

/-- The rows an interview is about stay. -/
structure SameFormation (db db' : Database) : Prop where
  interviews : db'.formationInterviews = db.formationInterviews
  reports : db'.formationReports = db.formationReports
  requests : db'.serviceRequests = db.serviceRequests
  threads : db'.conversationThreads = db.conversationThreads

theorem SameFormation.refl (db : Database) : SameFormation db db := ⟨rfl, rfl, rfl, rfl⟩

def FormationPhase.isActing : FormationPhase → Bool
  | act _ _ => true
  | _ => false

/-- What a statement does, and what the call knows when it comes to its transaction. -/
inductive FormationOutcome (P : Platform) (call : ActOnFormation) (move : FormationMove)
    (db : Database) (phase : FormationPhase) (db' : Database) (phase' : FormationPhase) : Prop
  | quiet (hsame : SameFormation db db')
      (hphase : phase'.isActing → ∀ v, call.action ≠ .change v .report)
  /-- A report has read the interview, and has asked for an assessment if there is none. -/
  | read (row : FormationInterview) (reading : FormationReading)
      (assessment : Option FormationAssessment) (hphase : phase = .prepare)
      (hmove : move = .proceed reading) (haction : call.action = .change row.revision .report)
      (hrow : db.formationInterviews.lookup call.sessionId = some row) (hdb : db' = db)
      (hphase' : phase' = .act none assessment)
      (hassessment : ∀ a ∈ assessment, a = assessFormation P reading row.draft
        (.ofText row.locale) (call.actor.map Principal.id))
      (hnone : assessment = none → (db.formationReports.lookup (row.id, row.revision)).isSome)
  | started (row : FormationInterview)
      (hnone : db.formationInterviews.lookup call.sessionId = none)
      (hfresh : ∀ sid r, db.formationInterviews.lookup sid = some r → r.id ≠ row.id)
      (hopen : row.serviceRequestId = none)
      (hdb : db' =
        { db with formationInterviews := db.formationInterviews.insert call.sessionId row })
      (hphase' : ¬phase'.isActing)
  | saved (row : FormationInterview) (draft : FormationDraft)
      (hrow : db.formationInterviews.lookup call.sessionId = some row)
      (hopen : row.serviceRequestId = none)
      (hdb : db' = (saveFormation call db row draft).1) (hphase' : ¬phase'.isActing)
  | reported (row : FormationInterview) (clientId : Option Uuid)
      (assessment : Option FormationAssessment) (hphase : phase = .act clientId assessment)
      (haction : call.action = .change row.revision .report)
      (hrow : db.formationInterviews.lookup call.sessionId = some row)
      (hopen : row.serviceRequestId = none) (hdb : db' = reportFormation P db row assessment)
      (hphase' : ¬phase'.isActing)
  | submitted (row : FormationInterview) (snap : FormationSnapshot) (clientId : Uuid)
      (thread : ConversationThread)
      (hrow : db.formationInterviews.lookup call.sessionId = some row)
      (hopen : row.serviceRequestId = none)
      (hsnap : db.formationReports.lookup (row.id, row.revision) = some snap)
      (hrequest : db.serviceRequests.lookup call.newRequestId = none)
      (hthread : db.conversationThreads.lookup call.newThreadId = none)
      (hinterviews : db'.formationInterviews = db.formationInterviews.insert call.sessionId
        { row with serviceRequestId := some call.newRequestId })
      (hreports : db'.formationReports = db.formationReports)
      (hrequests : db'.serviceRequests = db.serviceRequests.insert call.newRequestId
        (formationRequest call row clientId))
      (hthreads : db'.conversationThreads = db.conversationThreads.insert call.newThreadId thread)
      (hphase' : ¬phase'.isActing)

section

variable {P : Platform} {call : ActOnFormation} {db db' : Database} {clock : TurnClock}
  {row row' : FormationInterview}

theorem startFormation_ok {locale : PublicLocale} {move : FormationMove} {phase : FormationPhase}
    (h : startFormation call db clock locale = .ok (db', row)) :
    FormationOutcome P call move db phase db' (.done (.ok row)) := by
  unfold startFormation at h
  split at h
  · cases h
    exact .quiet (.refl _) fun h ↦ absurd h Bool.false_ne_true
  · rename_i hnone
    simp only [bind_eq_ok, throwIf_eq_ok, pure_eq_ok, Prod.mk.injEq, Bool.not_eq_true,
      Table.any_eq_false, decide_eq_true_eq] at h
    obtain ⟨_, hfresh, rfl, rfl⟩ := h
    exact .started _ hnone (fun sid r hr hid ↦ hfresh sid r hr hid) rfl rfl Bool.false_ne_true

theorem readForReport_ok {reading : FormationReading} {revision : ℕ}
    {assessment : Option FormationAssessment} (haction : call.action = .change revision .report)
    (h : readForReport P call db reading revision = .ok assessment) :
    FormationOutcome P call (.proceed reading) db .prepare db (.act none assessment) := by
  simp only [readForReport, bind_eq_ok, orThrow_eq_ok, Option.filter_eq_some_iff,
    decide_eq_true_eq] at h
  obtain ⟨row, ⟨hrow, rfl⟩, h⟩ := h
  split_ifs at h with hreport
  · cases h
    exact .read row reading none rfl rfl haction hrow rfl rfl
      (fun a h ↦ absurd h (Option.not_mem_none a)) fun _ ↦ hreport
  · cases h
    refine .read row reading _ rfl rfl haction hrow rfl rfl (fun a ha ↦ ?_)
      fun hnone ↦ absurd hnone (Option.some_ne_none _)
    exact (Option.some.inj ha).symm

theorem createServiceRequest_eq_ok {id : Uuid} {request : ServiceRequest}
    (h : db.createServiceRequest id request = .ok db') :
    db.serviceRequests.lookup id = none ∧
      db' = { db with serviceRequests := db.serviceRequests.insert id request } := by
  simp only [Database.createServiceRequest, bind_eq_ok, throwIf_eq_ok, orThrow_eq_ok,
    Table.create_eq_some, pure_eq_ok] at h
  obtain ⟨_, -, _, ⟨hnone, rfl⟩, rfl⟩ := h
  exact ⟨hnone, rfl⟩

theorem submitFormation_ok {clientId actorId : Uuid} {move : FormationMove} {phase : FormationPhase}
    (hrow : db.formationInterviews.lookup call.sessionId = some row)
    (hopen : row.serviceRequestId = none)
    (h : submitFormation call db clock row clientId actorId = .ok (db', row')) :
    FormationOutcome P call move db phase db' (.done (.ok row')) := by
  simp only [submitFormation, bind_eq_ok, throwIf_eq_ok, orThrow_eq_ok, Table.create_eq_some,
    pure_eq_ok, Prod.mk.injEq] at h
  obtain ⟨_, -, _, hreport, _, ⟨hthread, rfl⟩, _, -, db₁, hcreate, _, ⟨-, rfl⟩, rfl, -⟩ := h
  obtain ⟨hrequest, rfl⟩ := createServiceRequest_eq_ok hcreate
  obtain ⟨snap, hsnap⟩ := Option.ne_none_iff_exists'.mp hreport
  exact .submitted row snap clientId _ hrow hopen hsnap hrequest hthread rfl rfl rfl rfl
    Bool.false_ne_true

/-- What a transaction that succeeded did. -/
theorem changeFormation_ok {move : FormationMove} {revision : ℕ} {change : FormationChange}
    {clientId : Option Uuid} {assessment : Option FormationAssessment}
    (haction : call.action = .change revision change)
    (h : changeFormation P call db clock revision change clientId assessment = .ok (db', row)) :
    FormationOutcome P call move db (.act clientId assessment) db' (.done (.ok row)) := by
  simp only [changeFormation, bind_eq_ok, orThrow_eq_ok] at h
  obtain ⟨_, -, row₀, hrow, h⟩ := h
  split_ifs at h with hclosed hsubmit
  · cases h
    exact .quiet (.refl _) fun h ↦ absurd h Bool.false_ne_true
  · simp only [bind_eq_ok, throwIf_eq_ok, ne_eq, not_not] at h
    obtain ⟨_, rfl, h⟩ := h
    have hopen : row₀.serviceRequestId = none := by simpa using hclosed
    split at h
    · cases h
      exact .saved row₀ _ hrow hopen rfl Bool.false_ne_true
    · cases h
      exact .reported row clientId assessment rfl haction hrow hopen rfl Bool.false_ne_true
    · simp only [bind_eq_ok, orThrow_eq_ok] at h
      obtain ⟨_, -, _, -, h⟩ := h
      exact submitFormation_ok hrow hopen h

/-- The ownership comes before everything else. -/
theorem afterOwnership_acting (clock : TurnClock) (seen : AssistantSession) :
    ¬(afterOwnership clock seen).isActing := by
  unfold afterOwnership
  split_ifs <;> nofun

theorem prepareFormation_outcome (reading : FormationReading) :
    FormationOutcome P call (.proceed reading) db .prepare (prepareFormation P call db reading).1
      (prepareFormation P call db reading).2 := by
  unfold prepareFormation
  split
  · split
    · rename_i h
      exact startFormation_ok h
    · exact .quiet (.refl _) nofun
  · rename_i haction
    split
    · rename_i h
      exact readForReport_ok haction h
    · exact .quiet (.refl _) nofun
  · rename_i haction
    split
    · exact .quiet (.refl _) fun _ v ↦ by rw [haction]; nofun
    · exact .quiet (.refl _) nofun
  · rename_i haction
    exact .quiet (.refl _) fun _ v ↦ by rw [haction]; nofun

/-- Every statement has one of the outcomes. -/
theorem formationCallStep_outcome (P : Platform) (call : ActOnFormation) (move : FormationMove)
    (db : Database) (phase : FormationPhase) :
    FormationOutcome P call move db phase (formationCallStep P call move db phase).1
      (formationCallStep P call move db phase).2 := by
  cases move with
  | fails failure => cases phase <;> exact .quiet (.refl _) nofun
  | proceed reading =>
    cases phase with
    | begin =>
      refine .quiet (.refl _) fun hacting ↦ ?_
      simp only [formationCallStep, ownFormationSession] at hacting
      split at hacting
      · split_ifs at hacting
        · cases hacting
        · exact absurd hacting (afterOwnership_acting _ _)
      · cases hacting
    | account seen =>
      refine .quiet (.refl _) fun hacting ↦ ?_
      simp only [formationCallStep, checkFormationAccount] at hacting
      split at hacting
      · cases hacting
      · exact absurd hacting (afterOwnership_acting _ _)
      · exact absurd hacting (afterOwnership_acting _ _)
    | recover seen => exact .quiet ⟨rfl, rfl, rfl, rfl⟩ nofun
    | reread =>
      refine .quiet (.refl _) fun hacting ↦ ?_
      simp only [formationCallStep, rereadFormationSession] at hacting
      split at hacting <;> cases hacting
    | prepare => exact prepareFormation_outcome reading
    | act clientId assessment =>
      unfold formationCallStep
      simp only
      split
      · rename_i haction
        split
        · rename_i h
          exact changeFormation_ok haction h
        · exact .quiet (.refl _) nofun
      · exact .quiet (.refl _) nofun
    | done answer => exact .quiet (.refl _) nofun

end

/-! ## The request afterwards -/

section

variable {P : Platform} {db db' : Database} {call : ActOnServiceRequest} {row : ServiceRequest}
  {effect : ServiceEffect}

/-- A new intake repeats the text of the draft, and so the draft. -/
theorem saveIntake_formation {intake : ServiceIntake}
    (h : saveIntake db call row intake = .ok effect) (hkind : row.kind = .companyFormation) :
    (effect.change row).intake.formation = row.intake.formation := by
  simp only [saveIntake, bind_eq_ok, throwIf_eq_ok, pure_eq_ok, hkind, true_and, ne_eq,
    Decidable.not_not] at h
  obtain ⟨_, -, _, -, _, -, _, -, _, htext, rfl⟩ := h
  exact Option.map_injective FormationDraft.stringify_injective htext

/-- No action touches an interview or the draft of a request about a company. -/
theorem serviceEffect_formation (h : serviceEffect P db call row = .ok effect) :
    effect.db.formationInterviews = db.formationInterviews ∧
      effect.db.formationReports = db.formationReports ∧ (effect.change row).kind = row.kind ∧
      (row.kind = .companyFormation →
        (effect.change row).intake.formation = row.intake.formation) := by
  unfold serviceEffect at h
  split at h
  · refine ⟨?_, ?_, ?_, saveIntake_formation h⟩ <;>
    · simp only [saveIntake, bind_eq_ok, throwIf_eq_ok, pure_eq_ok] at h
      obtain ⟨_, -, _, -, _, -, _, -, _, -, rfl⟩ := h
      rfl
  · simp only [submitService, bind_eq_ok, throwIf_eq_ok, pure_eq_ok, Prod.exists] at h
    obtain ⟨_, -, _, -, db', threadId, hthread, rfl⟩ := h
    have hframe := openServiceThread_frame hthread
    exact ⟨by rw [hframe], by rw [hframe], rfl, fun _ ↦ rfl⟩
  · simp only [assignService, bind_eq_ok, throwIf_eq_ok, pure_eq_ok] at h
    obtain ⟨_, -, _, -, rfl⟩ := h
    exact ⟨rfl, rfl, rfl, fun _ ↦ rfl⟩
  · simp only [quoteService, bind_eq_ok, throwIf_eq_ok, pure_eq_ok] at h
    obtain ⟨_, -, rfl⟩ := h
    exact ⟨rfl, rfl, rfl, fun _ ↦ rfl⟩
  · simp only [acceptService, bind_eq_ok, throwIf_eq_ok, orThrow_eq_ok] at h
    obtain ⟨_, -, quote, -, h⟩ := h
    split at h
    · simp only [bind_eq_ok, pure_eq_ok, Database.createPayment_eq_ok] at h
      obtain ⟨_, ⟨-, -, rfl⟩, rfl⟩ := h
      exact ⟨rfl, rfl, rfl, fun _ ↦ rfl⟩
    · cases h
    · cases h
  · simp only [messageService, bind_eq_ok, throwIf_eq_ok] at h
    obtain ⟨_, -, _, -, h⟩ := h
    split at h
    · simp only [bind_eq_ok, pure_eq_ok] at h
      obtain ⟨db', hmessage, rfl⟩ := h
      have hframe := postServiceMessage_frame hmessage
      exact ⟨by rw [hframe], by rw [hframe], rfl, fun _ ↦ rfl⟩
    · cases h
      exact ⟨rfl, rfl, rfl, fun _ ↦ rfl⟩
  · obtain ⟨hdb, hchange, -⟩ := transition_engaged h
    rw [hdb, hchange]
    exact ⟨rfl, rfl, rfl, fun _ ↦ rfl⟩

/-- What a call leaves of a request about a company. -/
structure RequestKept (row row' : ServiceRequest) : Prop where
  kind : row'.kind = row.kind
  formation : row.kind = .companyFormation → row'.intake.formation = row.intake.formation

theorem serveServiceRequest_formation (P : Platform) (db : Database) (call : ActOnServiceRequest) :
    (serveServiceRequest P db call).formationInterviews = db.formationInterviews ∧
      (serveServiceRequest P db call).formationReports = db.formationReports ∧
      Table.RowsRelated RequestKept db.serviceRequests
        (serveServiceRequest P db call).serviceRequests := by
  cases hact : actOnServiceRequest P db call with
  | error e =>
    rw [serveServiceRequest, hact, commit_error]
    exact ⟨rfl, rfl, .refl (fun _ ↦ ⟨rfl, fun _ ↦ rfl⟩) _⟩
  | ok db' =>
    rw [serveServiceRequest, hact, commit_ok]
    simp only [actOnServiceRequest, bind_eq_ok, throwIf_eq_ok, orThrow_eq_ok, pure_eq_ok] at hact
    obtain ⟨_, -, row, hrow, _, -, _, -, effect, heffect, _, -, rfl⟩ := hact
    have hrow : db.serviceRequests.lookup call.id = some row := (Option.filter_eq_some_iff.mp hrow).1
    obtain ⟨hinterviews, hreports, hkind, hformation⟩ := serviceEffect_formation heffect
    refine ⟨hinterviews, hreports, ?_⟩
    rw [(serviceEffect_ok heffect).1]
    refine .update (fun _ ↦ ⟨rfl, fun _ ↦ rfl⟩) fun r hr ↦ ?_
    rw [hrow] at hr
    obtain rfl := Option.some.inj hr
    exact ⟨hkind, hformation⟩

end

end KmtLegal
