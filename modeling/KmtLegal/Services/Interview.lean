import KmtLegal.Services.FormationOutcome

/-!
# What an interview promises

The interview of a session is submitted once, as it was reported.  A draft changes with the revision
only, so the revision a report was assessed at tells its draft, however long the assistant took for
the assessment.  The text of the submitted draft, which later changes of the service request have to
repeat, tells the draft as well.
-/

namespace KmtLegal

open Relational

/-! ## Histories -/

section

variable {ω : Type} [DecidableEq ω] (P : Platform) (call : ω → ActOnFormation)
  (s : FormationCalls ω) (sid : Uuid)

/-- The interview of the session after some events. -/
def interviewAt (l : List (FormationEvent ω)) : Option FormationInterview :=
  (run (formationStep P call) s l).store.formationInterviews.lookup sid

/-- A report call of the session has read the interview at version `v` and has got the assessment
for the draft it found. -/
def Assessed (l : List (FormationEvent ω)) (v : ℕ) (draft : FormationDraft)
    (assessment : FormationAssessment) : Prop :=
  ∃ l₁ w reading row, l₁ ++ [.work w (.proceed reading)] <+: l ∧ (call w).sessionId = sid ∧
    (call w).action = .change v .report ∧ (run (formationStep P call) s l₁).process w = .prepare ∧
    interviewAt P call s sid l₁ = some row ∧ row.revision = v ∧ row.draft = draft ∧
    assessment = assessFormation P reading draft (.ofText row.locale)
      ((call w).actor.map Principal.id)

/-- The interview was at version `v` with the draft. -/
def Drafted (l : List (FormationEvent ω)) (v : ℕ) (draft : FormationDraft) : Prop :=
  ∃ l₁ row, l₁ <+: l ∧ interviewAt P call s sid l₁ = some row ∧ row.revision = v ∧ row.draft = draft

variable {P call s sid} {l l₁ l₂ : List (FormationEvent ω)} {i : FormationEvent ω} {v : ℕ}
  {draft : FormationDraft} {assessment : FormationAssessment} {row row' : FormationInterview}

theorem Assessed.mono (h : Assessed P call s sid l₁ v draft assessment) (hl : l₁ <+: l) :
    Assessed P call s sid l v draft assessment := by
  obtain ⟨l₀, w, reading, row, hprefix, h⟩ := h
  exact ⟨l₀, w, reading, row, hprefix.trans hl, h⟩

theorem Drafted.mono (h : Drafted P call s sid l₁ v draft) (hl : l₁ <+: l) :
    Drafted P call s sid l v draft := by
  obtain ⟨l₀, row, hprefix, h⟩ := h
  exact ⟨l₀, row, hprefix.trans hl, h⟩

/-- What a statement of a call does to the interview of any session. -/
theorem FormationOutcome.interviewLater {call : ActOnFormation} {move : FormationMove}
    {db db' : Database} {phase phase' : FormationPhase}
    (h : FormationOutcome P call move db phase db' phase') (sid : Uuid) :
    InterviewLater (db.formationInterviews.lookup sid) (db'.formationInterviews.lookup sid) := by
  have hinsert : ∀ row row' : FormationInterview,
      db.formationInterviews.lookup call.sessionId = some row →
      InterviewLater (some row) (some row') → InterviewLater (db.formationInterviews.lookup sid)
        ((db.formationInterviews.insert call.sessionId row').lookup sid) := by
    intro row row' hrow hlater
    rw [Table.lookup_insert]
    split_ifs with hsid
    · rw [hsid, hrow]
      exact hlater
    · exact .refl _
  have hopenRow : ∀ row row' : FormationInterview, row.serviceRequestId = none →
      row'.id = row.id → row'.locale = row.locale → row.revision ≤ row'.revision →
      (row.revision = row'.revision → row'.draft = row.draft) →
      InterviewLater (some row) (some row') := by
    intro row row' hopen hid hlocale hle hdraft r hr
    obtain rfl := Option.some.inj hr
    exact ⟨row', rfl, hid, hlocale, hle, hdraft, by rw [hopen]; nofun⟩
  cases h with
  | quiet hsame =>
    rw [hsame.interviews]
    exact .refl _
  | read _ _ _ _ _ _ _ hdb =>
    rw [hdb]
    exact .refl _
  | started row hnone _ _ hdb =>
    rw [hdb, Table.lookup_insert]
    split_ifs with hsid
    · rw [hsid, hnone]
      nofun
    · exact .refl _
  | saved row draft hrow hopen hdb =>
    rw [hdb]
    refine hinsert row _ hrow (hopenRow row _ hopen rfl rfl (Nat.le_succ _) fun heq ↦ ?_)
    exact absurd heq (Nat.ne_of_lt (Nat.lt_succ_self _))
  | reported row _ _ _ _ _ _ hdb =>
    rw [hdb, reportFormation]
    split_ifs <;> exact .refl _
  | submitted row _ _ _ hrow hopen _ _ _ hinterviews =>
    rw [hinterviews]
    exact hinsert row _ hrow (hopenRow row _ hopen rfl rfl le_rfl fun _ ↦ rfl)

theorem formationStep_outcome (P : Platform) (call : ω → ActOnFormation) (s : FormationCalls ω)
    (w : ω) (move : FormationMove) :
    FormationOutcome P (call w) move s.store (s.process w)
      (formationStep P call s (.work w move)).store
      ((formationStep P call s (.work w move)).process w) := by
  show FormationOutcome P (call w) move s.store (s.process w)
    (interleave (fun w ↦ formationCallStep P (call w)) s (w, move)).store
    ((interleave (fun w ↦ formationCallStep P (call w)) s (w, move)).process (w, move).1)
  rw [interleave_store, interleave_process_self]
  exact formationCallStep_outcome P (call w) move s.store (s.process w)

theorem formationStep_interviewLater (s : FormationCalls ω) (i : FormationEvent ω) :
    InterviewLater (s.store.formationInterviews.lookup sid)
      ((formationStep P call s i).store.formationInterviews.lookup sid) := by
  cases i with
  | work w move => exact (formationStep_outcome P call s w move).interviewLater sid
  | serve request =>
    show InterviewLater _ ((serveServiceRequest P s.store request).formationInterviews.lookup sid)
    rw [(serveServiceRequest_formation P s.store request).1]
    exact .refl _
  | others _ _ _ => exact .refl _

/-- The interview goes on along a history. -/
theorem interviewAt_later (h : l₁ <+: l₂) :
    InterviewLater (interviewAt P call s sid l₁) (interviewAt P call s sid l₂) := by
  obtain ⟨l, rfl⟩ := h
  unfold interviewAt
  rw [run_append]
  exact run_related
    (R := fun s s' : FormationCalls ω ↦
      InterviewLater (s.store.formationInterviews.lookup sid)
        (s'.store.formationInterviews.lookup sid))
    (fun _ ↦ .refl _) (fun _ _ _ ↦ .trans) formationStep_interviewLater _ l

/-- Within a history the version tells the draft. -/
theorem draft_of_revision (h₁ : l₁ <+: l) (h₂ : l₂ <+: l)
    (hrow : interviewAt P call s sid l₁ = some row)
    (hrow' : interviewAt P call s sid l₂ = some row') (hrevision : row.revision = row'.revision) :
    row.draft = row'.draft := by
  rcases List.prefix_or_prefix_of_prefix h₁ h₂ with h | h
  · obtain ⟨r, hr, -, -, -, hdraft, -⟩ := interviewAt_later h row hrow
    obtain rfl := Option.some.inj (hrow'.symm.trans hr)
    exact (hdraft hrevision).symm
  · obtain ⟨r, hr, -, -, -, hdraft, -⟩ := interviewAt_later h row' hrow'
    obtain rfl := Option.some.inj (hrow.symm.trans hr)
    exact hdraft hrevision.symm

end

/-! ## Keys -/

/-- The primary key of the interviews, and the reference of the reports to them. -/
structure FormationKeys (db : Database) : Prop where
  interview : ∀ sid₁ sid₂ r₁ r₂, db.formationInterviews.lookup sid₁ = some r₁ →
    db.formationInterviews.lookup sid₂ = some r₂ → r₁.id = r₂.id → sid₁ = sid₂
  report : ∀ id v snap, db.formationReports.lookup (id, v) = some snap →
    ∃ sid r, db.formationInterviews.lookup sid = some r ∧ r.id = id

theorem formationKeys_of_empty {db : Database} (hinterviews : db.formationInterviews = ∅)
    (hreports : db.formationReports = ∅) : FormationKeys db := by
  constructor
  · intro sid₁ _ r₁ _ hr₁
    rw [hinterviews, AList.lookup_empty] at hr₁
    cases hr₁
  · intro id v snap hsnap
    rw [hreports, AList.lookup_empty] at hsnap
    cases hsnap

namespace FormationOutcome

variable {P : Platform} {call : ActOnFormation} {move : FormationMove} {db db' : Database}
  {phase phase' : FormationPhase} {sid : Uuid}

/-- A stored report stays. -/
theorem report (h : FormationOutcome P call move db phase db' phase') {k : Uuid × ℕ}
    {snap : FormationSnapshot} (hsnap : db.formationReports.lookup k = some snap) :
    db'.formationReports.lookup k = some snap := by
  cases h with
  | quiet hsame => rw [hsame.reports, hsnap]
  | read _ _ _ _ _ _ _ hdb => rw [hdb, hsnap]
  | started _ _ _ _ hdb => rw [hdb, hsnap]
  | saved _ _ _ _ hdb => rw [hdb]; exact hsnap
  | reported row _ _ _ _ _ _ hdb =>
    rw [hdb, reportFormation]
    split_ifs with hstored
    · exact hsnap
    · rw [Table.lookup_insert, if_neg, hsnap]
      rintro rfl
      rw [hsnap] at hstored
      exact hstored rfl
  | submitted _ _ _ _ _ _ _ _ _ _ hreports => rw [hreports, hsnap]

/-- Where a new report comes from. -/
theorem report_new (h : FormationOutcome P call move db phase db' phase') {id : Uuid} {v : ℕ}
    {snap : FormationSnapshot} (hsnap : db'.formationReports.lookup (id, v) = some snap) :
    db.formationReports.lookup (id, v) = some snap ∨
      ∃ row clientId assessment, phase = .act clientId assessment ∧
        call.action = .change v .report ∧
        db.formationInterviews.lookup call.sessionId = some row ∧ row.revision = v ∧ row.id = id ∧
        snap = formationSnapshot P row assessment ∧ db.formationReports.lookup (id, v) = none := by
  cases h with
  | quiet hsame => exact .inl (hsame.reports ▸ hsnap)
  | read _ _ _ _ _ _ _ hdb => exact .inl (hdb ▸ hsnap)
  | started _ _ _ _ hdb => rw [hdb] at hsnap; exact .inl hsnap
  | saved _ _ _ _ hdb => rw [hdb] at hsnap; exact .inl hsnap
  | reported row clientId assessment hphase haction hrow _ hdb =>
    rw [hdb, reportFormation] at hsnap
    split_ifs at hsnap with hstored
    · exact .inl hsnap
    · rw [Table.lookup_insert] at hsnap
      split_ifs at hsnap with hkey
      · cases hkey
        exact .inr ⟨row, clientId, assessment, hphase, haction, hrow, rfl, rfl,
          (Option.some.inj hsnap).symm, by simpa using hstored⟩
      · exact .inl hsnap
  | submitted _ _ _ _ _ _ _ _ _ _ hreports => exact .inl (hreports ▸ hsnap)

/-- A call starts the interview of its own session, and with an id of its own. -/
theorem interview_new (h : FormationOutcome P call move db phase db' phase')
    {row : FormationInterview} (hnone : db.formationInterviews.lookup sid = none)
    (hrow : db'.formationInterviews.lookup sid = some row) :
    sid = call.sessionId ∧
      ∀ sid' r, db.formationInterviews.lookup sid' = some r → r.id ≠ row.id := by
  have hinsert : ∀ r r' : FormationInterview,
      db.formationInterviews.lookup call.sessionId = some r →
      (db.formationInterviews.insert call.sessionId r').lookup sid ≠ some row := by
    intro r r' hr
    rw [Table.lookup_insert]
    split_ifs with hsid
    · rw [hsid, hr] at hnone
      cases hnone
    · rw [hnone]
      nofun
  have hsame : db'.formationInterviews = db.formationInterviews → False := by
    intro heq
    rw [heq, hnone] at hrow
    cases hrow
  cases h with
  | quiet hquiet => exact (hsame hquiet.interviews).elim
  | read _ _ _ _ _ _ _ hdb => exact (hsame (by rw [hdb])).elim
  | started r _ hfresh _ hdb =>
    rw [hdb, Table.lookup_insert] at hrow
    split_ifs at hrow with hsid
    · obtain rfl := Option.some.inj hrow
      exact ⟨hsid, hfresh⟩
    · rw [hnone] at hrow
      cases hrow
  | saved r draft hr _ hdb =>
    rw [hdb] at hrow
    exact absurd hrow (hinsert r _ hr)
  | reported _ _ _ _ _ _ _ hdb =>
    refine (hsame ?_).elim
    rw [hdb, reportFormation]
    split_ifs <;> rfl
  | submitted r _ _ _ hr _ _ _ _ hinterviews =>
    rw [hinterviews] at hrow
    exact absurd hrow (hinsert r _ hr)

/-- An interview had its id before, or is new. -/
theorem interview_id (h : FormationOutcome P call move db phase db' phase')
    {row : FormationInterview} (hrow : db'.formationInterviews.lookup sid = some row) :
    (∃ r, db.formationInterviews.lookup sid = some r ∧ row.id = r.id) ∨
      sid = call.sessionId ∧ ∀ sid' r, db.formationInterviews.lookup sid' = some r → r.id ≠ row.id := by
  cases hold : db.formationInterviews.lookup sid with
  | none => exact .inr (h.interview_new hold hrow)
  | some r =>
    obtain ⟨r', hr', hid, -⟩ := h.interviewLater sid r hold
    obtain rfl := Option.some.inj (hrow.symm.trans hr')
    exact .inl ⟨r, rfl, hid⟩

theorem keys (h : FormationOutcome P call move db phase db' phase') (hkeys : FormationKeys db) :
    FormationKeys db' := by
  constructor
  · intro sid₁ sid₂ r₁ r₂ hr₁ hr₂ hid
    by_contra hne
    rcases h.interview_id hr₁ with ⟨r, hr, hrid⟩ | ⟨hsid, hfresh⟩
    · rcases h.interview_id hr₂ with ⟨r', hr', hrid'⟩ | ⟨-, hfresh'⟩
      · exact hne (hkeys.interview _ _ _ _ hr hr' (hrid.symm.trans (hid.trans hrid')))
      · exact hfresh' _ _ hr (hrid.symm.trans hid)
    · rcases h.interview_id hr₂ with ⟨r', hr', hrid'⟩ | ⟨hsid', -⟩
      · exact hfresh _ _ hr' (hrid'.symm.trans hid.symm)
      · exact hne (hsid.trans hsid'.symm)
  · intro id v snap hsnap
    have hkept : ∀ sid r, db.formationInterviews.lookup sid = some r → r.id = id →
        ∃ sid r, db'.formationInterviews.lookup sid = some r ∧ r.id = id := by
      rintro sid r hr rfl
      obtain ⟨r', hr', hid, -⟩ := h.interviewLater sid r hr
      exact ⟨sid, r', hr', hid⟩
    rcases h.report_new hsnap with hold | ⟨row, _, _, -, -, hrow, -, hid, -⟩
    · obtain ⟨sid, r, hr, hid⟩ := hkeys.report id v snap hold
      exact hkept sid r hr hid
    · exact hkept _ row hrow hid

/-- A request that is there stays as it is. -/
theorem request (h : FormationOutcome P call move db phase db' phase') {id : Uuid}
    {request : ServiceRequest} (hrequest : db.serviceRequests.lookup id = some request) :
    db'.serviceRequests.lookup id = some request := by
  cases h with
  | quiet hsame => rw [hsame.requests, hrequest]
  | read _ _ _ _ _ _ _ hdb => rw [hdb, hrequest]
  | started _ _ _ _ hdb => rw [hdb]; exact hrequest
  | saved _ _ _ _ hdb => rw [hdb]; exact hrequest
  | reported row _ _ _ _ _ _ hdb =>
    rw [hdb, reportFormation]
    split_ifs <;> exact hrequest
  | submitted _ _ _ _ _ _ _ hfresh _ _ _ hrequests =>
    rw [hrequests, Table.lookup_insert, if_neg, hrequest]
    rintro rfl
    rw [hfresh] at hrequest
    cases hrequest

/-- Where a submitted interview comes from. -/
theorem submitted_new (h : FormationOutcome P call move db phase db' phase')
    {row' : FormationInterview} {id : Uuid}
    (hrow' : db'.formationInterviews.lookup sid = some row')
    (hid : row'.serviceRequestId = some id) :
    db.formationInterviews.lookup sid = some row' ∨
      ∃ row snap clientId, db.formationInterviews.lookup sid = some row ∧ row'.id = row.id ∧
        row'.revision = row.revision ∧
        db.formationReports.lookup (row.id, row.revision) = some snap ∧
        db'.serviceRequests.lookup id = some (formationRequest call row clientId) := by
  cases h with
  | quiet hsame => exact .inl (hsame.interviews ▸ hrow')
  | read _ _ _ _ _ _ _ hdb => exact .inl (hdb ▸ hrow')
  | started row _ _ hopen hdb =>
    rw [hdb, Table.lookup_insert] at hrow'
    split_ifs at hrow'
    · obtain rfl := Option.some.inj hrow'
      rw [hopen] at hid
      cases hid
    · exact .inl hrow'
  | saved row draft _ hopen hdb =>
    rw [hdb, saveFormation, Table.lookup_insert] at hrow'
    split_ifs at hrow'
    · obtain rfl := Option.some.inj hrow'
      exact absurd hid (by rw [hopen]; nofun)
    · exact .inl hrow'
  | reported row _ _ _ _ _ _ hdb =>
    rw [hdb, reportFormation] at hrow'
    split_ifs at hrow' <;> exact .inl hrow'
  | submitted row snap clientId _ hrow _ hsnap _ _ hinterviews _ hrequests =>
    rw [hinterviews, Table.lookup_insert] at hrow'
    split_ifs at hrow' with hsid
    · obtain rfl := Option.some.inj hrow'
      obtain rfl := Option.some.inj hid
      refine .inr ⟨row, snap, clientId, hsid ▸ hrow, rfl, rfl, hsnap, ?_⟩
      rw [hrequests, Table.lookup_insert, if_pos rfl]
    · exact .inl hrow'

end FormationOutcome

/-! ## The invariant of a history -/

section

variable {ω : Type} [DecidableEq ω] (P : Platform) (call : ω → ActOnFormation)
  (s : FormationCalls ω) (sid : Uuid)

/-- The reports of the interview say what it was, and so does the request that was submitted. -/
structure FormationHistory (l : List (FormationEvent ω)) : Prop where
  keys : FormationKeys (run (formationStep P call) s l).store
  /-- A report comes to its transaction with an assessment, unless there is a report already. -/
  waiting : ∀ w clientId assessment v,
    (run (formationStep P call) s l).process w = .act clientId assessment →
    (call w).sessionId = sid → (call w).action = .change v .report →
    (∃ row snap, interviewAt P call s sid l = some row ∧
      (run (formationStep P call) s l).store.formationReports.lookup (row.id, v) = some snap) ∨
    ∃ a draft, assessment = some a ∧ Assessed P call s sid l v draft a
  reports : ∀ row v snap, interviewAt P call s sid l = some row →
    (run (formationStep P call) s l).store.formationReports.lookup (row.id, v) = some snap →
    Drafted P call s sid l v snap.draft ∧
      ∃ a, snap.assessment = some a ∧ Assessed P call s sid l v snap.draft a
  submitted : ∀ row id, interviewAt P call s sid l = some row → row.serviceRequestId = some id →
    ∃ request snap,
      (run (formationStep P call) s l).store.serviceRequests.lookup id = some request ∧
      request.kind = .companyFormation ∧
      (run (formationStep P call) s l).store.formationReports.lookup (row.id, row.revision) =
        some snap ∧
      request.intake.formation = some snap.draft

variable {P call s sid} {l : List (FormationEvent ω)}

theorem interviewAt_concat (i : FormationEvent ω) : interviewAt P call s sid (l ++ [i]) =
    (formationStep P call (run (formationStep P call) s l) i).store.formationInterviews.lookup
      sid := by
  unfold interviewAt
  rw [run_concat]

/-- A draft that was reported is that of the interview as long as the version is. -/
theorem Drafted.draft_eq {v : ℕ} {draft : FormationDraft} {row : FormationInterview}
    (h : Drafted P call s sid l v draft) (hrow : interviewAt P call s sid l = some row)
    (hv : row.revision = v) : draft = row.draft := by
  obtain ⟨l₁, row₁, hl₁, hrow₁, hv₁, rfl⟩ := h
  exact draft_of_revision hl₁ (List.prefix_refl l) hrow₁ hrow (hv₁.trans hv.symm)

theorem Assessed.draft_eq {v : ℕ} {draft : FormationDraft} {a : FormationAssessment}
    {row : FormationInterview} (h : Assessed P call s sid l v draft a)
    (hrow : interviewAt P call s sid l = some row) (hv : row.revision = v) :
    draft = row.draft := by
  obtain ⟨l₁, w, reading, row₁, hl₁, -, -, -, hrow₁, hv₁, rfl, -⟩ := h
  exact draft_of_revision ((List.prefix_append _ _).trans hl₁) (List.prefix_refl l) hrow₁ hrow
    (hv₁.trans hv.symm)

/-! ### A statement of a call -/

section

variable {w : ω} {move : FormationMove}

/-- A report that is stored stays, under the id of the interview. -/
theorem stored_work {row : FormationInterview} {v : ℕ} {snap : FormationSnapshot}
    (hrow : interviewAt P call s sid l = some row)
    (hsnap : (run (formationStep P call) s l).store.formationReports.lookup (row.id, v) = some snap) :
    ∃ row' snap', interviewAt P call s sid (l ++ [.work w move]) = some row' ∧
      (run (formationStep P call) s (l ++ [.work w move])).store.formationReports.lookup
        (row'.id, v) = some snap' := by
  obtain ⟨row', hrow', hid, -⟩ := interviewAt_later (List.prefix_append l [.work w move]) row hrow
  refine ⟨row', snap, hrow', ?_⟩
  rw [run_concat, hid]
  exact (formationStep_outcome P call _ w move).report hsnap

theorem FormationHistory.waiting_work (h : FormationHistory P call s sid l) {w' : ω}
    {clientId : Option Uuid} {assessment : Option FormationAssessment} {v : ℕ}
    (hact : (run (formationStep P call) s (l ++ [.work w move])).process w' =
      .act clientId assessment)
    (hsid : (call w').sessionId = sid) (haction : (call w').action = .change v .report) :
    (∃ row snap, interviewAt P call s sid (l ++ [.work w move]) = some row ∧
      (run (formationStep P call) s (l ++ [.work w move])).store.formationReports.lookup
        (row.id, v) = some snap) ∨
    ∃ a draft, assessment = some a ∧ Assessed P call s sid (l ++ [.work w move]) v draft a := by
  by_cases hw : w' = w
  · -- the call that moves has just read the interview
    subst hw
    rw [run_concat] at hact
    have houtcome := formationStep_outcome P call (run (formationStep P call) s l) w' move
    rw [hact] at houtcome
    cases houtcome with
    | quiet _ hphase => exact absurd haction (hphase rfl v)
    | read row reading assessment' hphase hmove haction' hrow hdb hphase' hassessment hnone =>
      cases hphase'
      obtain rfl : row.revision = v := by
        rw [haction] at haction'
        cases haction'
        rfl
      rw [hsid] at hrow
      cases assessment with
      | none =>
        obtain ⟨snap, hsnap⟩ := Option.isSome_iff_exists.mp (hnone rfl)
        exact .inl (stored_work hrow hsnap)
      | some a =>
        refine .inr ⟨a, row.draft, rfl, l, w', reading, row, ?_, hsid, haction, hphase, hrow, rfl, rfl,
          hassessment a rfl⟩
        rw [hmove] <;> exact List.prefix_refl _
    | started _ _ _ _ _ hphase' => exact absurd rfl hphase'
    | saved _ _ _ _ _ hphase' => exact absurd rfl hphase'
    | reported _ _ _ _ _ _ _ _ hphase' => exact absurd rfl hphase'
    | submitted _ _ _ _ _ _ _ _ _ _ _ _ _ hphase' => exact absurd rfl hphase'
  · have hold : (run (formationStep P call) s l).process w' = .act clientId assessment := by
      rw [run_concat] at hact
      rwa [formationStep, interleave_process_of_ne hw] at hact
    rcases h.waiting w' clientId assessment v hold hsid haction with ⟨row, snap, hrow, hsnap⟩ |
      ⟨a, draft, ha, hassessed⟩
    · exact .inl (stored_work hrow hsnap)
    · exact .inr ⟨a, draft, ha, hassessed.mono (List.prefix_append _ _)⟩

/-- The interview of the session after a statement, by a report under its id. -/
theorem FormationHistory.reports_work (h : FormationHistory P call s sid l)
    {row : FormationInterview} {v : ℕ} {snap : FormationSnapshot}
    (hrow : interviewAt P call s sid (l ++ [.work w move]) = some row)
    (hsnap : (run (formationStep P call) s (l ++ [.work w move])).store.formationReports.lookup
      (row.id, v) = some snap) :
    Drafted P call s sid (l ++ [.work w move]) v snap.draft ∧ ∃ a, snap.assessment = some a ∧
      Assessed P call s sid (l ++ [.work w move]) v snap.draft a := by
  have hprefix : l <+: l ++ [.work w move] := List.prefix_append _ _
  have houtcome := formationStep_outcome P call (run (formationStep P call) s l) w move
  have hkeys := houtcome.keys h.keys
  rw [interviewAt_concat] at hrow
  rw [run_concat] at hsnap
  rcases houtcome.report_new hsnap with hold | ⟨row₁, clientId, assessment, hact, haction, hrow₁, rfl,
    hid, rfl, hnone⟩
  · rcases houtcome.interview_id hrow with ⟨r, hr, hrid⟩ | ⟨-, hfresh⟩
    · rw [hrid] at hold
      obtain ⟨hdrafted, a, ha, hassessed⟩ := h.reports r v snap hr hold
      exact ⟨hdrafted.mono hprefix, a, ha, hassessed.mono hprefix⟩
    · obtain ⟨sid', r, hr, hid⟩ := h.keys.report _ _ _ hold
      exact absurd hid (hfresh sid' r hr)
  · obtain ⟨r, hr, hrid, -⟩ := houtcome.interviewLater _ row₁ hrow₁
    obtain hsid : (call w).sessionId = sid := hkeys.interview _ _ _ _ hr hrow (hrid.trans hid)
    rw [hsid] at hrow₁
    refine ⟨⟨l, row₁, hprefix, hrow₁, rfl, rfl⟩, ?_⟩
    rcases h.waiting w clientId assessment _ hact hsid haction with ⟨r', snap, hr', hstored⟩ |
      ⟨a, draft, rfl, hassessed⟩
    · obtain rfl := Option.some.inj (hrow₁.symm.trans hr')
      rw [hid, hnone] at hstored
      cases hstored
    · obtain rfl : draft = row₁.draft := hassessed.draft_eq hrow₁ rfl
      exact ⟨a, rfl, hassessed.mono hprefix⟩

theorem FormationHistory.submitted_work (h : FormationHistory P call s sid l)
    {row : FormationInterview} {id : Uuid}
    (hrow : interviewAt P call s sid (l ++ [.work w move]) = some row)
    (hid : row.serviceRequestId = some id) :
    ∃ request snap, (run (formationStep P call) s
        (l ++ [.work w move])).store.serviceRequests.lookup id = some request ∧
      request.kind = .companyFormation ∧
      (run (formationStep P call) s (l ++ [.work w move])).store.formationReports.lookup
        (row.id, row.revision) = some snap ∧
      request.intake.formation = some snap.draft := by
  have houtcome := formationStep_outcome P call (run (formationStep P call) s l) w move
  rw [interviewAt_concat] at hrow
  rw [run_concat]
  rcases houtcome.submitted_new hrow hid with hold | ⟨row₁, snap, clientId, hrow₁, hrid, hrevision,
    hsnap, hrequest⟩
  · obtain ⟨request, snap, hrequest, hkind, hsnap, hformation⟩ := h.submitted row id hold hid
    exact ⟨request, snap, houtcome.request hrequest, hkind, houtcome.report hsnap, hformation⟩
  · have hdraft : snap.draft = row₁.draft :=
      (h.reports row₁ _ snap hrow₁ hsnap).1.draft_eq hrow₁ rfl
    refine ⟨_, snap, hrequest, rfl, ?_, by rw [hdraft]; rfl⟩
    rw [hrid, hrevision]
    exact houtcome.report hsnap

/-- A statement of a call. -/
theorem FormationHistory.work (h : FormationHistory P call s sid l) (w : ω) (move : FormationMove) :
    FormationHistory P call s sid (l ++ [.work w move]) where
  keys := by
    rw [run_concat]
    exact (formationStep_outcome P call _ w move).keys h.keys
  waiting _ _ _ _ := h.waiting_work
  reports _ _ _ := h.reports_work
  submitted _ _ := h.submitted_work

end

/-! ### Other events -/

/-- What an event leaves alone that is no statement of a call. -/
structure FormationFrame (s s' : FormationCalls ω) : Prop where
  process : s'.process = s.process
  interviews : s'.store.formationInterviews = s.store.formationInterviews
  reports : s'.store.formationReports = s.store.formationReports
  requests : Table.RowsRelated RequestKept s.store.serviceRequests s'.store.serviceRequests

theorem formationStep_frame {i : FormationEvent ω} (s : FormationCalls ω)
    (hi : ∀ w move, i ≠ .work w move) : FormationFrame s (formationStep P call s i) := by
  cases i with
  | work w move => exact absurd rfl (hi w move)
  | serve request =>
    obtain ⟨hinterviews, hreports, hrequests⟩ := serveServiceRequest_formation P s.store request
    exact ⟨rfl, hinterviews, hreports, hrequests⟩
  | others _ _ _ => exact ⟨rfl, rfl, rfl, .refl (fun _ ↦ ⟨rfl, fun _ ↦ rfl⟩) _⟩

theorem FormationHistory.frame {i : FormationEvent ω} (h : FormationHistory P call s sid l)
    (hi : ∀ w move, i ≠ .work w move) : FormationHistory P call s sid (l ++ [i]) := by
  have hprefix : l <+: l ++ [i] := List.prefix_append _ _
  have hframe : FormationFrame (run (formationStep P call) s l)
      (run (formationStep P call) s (l ++ [i])) := by
    rw [run_concat]
    exact formationStep_frame _ hi
  have hinterview : interviewAt P call s sid (l ++ [i]) = interviewAt P call s sid l := by
    unfold interviewAt
    rw [hframe.interviews]
  constructor
  · exact ⟨by rw [hframe.interviews]; exact h.keys.interview,
      by rw [hframe.interviews, hframe.reports]; exact h.keys.report⟩
  · intro w clientId assessment v hact hsid haction
    rw [hinterview, hframe.reports]
    rw [hframe.process] at hact
    rcases h.waiting w clientId assessment v hact hsid haction with hstored |
      ⟨a, draft, ha, hassessed⟩
    · exact .inl hstored
    · exact .inr ⟨a, draft, ha, hassessed.mono hprefix⟩
  · intro row v snap hrow hsnap
    rw [hinterview] at hrow
    rw [hframe.reports] at hsnap
    obtain ⟨hdrafted, a, ha, hassessed⟩ := h.reports row v snap hrow hsnap
    exact ⟨hdrafted.mono hprefix, a, ha, hassessed.mono hprefix⟩
  · intro row id hrow hid
    rw [hinterview] at hrow
    rw [hframe.reports]
    obtain ⟨request, snap, hrequest, hkind, hsnap, hformation⟩ := h.submitted row id hrow hid
    obtain ⟨request', hrequest', hkept⟩ := hframe.requests.lookup hrequest
    exact ⟨request', snap, hrequest', hkept.kind.trans hkind, hsnap,
      (hkept.formation hkind).trans hformation⟩

/-- From calls that begin, before the session has an interview. -/
theorem formationHistory (hkeys : FormationKeys s.store) (hbegin : ∀ w, s.process w = .begin)
    (hnone : s.store.formationInterviews.lookup sid = none) (l : List (FormationEvent ω)) :
    FormationHistory P call s sid l := by
  induction l using List.reverseRecOn with
  | nil =>
    refine ⟨hkeys, fun w _ _ _ hact ↦ ?_, fun row _ _ hrow ↦ ?_, fun row _ hrow ↦ ?_⟩
    · cases (hbegin w).symm.trans hact
    · cases hnone.symm.trans hrow
    · cases hnone.symm.trans hrow
  | append_singleton l i ih =>
    cases i with
    | work w move => exact ih.work w move
    | serve request => exact ih.frame nofun
    | others _ _ _ => exact ih.frame nofun

end

/-! ## What a call is told -/

section

variable {ω : Type} [DecidableEq ω] (P : Platform) (call : ω → ActOnFormation) (sid : Uuid)

/-- The interview of the session has been submitted. -/
def isSubmitted (s : FormationCalls ω) : Bool :=
  (s.store.formationInterviews.lookup sid).any fun row ↦ row.serviceRequestId.isSome

/-- The event submits the interview of the session. -/
def submits (s : FormationCalls ω) (i : FormationEvent ω) : Bool :=
  !isSubmitted sid s ∧ isSubmitted sid (formationStep P call s i)

/-- One request and one thread are created where the interview is submitted, and none elsewhere by
the calls of its session. -/
def CreatesOnce (s : FormationCalls ω) (i : FormationEvent ω) : Prop :=
  (submits P call sid s i → ∃ w move request thread, i = .work w move ∧ (call w).sessionId = sid ∧
    s.store.serviceRequests.lookup (call w).newRequestId = none ∧
    s.store.conversationThreads.lookup (call w).newThreadId = none ∧
    (formationStep P call s i).store.serviceRequests =
      s.store.serviceRequests.insert (call w).newRequestId request ∧
    (formationStep P call s i).store.conversationThreads =
      s.store.conversationThreads.insert (call w).newThreadId thread ∧
    ((formationStep P call s i).store.formationInterviews.lookup sid).bind
      FormationInterview.serviceRequestId = some (call w).newRequestId ∧
    request.conversationThreadId = some (call w).newThreadId) ∧
  ∀ w move, i = .work w move → (call w).sessionId = sid → ¬submits P call sid s i →
    (formationStep P call s i).store.serviceRequests = s.store.serviceRequests ∧
      (formationStep P call s i).store.conversationThreads = s.store.conversationThreads

/-- Who comes too late is told so: a transaction for another version, or after the submission,
changes nothing.  A submission that is repeated is answered with the interview. -/
def TellsLate (s : FormationCalls ω) (i : FormationEvent ω) : Prop :=
  ∀ w reading clientId assessment revision change row, i = .work w (.proceed reading) →
    s.process w = .act clientId assessment → (call w).action = .change revision change →
    s.store.formationInterviews.lookup (call w).sessionId = some row →
    row.revision ≠ revision ∨ row.serviceRequestId.isSome →
    (formationStep P call s i).store = s.store ∧
      (change = .submit → row.serviceRequestId.isSome →
        (s.store.assistantSessions.lookup (call w).sessionId).any
          (fun session ↦ session.admits (call w).actorClientId reading.clock.now) →
        (formationStep P call s i).process w = .done (.ok row)) ∧
      (¬(change = .submit ∧ row.serviceRequestId.isSome) →
        ∃ e, (formationStep P call s i).process w = .done (.error e))

end

/-- The statements of a call, with nothing in between. -/
def uninterrupted {ω : Type} (w : ω) (readings : List FormationReading) : List (FormationEvent ω) :=
  readings.map fun reading ↦ .work w (.proceed reading)

/-- The caller is the active client of the session, which is not over. -/
structure OwnsInterview (call : ActOnFormation) (db : Database) (readings : List FormationReading) :
    Prop where
  session : ∃ session, db.assistantSessions.lookup call.sessionId = some session ∧
    session.clientId = call.actorClientId ∧ ∀ r ∈ readings, r.clock.now < session.expiresAt
  account : ∃ actor client, call.actor = some actor ∧ assertActiveServiceClient db actor = .ok client

/-! ### The transaction -/

section

variable {P : Platform} {call : ActOnFormation} {db : Database} {reading : FormationReading}
  {clientId : Option Uuid} {assessment : Option FormationAssessment} {revision : ℕ}
  {change : FormationChange} {row : FormationInterview}

theorem changeFormation_submitted
    (hrow : db.formationInterviews.lookup call.sessionId = some row)
    (hclosed : row.serviceRequestId.isSome)
    (hadmits : (db.assistantSessions.lookup call.sessionId).any fun session ↦
      session.admits call.actorClientId reading.clock.now) :
    changeFormation P call db reading.clock revision .submit clientId assessment =
      .ok (db, row) := by
  obtain ⟨session, hsession, hadmits⟩ := (Option.any_eq_true _ _).mp hadmits
  simp only [changeFormation, hsession, Option.filter_some, hadmits, if_true, orThrow_some, hrow,
    ok_bind, hclosed]
  rfl

theorem changeFormation_late {result : Database × FormationInterview}
    (hrow : db.formationInterviews.lookup call.sessionId = some row)
    (hlate : row.revision ≠ revision ∨ row.serviceRequestId.isSome)
    (h : changeFormation P call db reading.clock revision change clientId assessment = .ok result) :
    result = (db, row) ∧ change = .submit ∧ row.serviceRequestId.isSome := by
  simp only [changeFormation, bind_eq_ok, orThrow_eq_ok] at h
  obtain ⟨_, -, row', hrow', h⟩ := h
  obtain rfl := Option.some.inj (hrow.symm.trans hrow')
  split_ifs at h with hclosed hsubmit
  · cases h
    exact ⟨rfl, hsubmit, hclosed⟩
  · simp only [bind_eq_ok, throwIf_eq_ok, ne_eq, not_not] at h
    obtain ⟨_, hrevision, -⟩ := h
    rcases hlate with hstale | hsome
    · exact absurd hrevision hstale
    · exact absurd hsome hclosed

theorem formationCallStep_act (haction : call.action = .change revision change) :
    formationCallStep P call (.proceed reading) db (.act clientId assessment) =
      match changeFormation P call db reading.clock revision change clientId assessment with
      | .ok (db, row) => (db, .done (.ok row))
      | .error e => (db, .done (.error e)) := by
  unfold formationCallStep
  simp only [haction] <;> rfl

/-- A repeated submission that is not disturbed gets on: the phases it has before it, and what it is
told in the end. -/
def RepeatsFrom (row : FormationInterview) : FormationPhase → ℕ → Prop
  | .begin, n => 6 ≤ n
  | .account _, n => 5 ≤ n
  | .recover _, n => 4 ≤ n
  | .reread, n => 3 ≤ n
  | .prepare, n => 2 ≤ n
  | .act _ _, n => 1 ≤ n
  | .done answer, _ => answer = .ok row

theorem RepeatsFrom.done {phase : FormationPhase} (h : RepeatsFrom row phase 0) :
    phase = .done (.ok row) := by
  cases phase with
  | done answer => exact congrArg FormationPhase.done h
  | _ => exact absurd h (Nat.not_succ_le_zero _)

theorem repeatsFrom_afterOwnership {clock : TurnClock} {seen : AssistantSession} {n : ℕ}
    (h : 4 ≤ n) : RepeatsFrom row (afterOwnership clock seen) n := by
  unfold afterOwnership
  split_ifs
  · exact h
  · exact Nat.le_trans (by decide) h

theorem RepeatsFrom.step {phase : FormationPhase} {n : ℕ} {readings : List FormationReading}
    (h : RepeatsFrom row phase (n + 1)) (howns : OwnsInterview call db (reading :: readings))
    (haction : call.action = .change revision .submit)
    (hrow : db.formationInterviews.lookup call.sessionId = some row)
    (hclosed : row.serviceRequestId.isSome) :
    SameFormation db (formationCallStep P call (.proceed reading) db phase).1 ∧
      OwnsInterview call (formationCallStep P call (.proceed reading) db phase).1 readings ∧
      RepeatsFrom row (formationCallStep P call (.proceed reading) db phase).2 n := by
  obtain ⟨⟨session, hsession, hclient, htimes⟩, actor, client, hactor, haccount⟩ := howns
  have hadmits : session.admits call.actorClientId reading.clock.now := by
    simp only [AssistantSession.admits, hclient, implies_true, and_true, decide_eq_true_eq]
    exact htimes reading List.mem_cons_self
  have hrest : OwnsInterview call db readings :=
    ⟨⟨session, hsession, hclient, fun r hr ↦ htimes r (List.mem_cons_of_mem _ hr)⟩, actor, client,
      hactor, haccount⟩
  cases phase with
  | begin =>
    refine ⟨.refl _, hrest, ?_⟩
    simp only [formationCallStep, ownFormationSession, hsession, Option.filter_some, hadmits, if_true]
    split_ifs
    · exact Nat.le_of_succ_le_succ h
    · exact repeatsFrom_afterOwnership (Nat.le_of_succ_le_succ (Nat.le_of_succ_le h))
  | account seen =>
    refine ⟨.refl _, hrest, ?_⟩
    simp only [formationCallStep, checkFormationAccount, hactor, Option.map_some, haccount]
    exact repeatsFrom_afterOwnership (Nat.le_of_succ_le_succ h)
  | recover seen =>
    refine ⟨⟨rfl, rfl, rfl, rfl⟩, ⟨?_, actor, client, hactor, haccount⟩, Nat.le_of_succ_le_succ h⟩
    simp only [formationCallStep, recoverFormationLease, Table.lookup_update_self, hsession,
      Option.map_some, Option.some.injEq, exists_eq_left']
    split_ifs
    · exact ⟨hclient, fun r hr ↦ htimes r (List.mem_cons_of_mem _ hr)⟩
    · exact ⟨hclient, fun r hr ↦ htimes r (List.mem_cons_of_mem _ hr)⟩
  | reread =>
    refine ⟨.refl _, hrest, ?_⟩
    simp only [formationCallStep, rereadFormationSession, hsession, Option.filter_some, hadmits,
      if_true]
    exact Nat.le_of_succ_le_succ h
  | prepare =>
    have hprepare : formationClient call db = .ok client.1 := by
      simp only [formationClient, hactor, orThrow_some, ok_bind, haccount]
      rfl
    simp only [formationCallStep, prepareFormation, haction, hprepare]
    exact ⟨.refl _, hrest, Nat.le_of_succ_le_succ h⟩
  | act clientId assessment =>
    have hresult : changeFormation P call db reading.clock revision .submit clientId assessment =
        .ok (db, row) :=
      changeFormation_submitted hrow hclosed ((Option.any_eq_true _ _).mpr ⟨session, hsession, hadmits⟩)
    rw [formationCallStep_act haction, hresult]
    exact ⟨.refl _, hrest, rfl⟩
  | done answer => exact ⟨.refl _, hrest, h⟩

end

section

variable {ω : Type} [DecidableEq ω] {P : Platform} {call : ω → ActOnFormation}

theorem formationStep_work (P : Platform) (call : ω → ActOnFormation) (s : FormationCalls ω) (w : ω)
    (move : FormationMove) :
    (formationStep P call s (.work w move)).store =
        (formationCallStep P (call w) move s.store (s.process w)).1 ∧
      (formationStep P call s (.work w move)).process w =
        (formationCallStep P (call w) move s.store (s.process w)).2 :=
  ⟨rfl, Function.update_self ..⟩

theorem formationStep_tellsLate (s : FormationCalls ω) (i : FormationEvent ω) :
    TellsLate P call s i := by
  rintro w reading clientId assessment revision change row rfl hact haction hrow hlate
  obtain ⟨hstore, hprocess⟩ := formationStep_work P call s w (.proceed reading)
  rw [hact, formationCallStep_act haction] at hstore hprocess
  cases hresult : changeFormation P (call w) s.store reading.clock revision change clientId
    assessment with
  | error e =>
    rw [hresult] at hstore hprocess
    refine ⟨hstore, ?_, fun _ ↦ ⟨e, hprocess⟩⟩
    rintro rfl hclosed hadmits
    rw [changeFormation_submitted hrow hclosed hadmits] at hresult
    cases hresult
  | ok result =>
    obtain ⟨rfl, hsubmit, hclosed⟩ := changeFormation_late hrow hlate hresult
    rw [hresult] at hstore hprocess
    exact ⟨hstore, fun _ _ _ ↦ hprocess, fun h ↦ absurd ⟨hsubmit, hclosed⟩ h⟩

/-- A submission that is repeated without an interruption is answered with the interview, and the
rows it is about stay. -/
theorem run_uninterrupted {s : FormationCalls ω} {w : ω} {readings : List FormationReading}
    {revision : ℕ} {row : FormationInterview}
    (h : RepeatsFrom row (s.process w) readings.length)
    (howns : OwnsInterview (call w) s.store readings)
    (haction : (call w).action = .change revision .submit)
    (hrow : s.store.formationInterviews.lookup (call w).sessionId = some row)
    (hclosed : row.serviceRequestId.isSome) :
    SameFormation s.store (run (formationStep P call) s (uninterrupted w readings)).store ∧
      (run (formationStep P call) s (uninterrupted w readings)).process w = .done (.ok row) := by
  induction readings generalizing s with
  | nil => exact ⟨.refl _, h.done⟩
  | cons reading readings ih =>
    obtain ⟨hsame, hrest, hstep⟩ := h.step (P := P) howns haction hrow hclosed
    obtain ⟨hstore, hprocess⟩ := formationStep_work P call s w (.proceed reading)
    rw [← hstore] at hsame hrest
    rw [← hprocess] at hstep
    obtain ⟨hsame', hdone⟩ := ih hstep hrest (by rw [hsame.interviews, hrow])
    exact ⟨⟨hsame'.interviews.trans hsame.interviews, hsame'.reports.trans hsame.reports,
      hsame'.requests.trans hsame.requests, hsame'.threads.trans hsame.threads⟩, hdone⟩

/-! ### The submission -/

omit [DecidableEq ω] in
theorem isSubmitted_iff {s : FormationCalls ω} {sid : Uuid} : isSubmitted sid s ↔
    ∃ row, s.store.formationInterviews.lookup sid = some row ∧ row.serviceRequestId.isSome :=
  Option.any_eq_true _ _

theorem isSubmitted_step {s : FormationCalls ω} {sid : Uuid} (i : FormationEvent ω)
    (h : isSubmitted sid s) : isSubmitted sid (formationStep P call s i) := by
  obtain ⟨row, hrow, hclosed⟩ := isSubmitted_iff.mp h
  obtain ⟨row', hrow', -, -, -, -, hsame⟩ := formationStep_interviewLater (P := P) s i row hrow
  exact isSubmitted_iff.mpr ⟨row', hrow', hsame hclosed ▸ hclosed⟩

/-- An interview is submitted once. -/
theorem submits_once (s : FormationCalls ω) (sid : Uuid) (l : List (FormationEvent ω)) :
    stepCount (formationStep P call) (submits P call sid) s l ≤ 1 := by
  have hstep : ∀ s i, (isSubmitted sid (formationStep P call s i)).toNat =
      (isSubmitted sid s).toNat + (submits P call sid s i).toNat := by
    intro s i
    unfold submits
    cases hold : isSubmitted sid s with
    | false => cases isSubmitted sid (formationStep P call s i) <;> rfl
    | true => simp [isSubmitted_step i hold]
  have hmeasure := run_measure (m := fun s ↦ (isSubmitted sid s).toNat) hstep s l
  exact (Nat.le_add_left _ _).trans (hmeasure ▸ Bool.toNat_le _)

/-- Only one outcome of a statement submits, and only that one creates rows. -/
theorem FormationOutcome.creates {call : ActOnFormation} {move : FormationMove} {db db' : Database}
    {phase phase' : FormationPhase} (h : FormationOutcome P call move db phase db' phase') :
    (db'.serviceRequests = db.serviceRequests ∧ db'.conversationThreads = db.conversationThreads ∧
      ∀ sid row, db'.formationInterviews.lookup sid = some row → row.serviceRequestId.isSome →
        db.formationInterviews.lookup sid = some row) ∨
    ∃ row clientId thread, db.formationInterviews.lookup call.sessionId = some row ∧
      row.serviceRequestId = none ∧ db.serviceRequests.lookup call.newRequestId = none ∧
      db.conversationThreads.lookup call.newThreadId = none ∧
      db'.serviceRequests = db.serviceRequests.insert call.newRequestId
        (formationRequest call row clientId) ∧
      db'.conversationThreads = db.conversationThreads.insert call.newThreadId thread ∧
      db'.formationInterviews = db.formationInterviews.insert call.sessionId
        { row with serviceRequestId := some call.newRequestId } := by
  have hinsert : ∀ row : FormationInterview, row.serviceRequestId = none →
      ∀ sid row', (db.formationInterviews.insert call.sessionId row).lookup sid = some row' →
        row'.serviceRequestId.isSome → db.formationInterviews.lookup sid = some row' := by
    intro row hopen sid row' hrow' hclosed
    rw [Table.lookup_insert] at hrow'
    split_ifs at hrow'
    · obtain rfl := Option.some.inj hrow'
      rw [hopen] at hclosed
      cases hclosed
    · exact hrow'
  cases h with
  | quiet hsame =>
    exact .inl ⟨hsame.requests, hsame.threads, fun _ _ hrow _ ↦ hsame.interviews ▸ hrow⟩
  | read _ _ _ _ _ _ _ hdb => exact .inl ⟨by rw [hdb], by rw [hdb], fun _ _ hrow _ ↦ hdb ▸ hrow⟩
  | started row _ _ hopen hdb =>
    rw [hdb]
    exact .inl ⟨rfl, rfl, hinsert row hopen⟩
  | saved row draft _ hopen hdb =>
    rw [hdb]
    exact .inl ⟨rfl, rfl, hinsert _ hopen⟩
  | reported row _ _ _ _ _ _ hdb =>
    rw [hdb, reportFormation]
    split_ifs <;> exact .inl ⟨rfl, rfl, fun _ _ hrow _ ↦ hrow⟩
  | submitted row _ clientId thread hrow hopen _ hrequest hthread hinterviews _ hrequests hthreads =>
    exact .inr ⟨row, clientId, thread, hrow, hopen, hrequest, hthread, hrequests, hthreads,
      hinterviews⟩

theorem formationStep_createsOnce (s : FormationCalls ω) (sid : Uuid) (i : FormationEvent ω) :
    CreatesOnce P call sid s i := by
  have hnot : ∀ s' : FormationCalls ω, s' = formationStep P call s i →
      (∀ row, s'.store.formationInterviews.lookup sid = some row → row.serviceRequestId.isSome →
        s.store.formationInterviews.lookup sid = some row) → submits P call sid s i = false := by
    rintro _ rfl hold
    rw [Bool.eq_false_iff]
    intro hsubmits
    obtain ⟨hopen, hclosed⟩ := of_decide_eq_true hsubmits
    obtain ⟨row, hrow, hsome⟩ := isSubmitted_iff.mp hclosed
    rw [isSubmitted_iff.mpr ⟨row, hold row hrow hsome, hsome⟩] at hopen
    cases hopen
  by_cases hi : ∀ w move, i ≠ .work w move
  · have hframe : FormationFrame s (formationStep P call s i) := formationStep_frame s hi
    have hquiet := hnot _ rfl fun row hrow _ ↦ by rwa [hframe.interviews] at hrow
    refine ⟨fun h ↦ ?_, fun w move hw ↦ absurd hw (hi w move)⟩
    rw [hquiet] at h
    cases h
  · push Not at hi
    obtain ⟨w, move, rfl⟩ := hi
    rcases (formationStep_outcome P call s w move).creates with ⟨hrequests, hthreads, hold⟩ |
      ⟨row, clientId, thread, hrow, hopen, hrequest, hthread, hrequests, hthreads, hinterviews⟩
    · have hquiet := hnot _ rfl (hold sid)
      refine ⟨fun h ↦ ?_, ?_⟩
      · rw [hquiet] at h
        cases h
      · rintro w' move' hw - -
        cases hw
        exact ⟨hrequests, hthreads⟩
    · by_cases hsid : (call w).sessionId = sid
      · refine ⟨fun _ ↦ ⟨w, move, _, thread, rfl, hsid, hrequest, hthread, hrequests, hthreads, ?_, rfl⟩,
          ?_⟩
        · rw [hinterviews, hsid, Table.lookup_insert, if_pos rfl]
          rfl
        · rintro w' move' hw - hnone
          refine absurd (decide_eq_true ⟨?_, ?_⟩) hnone
          · rw [Bool.not_eq_true', Bool.eq_false_iff]
            intro hsubmitted
            obtain ⟨r, hr, hsome⟩ := isSubmitted_iff.mp hsubmitted
            rw [← hsid, hrow] at hr
            obtain rfl := Option.some.inj hr
            rw [hopen] at hsome
            cases hsome
          · refine isSubmitted_iff.mpr ⟨{ row with serviceRequestId := some (call w).newRequestId },
              ?_, rfl⟩
            rw [hinterviews, hsid, Table.lookup_insert, if_pos rfl]
      · have hquiet := hnot _ rfl fun r hr hsome ↦ by
          rwa [hinterviews, Table.lookup_insert, if_neg (Ne.symm hsid)] at hr
        refine ⟨fun h ↦ ?_, ?_⟩
        · rw [hquiet] at h
          cases h
        · rintro w' move' hw hsid' -
          cases hw
          exact absurd hsid' hsid

end

/-! ## Promises -/

section

variable {ω : Type} [DecidableEq ω] (P : Platform) (call : ω → ActOnFormation)
  (s : FormationCalls ω) (sid : Uuid)

/-- What holds after any history of the interview of a session. -/
structure InterviewPromise (l : List (FormationEvent ω)) : Prop where
  once : stepCount (formationStep P call) (submits P call sid) s l ≤ 1
  created : AllSteps (formationStep P call) (CreatesOnce P call sid) s l
  late : AllSteps (formationStep P call) (TellsLate P call) s l
  /-- A submission that is repeated by the owner. -/
  repeated : ∀ w readings revision row, (run (formationStep P call) s l).process w = .begin →
    (call w).sessionId = sid → (call w).action = .change revision .submit →
    OwnsInterview (call w) (run (formationStep P call) s l).store readings → 6 ≤ readings.length →
    interviewAt P call s sid l = some row → row.serviceRequestId.isSome →
    SameFormation (run (formationStep P call) s l).store
        (run (formationStep P call) s (l ++ uninterrupted w readings)).store ∧
      (run (formationStep P call) s (l ++ uninterrupted w readings)).process w = .done (.ok row)
  /-- After the submission the interview stays as it is. -/
  closed : ∀ l₁ row, l₁ <+: l → interviewAt P call s sid l₁ = some row →
    row.serviceRequestId.isSome → interviewAt P call s sid l = some row
  reports : ∀ row v snap, interviewAt P call s sid l = some row →
    (run (formationStep P call) s l).store.formationReports.lookup (row.id, v) = some snap →
    Drafted P call s sid l v snap.draft ∧
      (∀ l₁ row₁, l₁ <+: l → interviewAt P call s sid l₁ = some row₁ → row₁.revision = v →
        row₁.draft = snap.draft) ∧
      ∃ a, snap.assessment = some a ∧ Assessed P call s sid l v snap.draft a
  /-- The request has the draft of the report, whatever was done to it since. -/
  submitted : ∀ row id, interviewAt P call s sid l = some row → row.serviceRequestId = some id →
    ∃ request snap,
      (run (formationStep P call) s l).store.serviceRequests.lookup id = some request ∧
      (run (formationStep P call) s l).store.formationReports.lookup (row.id, row.revision) =
        some snap ∧
      request.intake.formation = some snap.draft ∧ snap.draft = row.draft

variable {P call s sid}

/-- The interview of a session, from before it was started: whatever calls are made, in whatever order
their statements run, and whatever is done to the request in between. -/
theorem interview_promises (hkeys : FormationKeys s.store) (hbegin : ∀ w, s.process w = .begin)
    (hnone : s.store.formationInterviews.lookup sid = none) (l : List (FormationEvent ω)) :
    InterviewPromise P call s sid l := by
  have hhistory : FormationHistory P call s sid l := formationHistory hkeys hbegin hnone l
  have hsteps : ∀ C : FormationCalls ω → FormationEvent ω → Prop, (∀ s i, C s i) →
      AllSteps (formationStep P call) C s l := fun C hC ↦
    allSteps_of_invariant (J := fun _ ↦ True) (fun _ _ _ ↦ trivial) (fun s i _ ↦ hC s i) trivial l
  refine ⟨submits_once s sid l, hsteps _ fun s i ↦ formationStep_createsOnce s sid i,
    hsteps _ formationStep_tellsLate, ?_, ?_, ?_, ?_⟩
  · rintro w readings revision row hprocess rfl haction howns hlength hrow hclosed
    rw [run_append]
    refine run_uninterrupted ?_ howns haction hrow hclosed
    rw [hprocess]
    exact hlength
  · intro l₁ row hl₁ hrow hclosed
    obtain ⟨row', hrow', -, -, -, -, hsame⟩ := interviewAt_later hl₁ row hrow
    rw [hrow', hsame hclosed]
  · intro row v snap hrow hsnap
    obtain ⟨hdrafted, hassessed⟩ := hhistory.reports row v snap hrow hsnap
    refine ⟨hdrafted, fun l₁ row₁ hl₁ hrow₁ hv₁ ↦ ?_, hassessed⟩
    obtain ⟨l₂, row₂, hl₂, hrow₂, hv₂, hdraft⟩ := hdrafted
    exact (draft_of_revision hl₁ hl₂ hrow₁ hrow₂ (hv₁.trans hv₂.symm)).trans hdraft
  · intro row id hrow hid
    obtain ⟨request, snap, hrequest, -, hsnap, hformation⟩ := hhistory.submitted row id hrow hid
    exact ⟨request, snap, hrequest, hsnap, hformation,
      (hhistory.reports row _ snap hrow hsnap).1.draft_eq hrow rfl⟩

end

/-! ### An interview from its start -/

def sampleFormationDraft : FormationDraft where
  activity := "Software for law offices"
  founders := [{ name := "Mona", nationality := "Egyptian" }]

/-- Call `w` of the client: the first four in their order, then submissions again. -/
def sampleFormationCall (w : ℕ) : ActOnFormation where
  sessionId := "session"
  actor := some { id := "user", roleName := "Client", clientId := some "client" }
  action :=
    match w with
    | 0 => .start .en
    | 1 => .change 0 (.save sampleFormationDraft)
    | 2 => .change 1 .report
    | _ => .change 1 .submit
  newInterviewId := "interview"
  newThreadId := "thread" ++ toString w
  newRequestId := "request" ++ toString w
  newEventId := "event" ++ toString w
  referenceId := "reference"

def sampleFormations : FormationCalls ℕ where
  store :=
    { clients := (∅ : Table Uuid Client).insert "client"
        { userId := some "user", fullName := "Client", phone := "+201000000000" }
      users := (∅ : Table Uuid User).insert "user" { status := .active, roleName := "Client" }
      assistantSessions := (∅ : Table Uuid AssistantSession).insert "session"
        { clientId := some "client", expiresAt := 1000 } }
  process _ := .begin

/-- Call `w`, alone. -/
def sampleFormationWork (w : ℕ) : List (FormationEvent ℕ) :=
  uninterrupted w (List.replicate 6 { clock := ⟨0, 0, 0⟩ })

/-- The client may call, and nothing is stored yet. -/
theorem interview_promises_sampleFormations :
    InterviewPromise plainPlatform sampleFormationCall sampleFormations "session"
      ([0, 1, 2, 3, 4].flatMap sampleFormationWork) :=
  interview_promises (formationKeys_of_empty rfl rfl) (fun _ ↦ rfl) rfl _

/-- The draft gets into the request of the first submission. -/
example : ((run (formationStep plainPlatform sampleFormationCall) sampleFormations
    ([0, 1, 2, 3, 4].flatMap sampleFormationWork)).store.serviceRequests.lookup "request3").map
      (fun request ↦ request.intake.formation) = some (some sampleFormationDraft) := by
  decide +kernel

end KmtLegal
