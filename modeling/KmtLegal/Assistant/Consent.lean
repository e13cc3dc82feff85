import KmtLegal.Assistant.Answering
import KmtLegal.Relational.Run

/-!
# Consent to a booking

A dialogue becomes one in which a booking is allowed by the button, by an explicit request, or by a
message the model labels as a request or as the acceptance of an offer.  Acceptance asks for
`offerShown`, which an offer sets, and which every refusal sets as well; a refusal in a message that
is off topic or unclear is not applied.
-/

namespace KmtLegal

open Relational

/-! ## The promise -/

/-- The turn is answered, with the classification `a` that quotes the message. -/
def Turn.IsLabelled (X : AssistantTexts) (s : Talk) (t : Turn) (a : MessageAssessment) : Prop :=
  t.ending = .answered ∧ ∃ writes, s.answerTo X t = some (a, writes) ∧ a.isEvident t.message

/-- An answer of the conversation has the offer in it. -/
def Offered (log : List Happening) : Prop :=
  ∃ text locale, .answer text ∈ log ∧
    (assistantPolicyCopy locale).offer.toList <:+: text.toList

/-- The customer consents to a booking. -/
def Consents (X : AssistantTexts) (s : Talk) : DialogueCall → Prop
  | .changeAssistantDialogue call => call.action = .beginBooking
  | .sendAssistantMessage t => explicitBookingRequest t.message ∨ ∃ a, t.IsLabelled X s a ∧
      (a.intent = .book ∨ a.intent = .accept ∧ Offered s.log)

/-- The customer refuses a booking. -/
def Refuses (X : AssistantTexts) (s : Talk) : DialogueCall → Prop
  | .changeAssistantDialogue call => call.action = .returnInquiry ∧ ¬call.conflicts
  | .sendAssistantMessage t => ∃ a, t.IsLabelled X s a ∧ a.intent ∈ [.decline, .withdraw]

/-- A booking becomes allowed by consent only, and a refusal ends it. -/
structure HeedsConsent (X : AssistantTexts) (s : Talk) (call : DialogueCall) : Prop where
  consent : ¬bookingAllowed s.dialogue → bookingAllowed (talkStep X s call).dialogue →
    Consents X s call
  refusal : Refuses X s call → ¬bookingAllowed (talkStep X s call).dialogue

/-! ## The condition -/

/-- A refusal came before an offer. -/
def RefusedFirst (log : List Happening) : Prop :=
  ∃ before after, log = before ++ .refusal :: after ∧ ¬Offered before

/-- The turn accepts an offer that was made, and refuses within the scope of the office. -/
def IsHeard (X : AssistantTexts) (s : Talk) : DialogueCall → Prop
  | .changeAssistantDialogue _ => True
  | .sendAssistantMessage t => ∀ a, t.IsLabelled X s a →
      (a.intent = .accept → ¬a.isOutside → ¬bookingAllowed s.dialogue → RefusedFirst s.log →
        Offered s.log) ∧
      (a.intent ∈ [.decline, .withdraw] → a.isOutside → t.submitted ∨ ¬bookingAllowed s.dialogue)

/-- `offerShown` is set by an offer or by a refusal. -/
def OfferTraced (s : Talk) : Prop :=
  s.dialogue.offerShown → Offered s.log ∨ RefusedFirst s.log

/-! ## What happened before stays -/

section

variable {log log' : List Happening}

theorem Offered.append (h : Offered log) (log' : List Happening) : Offered (log ++ log') := by
  obtain ⟨text, locale, hmem, hoffer⟩ := h
  exact ⟨text, locale, List.mem_append_left _ hmem, hoffer⟩

theorem RefusedFirst.append (h : RefusedFirst log) (log' : List Happening) :
    RefusedFirst (log ++ log') := by
  obtain ⟨before, after, rfl, hno⟩ := h
  exact ⟨before, after ++ log', by simp, hno⟩

/-- After a refusal there was an offer before, or a refusal came first. -/
theorem traced_refusal (log log' : List Happening) :
    Offered (log ++ .refusal :: log') ∨ RefusedFirst (log ++ .refusal :: log') := by
  by_cases hoffered : Offered log
  · exact .inl (hoffered.append _)
  · exact .inr ⟨log, log', rfl, hoffered⟩

end

/-! ## The consent of a dialogue -/

/-- The dialogues agree on the mode, the consent and the offer. -/
structure SameConsent (d d' : DialogueState) : Prop where
  mode : d'.mode = d.mode
  consentAt : d'.consentAt = d.consentAt
  offerShown : d'.offerShown = d.offerShown

namespace SameConsent

variable {d d' d'' : DialogueState}

theorem refl (d : DialogueState) : SameConsent d d := ⟨rfl, rfl, rfl⟩

theorem trans (h : SameConsent d d') (h' : SameConsent d' d'') : SameConsent d d'' :=
  ⟨h'.mode.trans h.mode, h'.consentAt.trans h.consentAt, h'.offerShown.trans h.offerShown⟩

theorem bookingAllowed (h : SameConsent d d') : bookingAllowed d' = bookingAllowed d := by
  unfold KmtLegal.bookingAllowed
  rw [h.mode, h.consentAt]

end SameConsent

section

variable {d : DialogueState} {a : MessageAssessment} {message consentAt : String}

/-- The assessment is applied, and asks for a booking. -/
def MessageAssessment.Books (a : MessageAssessment) (message : String) (d : DialogueState) : Prop :=
  ¬a.isOutside ∧ a.isEvident message ∧
    (a.intent = .book ∨ a.intent = .accept ∧ d.offerShown)

/-- What an assessment does to the consent. -/
theorem applyAssessment_cases (d : DialogueState) (a : MessageAssessment) (message consentAt : String) :
    (SameConsent d (applyAssessment d a message consentAt) ∧ ¬a.refuses message) ∨
      (a.Books message d ∧
        (applyAssessment d a message consentAt).offerShown = d.offerShown ∧ ¬a.refuses message) ∨
      (a.refuses message ∧ ¬bookingAllowed (applyAssessment d a message consentAt)) := by
  unfold applyAssessment MessageAssessment.refuses MessageAssessment.Books
  by_cases houtside : a.isOutside
  · simp [houtside, SameConsent.refl]
  by_cases hevident : a.isEvident message
  swap
  · simp [houtside, hevident, SameConsent.refl]
  simp only [houtside, hevident]
  cases hintent : a.intent with
  | book => simp
  | accept => cases hshown : d.offerShown <;> simp [SameConsent.refl]
  | decline | withdraw => simp [bookingAllowed]
  | account => exact .inl ⟨⟨rfl, rfl, rfl⟩, by simp⟩
  | none | handoff | followUp | action | unclear => simp [SameConsent.refl]

end

/-! ## Answers keep the consent -/

/-- What a turn writes agrees with the dialogue `d`; only the offer may be new, in the answer. -/
structure KeepsConsent (a : MessageAssessment) (d : DialogueState) (writes : TurnWrites) : Prop where
  remembered : ∀ d' ∈ writes.remembered, SameConsent d d' ∧ a.intent = .none
  dialogue : SameConsent d writes.dialogue ∨
    (SameConsent { d with offerShown := true } writes.dialogue ∧ ∃ locale,
      (assistantPolicyCopy locale).offer.toList <:+: writes.text.toList)

section

variable {X : AssistantTexts} {t : Turn} {a : MessageAssessment} {d state : DialogueState}

theorem keepsConsent_of_same {text : String} {d' : DialogueState} (h : SameConsent d d') :
    KeepsConsent a d { text, dialogue := d' } where
  remembered _ hmem := absurd hmem (Option.not_mem_none _)
  dialogue := .inl h

theorem withOffer_keepsConsent (text : String) (h : SameConsent d state) :
    KeepsConsent a d (t.withOffer a text state) := by
  unfold Turn.withOffer
  split_ifs
  · refine ⟨fun _ hmem ↦ absurd hmem (Option.not_mem_none _),
      .inr ⟨⟨h.mode, h.consentAt, rfl⟩, a.locale, ?_⟩⟩
    rw [String.toList_append]
    exact (List.suffix_append _ _).isInfix
  · exact keepsConsent_of_same h

theorem replyHandoff_keepsConsent (h : SameConsent d state) :
    KeepsConsent a d (t.replyHandoff X a state) := by
  unfold Turn.replyHandoff
  split_ifs <;> exact keepsConsent_of_same h

theorem propose_keepsConsent {draft : ActionDraft} {writes : TurnWrites} (h : SameConsent d state)
    (hwrites : t.propose X a draft state = some writes) : KeepsConsent a d writes := by
  simp only [Turn.propose, Turn.proposeService] at hwrites
  split_ifs at hwrites
  · cases hwrites
    exact keepsConsent_of_same h
  · split at hwrites
    · split_ifs at hwrites <;> cases hwrites <;>
        exact keepsConsent_of_same ⟨h.mode, h.consentAt, h.offerShown⟩
    · cases hwrites
  · cases hwrites
    exact keepsConsent_of_same h

theorem replyAction_keepsConsent {writes : TurnWrites} (h : SameConsent d state)
    (hwrites : t.replyAction X a state = some writes) : KeepsConsent a d writes := by
  unfold Turn.replyAction at hwrites
  cases hdraft : a.actionDraft with
  | none =>
    simp only [hdraft] at hwrites
    split_ifs at hwrites <;> cases hwrites <;> exact keepsConsent_of_same h
  | some draft =>
    simp only [hdraft] at hwrites
    split_ifs at hwrites
    · cases hwrites
      exact keepsConsent_of_same h
    · cases hwrites
      exact keepsConsent_of_same h
    · cases hwrites
      exact keepsConsent_of_same h
    · exact propose_keepsConsent h hwrites

theorem replyClientFollowup_keepsConsent (h : SameConsent d state) :
    KeepsConsent a d (t.replyClientFollowup X a state) := by
  unfold Turn.replyClientFollowup
  split <;> exact keepsConsent_of_same ⟨h.mode, h.consentAt, h.offerShown⟩

theorem replyGuestFollowup_keepsConsent {initial : DialogueState} (h : SameConsent d state) :
    KeepsConsent a d (t.replyGuestFollowup X initial a state) := by
  unfold Turn.replyGuestFollowup
  simp only
  split_ifs <;> exact keepsConsent_of_same h

theorem replyLegalQuestion_keepsConsent {context : LegalContext} (h : SameConsent d state)
    (hintent : a.intent = .none) :
    KeepsConsent a d (t.replyLegalQuestion X a context state) := by
  unfold Turn.replyLegalQuestion
  simp only
  have hremembered : ∀ memory, ∀ d' ∈ some { state with legalMemory := some memory },
      SameConsent d d' ∧ a.intent = .none := by
    rintro memory _ ⟨⟩
    exact ⟨⟨h.mode, h.consentAt, h.offerShown⟩, hintent⟩
  split_ifs
  · refine ⟨hremembered _, (withOffer_keepsConsent (t := t) (a := a) _ ?_).dialogue⟩
    exact ⟨h.mode, h.consentAt, h.offerShown⟩
  · exact ⟨hremembered _, .inl ⟨h.mode, h.consentAt, h.offerShown⟩⟩

theorem replyLegal_keepsConsent {initial : DialogueState} (h : SameConsent d state)
    (hintent : a.intent = .none) :
    KeepsConsent a d (t.replyLegal X initial a state) := by
  unfold Turn.replyLegal
  simp only
  split_ifs
  · exact keepsConsent_of_same h
  · exact replyLegalQuestion_keepsConsent ⟨h.mode, h.consentAt, h.offerShown⟩ hintent
  · exact keepsConsent_of_same ⟨h.mode, h.consentAt, h.offerShown⟩
  · split
    · exact keepsConsent_of_same ⟨h.mode, h.consentAt, h.offerShown⟩
    · split_ifs
      · exact keepsConsent_of_same ⟨h.mode, h.consentAt, h.offerShown⟩
      · exact replyLegalQuestion_keepsConsent ⟨h.mode, h.consentAt, h.offerShown⟩ hintent

theorem replyGenerated_keepsConsent (h : SameConsent d state) :
    KeepsConsent a d (t.replyGenerated X a state) := by
  unfold Turn.replyGenerated
  simp only
  split
  · exact keepsConsent_of_same ⟨h.mode, h.consentAt, h.offerShown⟩
  · exact keepsConsent_of_same ⟨h.mode, h.consentAt, h.offerShown⟩
  · exact withOffer_keepsConsent _ ⟨h.mode, h.consentAt, h.offerShown⟩

/-- The dialogue before an answer is the one the assessment leaves. -/
theorem sameConsent_dialogue (t : Turn) (d : DialogueState) (a : MessageAssessment) :
    SameConsent (applyAssessment d a t.message t.consentAt) (t.dialogue d a) := ⟨rfl, rfl, rfl⟩

/-- The initial dialogue is stored where the assessment is not applied. -/
theorem sameConsent_initial (h : a.isOutside ∨ a.intent = .unclear) :
    SameConsent (applyAssessment d a t.message t.consentAt) d := by
  unfold applyAssessment
  by_cases houtside : a.isOutside
  · rw [if_pos houtside]
    exact .refl d
  · rw [if_neg houtside, h.resolve_left houtside]
    split_ifs <;> exact .refl d

theorem replyQuestion_keepsConsent :
    KeepsConsent a (applyAssessment d a t.message t.consentAt)
      (t.replyQuestion X d a (t.dialogue d a)) := by
  have hsame := sameConsent_dialogue t d a
  unfold Turn.replyQuestion
  split_ifs with hoff hunclear hintent _ hlegal
  · exact keepsConsent_of_same (sameConsent_initial (.inl (by simp [MessageAssessment.isOutside, hoff])))
  · exact keepsConsent_of_same
      (sameConsent_initial (.inl (by simp [MessageAssessment.isOutside, hunclear])))
  · exact keepsConsent_of_same (sameConsent_initial (.inr hintent))
  · exact keepsConsent_of_same hsame
  · exact replyLegal_keepsConsent hsame hlegal.2
  · exact replyGenerated_keepsConsent hsame

/-- Whichever way a message is answered, the consent is the one the assessment leaves. -/
theorem reply_keepsConsent {writes : TurnWrites} (h : t.reply X d a = some writes) :
    KeepsConsent a (applyAssessment d a t.message t.consentAt) writes := by
  have hsame := sameConsent_dialogue t d a
  unfold Turn.reply at h
  simp only at h
  split_ifs at h
  · obtain rfl := Option.some.inj h
    exact keepsConsent_of_same ⟨hsame.mode, hsame.consentAt, hsame.offerShown⟩
  · obtain rfl := Option.some.inj h
    exact replyHandoff_keepsConsent hsame
  · exact replyAction_keepsConsent hsame h
  · obtain rfl := Option.some.inj h
    exact replyClientFollowup_keepsConsent hsame
  · obtain rfl := Option.some.inj h
    exact replyGuestFollowup_keepsConsent hsame
  · obtain rfl := Option.some.inj h
    exact replyQuestion_keepsConsent

end

/-! ## One call -/

variable {X : AssistantTexts} {s : Talk} {t : Turn}

theorem answerTo_eq_some {a : MessageAssessment} {writes : TurnWrites} :
    s.answerTo X t = some (a, writes) ↔
      t.assessment X (t.initialDialogue s.dialogue) = some a ∧
        t.reply X (t.initialDialogue s.dialogue) a = some writes := by
  simp only [Talk.answerTo, Option.bind_eq_bind, Option.bind_eq_some_iff, Option.pure_def,
    Option.some.injEq, Prod.mk.injEq]
  constructor
  · rintro ⟨_, ha, _, hwrites, rfl, rfl⟩
    exact ⟨ha, hwrites⟩
  · rintro ⟨ha, hwrites⟩
    exact ⟨a, ha, writes, hwrites, rfl, rfl⟩

/-- A submitted booking is the only difference. -/
theorem initialDialogue_cases (t : Turn) (d : DialogueState) :
    (t.submitted ∧ ¬bookingAllowed (t.initialDialogue d) ∧
        (t.initialDialogue d).offerShown = d.offerShown) ∨
      t.initialDialogue d = d := by
  unfold Turn.initialDialogue
  split_ifs with hsubmitted
  · exact .inl ⟨hsubmitted, by simp [bookingAllowed], rfl⟩
  · exact .inr rfl

theorem initialDialogue_offerShown (t : Turn) (d : DialogueState) :
    (t.initialDialogue d).offerShown = d.offerShown := by
  rcases initialDialogue_cases t d with ⟨-, -, h⟩ | h
  · exact h
  · rw [h]

theorem bookingAllowed_initialDialogue {d : DialogueState}
    (h : bookingAllowed (t.initialDialogue d)) : bookingAllowed d := by
  rcases initialDialogue_cases t d with ⟨-, hnot, -⟩ | heq
  · exact absurd h hnot
  · rwa [heq] at h

/-- Offers do not change whether a booking is allowed. -/
theorem KeepsConsent.bookingAllowed {a : MessageAssessment} {d : DialogueState} {writes : TurnWrites}
    (h : KeepsConsent a d writes) : bookingAllowed writes.dialogue = bookingAllowed d := by
  rcases h.dialogue with hsame | ⟨hsame, -⟩
  · exact hsame.bookingAllowed
  · exact hsame.bookingAllowed

/-- The memory of a legal message has the consent that was stored. -/
theorem remembered_sameConsent {a : MessageAssessment} {writes : TurnWrites} {d' : DialogueState}
    (h : t.reply X (t.initialDialogue s.dialogue) a = some writes) (hd' : d' ∈ writes.remembered) :
    SameConsent (t.initialDialogue s.dialogue) d' := by
  obtain ⟨hsame, hintent⟩ := (reply_keepsConsent h).remembered d' hd'
  rcases applyAssessment_cases (t.initialDialogue s.dialogue) a t.message t.consentAt with
    ⟨hkept, -⟩ | ⟨⟨-, -, hbooks⟩, -, -⟩ | ⟨hrefuses, -⟩
  · exact hkept.trans hsame
  · simp [hintent] at hbooks
  · simp [MessageAssessment.refuses, hintent] at hrefuses

theorem send_heedsConsent (htraced : OfferTraced s)
    (hheard : IsHeard X s (.sendAssistantMessage t)) :
    HeedsConsent X s (.sendAssistantMessage t) := by
  have hlabel : ∀ {a writes}, t.ending = .answered → s.answerTo X t = some (a, writes) →
      a.isEvident t.message → t.IsLabelled X s a :=
    fun hending hanswer hevident ↦ ⟨hending, _, hanswer, hevident⟩
  refine ⟨fun hbefore hafter ↦ ?_, ?_⟩
  · simp only [talkStep, Talk.send] at hafter
    split at hafter
    case h_1 a writes hending hanswer =>
      obtain ⟨-, hreply⟩ := answerTo_eq_some.mp hanswer
      rw [(reply_keepsConsent hreply).bookingAllowed] at hafter
      rcases applyAssessment_cases (t.initialDialogue s.dialogue) a t.message t.consentAt with
        ⟨hkept, -⟩ | ⟨⟨hinside, hevident, hbook | ⟨haccept, hshown⟩⟩, -, -⟩ | ⟨-, hnot⟩
      · rw [hkept.bookingAllowed] at hafter
        exact absurd (bookingAllowed_initialDialogue hafter) hbefore
      · exact .inr ⟨a, hlabel hending hanswer hevident, .inl hbook⟩
      · refine .inr ⟨a, hlabel hending hanswer hevident, .inr ⟨haccept, ?_⟩⟩
        rw [initialDialogue_offerShown] at hshown
        rcases htraced hshown with hoffered | hfirst
        · exact hoffered
        · exact (hheard a (hlabel hending hanswer hevident)).1 haccept hinside hbefore hfirst
      · exact absurd hafter hnot
    case h_2 a writes hending hanswer =>
      obtain ⟨-, hreply⟩ := answerTo_eq_some.mp hanswer
      cases hremembered : writes.remembered with
      | none =>
        simp only [hremembered, Option.getD_none] at hafter
        exact absurd hafter hbefore
      | some d' =>
        simp only [hremembered, Option.getD_some] at hafter
        rw [(remembered_sameConsent hreply hremembered).bookingAllowed] at hafter
        exact absurd (bookingAllowed_initialDialogue hafter) hbefore
    case h_3 => exact absurd hafter hbefore
    case h_4 => exact absurd hafter hbefore
  · rintro ⟨a, ⟨hending, writes, hanswer, hevident⟩, hintent⟩
    simp only [talkStep, Talk.send, hending, hanswer]
    obtain ⟨-, hreply⟩ := answerTo_eq_some.mp hanswer
    rw [(reply_keepsConsent hreply).bookingAllowed]
    by_cases houtside : a.isOutside
    · rw [applyAssessment, if_pos houtside]
      intro hallowed
      rcases (hheard a (hlabel hending hanswer hevident)).2 hintent houtside with hsubmitted | hnot
      · rw [Turn.initialDialogue, if_pos hsubmitted] at hallowed
        simp [bookingAllowed] at hallowed
      · exact hnot (bookingAllowed_initialDialogue hallowed)
    · have hrefuses : a.refuses t.message := by
        simp [MessageAssessment.refuses, houtside, hevident, hintent]
      rcases applyAssessment_cases (t.initialDialogue s.dialogue) a t.message t.consentAt with
        ⟨-, hno⟩ | ⟨-, -, hno⟩ | ⟨-, hnot⟩
      · exact absurd hrefuses hno
      · exact absurd hrefuses hno
      · exact hnot

theorem change_heedsConsent (call : ChangeDialogue) :
    HeedsConsent X s (.changeAssistantDialogue call) := by
  refine ⟨fun hbefore hafter ↦ ?_, ?_⟩
  · simp only [talkStep, Talk.change] at hafter
    by_cases hrefused :
      call.conflicts ∨ (call.consultationRequestId.isSome ∧ call.action = .beginBooking)
    · rw [if_pos hrefused] at hafter
      exact absurd hafter hbefore
    · rw [if_neg hrefused] at hafter
      cases haction : call.action with
      | beginBooking => exact haction
      | returnInquiry => simp [haction, DialogueAction.change, bookingAllowed] at hafter
      | accountAccess =>
        rw [haction] at hafter
        exact absurd hafter hbefore
  · rintro ⟨haction, hconflicts⟩
    simp [talkStep, Talk.change, haction, hconflicts, DialogueAction.change, bookingAllowed]

theorem talkStep_heedsConsent {call : DialogueCall} (htraced : OfferTraced s)
    (hheard : IsHeard X s call) : HeedsConsent X s call := by
  cases call with
  | sendAssistantMessage t => exact send_heedsConsent htraced hheard
  | changeAssistantDialogue call => exact change_heedsConsent call

/-! ### The offer -/

theorem OfferTraced.of_log {log' : List Happening} {d : DialogueState} (h : OfferTraced s)
    (hd : d.offerShown → s.dialogue.offerShown) : OfferTraced ⟨d, s.log ++ log'⟩ := by
  intro hshown
  rcases h (hd hshown) with hoffered | hfirst
  · exact .inl (hoffered.append _)
  · exact .inr (hfirst.append _)

theorem send_offerTraced (h : OfferTraced s) : OfferTraced (s.send X t) := by
  unfold Talk.send
  split
  case h_1 a writes hending hanswer =>
    obtain ⟨-, hreply⟩ := answerTo_eq_some.mp hanswer
    rw [List.append_assoc]
    rcases (reply_keepsConsent hreply).dialogue with hsame | ⟨-, locale, hoffer⟩
    · rcases applyAssessment_cases (t.initialDialogue s.dialogue) a t.message t.consentAt with
        ⟨hkept, -⟩ | ⟨-, hshown, -⟩ | ⟨hrefuses, -⟩
      · refine h.of_log fun hnew ↦ ?_
        rwa [hsame.offerShown, hkept.offerShown, initialDialogue_offerShown] at hnew
      · refine h.of_log fun hnew ↦ ?_
        rwa [hsame.offerShown, hshown, initialDialogue_offerShown] at hnew
      · rw [if_pos hrefuses]
        exact fun _ ↦ traced_refusal _ _
    · exact fun _ ↦ .inl ⟨writes.text, locale, by simp, hoffer⟩
  case h_2 a writes hending hanswer =>
    obtain ⟨-, hreply⟩ := answerTo_eq_some.mp hanswer
    cases hremembered : writes.remembered with
    | none => exact h
    | some d' =>
      intro hshown
      rw [Option.getD_some, (remembered_sameConsent hreply hremembered).offerShown,
        initialDialogue_offerShown] at hshown
      exact h hshown
  case h_3 => exact h
  case h_4 => exact h

theorem change_offerTraced (call : ChangeDialogue) (h : OfferTraced s) :
    OfferTraced (s.change call) := by
  unfold Talk.change
  by_cases hrefused :
    call.conflicts ∨ (call.consultationRequestId.isSome ∧ call.action = .beginBooking)
  · rw [if_pos hrefused]
    exact h
  · rw [if_neg hrefused]
    cases call.action with
    | beginBooking => exact h.of_log fun hnew ↦ hnew
    | returnInquiry => exact fun _ ↦ traced_refusal _ _
    | accountAccess => exact h.of_log fun hnew ↦ hnew

theorem talkStep_offerTraced (call : DialogueCall) (h : OfferTraced s) :
    OfferTraced (talkStep X s call) := by
  cases call with
  | sendAssistantMessage t => exact send_offerTraced h
  | changeAssistantDialogue call => exact change_offerTraced call h

/-! ## Every conversation -/

/-- Without consent a booking stays refused. -/
theorem stays_refused {l : List DialogueCall} (htraced : OfferTraced s)
    (hnot : ¬bookingAllowed s.dialogue) (hheard : AllSteps (talkStep X) (IsHeard X) s l)
    (hno : AllSteps (talkStep X) (fun s call ↦ ¬Consents X s call) s l) :
    AllStates (talkStep X) (fun s ↦ ¬bookingAllowed s.dialogue) s l := by
  induction l generalizing s with
  | nil => exact hnot
  | cons call l ih =>
    refine ⟨hnot, ih (talkStep_offerTraced call htraced) (fun hallowed ↦ ?_) hheard.2 hno.2⟩
    exact hno.1 ((talkStep_heedsConsent htraced hheard.1).consent hnot hallowed)

/-- As long as no acceptance follows a refusal that came before the offer, and no refusal is
labelled off topic or unclear, a booking becomes allowed by consent only, and a refusal ends it
until the customer consents again. -/
theorem booking_consent_heeded (X : AssistantTexts) {s : Talk} {l : List DialogueCall}
    (h : OfferTraced s) (hheard : AllSteps (talkStep X) (IsHeard X) s l) :
    AllSteps (talkStep X) (HeedsConsent X) s l ∧
      ∀ before call after, l = before ++ call :: after →
        Refuses X (run (talkStep X) s before) call →
        AllSteps (talkStep X) (fun s call ↦ ¬Consents X s call)
          (talkStep X (run (talkStep X) s before) call) after →
        AllStates (talkStep X) (fun s ↦ ¬bookingAllowed s.dialogue)
          (talkStep X (run (talkStep X) s before) call) after := by
  have hstep : ∀ (s : Talk) (call : DialogueCall), OfferTraced s → IsHeard X s call →
      OfferTraced (talkStep X s call) := fun _ call htraced _ ↦ talkStep_offerTraced call htraced
  refine ⟨allSteps_mono hstep (fun _ _ ↦ talkStep_heedsConsent) h hheard, ?_⟩
  rintro before call after rfl hrefuses hno
  have htraced : OfferTraced (run (talkStep X) s before) :=
    run_invariant (fun _ call ↦ talkStep_offerTraced call) h before
  obtain ⟨-, hcall, hafter⟩ := allSteps_append.mp hheard
  exact stays_refused (talkStep_offerTraced call htraced)
    ((talkStep_heedsConsent htraced hcall).refusal hrefuses) hafter hno

/-! ### An acceptance without an offer -/

/-- Texts in which nothing is found. -/
def plainTexts : AssistantTexts where
  text _ _ := ""
  explicitAccountQuestion _ := false
  legalSubjectQuestion _ := false
  legalFactCorrection _ := false
  actionRequest _ := false
  asksForForm _ := false
  picksChoice _ := false
  asksForReply _ := false
  followupCategory _ _ := none
  legalContextForMessage previous _ _ := ⟨previous.getD {}, false, false⟩
  rememberLegalMessage _ _ _ _ _ := .arr []
  rememberLegalQuestion memory _ _ := memory

/-- The customer says "yes", and the model labels it. -/
def sampleYes (intent : MessageIntent) : Turn where
  messageId := "0c9d8e7f-6a5b-4c3d-8e1f-0a9b8c7d6e5f"
  message := "yes"
  classification :=
    { scope := .office, intent, evidence := "yes", locale := .en, offerAppropriate := false }
  consentAt := "2026-01-05T08:00:00.000Z"

/-- The button that leads back to the inquiry. -/
def sampleReturn : DialogueCall :=
  .changeAssistantDialogue { action := .returnInquiry, consentAt := "2026-01-05T07:00:00.000Z" }

theorem offerTraced_new : OfferTraced {} := nofun

/-- Nothing in the text decides how it is classified. -/
theorem sampleYes_label {intent : MessageIntent} {s : Talk} {a : MessageAssessment}
    (hs : s.dialogue = { offerShown := true }) (h : (sampleYes intent).IsLabelled plainTexts s a) :
    a.intent = intent := by
  obtain ⟨-, writes, hanswer, -⟩ := h
  obtain ⟨hassessment, -⟩ := answerTo_eq_some.mp hanswer
  have hyes : ¬explicitBookingRequest "yes" := by decide +kernel
  have hdirect : (sampleYes intent).directBooking = false := decide_eq_false fun hask ↦ hyes hask.2
  have hinitial : (sampleYes intent).initialDialogue s.dialogue = s.dialogue := rfl
  rw [hinitial, hs, Turn.assessment, Turn.classified, hdirect] at hassessment
  cases hassessment
  cases intent <;> rfl

theorem booking_consent_heeded_sample :
    AllSteps (talkStep plainTexts) (HeedsConsent plainTexts) {}
        [sampleReturn, .sendAssistantMessage (sampleYes .book)] ∧
      ∀ before call after, [sampleReturn, .sendAssistantMessage (sampleYes .book)] =
          before ++ call :: after →
        Refuses plainTexts (run (talkStep plainTexts) {} before) call →
        AllSteps (talkStep plainTexts) (fun s call ↦ ¬Consents plainTexts s call)
          (talkStep plainTexts (run (talkStep plainTexts) {} before) call) after →
        AllStates (talkStep plainTexts) (fun s ↦ ¬bookingAllowed s.dialogue)
          (talkStep plainTexts (run (talkStep plainTexts) {} before) call) after := by
  refine booking_consent_heeded plainTexts offerTraced_new ⟨trivial, fun a hlabel ↦ ?_, trivial⟩
  have hbook := sampleYes_label rfl hlabel
  rw [hbook]
  exact ⟨nofun, nofun⟩

/-- After the way back to the inquiry a "yes" starts a booking that was never offered. -/
theorem booking_without_offer :
    ¬∀ (X : AssistantTexts) (s : Talk) (l : List DialogueCall), OfferTraced s →
      AllSteps (talkStep X) (HeedsConsent X) s l := by
  intro h
  obtain ⟨-, hheeds, -⟩ := h plainTexts {} [sampleReturn, .sendAssistantMessage (sampleYes .accept)]
    offerTraced_new
  rcases hheeds.consent Bool.false_ne_true (by decide +kernel) with
    hexplicit | ⟨a, hlabel, hintent | ⟨-, text, locale, hmem, -⟩⟩
  · revert hexplicit
    decide +kernel
  · rw [sampleYes_label rfl hlabel] at hintent
    cases hintent
  · cases List.mem_singleton.mp hmem

end KmtLegal
