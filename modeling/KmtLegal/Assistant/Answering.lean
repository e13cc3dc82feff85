import KmtLegal.Assistant.Dialogue

/-!
# The answer to a message

`sendAssistantMessage` of `conversation-session-service.ts`, between the lease it acquires and the
answer it writes: how a message is classified, which way it is answered, and which dialogue is
stored with the answer.

The regular expressions of follow-ups and legal questions and the remaining texts come from other
modules and are parameters.  What the model, the tools and the records of the client answer comes
with the turn.
-/

namespace KmtLegal

open Js

/-! ## Texts -/

structure PolicyCopy where
  outside : String
  clarify : String
  consentClarify : String
  safeReply : String
  mixed : String
  offer : String
  withdrawn : String

def assistantPolicyCopy : PublicLocale → PolicyCopy
  | .ar =>
    { outside := "أقدر أساعدك في الأسئلة القانونية وخدمات KMT Legal والحجز ومتابعة طلباتك. ما سؤالك في النطاق ده؟"
      clarify := "هل تقصد سؤالًا قانونيًا، أم خدمة من المكتب أو متابعة طلبك؟"
      consentClarify := "ممكن توضّح قصدك عشان نكمل في النقطة اللي تحتاجها؟"
      safeReply := "أقدر أوضّح المعلومات المتاحة عن خدمات المكتب. أي نقطة تحب نكمل فيها؟"
      mixed := "سأجيب عن الجزء القانوني أو المتعلق بالمكتب."
      offer := "لو احتجت مراجعة حالتك مع المكتب، تقدر تستخدم زر الحجز داخل الموقع. ونقدر نكمل سؤالك هنا."
      withdrawn := "توقفنا عن تجهيز الحجز، والمسودة محفوظة دون إرسال. يمكنك استكمال الاستفسار عن خدمات المكتب." }
  | .en =>
    { outside := "I can help with legal questions, KMT Legal services, bookings and your own requests. What would you like to ask within that scope?"
      clarify := "Is this a legal question, an office service question, or a follow-up on your request?"
      consentClarify := "Could you clarify what you mean so we can continue with the point you need?"
      safeReply := "I can explain the available information about the office’s services. Which point would you like to explore next?"
      mixed := "I’ll address the legal or office-related part."
      offer := "If you need the office to review your situation, use the booking button on this website. We can also continue your question here."
      withdrawn := "Booking preparation has stopped. Your draft is saved without submission, and you can continue asking about office services." }

/-- Texts of `directBookingCopy`, `assistantActionCopy`, `clientAssistantCopy` and
`legalAssistantCopy`. -/
inductive AnswerText where
  | bookingIntro | bookingFallback | officeReview | pending | disabled | choose | login | unavailable
  | notFound | noReply | conflict
  deriving DecidableEq

/-- What `legalContextForMessage` returns. -/
structure LegalReading where
  context : LegalContext
  conflict : Bool
  changed : Bool

structure AssistantTexts where
  text : AnswerText → PublicLocale → String
  explicitAccountQuestion : String → Bool
  legalSubjectQuestion : String → Bool
  legalFactCorrection : String → Bool
  actionRequest : String → Bool
  /-- The message asks for free times or names a phone number, and does not refuse. -/
  asksForForm : String → Bool
  /-- `/^\s*[1-5][؟?.\s]*$/`. -/
  picksChoice : String → Bool
  /-- `/رد|reply|response/`. -/
  asksForReply : String → Bool
  followupCategory : String → Option FollowupFocus → Option FollowupCategory
  legalContextForMessage : Option LegalContext → Option LegalAssessment → String → LegalReading
  rememberLegalMessage :
    Option Json → Uuid → String → LegalContext → Option (List String) → Json
  rememberLegalQuestion : Json → Uuid → String → Json

/-! ## Turns -/

/-- What `resolveClientFollowup` returns. -/
structure ResolvedFollowup where
  text : String
  focus : FollowupFocus
  /-- It has found one record. -/
  found : Bool

/-- What `composeLegalAssistance` returns. -/
structure LegalReply where
  text : String
  accepted : Bool
  allowConsultationOffer : Bool
  researchNoticeShown : Bool

/-- What comes of `runConversationTurn` and the review of its reply. -/
inductive Generated where
  /-- The tools have rendered facts of the account. -/
  | grounded (text : String)
  | rejected
  | reply (text : String)

inductive TurnEnd where
  /-- The answer is written. -/
  | answered
  /-- Something throws after the memory of a legal message was written. -/
  | interrupted
  /-- Something throws before, or the message has been answered before. -/
  | failed
  deriving DecidableEq

/-- A call of `sendAssistantMessage` for the assistant, with what it finds on its way. -/
structure Turn where
  messageId : Uuid
  message : String
  locale : PublicLocale := .ar
  /-- The columns of the session. -/
  consultationRequestId : Option Uuid := none
  conversationThreadId : Option Uuid := none
  actorClientId : Option Uuid := none
  actionsEnabled : Bool := false
  /-- The answer of the model to `classify_company_message`. -/
  classification : MessageAssessment
  /-- How many of the earlier turns were answered. -/
  completedExchanges : ℕ := 0
  /-- The time as text. -/
  consentAt : String
  /-- Without one the records are not available, or not there (`true`). -/
  followup : Except Bool ResolvedFollowup := .error false
  /-- What a guest is told about the booking of the conversation. -/
  guestAnswer : String := ""
  /-- The latest message of the office. -/
  officeReply : Option String := none
  legalReply : LegalReply := ⟨"", false, false, false⟩
  generated : Generated := .rejected
  /-- The records the tools have read last. -/
  toolFocus : Option FollowupFocus := none
  ending : TurnEnd := .answered

/-- What a turn writes. -/
structure TurnWrites where
  /-- The dialogue, before a legal question is answered. -/
  remembered : Option DialogueState := none
  text : String
  dialogue : DialogueState

namespace Turn

variable (X : AssistantTexts) (t : Turn) (d : DialogueState)

def submitted : Bool := t.consultationRequestId.isSome

/-- `initialDialogue`: a submitted booking ends the booking mode. -/
def initialDialogue : DialogueState :=
  if t.submitted then { d with mode := .inquiry, consentAt := none } else d

/-! ### Classification

From here on `d` is the initial dialogue. -/

def directBooking : Bool := !t.submitted ∧ explicitBookingRequest t.message

def formFollowup : Bool :=
  bookingAllowed d ∧ !t.submitted ∧ !X.explicitAccountQuestion t.message ∧
    !X.legalSubjectQuestion t.message ∧ X.asksForForm t.message

def legalContinuation : Bool :=
  d.activeDomain = some .legal ∧ !X.explicitAccountQuestion t.message ∧
    !(X.picksChoice t.message ∧ (d.followup.bind FollowupFocus.choices).isSome ∧
      !d.legal.any LegalContext.useSelectedRecord)

/-- `category`, before the classification. -/
def category : Option FollowupCategory :=
  if (d.mode = .booking ∧ d.followup = none) ∨ t.legalContinuation X d ∨
      X.actionRequest t.message then none
  else X.followupCategory t.message d.followup

/-- A classification without the model, if it passes its schema. -/
def ownAssessment (intent : MessageIntent) (evidence : String) : Option MessageAssessment :=
  if length evidence ≤ 4000 ∧ length t.message ≤ 4000 then
    some { scope := .office, intent, evidence, locale := t.locale, offerAppropriate := false }
  else none

/-- The classification of the message. -/
def classified : Option MessageAssessment :=
  if t.directBooking then t.ownAssessment .book t.message
  else if t.formFollowup X d then t.ownAssessment .none ""
  else if (t.category X d).isSome then t.ownAssessment .followUp t.message
  else some t.classification

/-- A legal question is no follow-up. -/
def readAsLegal (a : MessageAssessment) : MessageAssessment :=
  if a.intent = .followUp ∧ (X.legalSubjectQuestion t.message ∨ t.legalContinuation X d) then
    { a with scope := .legal, intent := .none, evidence := "" }
  else a

/-- The correction of a fact is no action. -/
def readAsCorrection (a : MessageAssessment) : MessageAssessment :=
  if t.legalContinuation X d ∧ X.legalFactCorrection t.message ∧
      a.intent ∈ [.action, .account, .followUp] then
    { a with
      scope := .legal, intent := .none, evidence := "", actionDraft := none
      accountEvidence := none, offerAppropriate := false }
  else a

/-- `assessment`. -/
def assessment : Option MessageAssessment :=
  (t.classified X d).map fun a ↦ t.readAsCorrection X d (t.readAsLegal X d a)

/-! ### Answers -/

variable (a : MessageAssessment)

/-- `dialogue`, before the message is answered. -/
def dialogue : DialogueState :=
  let applied := applyAssessment d a t.message t.consentAt
  { applied with
    activeDomain :=
      if a.intent = .followUp then some .account
      else if a.scope = .office ∨ a.intent ∈ [.book, .account, .handoff] then some .office
      else applied.activeDomain }

/-- `copy`. -/
def copy : PolicyCopy := assistantPolicyCopy a.locale

/-- The consultation is offered at the end of a text, if it is to be offered. -/
def withOffer (text : String) (state : DialogueState) : TurnWrites :=
  if shouldOfferConsultation state a t.completedExchanges t.submitted then
    { text := text ++ "\n\n" ++ (copy a).offer, dialogue := { state with offerShown := true } }
  else { text, dialogue := state }

def replyHandoff (state : DialogueState) : TurnWrites :=
  if !a.isEvident t.message then { text := (copy a).clarify, dialogue := state }
  else if t.actorClientId = none ∨ !t.actionsEnabled then
    { text := X.text .officeReview a.locale, dialogue := state }
  else { text := X.text .pending a.locale, dialogue := state }

/-- The record an action is about is among those the customer asks for. -/
def proposeService (state : DialogueState) : Option TurnWrites :=
  match t.followup with
  | .ok found =>
    let state := { state with followup := some found.focus }
    if found.focus.selected.any fun r ↦ r.kind = .serviceRequest then
      some { text := X.text .pending a.locale, dialogue := state }
    else
      some { text := found.text ++ "\n\n" ++ X.text .choose a.locale, dialogue := state }
  | .error _ => none

/-- An action is proposed. -/
def propose (draft : ActionDraft) (state : DialogueState) : Option TurnWrites :=
  let isSelected (kind : RecordKind) : Bool :=
    (state.followup.bind FollowupFocus.selected).any fun r ↦ r.kind = kind
  let pending : TurnWrites := { text := X.text .pending a.locale, dialogue := state }
  if draft.kind = "ALTERNATIVE_TIME" ∧ draft.targetId = none ∧ !isSelected .consultation ∧
      !t.submitted then
    some { text := X.text .choose a.locale, dialogue := state }
  else if draft.kind = "SERVICE" ∧ draft.targetId = none ∧ !isSelected .serviceRequest then
    t.proposeService X a state
  else some pending

def replyAction (state : DialogueState) : Option TurnWrites :=
  if t.actorClientId = none then some { text := X.text .login a.locale, dialogue := state }
  else if !t.actionsEnabled then some { text := X.text .disabled a.locale, dialogue := state }
  else match a.actionDraft with
    | none => some { text := (copy a).clarify, dialogue := state }
    | some draft =>
      if !a.isEvident t.message ∨ !X.actionRequest t.message then
        some { text := (copy a).clarify, dialogue := state }
      else t.propose X a draft state

/-- A client asks about records. -/
def replyClientFollowup (state : DialogueState) : TurnWrites :=
  match t.followup with
  | .ok found => { text := found.text, dialogue := { state with followup := some found.focus } }
  | .error _ => { text := X.text .unavailable a.locale, dialogue := state }

/-- A guest asks about records. -/
def replyGuestFollowup (state : DialogueState) : TurnWrites :=
  let category := ((t.category X d).or a.followupCategory).or
    (d.followup.map FollowupFocus.category)
  if category.getD .requests ∉ [.requests, .consultation, .appointment] then
    { text := X.text .login a.locale, dialogue := state }
  else if t.submitted then { text := t.guestAnswer, dialogue := state }
  else if t.conversationThreadId.isSome ∧ X.asksForReply t.message then
    { text := t.officeReply.getD (X.text .noReply a.locale), dialogue := state }
  else { text := X.text .login a.locale, dialogue := state }

/-- The answer to a legal question, after the customer's words are remembered. -/
def replyLegalQuestion (context : LegalContext) (state : DialogueState) : TurnWrites :=
  let memory := X.rememberLegalMessage state.legalMemory t.messageId t.message context a.factQuotes
  let remembered := { state with legalMemory := some memory }
  let answered := { state with
    legalResearchNoticeShown := state.legalResearchNoticeShown || t.legalReply.researchNoticeShown
    legalMemory := some (X.rememberLegalQuestion memory t.messageId t.legalReply.text) }
  if t.legalReply.accepted ∧ t.legalReply.allowConsultationOffer then
    { t.withOffer a t.legalReply.text answered with remembered := some remembered }
  else { text := t.legalReply.text, dialogue := answered, remembered := some remembered }

def replyLegal (state : DialogueState) : TurnWrites :=
  let legal := X.legalContextForMessage d.legal a.legal t.message
  if legal.conflict then { text := X.text .conflict a.locale, dialogue := state }
  else
    let explicitOwnAnalysis : Bool :=
      (orNull a.accountEvidence).any (fun evidence ↦ evidence.toList <:+: t.message.toList) ∧
        X.explicitAccountQuestion t.message
    let continuingOwnAnalysis : Bool := t.legalContinuation X d ∧
      d.legal.any fun previous ↦ previous.useSelectedRecord ∧ legal.context.topics = previous.topics
    let useSelectedRecord := explicitOwnAnalysis || continuingOwnAnalysis
    let context := { legal.context with useSelectedRecord }
    let state := { state with legal := some context, activeDomain := some .legal }
    if !useSelectedRecord then t.replyLegalQuestion X a context state
    else if t.actorClientId = none then { text := X.text .login a.locale, dialogue := state }
    else match t.followup with
      | .error missing =>
        { text := X.text (if missing then .notFound else .unavailable) a.locale, dialogue := state }
      | .ok found =>
        let state := { state with followup := some found.focus }
        if !found.found then { text := found.text, dialogue := state }
        else t.replyLegalQuestion X a context state

/-- The answer of the model, with its tools and after its review. -/
def replyGenerated (state : DialogueState) : TurnWrites :=
  let state := { state with followup := t.toolFocus.or state.followup }
  match t.generated with
  | .grounded text => { text, dialogue := state }
  | .rejected =>
    { text := if state.mode = .inquiry then (copy a).safeReply else X.text .bookingFallback a.locale
      dialogue := state }
  | .reply text =>
    t.withOffer a (if a.scope = .mixed then (copy a).mixed ++ "\n\n" ++ text else text) state

/-- The message is about nothing else. -/
def replyQuestion (state : DialogueState) : TurnWrites :=
  if a.scope = .offTopic then { text := (copy a).outside, dialogue := d }
  else if a.scope = .unclear then { text := (copy a).clarify, dialogue := d }
  else if a.intent = .unclear then { text := (copy a).consentClarify, dialogue := d }
  else if a.intent ∈ [.decline, .withdraw] ∧ state.mode = .inquiry ∧ state.offerShown then
    { text := (copy a).withdrawn, dialogue := state }
  else if (a.scope ∈ [.legal, .relatedLegal] ∨ (a.scope = .mixed ∧ a.legal.isSome)) ∧
      a.intent = .none then
    t.replyLegal X d a state
  else t.replyGenerated X a state

/-- The answer to a message that is classified as `a`; `none` if it throws. -/
def reply : Option TurnWrites :=
  let state := t.dialogue d a
  if !t.submitted ∧ bookingAllowed state ∧ (t.formFollowup X d ∨ a.intent ∈ [.book, .accept]) then
    some
      { text := X.text .bookingIntro a.locale
        dialogue := { state with bookingFormRequestId := some t.messageId } }
  else if a.intent = .handoff then some (t.replyHandoff X a state)
  else if a.intent = .action then t.replyAction X a state
  else if a.intent = .followUp then
    if t.actorClientId.isSome then some (t.replyClientFollowup X a state)
    else some (t.replyGuestFollowup X d a state)
  else some (t.replyQuestion X d a state)

end Turn

/-! ## Sessions -/

/-- What has happened in a conversation. -/
inductive Happening where
  | answer (text : String)
  /-- A refusal: the customer declines, withdraws, or goes back to the inquiry. -/
  | refusal

/-- The stored dialogue of a session, and what has happened so far. -/
structure Talk where
  dialogue : DialogueState := {}
  log : List Happening := []

/-- A call of `changeAssistantDialogue`. -/
structure ChangeDialogue where
  action : DialogueAction
  consultationRequestId : Option Uuid := none
  /-- The time as text. -/
  consentAt : String
  /-- The session is not the caller's, or was changed in the meantime. -/
  conflicts : Bool := false

inductive DialogueCall where
  | sendAssistantMessage (t : Turn)
  | changeAssistantDialogue (call : ChangeDialogue)

/-- The assessment refuses a booking, and is applied. -/
def MessageAssessment.refuses (a : MessageAssessment) (message : String) : Bool :=
  !a.isOutside ∧ a.isEvident message ∧ a.intent ∈ [.decline, .withdraw]

namespace Talk

variable (X : AssistantTexts) (s : Talk)

/-- The turn as it is classified, with what it would write. -/
def answerTo (t : Turn) : Option (MessageAssessment × TurnWrites) := do
  let d := t.initialDialogue s.dialogue
  let a ← t.assessment X d
  let writes ← t.reply X d a
  pure (a, writes)

def send (t : Turn) : Talk :=
  match t.ending, s.answerTo X t with
  | .answered, some (a, writes) =>
    { dialogue := writes.dialogue
      log := s.log ++ (if a.refuses t.message then [.refusal] else []) ++ [.answer writes.text] }
  | .interrupted, some (_, writes) => { s with dialogue := writes.remembered.getD s.dialogue }
  | .failed, _ | _, none => s

def change (call : ChangeDialogue) : Talk :=
  if call.conflicts ∨ (call.consultationRequestId.isSome ∧ call.action = .beginBooking) then s
  else
    { dialogue := call.action.change s.dialogue call.consentAt
      log := s.log ++ if call.action = .returnInquiry then [.refusal] else [] }

end Talk

def talkStep (X : AssistantTexts) (s : Talk) : DialogueCall → Talk
  | .sendAssistantMessage t => s.send X t
  | .changeAssistantDialogue call => s.change call

end KmtLegal
