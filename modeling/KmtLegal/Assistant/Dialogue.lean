import KmtLegal.Database
import KmtLegal.Js.Pattern

/-!
# The dialogue of a conversation

`company-conversation-policy.ts`: what a session remembers between two messages, how the
classification of a message by the model changes it, and which messages ask for a booking without
a classification.
-/

namespace KmtLegal

open Js

/-! ## State -/

inductive DialogueMode where
  | inquiry | booking
  deriving DecidableEq

inductive DialogueDomain where
  | legal | account | office
  deriving DecidableEq

inductive FollowupCategory where
  | requests | consultation | serviceRequest | case | hearing | appointment | document | payment
  | conversation | profile
  deriving DecidableEq

inductive RecordKind where
  | consultation | serviceRequest | case | hearing | appointment | document | payment
  | conversation | profile
  deriving DecidableEq

/-- `assistantRecordRef`. -/
structure RecordRef where
  kind : RecordKind
  id : Uuid
  deriving DecidableEq

/-- `assistantFocus`. -/
structure FollowupFocus where
  category : FollowupCategory
  selected : Option RecordRef := none
  choices : Option (List RecordRef) := none
  deriving DecidableEq

inductive LegalMode where
  | explanation | analysis | draft
  deriving DecidableEq

/-- `legalContextSchema`. -/
structure LegalContext where
  jurisdiction : String := "EG"
  explicit : Bool := false
  topics : List String := ["GENERAL"]
  mode : LegalMode := .explanation
  useSelectedRecord : Bool := false
  deriving DecidableEq

/-- `dialogueSchema`. -/
structure DialogueState where
  mode : DialogueMode := .inquiry
  offerShown : Bool := false
  consentAt : Option String := none
  accountAccess : Bool := false
  followup : Option FollowupFocus := none
  legal : Option LegalContext := none
  activeDomain : Option DialogueDomain := none
  bookingFormRequestId : Option Uuid := none
  legalMemory : Option Json := none
  legalResearchNoticeShown : Bool := false

/-- `bookingAllowed(value)`. -/
def bookingAllowed (d : DialogueState) : Bool :=
  d.mode = .booking ∧ (orNull d.consentAt).isSome

/-! ## Explicit requests -/

/-- `(?:استشار[هة]|موعد)(?: قانوني[هة])?(?: مع المكتب)?`. -/
def arabicAppointment : RegularExpression Char :=
  oneOf ["استشاره", "استشارة", "موعد"] * maybe (oneOf [" قانونيه", " قانونية"]) *
    maybe (literally " مع المكتب")

/-- `(?:me )?(?:a |an )?(?:consultation|appointment)(?: with the office)?`. -/
def englishAppointment : RegularExpression Char :=
  maybe (literally "me ") * maybe (oneOf ["a ", "an "]) * oneOf ["consultation", "appointment"] *
    maybe (literally " with the office")

/-- The anchored grammar of `explicitBookingRequest`. -/
def bookingRequestGrammar : RegularExpression Char :=
  oneOf ["عايز", "عاوز", "عاوزه", "اريد", "ارغب", "محتاج", "حابب", "نفسي"] * literally " " *
      maybe (literally "في ") * oneOf ["احجز", "حجز", "احجزلي", "حجزلي"] * literally " " *
      arabicAppointment +
    oneOf ["احجز", "احجزلي"] * literally " " * arabicAppointment +
    oneOf ["i want to", "i would like to", "i'd like to", "please"] * literally " " *
      oneOf ["book", "schedule", "arrange", "request"] * literally " " * englishAppointment +
    oneOf ["book", "schedule"] * literally " " * englishAppointment

/-- `[\u064b-\u065f\u0670]`. -/
def isDiacritic (c : Char) : Bool :=
  (0x64b ≤ c.toNat ∧ c.toNat ≤ 0x65f) ∨ c.toNat = 0x670

/-- `.replace(/[أإآ]/g, "ا").replace(/ى/g, "ي")`. -/
def plainArabic (c : Char) : Char :=
  if c ∈ "أإآ".toList then 'ا' else if c = 'ى' then 'ي' else c

/-- `.replace(/\s+/g, " ")`. -/
def collapseSpaces : List Char → List Char
  | [] => []
  | c :: l =>
    if isSpace c then
      if l.head?.any isSpace then collapseSpaces l else ' ' :: collapseSpaces l
    else c :: collapseSpaces l

/-- The text `explicitBookingRequest` looks at. -/
def bookingRequestText (message : String) : List Char :=
  let text := ((toLowerCase message).toList.filter fun c ↦ !isDiacritic c).map plainArabic
  collapseSpaces ((trim (String.ofList text)).toList.rdropWhile fun c ↦ c ∈ ".!،".toList)

/-- `explicitBookingRequest(message)`. -/
def explicitBookingRequest (message : String) : Bool :=
  let text := bookingRequestText message
  length (String.ofList text) ≤ 100 ∧ !(message.toList.any fun c ↦ c ∈ "؟?\n\r\"'`«»".toList) ∧
    bookingRequestGrammar.rmatch text

/-! ## Classification -/

inductive MessageScope where
  | office | legal | relatedLegal | social | offTopic | mixed | unclear
  deriving DecidableEq

inductive MessageIntent where
  | none | book | accept | decline | withdraw | account | handoff | followUp | action | unclear
  deriving DecidableEq

/-- `assistantActionDraftSchema`, as far as an answer depends on it. -/
structure ActionDraft where
  kind : String
  targetId : Option Uuid := none
  deriving DecidableEq

/-- `legalAssessmentSchema`. -/
structure LegalAssessment where
  jurisdiction : Option String := none
  jurisdictionEvidence : Option String := none
  conflict : Option Bool := none
  topics : Option (List String) := none
  mode : Option LegalMode := none
  deriving DecidableEq

/-- `messageAssessmentSchema`. -/
structure MessageAssessment where
  scope : MessageScope
  intent : MessageIntent
  evidence : String
  locale : PublicLocale
  offerAppropriate : Bool
  followupCategory : Option FollowupCategory := none
  legal : Option LegalAssessment := none
  accountEvidence : Option String := none
  factQuotes : Option (List String) := none
  actionDraft : Option ActionDraft := none
  deriving DecidableEq

/-- The evidence is not blank, and the message contains it. -/
def MessageAssessment.isEvident (a : MessageAssessment) (message : String) : Bool :=
  trim a.evidence ≠ "" ∧ a.evidence.toList <:+: message.toList

/-- The classification says that the message is about nothing the office does. -/
def MessageAssessment.isOutside (a : MessageAssessment) : Bool :=
  a.scope ∈ [.offTopic, .unclear]

/-- `applyAssessment(state, a, userText)`; `consentAt` is the text of the current time. -/
def applyAssessment (d : DialogueState) (a : MessageAssessment) (message consentAt : String) :
    DialogueState :=
  if a.isOutside then d
  else if !a.isEvident message then d
  else match a.intent with
    | .book => { d with mode := .booking, consentAt := some consentAt, followup := none }
    | .accept =>
      if d.offerShown then { d with mode := .booking, consentAt := some consentAt, followup := none }
      else d
    | .decline | .withdraw =>
      { d with mode := .inquiry, consentAt := none, offerShown := true, accountAccess := false }
    | .account => { d with accountAccess := true }
    | .none | .handoff | .followUp | .action | .unclear => d

/-- `shouldOfferConsultation({ dialogue, assessment, completedExchanges, submitted })`. -/
def shouldOfferConsultation (d : DialogueState) (a : MessageAssessment) (completedExchanges : ℕ)
    (submitted : Bool) : Bool :=
  2 ≤ completedExchanges ∧ !submitted ∧ d.mode = .inquiry ∧ !d.offerShown ∧ !d.accountAccess ∧
    a.intent = .none ∧ a.offerAppropriate ∧ a.scope ∈ [.office, .legal, .relatedLegal, .mixed]

/-! ## Buttons -/

inductive DialogueAction where
  | beginBooking | returnInquiry | accountAccess
  deriving DecidableEq

/-- The dialogue `changeAssistantDialogue` writes. -/
def DialogueAction.change (action : DialogueAction) (d : DialogueState) (consentAt : String) :
    DialogueState :=
  match action with
  | beginBooking =>
    { d with
      mode := .booking, consentAt := some consentAt, activeDomain := some .office, followup := none }
  | returnInquiry =>
    { d with mode := .inquiry, consentAt := none, offerShown := true, accountAccess := false }
  | accountAccess => { d with accountAccess := true }

example : explicitBookingRequest "Please book a consultation." := by decide +kernel

end KmtLegal
