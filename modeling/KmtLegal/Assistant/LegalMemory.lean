import KmtLegal.Assistant.Dialogue
import KmtLegal.Platform
import KmtLegal.Js.Utf16
import KmtLegal.Relational.Transaction

/-!
# The legal memory

`legal-memory.ts`: what the assistant keeps of the customer's own words, and the question it is
waiting for.  Quotes come from the model and are strings of JSON, in which a surrogate may stand
alone; `length`, `slice` and `includes` count units.
-/

namespace KmtLegal

open Relational Js

/-! ## The memory -/

structure LegalStatement where
  messageId : Uuid
  quote : Units
  jurisdiction : String
  topics : List String
  deriving DecidableEq

structure PendingQuestion where
  messageId : Uuid
  text : Units
  deriving DecidableEq

structure LegalMemory where
  version : ℕ := 1
  statements : List LegalStatement := []
  pendingQuestion : Option PendingQuestion := none
  bounded : Bool := false
  deriving DecidableEq

section

variable (P : Platform)

/-- An item of `statements` the schema accepts. -/
def isLegalStatement (s : LegalStatement) : Bool :=
  P.isUuid s.messageId ∧ 1 ≤ s.quote.length ∧ s.quote.length ≤ 400 ∧ length s.jurisdiction = 2 ∧
    s.topics.length ≤ 3

/-- `legalMemorySchema` accepts the memory. -/
def legalMemorySchema (memory : LegalMemory) : Bool :=
  memory.version = 1 ∧ memory.statements.all (isLegalStatement P) ∧
    memory.statements.length ≤ 60 ∧
    memory.pendingQuestion.all fun question ↦
      P.isUuid question.messageId ∧ question.text.length ≤ 500

/-- `legalMemorySchema.parse(memory)`. -/
def parseLegalMemory (memory : LegalMemory) : Except Failure LegalMemory := do
  throwIf (!legalMemorySchema P memory) .zodError
  return memory

/-- `/^[A-Z]{2}$/`. -/
def isCountry (s : String) : Bool := s.toList.length = 2 ∧ s.toList.all fun c ↦ 'A' ≤ c ∧ c ≤ 'Z'

/-- A message of the customer, with what the model says of it. -/
structure LegalMessage where
  messageId : Uuid
  message : Units
  context : LegalContext
  quotes : List Units := []
  isUuid : P.isUuid messageId
  nonempty : message ≠ []
  atMost4000 : message.length ≤ 4000
  wellFormed : isWellFormed message
  isCountry : isCountry context.jurisdiction
  topics : context.topics.length ≤ 3

end

/-! ## Remembering a message -/

section

variable {P : Platform}

namespace LegalMessage

variable (input : LegalMessage P)

/-- The distinct quotes that are not blank, not too long and the customer's own words. -/
def usableQuotes : List Units :=
  input.quotes.eraseDups.filter fun q ↦
    trimUnits q ≠ [] ∧ q.length ≤ 400 ∧ q <:+: input.message

/-- `quotes.slice(0, 3)`, where the start of the message stands in for missing quotes. -/
def keptQuotes : List Units :=
  (if input.usableQuotes = [] then [input.message.take 400] else input.usableQuotes).take 3

/-- `truncatedFallback`. -/
def truncatedFallback : Bool := input.usableQuotes = [] ∧ 400 < input.message.length

/-- The statements a message contributes. -/
def statements : List LegalStatement :=
  input.keptQuotes.map fun quote ↦
    { messageId := input.messageId
      quote
      jurisdiction := input.context.jurisdiction
      topics := input.context.topics }

end LegalMessage

/-- The opening statements and the recent ones, of more than sixty. -/
def boundedStatements (statements : List LegalStatement) : List LegalStatement :=
  if 60 < statements.length then statements.take 15 ++ statements.drop (statements.length - 45)
  else statements

/-- `rememberLegalMessage(previous, input)`. -/
def rememberLegalMessage (previous : Option LegalMemory) (input : LegalMessage P) :
    Except Failure LegalMemory := do
  let memory ← parseLegalMemory P (previous.getD { version := 1, statements := [] })
  let statements :=
    (memory.statements.filter fun s ↦ s.messageId ≠ input.messageId) ++ input.statements
  return {
    version := 1
    pendingQuestion := memory.pendingQuestion
    statements := boundedStatements statements
    bounded := memory.bounded || 60 < statements.length || input.truncatedFallback }

end

/-! ## Remembering a question -/

/-- `[؟?]`. -/
def isQuestionMark (u : UInt16) : Bool := u ∈ ([0x61f, 0x3f] : Units)

/-- `[\n.!؟?]`. -/
def isSentenceEnd (u : UInt16) : Bool := isQuestionMark u ∨ u ∈ ([0xa, 0x2e, 0x21] : Units)

/-- `answer.match(/[^\n.!؟?]*[؟?]/g)`, after the part of a sentence that was read. -/
def questionMatches : Units → Units → List Units
  | _, [] => []
  | read, u :: l =>
    if isQuestionMark u then (read ++ [u]) :: questionMatches [] l
    else if isSentenceEnd u then questionMatches [] l
    else questionMatches (read ++ [u]) l

/-- `rememberLegalQuestion(memory, messageId, answer)`. -/
def rememberLegalQuestion (memory : LegalMemory) (messageId : Uuid) (answer : Units) :
    LegalMemory :=
  let question := ((questionMatches [] answer).getLast?.map trimUnits).filter (· ≠ [])
  { memory with
    pendingQuestion := question.map fun text ↦ { messageId, text := text.take 500 } }

/-! ## The dialogue it is part of -/

/-- A stored dialogue whose other fields the schema accepts. -/
structure RememberingDialogue where
  dialogue : DialogueState := {}
  legalMemory : Option LegalMemory := none

/-- `readDialogue(value)`. -/
def readDialogue (P : Platform) (value : RememberingDialogue) : RememberingDialogue :=
  if value.legalMemory.all (legalMemorySchema P) then value else {}

inductive MemoryMove (P : Platform) where
  /-- A message is remembered. -/
  | message (input : LegalMessage P)
  /-- The answer to a message is. -/
  | question (messageId : Uuid) (isUuid : P.isUuid messageId) (answer : Units)

/-- What is stored after a move; a memory that does not parse makes it fail. -/
def memoryMove {P : Platform} (stored : RememberingDialogue) :
    MemoryMove P → RememberingDialogue
  | .message input =>
    let dialogue := readDialogue P stored
    commit ((rememberLegalMessage dialogue.legalMemory input).map fun memory ↦
      { dialogue with legalMemory := some memory }) stored
  | .question messageId _ answer =>
    let dialogue := readDialogue P stored
    { dialogue with
      legalMemory := dialogue.legalMemory.map fun memory ↦
        rememberLegalQuestion memory messageId answer }

/-- The messages of a run, in order. -/
def legalMessages {P : Platform} (l : List (MemoryMove P)) : List (LegalMessage P) :=
  l.filterMap fun
    | .message input => some input
    | .question _ _ _ => none

end KmtLegal
