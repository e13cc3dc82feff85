import KmtLegal.Assistant.LegalMemory
import KmtLegal.Relational.Run

/-!
# A legal memory over a conversation

A memory is read back after any run of messages and questions, and what it keeps are statements of
the last message with their id.  Its window of fifteen and forty-five is that of all statements
made, as long as no message is retried.  A statement may however be cut inside a pair of
surrogates, by the model or at the four hundredth unit.
-/

namespace KmtLegal

open Relational Js

/-! ## The window -/

theorem boundedStatements_of_le {l : List LegalStatement} (h : l.length ≤ 60) :
    boundedStatements l = l :=
  if_neg (by omega)

theorem boundedStatements_of_lt {l : List LegalStatement} (h : 60 < l.length) :
    boundedStatements l = l.take 15 ++ l.drop (l.length - 45) :=
  if_pos h

theorem length_boundedStatements (l : List LegalStatement) : (boundedStatements l).length ≤ 60 := by
  rcases Nat.lt_or_ge 60 l.length with h | h
  · rw [boundedStatements_of_lt h, List.length_append, List.length_take, List.length_drop]
    omega
  · rw [boundedStatements_of_le h]
    exact h

theorem boundedStatements_sublist (l : List LegalStatement) :
    (boundedStatements l).Sublist l := by
  rcases Nat.lt_or_ge 60 l.length with h | h
  · have hdrop : (l.drop (l.length - 45)).Sublist (l.drop 15) := by
      rw [show l.length - 45 = 15 + (l.length - 60) by omega, ← List.drop_drop]
      exact List.drop_sublist _ _
    rw [boundedStatements_of_lt h]
    conv_rhs => rw [← List.take_append_drop 15 l]
    exact (List.append_sublist_append_left _).mpr hdrop
  · rw [boundedStatements_of_le h]

/-- The opening statements stay. -/
theorem take_isPrefix_boundedStatements (l : List LegalStatement) :
    l.take 15 <+: boundedStatements l := by
  rcases Nat.lt_or_ge 60 l.length with h | h
  · rw [boundedStatements_of_lt h]
    exact List.prefix_append _ _
  · rw [boundedStatements_of_le h]
    exact List.take_prefix 15 l

/-- The recent statements stay. -/
theorem drop_isSuffix_boundedStatements (l : List LegalStatement) :
    l.drop (l.length - 45) <:+ boundedStatements l := by
  rcases Nat.lt_or_ge 60 l.length with h | h
  · rw [boundedStatements_of_lt h]
    exact List.suffix_append _ _
  · rw [boundedStatements_of_le h]
    exact List.drop_suffix _ l

theorem append_isSuffix_boundedStatements (a : List LegalStatement) {b : List LegalStatement}
    (hb : b.length ≤ 45) : b <:+ boundedStatements (a ++ b) := by
  apply List.IsSuffix.trans _ (drop_isSuffix_boundedStatements (a ++ b))
  rw [List.length_append, List.drop_append_of_le_length (by omega)]
  exact List.suffix_append _ _

/-- The window of a window and what follows is the window of it all. -/
theorem boundedStatements_append (a b : List LegalStatement) :
    boundedStatements (boundedStatements a ++ b) = boundedStatements (a ++ b) := by
  rcases Nat.lt_or_ge 60 a.length with h | h
  · rcases b.length.eq_zero_or_pos with hzero | hpos
    · rw [List.eq_nil_of_length_eq_zero hzero, List.append_nil, List.append_nil]
      exact boundedStatements_of_le (length_boundedStatements a)
    · have hlength : (boundedStatements a).length = 60 := by
        rw [boundedStatements_of_lt h, List.length_append, List.length_take, List.length_drop]
        omega
      have hall : 60 < (a ++ b).length := by
        rw [List.length_append]
        omega
      have hkept : 60 < (boundedStatements a ++ b).length := by
        rw [List.length_append]
        omega
      have htake : (boundedStatements a ++ b).take 15 = (a ++ b).take 15 := by
        rw [boundedStatements_of_lt h, List.append_assoc, List.take_append_of_le_length,
          List.take_append_of_le_length (by omega), List.take_take]
        · rfl
        · rw [List.length_take]
          omega
      have hdrop : (boundedStatements a ++ b).drop ((boundedStatements a ++ b).length - 45) =
          (a ++ b).drop ((a ++ b).length - 45) := by
        rw [List.length_append, hlength, boundedStatements_of_lt h, List.append_assoc,
          List.drop_append, List.length_take, List.drop_eq_nil_of_le, List.nil_append,
          List.drop_append, List.drop_append, List.drop_drop, List.length_drop,
          List.length_append]
        · congr 2 <;> omega
        · rw [List.length_take]
          omega
      rw [boundedStatements_of_lt hall, boundedStatements_of_lt hkept, htake, hdrop]
  · rw [boundedStatements_of_le h]

/-! ## What a message contributes -/

section

variable {P : Platform}

namespace LegalMessage

variable (input : LegalMessage P)

theorem length_keptQuotes : input.keptQuotes.length ≤ 3 := by
  rw [keptQuotes, List.length_take]
  omega

theorem length_statements : input.statements.length ≤ 3 := by
  rw [statements, List.length_map]
  exact input.length_keptQuotes

variable {input}

theorem mem_statements {s : LegalStatement} (h : s ∈ input.statements) :
    s.messageId = input.messageId ∧ s.quote ∈ input.keptQuotes ∧
      s.jurisdiction = input.context.jurisdiction ∧ s.topics = input.context.topics := by
  obtain ⟨quote, hquote, rfl⟩ := List.mem_map.mp h
  exact ⟨rfl, hquote, rfl, rfl⟩

theorem mem_usableQuotes {q : Units} (h : q ∈ input.usableQuotes) :
    q ≠ [] ∧ q.length ≤ 400 ∧ q <:+: input.message := by
  obtain ⟨-, husable⟩ := List.mem_filter.mp h
  obtain ⟨htrim, hlength, hinfix⟩ := of_decide_eq_true husable
  refine ⟨?_, hlength, hinfix⟩
  rintro rfl
  exact htrim rfl

/-- A kept quote is one the model gave or the start of the message. -/
theorem mem_keptQuotes {q : Units} :
    q ∈ input.keptQuotes ↔ q ∈ input.usableQuotes.take 3 ∨
      input.usableQuotes = [] ∧ q = input.message.take 400 := by
  unfold keptQuotes
  split_ifs with hnone
  · simp [hnone]
  · simp [hnone]

/-- It is the customer's own words. -/
theorem keptQuotes_verbatim {q : Units} (h : q ∈ input.keptQuotes) :
    q ≠ [] ∧ q.length ≤ 400 ∧ q <:+: input.message := by
  rcases mem_keptQuotes.mp h with husable | ⟨-, rfl⟩
  · exact mem_usableQuotes (List.mem_of_mem_take husable)
  · refine ⟨?_, ?_, (List.take_prefix _ _).isInfix⟩
    · rw [Ne, List.take_eq_nil_iff, not_or]
      exact ⟨by omega, input.nonempty⟩
    · rw [List.length_take]
      omega

variable (input) in
/-- No quote that is kept begins or ends inside a pair of surrogates, nor does the start of the
message that stands in for missing quotes. -/
def SplitsNoPair : Prop :=
  (∀ q ∈ input.usableQuotes.take 3, beginsInPair q = false ∧ endsInPair q = false) ∧
    (input.usableQuotes = [] → endsInPair (input.message.take 400) = false)

theorem keptQuotes_wellFormed_iff :
    (∀ q ∈ input.keptQuotes, isWellFormed q) ↔ input.SplitsNoPair := by
  have hstart : isWellFormed (input.message.take 400) = !endsInPair (input.message.take 400) := by
    apply isWellFormed_take (b := input.message.drop 400)
    rw [List.take_append_drop]
    exact input.wellFormed
  have husable : ∀ q ∈ input.usableQuotes.take 3,
      (isWellFormed q ↔ beginsInPair q = false ∧ endsInPair q = false) := by
    intro q hq
    exact isWellFormed_infix input.wellFormed (mem_usableQuotes (List.mem_of_mem_take hq)).2.2
  constructor
  · intro h
    constructor
    · intro q hq
      exact (husable q hq).mp (h q (mem_keptQuotes.mpr (.inl hq)))
    · intro hnone
      have hkept := h _ (mem_keptQuotes.mpr (.inr ⟨hnone, rfl⟩))
      rw [hstart] at hkept
      exact (Bool.not_eq_true' _).mp hkept
  · rintro ⟨hquotes, hfallback⟩ q hq
    rcases mem_keptQuotes.mp hq with htaken | ⟨hnone, rfl⟩
    · exact (husable q htaken).mpr (hquotes q htaken)
    · rw [hstart, hfallback hnone]
      rfl

theorem length_of_isCountry {s : String} (h : KmtLegal.isCountry s) : Js.length s = 2 := by
  obtain ⟨hlength, hall⟩ := of_decide_eq_true h
  have hunits :
      s.toList.map (fun c ↦ if c.toNat < 65536 then 1 else 2) = s.toList.map fun _ ↦ 1 := by
    apply List.map_congr_left
    intro c hc
    obtain ⟨-, hz⟩ := of_decide_eq_true (List.all_eq_true.mp hall c hc)
    have hnat : c.toNat ≤ 90 := UInt32.le_iff_toNat_le.mp hz
    exact if_pos (by omega)
  rw [Js.length, hunits, List.map_const', hlength]
  rfl

theorem statements_accepted {s : LegalStatement} (h : s ∈ input.statements) :
    isLegalStatement P s := by
  obtain ⟨hid, hquote, hjurisdiction, htopics⟩ := mem_statements h
  obtain ⟨hne, hlength, -⟩ := keptQuotes_verbatim hquote
  rw [isLegalStatement, decide_eq_true_eq, hid, hjurisdiction, htopics]
  exact ⟨input.isUuid, List.length_pos_iff.mpr hne, hlength, length_of_isCountry input.isCountry,
    input.topics⟩

end LegalMessage

/-! ## What is remembered -/

theorem parseLegalMemory_eq {memory : LegalMemory} (h : legalMemorySchema P memory) :
    parseLegalMemory P memory = .ok memory := by
  rw [parseLegalMemory, throwIf_of_not (by rw [h]; decide)]
  rfl

/-- The memory a message is added to. -/
def previousMemory (previous : Option LegalMemory) : LegalMemory := previous.getD {}

/-- What a message leaves of a memory. -/
def rememberedMemory (memory : LegalMemory) (input : LegalMessage P) : LegalMemory :=
  let statements :=
    (memory.statements.filter fun s ↦ s.messageId ≠ input.messageId) ++ input.statements
  { pendingQuestion := memory.pendingQuestion
    statements := boundedStatements statements
    bounded := memory.bounded || 60 < statements.length || input.truncatedFallback }

theorem previousMemory_accepted {previous : Option LegalMemory}
    (h : previous.all (legalMemorySchema P)) : legalMemorySchema P (previousMemory previous) := by
  cases previous with
  | none => rfl
  | some memory => exact h

/-- A memory that parses takes every message. -/
theorem rememberLegalMessage_eq {previous : Option LegalMemory}
    (h : previous.all (legalMemorySchema P)) (input : LegalMessage P) :
    rememberLegalMessage previous input =
      .ok (rememberedMemory (previousMemory previous) input) := by
  have hparse := parseLegalMemory_eq (previousMemory_accepted h)
  rw [rememberLegalMessage]
  erw [hparse]
  rfl

theorem rememberedMemory_accepted {memory : LegalMemory} (h : legalMemorySchema P memory)
    (input : LegalMessage P) : legalMemorySchema P (rememberedMemory memory input) := by
  obtain ⟨-, hall, -, hquestion⟩ := of_decide_eq_true h
  rw [legalMemorySchema, decide_eq_true_eq]
  refine ⟨rfl, ?_, length_boundedStatements _, hquestion⟩
  rw [List.all_eq_true]
  intro s hs
  rcases List.mem_append.mp ((boundedStatements_sublist _).subset hs) with hold | hnew
  · exact List.all_eq_true.mp hall s (List.mem_filter.mp hold).1
  · exact LegalMessage.statements_accepted hnew

theorem rememberLegalQuestion_accepted {memory : LegalMemory} (h : legalMemorySchema P memory)
    {messageId : Uuid} (hid : P.isUuid messageId) (answer : Units) :
    legalMemorySchema P (rememberLegalQuestion memory messageId answer) := by
  obtain ⟨hversion, hall, hlength, -⟩ := of_decide_eq_true h
  rw [legalMemorySchema, decide_eq_true_eq]
  refine ⟨hversion, hall, hlength, ?_⟩
  rw [rememberLegalQuestion]
  cases ((questionMatches [] answer).getLast?.map trimUnits).filter (· ≠ []) with
  | none => rfl
  | some text =>
    have htext : (text.take 500).length ≤ 500 := by
      rw [List.length_take]
      omega
    exact decide_eq_true ⟨hid, htext⟩

/-! ## A conversation -/

namespace RememberingDialogue

variable (stored : RememberingDialogue)

/-- The statements a dialogue keeps. -/
def statements : List LegalStatement := (previousMemory stored.legalMemory).statements

def bounded : Bool := (previousMemory stored.legalMemory).bounded

end RememberingDialogue

/-- The message an id was last processed with. -/
def lastMessage (messages : List (LegalMessage P)) (id : Uuid) : Option (LegalMessage P) :=
  (messages.filter fun input ↦ input.messageId = id).getLast?

/-- The statements made when the id was last processed. -/
def lastStatements (messages : List (LegalMessage P)) (id : Uuid) : List LegalStatement :=
  (lastMessage messages id).elim [] LegalMessage.statements

theorem lastStatements_concat_self (messages : List (LegalMessage P)) (input : LegalMessage P) :
    lastStatements (messages ++ [input]) input.messageId = input.statements := by
  simp [lastStatements, lastMessage]

theorem lastStatements_concat_of_ne {messages : List (LegalMessage P)} {input : LegalMessage P}
    {id : Uuid} (h : input.messageId ≠ id) :
    lastStatements (messages ++ [input]) id = lastStatements messages id := by
  simp [lastStatements, lastMessage, h]

/-- What holds after the messages, whatever the quotes are. -/
structure MemoryInvariant (start : DialogueState) (messages : List (LegalMessage P))
    (stored : RememberingDialogue) : Prop where
  dialogue : stored.dialogue = start
  schema : stored.legalMemory.all (legalMemorySchema P)
  last : ∀ id, (stored.statements.filter fun s ↦ s.messageId = id).Sublist
    (lastStatements messages id)
  window : (messages.map LegalMessage.messageId).Nodup →
    stored.statements = boundedStatements (messages.flatMap LegalMessage.statements)
  bounded : (messages.map LegalMessage.messageId).Nodup →
    stored.bounded = (decide (60 < (messages.flatMap LegalMessage.statements).length) ||
      messages.any LegalMessage.truncatedFallback)

theorem readDialogue_eq {stored : RememberingDialogue}
    (h : stored.legalMemory.all (legalMemorySchema P)) : readDialogue P stored = stored :=
  if_pos h

theorem memoryMove_message {stored : RememberingDialogue}
    (h : stored.legalMemory.all (legalMemorySchema P)) (input : LegalMessage P) :
    memoryMove stored (.message input) =
      { dialogue := stored.dialogue
        legalMemory := some (rememberedMemory (previousMemory stored.legalMemory) input) } := by
  rw [memoryMove, readDialogue_eq h, rememberLegalMessage_eq h]
  rfl

theorem memoryMove_question {stored : RememberingDialogue}
    (h : stored.legalMemory.all (legalMemorySchema P)) {messageId : Uuid}
    (hid : P.isUuid messageId) (answer : Units) :
    memoryMove stored (.question messageId hid answer) =
      { dialogue := stored.dialogue
        legalMemory := stored.legalMemory.map fun memory ↦
          rememberLegalQuestion memory messageId answer } := by
  rw [memoryMove, readDialogue_eq h]

/-- A question leaves the statements alone. -/
theorem question_invariant {start : DialogueState} {messages : List (LegalMessage P)}
    {stored : RememberingDialogue} (h : MemoryInvariant start messages stored) {messageId : Uuid}
    (hid : P.isUuid messageId) (answer : Units) :
    MemoryInvariant start messages (memoryMove stored (.question messageId hid answer)) := by
  rw [memoryMove_question h.schema]
  obtain ⟨dialogue, legalMemory⟩ := stored
  obtain ⟨hdialogue, hschema, hlast, hwindow, hbounded⟩ := h
  cases legalMemory with
  | none => exact ⟨hdialogue, hschema, hlast, hwindow, hbounded⟩
  | some memory =>
    exact ⟨hdialogue, rememberLegalQuestion_accepted hschema hid answer, hlast, hwindow, hbounded⟩

/-- Statements of other ids are not those of the message. -/
theorem filter_rememberedMemory_of_ne {memory : LegalMemory} {input : LegalMessage P} {id : Uuid}
    (h : input.messageId ≠ id) :
    ((rememberedMemory memory input).statements.filter fun s ↦ s.messageId = id).Sublist
      (memory.statements.filter fun s ↦ s.messageId = id) := by
  have hnew : (input.statements.filter fun s ↦ s.messageId = id) = [] := by
    rw [List.filter_eq_nil_iff]
    intro s hs
    rw [(LegalMessage.mem_statements hs).1, decide_eq_true_eq]
    exact h
  apply ((boundedStatements_sublist _).filter _).trans
  rw [List.filter_append, hnew, List.append_nil]
  exact List.filter_sublist.filter _

/-- The statements of its id are those of the message. -/
theorem filter_rememberedMemory_self (memory : LegalMemory) (input : LegalMessage P) :
    ((rememberedMemory memory input).statements.filter fun s ↦
      s.messageId = input.messageId).Sublist input.statements := by
  have hold : ((memory.statements.filter fun s ↦ s.messageId ≠ input.messageId).filter fun s ↦
      s.messageId = input.messageId) = [] := by
    rw [List.filter_eq_nil_iff]
    intro s hs hid
    exact of_decide_eq_true (List.mem_filter.mp hs).2 (of_decide_eq_true hid)
  apply ((boundedStatements_sublist _).filter _).trans
  rw [List.filter_append, hold, List.nil_append]
  exact List.filter_sublist

/-- No statement makes room for those of a new id. -/
theorem MemoryInvariant.fresh {start : DialogueState} {messages : List (LegalMessage P)}
    {stored : RememberingDialogue} (h : MemoryInvariant start messages stored)
    {input : LegalMessage P}
    (hnodup : ((messages ++ [input]).map LegalMessage.messageId).Nodup) :
    (messages.map LegalMessage.messageId).Nodup ∧
      (stored.statements.filter fun s ↦ s.messageId ≠ input.messageId) = stored.statements := by
  rw [List.map_append, List.map_singleton, List.nodup_append] at hnodup
  obtain ⟨hmessages, -, hdisjoint⟩ := hnodup
  refine ⟨hmessages, List.filter_eq_self.mpr ?_⟩
  intro s hs
  rw [h.window hmessages] at hs
  obtain ⟨m, hm, hsm⟩ := List.mem_flatMap.mp ((boundedStatements_sublist _).subset hs)
  rw [(LegalMessage.mem_statements hsm).1, decide_eq_true_eq]
  exact hdisjoint _ (List.mem_map_of_mem hm) _ List.mem_cons_self

/-- What follows a window is too much exactly if there is too much in all. -/
theorem sixty_lt_boundedStatements_append (a b : List LegalStatement) :
    (decide (60 < a.length) || decide (60 < (boundedStatements a ++ b).length)) =
      decide (60 < (a ++ b).length) := by
  rcases Nat.lt_or_ge 60 a.length with hlt | hle
  · have hall : 60 < (a ++ b).length := by
      rw [List.length_append]
      omega
    rw [decide_eq_true hlt, decide_eq_true hall, Bool.true_or]
  · rw [boundedStatements_of_le hle, decide_eq_false (by omega), Bool.false_or]

theorem message_invariant {start : DialogueState} {messages : List (LegalMessage P)}
    {stored : RememberingDialogue} (h : MemoryInvariant start messages stored)
    (input : LegalMessage P) :
    MemoryInvariant start (messages ++ [input]) (memoryMove stored (.message input)) := by
  rw [memoryMove_message h.schema]
  refine ⟨h.dialogue, rememberedMemory_accepted (previousMemory_accepted h.schema) input, ?_, ?_,
    ?_⟩
  · intro id
    rcases eq_or_ne input.messageId id with rfl | hne
    · rw [lastStatements_concat_self]
      exact filter_rememberedMemory_self _ input
    · rw [lastStatements_concat_of_ne hne]
      exact (filter_rememberedMemory_of_ne hne).trans (h.last id)
  · intro hnodup
    obtain ⟨hmessages, hold⟩ := h.fresh hnodup
    rw [List.flatMap_append, List.flatMap_singleton, ← boundedStatements_append,
      ← h.window hmessages, ← hold]
    rfl
  · intro hnodup
    obtain ⟨hmessages, hold⟩ := h.fresh hnodup
    have hflag : (rememberedMemory (previousMemory stored.legalMemory) input).bounded =
        (stored.bounded || decide (60 < (stored.statements ++ input.statements).length) ||
          input.truncatedFallback) := by
      rw [← hold]
      rfl
    refine hflag.trans ?_
    rw [h.bounded hmessages, List.flatMap_append, List.flatMap_singleton, List.any_append,
      ← sixty_lt_boundedStatements_append (messages.flatMap LegalMessage.statements),
      ← h.window hmessages]
    simp [Bool.or_assoc, Bool.or_comm, Bool.or_left_comm]

theorem legalMessages_concat_message (l : List (MemoryMove P)) (input : LegalMessage P) :
    legalMessages (l ++ [.message input]) = legalMessages l ++ [input] := by
  simp [legalMessages]

theorem legalMessages_concat_question (l : List (MemoryMove P)) {messageId : Uuid}
    (hid : P.isUuid messageId) (answer : Units) :
    legalMessages (l ++ [.question messageId hid answer]) = legalMessages l := by
  simp [legalMessages]

/-- The invariant holds after every run. -/
theorem memoryInvariant_run (start : DialogueState) (l : List (MemoryMove P)) :
    MemoryInvariant start (legalMessages l) (run memoryMove { dialogue := start } l) := by
  induction l using List.reverseRecOn with
  | nil => exact ⟨rfl, rfl, fun _ ↦ List.nil_sublist _, fun _ ↦ rfl, fun _ ↦ rfl⟩
  | append_singleton l move ih =>
    rw [run_concat]
    cases move with
    | message input =>
      rw [legalMessages_concat_message]
      exact message_invariant ih input
    | question messageId hid answer =>
      rw [legalMessages_concat_question]
      exact question_invariant ih hid answer

/-! ## The memory of a customer -/

/-- A memory that can be read back and quotes the customer. -/
structure MemoryKept (start : DialogueState) (messages : List (LegalMessage P))
    (stored : RememberingDialogue) : Prop where
  schema : stored.legalMemory.all (legalMemorySchema P)
  /-- The dialogue is never discarded because of its memory. -/
  read : readDialogue P stored = stored ∧ stored.dialogue = start
  accepts : ∀ input : LegalMessage P,
    ∃ memory, rememberLegalMessage stored.legalMemory input = .ok memory
  verbatim : ∀ s ∈ stored.statements, ∃ input, lastMessage messages s.messageId = some input ∧
    s ∈ input.statements ∧ s.quote <:+: input.message
  wellFormed : ∀ s ∈ stored.statements, isWellFormed s.quote
  atMostThree : ∀ id, (stored.statements.filter fun s ↦ s.messageId = id).length ≤ 3
  atMostSixty : stored.statements.length ≤ 60
  /-- Without a retry the opening and the recent statements stay, in order. -/
  window : (messages.map LegalMessage.messageId).Nodup →
    let made := messages.flatMap LegalMessage.statements
    made.take 15 <+: stored.statements ∧ made.drop (made.length - 45) <:+ stored.statements ∧
      stored.statements.Sublist made
  /-- Nothing is dropped, and no message cut, unnoticed. -/
  noticed : (messages.map LegalMessage.messageId).Nodup →
    (stored.statements ≠ messages.flatMap LegalMessage.statements ∨
      ∃ input ∈ messages, input.truncatedFallback) → stored.bounded

theorem MemoryInvariant.mem_last {start : DialogueState} {messages : List (LegalMessage P)}
    {stored : RememberingDialogue} (h : MemoryInvariant start messages stored)
    {s : LegalStatement} (hs : s ∈ stored.statements) :
    ∃ input, lastMessage messages s.messageId = some input ∧ s ∈ input.statements := by
  have hmem : s ∈ lastStatements messages s.messageId :=
    (h.last s.messageId).subset (List.mem_filter.mpr ⟨hs, decide_eq_true rfl⟩)
  unfold lastStatements at hmem
  cases hlast : lastMessage messages s.messageId with
  | none =>
    rw [hlast] at hmem
    cases hmem
  | some input =>
    rw [hlast] at hmem
    exact ⟨input, rfl, hmem⟩

theorem length_lastStatements (messages : List (LegalMessage P)) (id : Uuid) :
    (lastStatements messages id).length ≤ 3 := by
  unfold lastStatements
  cases lastMessage messages id with
  | none => exact Nat.zero_le 3
  | some input => exact input.length_statements

theorem mem_of_lastMessage {messages : List (LegalMessage P)} {id : Uuid} {input : LegalMessage P}
    (h : lastMessage messages id = some input) : input ∈ messages :=
  (List.mem_filter.mp (List.mem_of_getLast? h)).1

/-- All that is claimed of a memory follows from the invariant and what the messages split. -/
theorem MemoryInvariant.kept {start : DialogueState} {messages : List (LegalMessage P)}
    {stored : RememberingDialogue} (h : MemoryInvariant start messages stored)
    (hsplits : ∀ input ∈ messages, input.SplitsNoPair) : MemoryKept start messages stored where
  schema := h.schema
  read := ⟨readDialogue_eq h.schema, h.dialogue⟩
  accepts := by
    intro input
    exact ⟨_, rememberLegalMessage_eq h.schema input⟩
  verbatim := by
    intro s hs
    obtain ⟨input, hlast, hmem⟩ := h.mem_last hs
    have hquote := (LegalMessage.mem_statements hmem).2.1
    exact ⟨input, hlast, hmem, (LegalMessage.keptQuotes_verbatim hquote).2.2⟩
  wellFormed := by
    intro s hs
    obtain ⟨input, hlast, hmem⟩ := h.mem_last hs
    have hkept := LegalMessage.keptQuotes_wellFormed_iff.mpr
      (hsplits input (mem_of_lastMessage hlast))
    exact hkept s.quote (LegalMessage.mem_statements hmem).2.1
  atMostThree := by
    intro id
    exact (h.last id).length_le.trans (length_lastStatements messages id)
  atMostSixty := by
    obtain ⟨-, -, hlength, -⟩ := of_decide_eq_true (previousMemory_accepted h.schema)
    exact hlength
  window := by
    intro hnodup
    rw [h.window hnodup]
    exact ⟨take_isPrefix_boundedStatements _, drop_isSuffix_boundedStatements _,
      boundedStatements_sublist _⟩
  noticed := by
    intro hnodup hdropped
    rw [h.bounded hnodup, Bool.or_eq_true, decide_eq_true_eq, List.any_eq_true]
    refine hdropped.imp ?_ id
    intro hne
    apply Nat.lt_of_not_le
    intro hle
    apply hne
    rw [h.window hnodup, boundedStatements_of_le hle]

/-- What a message contributes is kept at first. -/
theorem statements_kept {stored : RememberingDialogue}
    (h : stored.legalMemory.all (legalMemorySchema P)) (input : LegalMessage P) :
    input.statements <:+ (memoryMove stored (.message input)).statements := by
  rw [memoryMove_message h]
  exact append_isSuffix_boundedStatements _ (input.length_statements.trans (by omega))

/-- A memory can be read back and quotes the customer all along a conversation exactly if no
message of it is cut inside a pair of surrogates. -/
theorem memoryKept_iff (start : DialogueState) (l : List (MemoryMove P)) :
    (∀ l' : List (MemoryMove P), l' <+: l →
      MemoryKept start (legalMessages l') (run memoryMove { dialogue := start } l')) ↔
        ∀ input ∈ legalMessages l, input.SplitsNoPair := by
  constructor
  · intro h input hinput
    obtain ⟨move, hmove, heq⟩ := List.mem_filterMap.mp hinput
    cases move with
    | question => cases heq
    | message made =>
      cases heq
      obtain ⟨before, after, rfl⟩ := List.append_of_mem hmove
      have hprefixed : before ++ [.message input] <+: before ++ .message input :: after :=
        ⟨after, by rw [List.append_assoc, List.singleton_append]⟩
      have hkept := (h _ hprefixed).wellFormed
      rw [run_concat] at hkept
      have hsuffix := statements_kept (memoryInvariant_run start before).schema input
      apply LegalMessage.keptQuotes_wellFormed_iff.mp
      intro q hq
      exact hkept _ (hsuffix.subset (List.mem_map_of_mem hq))
  · intro h l' hl'
    apply (memoryInvariant_run start l').kept
    intro input hinput
    apply h input
    obtain ⟨after, rfl⟩ := hl'
    rw [legalMessages, List.filterMap_append]
    exact List.mem_append_left _ hinput

end

/-! ## A message with a pair at the cut -/

theorem isWellFormed_replicate (n : ℕ) : isWellFormed (List.replicate n 0x61) := by
  apply isWellFormed_of_lt
  intro u hu
  rw [List.eq_of_mem_replicate hu]
  decide

/-- A message of 401 units, the last two of them one character. -/
def emojiAtTheCut : LegalMessage plainPlatform where
  messageId := "00000000-0000-4000-8000-000000000001"
  message := List.replicate 399 0x61 ++ [0xd83d, 0xde00]
  context := {}
  isUuid := by decide
  nonempty := List.append_ne_nil_of_right_ne_nil _ (List.cons_ne_nil _ _)
  atMost4000 := by
    rw [List.length_append, List.length_replicate]
    decide
  wellFormed := by
    rw [isWellFormed_append (isWellFormed_replicate 399)]
    rfl
  isCountry := by decide
  topics := by decide

theorem emojiAtTheCut_keptQuotes :
    emojiAtTheCut.keptQuotes = [List.replicate 399 0x61 ++ [0xd83d]] := by
  have hnone : emojiAtTheCut.usableQuotes = [] := rfl
  have htake : emojiAtTheCut.message.take 400 = List.replicate 399 0x61 ++ [0xd83d] := by
    rw [emojiAtTheCut, List.take_append, List.length_replicate, List.take_of_length_le]
    · rfl
    · rw [List.length_replicate]
      omega
  rw [LegalMessage.keptQuotes, if_pos hnone, htake]
  rfl

/-- It is kept without the second half of the pair. -/
theorem emojiAtTheCut_illFormed :
    ¬ MemoryKept {} (legalMessages [.message emojiAtTheCut])
      (run memoryMove {} [.message emojiAtTheCut]) := by
  intro h
  have hsuffix : emojiAtTheCut.statements <:+ (memoryMove {} (.message emojiAtTheCut)).statements :=
    statements_kept rfl emojiAtTheCut
  have hquote : List.replicate 399 0x61 ++ [0xd83d] ∈ emojiAtTheCut.keptQuotes := by
    rw [emojiAtTheCut_keptQuotes]
    exact List.mem_cons_self
  have hwf := h.wellFormed _ (hsuffix.subset (List.mem_map_of_mem hquote))
  rw [isWellFormed_append (isWellFormed_replicate 399)] at hwf
  cases hwf

end KmtLegal
