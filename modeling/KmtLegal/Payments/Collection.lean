import KmtLegal.Relational.Run
import KmtLegal.Payments.Webhook
import KmtLegal.Payments.WebhookEffects

/-!
# Collections

What a booking owes its client is that no money gets lost: a collected payment is either invoiced
once or put before a person.  `Collection` is that statement for one attempt: whether it is open,
whether it is under financial review, which transactions were collected and which invoices exist.
Its transitions are five, and the three invariants follow from them alone.

The payment tables refine it: whatever a delivery, a replay or an expiry run does to an attempt is
a transition of its collection.
-/

namespace KmtLegal

open Relational Js

/-! ## The abstract machine -/

/-- One attempt's collection: `κ` names transactions and `μ` invoices. -/
structure Collection (κ μ : Type) where
  isOpen : Prop
  underReview : Prop
  collected : Set κ
  invoiced : Set μ

namespace Collection

variable {κ μ : Type} {c c' : Collection κ μ}

/-- Nothing is collected anew, or one transaction while no other was. -/
def CollectsSingle (c c' : Collection κ μ) : Prop :=
  c'.collected = c.collected ∨ ∃ k, c'.collected = insert k c.collected ∧ c.collected ⊆ {k}

/-- The transitions of a collection. -/
inductive Step (c c' : Collection κ μ) : Prop
  /-- Nothing changes. -/
  | idle (hopen : c'.isOpen ↔ c.isOpen) (hreview : c'.underReview ↔ c.underReview)
      (hcollected : c'.collected = c.collected) (hinvoiced : c'.invoiced = c.invoiced)
  /-- An open attempt is closed for a reason of its own. -/
  | closed (hopen : c.isOpen) (hclosed : ¬c'.isOpen) (hcollected : c'.collected = c.collected)
      (hinvoiced : c'.invoiced = c.invoiced)
  /-- An open attempt is invoiced. -/
  | invoiced (hopen : c.isOpen) (hclosed : ¬c'.isOpen) (hcollects : CollectsSingle c c')
      (hinvoiced : c'.invoiced.Subsingleton) (hsome : c'.invoiced.Nonempty)
  /-- The collection that is invoiced is reported again. -/
  | reported (hopen : c'.isOpen ↔ c.isOpen) (hreview : c'.underReview ↔ c.underReview)
      (hsome : c.invoiced.Nonempty) (hcollects : CollectsSingle c c')
      (hinvoiced : c'.invoiced = c.invoiced)
  /-- What happened is put before a person. -/
  | reviewed (hclosed : ¬c'.isOpen) (hreview : c'.underReview)
      (hinvoiced : c'.invoiced = c.invoiced)

/-- Open attempts have nothing; there is one invoice at most; what was collected is invoiced once
or under review. -/
structure Sound (c : Collection κ μ) : Prop where
  of_open : c.isOpen → c.collected = ∅ ∧ c.invoiced = ∅
  single : c.invoiced.Subsingleton
  accounted : c.collected.Nonempty →
    (c.invoiced.Nonempty ∧ c.collected.Subsingleton) ∨ c.underReview

theorem CollectsSingle.subsingleton (h : CollectsSingle c c') (hc : c.collected.Subsingleton) :
    c'.collected.Subsingleton := by
  obtain heq | ⟨k, heq, hk⟩ := h
  · rw [heq]
    exact hc
  · rw [heq]
    exact Set.subsingleton_singleton.anti (Set.insert_subset rfl hk)

/-- Every transition keeps a sound collection sound. -/
theorem Sound.step (h : Sound c) (hstep : Step c c') : Sound c' := by
  cases hstep with
  | idle hopen hreview hcollected hinvoiced =>
    exact ⟨by rw [hopen, hcollected, hinvoiced]; exact h.of_open, hinvoiced ▸ h.single,
      by rw [hreview, hcollected, hinvoiced]; exact h.accounted⟩
  | closed hopen hclosed hcollected hinvoiced =>
    refine ⟨fun h' ↦ absurd h' hclosed, hinvoiced ▸ h.single, fun hne ↦ ?_⟩
    rw [hcollected, (h.of_open hopen).1] at hne
    exact absurd hne Set.not_nonempty_empty
  | invoiced hopen hclosed hcollects hinvoiced hsome =>
    refine ⟨fun h' ↦ absurd h' hclosed, hinvoiced, fun _ ↦ .inl ⟨hsome, hcollects.subsingleton ?_⟩⟩
    rw [(h.of_open hopen).1]
    exact Set.subsingleton_empty
  | reported hopen hreview hsome hcollects hinvoiced =>
    refine ⟨fun h' ↦ ?_, hinvoiced ▸ h.single, fun _ ↦ ?_⟩
    · rw [(h.of_open (hopen.mp h')).2] at hsome
      exact absurd hsome Set.not_nonempty_empty
    · rcases c.collected.eq_empty_or_nonempty with hempty | hne
      · exact .inl ⟨hinvoiced ▸ hsome, hcollects.subsingleton (hempty ▸ Set.subsingleton_empty)⟩
      · rcases h.accounted hne with ⟨-, hsingle⟩ | hreviewed
        · exact .inl ⟨hinvoiced ▸ hsome, hcollects.subsingleton hsingle⟩
        · exact .inr (hreview.mpr hreviewed)
  | reviewed hclosed hreview hinvoiced =>
    exact ⟨fun h' ↦ absurd h' hclosed, hinvoiced ▸ h.single, fun _ ↦ .inr hreview⟩

theorem Sound.reflTransGen (h : Sound c) (hsteps : Relation.ReflTransGen Step c c') : Sound c' := by
  induction hsteps with
  | refl => exact h
  | tail _ hstep ih => exact ih.step hstep

/-- A closed attempt stays closed, and one that is closed under review stays under review; an open
attempt was as much under review before. -/
structure Settles (c c' : Collection κ μ) : Prop where
  closed : ¬c.isOpen → ¬c'.isOpen
  review : ¬c.isOpen → c.underReview → c'.underReview
  of_open : c'.isOpen → (c'.underReview ↔ c.underReview)

theorem Step.settles (h : Step c c') : Settles c c' := by
  cases h with
  | idle hopen hreview => exact ⟨mt hopen.mp, fun _ ↦ hreview.mpr, fun _ ↦ hreview⟩
  | closed hopen hclosed => exact ⟨fun h ↦ absurd hopen h, fun h ↦ absurd hopen h, fun h ↦ absurd h hclosed⟩
  | invoiced hopen hclosed =>
    exact ⟨fun h ↦ absurd hopen h, fun h ↦ absurd hopen h, fun h ↦ absurd h hclosed⟩
  | reported hopen hreview => exact ⟨mt hopen.mp, fun _ ↦ hreview.mpr, fun _ ↦ hreview⟩
  | reviewed hclosed hreview => exact ⟨fun _ ↦ hclosed, fun _ _ ↦ hreview, fun h ↦ absurd h hclosed⟩

theorem settles_of_reflTransGen (h : Relation.ReflTransGen Step c c') : Settles c c' := by
  induction h with
  | refl => exact ⟨id, fun _ ↦ id, fun _ ↦ Iff.rfl⟩
  | @tail b c' _ hstep ih =>
    have hlast := hstep.settles
    refine ⟨fun h ↦ hlast.closed (ih.closed h),
      fun h hr ↦ hlast.review (ih.closed h) (ih.review h hr), fun h ↦ ?_⟩
    have hb : b.isOpen := not_not.mp fun hb ↦ hlast.closed hb h
    exact (hlast.of_open h).trans (ih.of_open hb)

end Collection

/-! ## The collection of an attempt -/

/-- A transaction of the attempt that was collected. -/
def Collected (db : Database) (attemptId : Uuid) : Set Uuid :=
  {id | ∃ t, db.paymentTransactions.lookup id = some t ∧ t.attemptId = attemptId ∧ t.paidAt.isSome}

/-- An invoice of the attempt. -/
def Invoiced (db : Database) (attemptId : Uuid) : Set Uuid :=
  {id | ∃ p, db.payments.lookup id = some p ∧ p.paymentAttemptId = some attemptId}

/-- `financialReviewCodes.includes(failureCode)`. -/
def PaymentAttempt.underReview (a : PaymentAttempt) : Prop :=
  ∃ code ∈ financialReviewCodes, a.failureCode = some code

/-- The collection of an attempt, as the tables have it. -/
def collectionOf (db : Database) (attemptId : Uuid) : Collection Uuid Uuid where
  isOpen := ∃ a, db.paymentAttempts.lookup attemptId = some a ∧ a.status.isOpen
  underReview := ∃ a, db.paymentAttempts.lookup attemptId = some a ∧ a.underReview
  collected := Collected db attemptId
  invoiced := Invoiced db attemptId

theorem paymentOfAttempt_eq_none {db : Database} {attemptId : Uuid} :
    db.paymentOfAttempt attemptId = none ↔ Invoiced db attemptId = ∅ := by
  simp only [Database.paymentOfAttempt, Table.findFirst_eq_none, Set.eq_empty_iff_forall_notMem,
    Invoiced, Set.mem_ofPred_eq, decide_eq_true_eq]
  exact ⟨fun h id ⟨p, hp, ha⟩ ↦ h id p hp ha, fun h id p hp ha ↦ h id ⟨p, hp, ha⟩⟩

theorem paymentOfAttempt_isSome {db : Database} {attemptId : Uuid} :
    (db.paymentOfAttempt attemptId).isSome ↔ (Invoiced db attemptId).Nonempty := by
  rw [Option.isSome_iff_ne_none, Ne, paymentOfAttempt_eq_none, Set.nonempty_iff_ne_empty]

/-! ## Transactions -/

section

variable {db db₁ : Database} {newId id attemptId : Uuid} {input t : PaymentTransaction}

/-- The collections of the attempt whose transaction was recorded. -/
theorem TransactionRecorded.collected (h : TransactionRecorded db newId input db₁ id t)
    (hattempt : input.attemptId = attemptId) :
    (t.paidAt.isSome ∧ Collected db₁ attemptId = insert id (Collected db attemptId)) ∨
      (t.paidAt = none ∧ Collected db₁ attemptId = Collected db attemptId) := by
  have hself := h.lookup_self
  have hid : t.attemptId = attemptId := h.attemptId_eq.trans hattempt
  have hother : ∀ k, k ≠ id → (k ∈ Collected db₁ attemptId ↔ k ∈ Collected db attemptId) := by
    intro k hk
    simp only [Collected, Set.mem_ofPred_eq, h.lookup_of_ne hk]
  cases hpaid : t.paidAt with
  | some time =>
    refine .inl ⟨rfl, Set.ext fun k ↦ ?_⟩
    by_cases hk : k = id
    · subst hk
      exact ⟨fun _ ↦ Set.mem_insert k _, fun _ ↦ ⟨t, hself, hid, by simp [hpaid]⟩⟩
    · simp [hother k hk, hk]
  | none =>
    refine .inr ⟨rfl, Set.ext fun k ↦ ?_⟩
    by_cases hk : k = id
    · subst hk
      constructor
      · rintro ⟨t', ht', -, hp⟩
        rw [hself] at ht'
        cases ht'
        simp [hpaid] at hp
      · rintro ⟨t₀, ht₀, -, hp⟩
        have := h.paidAt_of_lookup ht₀ hp
        simp [hpaid] at this
    · exact hother k hk

/-- Recording a transaction of another attempt. -/
theorem TransactionRecorded.collected_of_ne (h : TransactionRecorded db newId input db₁ id t)
    (hattempt : input.attemptId ≠ attemptId) :
    Collected db₁ attemptId = Collected db attemptId := by
  ext k
  by_cases hk : k = id
  · subst hk
    constructor
    · rintro ⟨t', ht', ha, -⟩
      rw [h.lookup_self] at ht'
      cases ht'
      exact absurd (h.attemptId_eq.symm.trans ha) hattempt
    · rintro ⟨t₀, ht₀, ha, -⟩
      cases h with
      | kept hlookup hsame =>
        rw [hlookup] at ht₀
        cases ht₀
        exact absurd (hsame.symm.trans ha) hattempt
      | merged hlookup hsame =>
        rw [hlookup] at ht₀
        cases ht₀
        exact absurd (hsame.symm.trans ha) hattempt
      | created hfree =>
        rw [hfree] at ht₀
        cases ht₀
  · simp only [Collected, Set.mem_ofPred_eq, h.lookup_of_ne hk]

/-- A recorded transaction without a collection time of its own collects nothing. -/
theorem TransactionRecorded.collected_of_none (h : TransactionRecorded db newId input db₁ id t)
    (hattempt : input.attemptId = attemptId) (hinput : input.paidAt = none) :
    Collected db₁ attemptId = Collected db attemptId := by
  obtain ⟨hpaid, heq⟩ | ⟨-, heq⟩ := h.collected hattempt
  · obtain ⟨t₀, ht₀, ha, hp⟩ := h.paidAt_of_none hinput hpaid
    rw [heq]
    exact Set.insert_eq_of_mem ⟨t₀, ht₀, ha.trans (h.attemptId_eq.trans hattempt), hp⟩
  · exact heq

/-- With no other collection before, recording a transaction collects a single one. -/
theorem TransactionRecorded.collected_single (h : TransactionRecorded db newId input db₁ id t)
    (hattempt : input.attemptId = attemptId)
    (hsingle : db₁.otherCollection attemptId id = false) :
    Collected db₁ attemptId = Collected db attemptId ∨
      ∃ k, Collected db₁ attemptId = insert k (Collected db attemptId) ∧
        Collected db attemptId ⊆ {k} := by
  obtain ⟨-, heq⟩ | ⟨-, heq⟩ := h.collected hattempt
  · refine .inr ⟨id, heq, fun k hk ↦ ?_⟩
    have hk₁ : k ∈ Collected db₁ attemptId := heq ▸ Set.mem_insert_of_mem id hk
    obtain ⟨t', ht', ha, hp⟩ := hk₁
    by_contra hne
    refine Table.any_eq_false.mp hsingle k t' ht' (decide_eq_true ⟨ha, ?_, hp⟩)
    exact hne
  · exact .inl heq

end

/-! ## Attempts and invoices -/

section

variable {db : Database} {attemptId : Uuid} {a : PaymentAttempt}

theorem collectionOf_isOpen (h : db.paymentAttempts.lookup attemptId = some a) :
    (collectionOf db attemptId).isOpen ↔ a.status.isOpen := by
  simp [collectionOf, h]

theorem collectionOf_underReview (h : db.paymentAttempts.lookup attemptId = some a) :
    (collectionOf db attemptId).underReview ↔ a.underReview := by
  simp [collectionOf, h]

/-- Events are no part of a collection. -/
@[simp] theorem collectionOf_finishEvent (w : WebhookApplication) (code : Option String) :
    collectionOf (finishEvent db w code) attemptId = collectionOf db attemptId := rfl

@[simp] theorem collected_finishEvent (w : WebhookApplication) (code : Option String) :
    Collected (finishEvent db w code) attemptId = Collected db attemptId := rfl

/-- An update of invoices that keeps their attempt keeps what is invoiced. -/
theorem invoiced_update {db' : Database} {id : Uuid} {f : Payment → Payment}
    (hpayments : db'.payments = db.payments.update id f)
    (hf : ∀ p, (f p).paymentAttemptId = p.paymentAttemptId) :
    Invoiced db' attemptId = Invoiced db attemptId := by
  ext k
  simp only [Invoiced, Set.mem_ofPred_eq, hpayments, Table.lookup_update]
  by_cases hk : k = id
  · subst hk
    simp only [if_true, Option.map_eq_some_iff]
    constructor
    · rintro ⟨_, ⟨p, hp, rfl⟩, ha⟩
      exact ⟨p, hp, by rw [← hf p]; exact ha⟩
    · rintro ⟨p, hp, ha⟩
      exact ⟨f p, ⟨p, hp, rfl⟩, by rw [hf p]; exact ha⟩
  · simp only [hk, if_false]

/-- A new invoice is invoiced for its attempt. -/
theorem invoiced_insert {db' : Database} (id : Uuid) (p : Payment)
    (hpayments : db'.payments = db.payments.insert id p)
    (ha : p.paymentAttemptId = some attemptId) :
    Invoiced db' attemptId = insert id (Invoiced db attemptId) := by
  ext k
  simp only [Invoiced, Set.mem_ofPred_eq, hpayments, Table.lookup_insert, Set.mem_insert_iff]
  by_cases hk : k = id
  · simp [hk, ha]
  · simp [hk]

/-- A new invoice is none of another attempt. -/
theorem invoiced_insert_of_ne {db' : Database} {id : Uuid} {p : Payment}
    (hpayments : db'.payments = db.payments.insert id p) (hfree : db.payments.lookup id = none)
    (ha : p.paymentAttemptId ≠ some attemptId) : Invoiced db' attemptId = Invoiced db attemptId := by
  ext k
  simp only [Invoiced, Set.mem_ofPred_eq, hpayments, Table.lookup_insert]
  by_cases hk : k = id
  · subst hk
    simp [hfree, ha]
  · simp [hk]

end

section

variable {P : Platform} {db db' : Database} {w : WebhookApplication}
  {attempt : AttemptWithRelations} {money : Option (Decimal × Currency)} {transactionId : Uuid}
  {transaction : PaymentTransaction}

/-- No outcome touches a transaction. -/
theorem SignalOutcome.transactions
    (h : SignalOutcome P db w attempt money transactionId transaction db') :
    db'.paymentTransactions = db.paymentTransactions := by
  cases h with
  | reviewed problem =>
    simp only [finishEvent, Database.updateEvent, reviewCollection, Database.updateAttempt]
    cases problem <;> (unfold releaseFailedAttempt; split_ifs <;> rfl)
  | alreadyPaid => rfl
  | confirmed => rfl
  | reversed =>
    simp only [finishEvent, Database.updateEvent, recordReversal]
    cases attempt.payment <;> rfl
  | released =>
    simp only [finishEvent, Database.updateEvent]
    unfold releaseFailedAttempt
    split_ifs <;> rfl
  | pending =>
    simp only [finishEvent, Database.updateEvent]
    unfold updateOpenAttemptStatus
    split_ifs <;> rfl

/-- Only the attempt of the signal changes. -/
theorem SignalOutcome.otherAttempt
    (h : SignalOutcome P db w attempt money transactionId transaction db') {id : Uuid}
    (hne : id ≠ attempt.id) : db'.paymentAttempts.lookup id = db.paymentAttempts.lookup id := by
  cases h with
  | reviewed problem =>
    simp only [finishEvent, Database.updateEvent, reviewCollection, Database.updateAttempt,
      Table.lookup_update, hne, if_false]
    cases problem <;>
      (unfold releaseFailedAttempt; split_ifs <;> simp [Database.updateAttempt,
        Database.updateAppointment, Database.updateConsultation, hne])
  | alreadyPaid => rfl
  | confirmed =>
    simp [finishEvent, Database.updateEvent, confirmReservation, Database.updateAttempt,
      Database.updateAppointment, Database.updateConsultation, hne]
  | reversed =>
    simp only [finishEvent, Database.updateEvent, recordReversal, Database.updateAttempt]
    cases attempt.payment <;> simp [hne]
  | released =>
    simp only [finishEvent, Database.updateEvent]
    unfold releaseFailedAttempt
    split_ifs <;> simp [Database.updateAttempt, Database.updateAppointment,
      Database.updateConsultation, hne]
  | pending =>
    simp only [finishEvent, Database.updateEvent]
    unfold updateOpenAttemptStatus
    split_ifs <;> simp [Database.updateAttempt, hne]

/-- The attempt after it was released. -/
theorem releaseFailedAttempt_lookup {a : PaymentAttempt}
    (ha : db.paymentAttempts.lookup attempt.id = some a) (status : PaymentAttemptStatus)
    (code : String) :
    (releaseFailedAttempt db attempt status code).paymentAttempts.lookup attempt.id =
      some (if attempt.isReleasable then { a with status, failureCode := some code } else a) := by
  unfold releaseFailedAttempt
  split_ifs <;> simp [Database.updateAttempt, Database.updateAppointment,
    Database.updateConsultation, ha]

/-- The attempt after its collection went to review. -/
theorem reviewCollection_lookup {a : PaymentAttempt}
    (ha : db.paymentAttempts.lookup attempt.id = some a) (problem : Option PayloadProblem) :
    ∃ a', (reviewCollection db attempt problem).paymentAttempts.lookup attempt.id = some a' ∧
      a'.failureCode = some "PAYMENT_COLLECTION_REVIEW_REQUIRED" ∧
      (attempt.isReleasable → ¬a'.status.isOpen) ∧
      (¬attempt.isReleasable → a'.status = a.status) := by
  have hrow : ∀ (status : PaymentAttemptStatus) (code : String), ¬status.isOpen →
      ∃ a', ((releaseFailedAttempt db attempt status code).updateAttempt attempt.id fun a ↦
          { a with failureCode := some "PAYMENT_COLLECTION_REVIEW_REQUIRED" }
        ).paymentAttempts.lookup attempt.id = some a' ∧
        a'.failureCode = some "PAYMENT_COLLECTION_REVIEW_REQUIRED" ∧
        (attempt.isReleasable → ¬a'.status.isOpen) ∧
        (¬attempt.isReleasable → a'.status = a.status) := by
    intro status code hclosed
    refine ⟨{ (if attempt.isReleasable then { a with status, failureCode := some code } else a) with
      failureCode := some "PAYMENT_COLLECTION_REVIEW_REQUIRED" }, ?_, rfl, ?_, ?_⟩
    · simp only [Database.updateAttempt, Table.lookup_update_self, releaseFailedAttempt_lookup ha,
        Option.map_some]
    · intro h
      simpa [h] using hclosed
    · intro h
      simp [h]
  unfold reviewCollection
  cases problem with
  | some problem => exact hrow .failed problem.code (by decide)
  | none => exact hrow .expired _ (by decide)

/-- A reversal closes the attempt. -/
theorem reversalStatus_not_isOpen
    (hstatus : w.payload.status = .refunded ∨ w.payload.status = .disputed ∨
      w.payload.status = .cancelled) : ¬(reversalStatus w transaction).isOpen := by
  unfold reversalStatus
  split
  · decide
  · decide
  · decide
  · rcases hstatus with h | h | h <;> rw [h] <;> decide

/-- The attempt after a reversal was recorded. -/
theorem recordReversal_lookup {a : PaymentAttempt}
    (ha : db.paymentAttempts.lookup attempt.id = some a) (w : WebhookApplication)
    (transaction : PaymentTransaction) :
    (recordReversal db w attempt transaction).paymentAttempts.lookup attempt.id =
      some { a with
        status := reversalStatus w transaction
        failureCode := some "PAYMENT_REVERSAL_REVIEW_REQUIRED" } := by
  unfold recordReversal
  cases attempt.payment <;> simp [Database.updateAttempt, ha]

theorem releaseFailedAttempt_payments (status : PaymentAttemptStatus) (code : String) :
    (releaseFailedAttempt db attempt status code).payments = db.payments := by
  unfold releaseFailedAttempt
  split_ifs <;> rfl

theorem reviewCollection_payments (problem : Option PayloadProblem) :
    (reviewCollection db attempt problem).payments = db.payments := by
  cases problem <;> exact releaseFailedAttempt_payments _ _

theorem recordReversal_invoiced (attemptId : Uuid) :
    Invoiced (recordReversal db w attempt transaction) attemptId = Invoiced db attemptId := by
  unfold recordReversal
  cases attempt.payment with
  | none => rfl
  | some p =>
    exact invoiced_update (f := fun p ↦ { p with ledgerReviewRequired := true }) rfl
      fun p ↦ rfl

theorem updateOpenAttemptStatus_payments (status : ProviderPaymentStatus) :
    (updateOpenAttemptStatus db attempt status).payments = db.payments := by
  unfold updateOpenAttemptStatus
  split_ifs <;> rfl

/-- A pending signal leaves an open attempt open. -/
theorem updateOpenAttemptStatus_lookup
    (ha : db.paymentAttempts.lookup attempt.id = some attempt.row)
    (hstatus : w.payload.status = .pending) :
    ∃ a', (updateOpenAttemptStatus db attempt w.payload.status).paymentAttempts.lookup
        attempt.id = some a' ∧ (a'.status.isOpen ↔ attempt.row.status.isOpen) ∧
      (a'.underReview ↔ attempt.row.underReview) := by
  unfold updateOpenAttemptStatus
  split_ifs with hr
  · refine ⟨{ attempt.row with status := w.payload.status.attemptStatus }, ?_, ?_, Iff.rfl⟩
    · simp [Database.updateAttempt, ha]
    · rw [hstatus]
      exact iff_of_true rfl (of_decide_eq_true hr).2
  · exact ⟨attempt.row, ha, Iff.rfl, Iff.rfl⟩

/-- No outcome for one attempt invoices another. -/
theorem SignalOutcome.otherInvoices
    (h : SignalOutcome P db w attempt money transactionId transaction db') {attemptId : Uuid}
    (hne : attemptId ≠ attempt.id) : Invoiced db' attemptId = Invoiced db attemptId := by
  have hsame : ∀ {d : Database}, d.payments = db.payments → Invoiced d attemptId =
      Invoiced db attemptId := fun hd ↦ by simp only [Invoiced, hd]
  cases h with
  | reviewed problem => exact hsame (reviewCollection_payments problem)
  | alreadyPaid => rfl
  | confirmed _ _ _ _ _ _ _ _ hfree =>
    refine invoiced_insert_of_ne (p := gatewayPayment attempt transactionId transaction
      w.clock.issuedAt) rfl hfree ?_
    simpa [gatewayPayment] using hne.symm
  | reversed => exact recordReversal_invoiced attemptId
  | released => exact hsame (releaseFailedAttempt_payments _ _)
  | pending => exact hsame (updateOpenAttemptStatus_payments _)

end

/-! ## The refinement -/

section

variable {P : Platform} {db db₁ db' : Database} {w : WebhookApplication}
  {attempt : AttemptWithRelations} {money : Option (Decimal × Currency)} {transactionId : Uuid}
  {transaction : PaymentTransaction}

/-- Unless it goes to review, a payment with money is the only one that was collected. -/
theorem TransactionRecorded.collectsSingle
    (h : TransactionRecorded db w.fresh.transaction (payloadTransaction w attempt money) db₁
      transactionId transaction)
    (hsingle : money.isSome → db₁.otherCollection attempt.id transactionId = false)
    (hcollected : Collected db' attempt.id = Collected db₁ attempt.id) :
    (collectionOf db attempt.id).CollectsSingle (collectionOf db' attempt.id) := by
  simp only [Collection.CollectsSingle, collectionOf, hcollected]
  by_cases hmoney : money.isSome
  · exact h.collected_single rfl (hsingle hmoney)
  · exact .inl (h.collected_of_none rfl (by simp [payloadTransaction, hmoney]))

/-- The outcome of a signal is a step of the collection of its attempt, of which `db` is the
database before the transaction was recorded. -/
theorem SignalOutcome.collection (h : SignalOutcome P db₁ w attempt money transactionId transaction db')
    (hrow : db.paymentAttempts.lookup attempt.id = some attempt.row)
    (hpayment : attempt.payment = db.paymentOfAttempt attempt.id)
    (hattempts : db₁.paymentAttempts = db.paymentAttempts) (hpayments : db₁.payments = db.payments)
    (hcollects : (money.isSome → db₁.otherCollection attempt.id transactionId = false) →
      (collectionOf db attempt.id).CollectsSingle (collectionOf db' attempt.id))
    (hkeeps : w.payload.status ≠ .paid → Collected db' attempt.id = Collected db attempt.id)
    (hsound : (collectionOf db attempt.id).Sound) :
    Collection.Step (collectionOf db attempt.id) (collectionOf db' attempt.id) := by
  have hrow₁ : db₁.paymentAttempts.lookup attempt.id = some attempt.row := hattempts ▸ hrow
  have hopen := collectionOf_isOpen hrow
  have hreview := collectionOf_underReview hrow
  have hinvoiced₁ : Invoiced db₁ attempt.id = Invoiced db attempt.id := by
    simp only [Invoiced, hpayments]
  -- what is open was never invoiced, so it can be released
  have hreleasable : attempt.row.status.isOpen → attempt.isReleasable := by
    intro hstatus
    have hnone : attempt.payment = none :=
      hpayment.trans (paymentOfAttempt_eq_none.mpr (hsound.of_open (hopen.mpr hstatus)).2)
    simp [AttemptWithRelations.isReleasable, hnone, hstatus]
  cases h with
  | reviewed problem errorCode =>
    obtain ⟨a', ha', hcode, hclosed, hkept⟩ := reviewCollection_lookup hrow₁ problem
    rw [collectionOf_finishEvent]
    refine .reviewed ?_ ?_ ?_
    · rw [collectionOf_isOpen ha']
      by_cases hr : attempt.isReleasable
      · exact hclosed hr
      · rw [hkept hr]
        exact mt hreleasable hr
    · exact (collectionOf_underReview ha').mpr ⟨_, by simp [financialReviewCodes], hcode⟩
    · refine Eq.trans ?_ hinvoiced₁
      simp only [collectionOf, Invoiced, reviewCollection_payments]
  | alreadyPaid _ hpaid hsingle =>
    rw [collectionOf_finishEvent] at hcollects ⊢
    refine .reported ?_ ?_ ?_ (hcollects hsingle) hinvoiced₁
    · rw [hopen, collectionOf_isOpen hrow₁]
    · rw [hreview, collectionOf_underReview hrow₁]
    · exact paymentOfAttempt_isSome.mp (hpayment ▸ hpaid)
  | confirmed _ _ hnone hstatus _ _ _ hsingle =>
    rw [collectionOf_finishEvent] at hcollects ⊢
    have hempty : Invoiced db₁ attempt.id = ∅ :=
      hinvoiced₁.trans (paymentOfAttempt_eq_none.mp (hpayment ▸ hnone))
    have hinvoiced : Invoiced (confirmReservation { db₁ with
          payments := db₁.payments.insert w.fresh.payment
            (gatewayPayment attempt transactionId transaction w.clock.issuedAt)
          paymentEntries := db₁.paymentEntries.insert w.fresh.entry
            (trustedSettlement w.fresh.payment
              (gatewayPayment attempt transactionId transaction w.clock.issuedAt)
              w.clock.issuedAt) } attempt transaction) attempt.id = {w.fresh.payment} := by
      rw [invoiced_insert w.fresh.payment
        (gatewayPayment attempt transactionId transaction w.clock.issuedAt) rfl rfl]
      simp only [hempty, insert_empty_eq]
    refine .invoiced (hopen.mpr hstatus) ?_ (hcollects hsingle) ?_ ?_
    · rw [collectionOf_isOpen (a := { attempt.row with
        status := .paid, providerPaymentId := transaction.providerTransactionId })]
      · exact Bool.false_ne_true
      · simp [confirmReservation, Database.updateAttempt, Database.updateAppointment,
          Database.updateConsultation, hrow₁]
    · simp only [collectionOf, hinvoiced, Set.subsingleton_singleton]
    · simp only [collectionOf, hinvoiced, Set.singleton_nonempty]
  | reversed hstatus =>
    have hlookup := recordReversal_lookup hrow₁ w transaction
    rw [collectionOf_finishEvent]
    refine .reviewed ?_ ?_ ?_
    · rw [collectionOf_isOpen hlookup]
      exact reversalStatus_not_isOpen (hstatus.imp_right (.imp_right And.left))
    · exact (collectionOf_underReview hlookup).mpr ⟨_, by simp [financialReviewCodes], rfl⟩
    · exact (recordReversal_invoiced attempt.id).trans hinvoiced₁
  | released hstatus =>
    have hunpaid : w.payload.status ≠ .paid := by
      rintro h
      simp [h] at hstatus
    have hclosed : ¬w.payload.status.attemptStatus.isOpen := by
      rcases hstatus with h | h | ⟨h, -⟩ <;> rw [h] <;> decide
    have hlookup := releaseFailedAttempt_lookup hrow₁ w.payload.status.attemptStatus
      (orElse w.payload.rawStatus w.payload.status.text)
    have hsame : (collectionOf (releaseFailedAttempt db₁ attempt w.payload.status.attemptStatus
        (orElse w.payload.rawStatus w.payload.status.text)) attempt.id).invoiced =
          Invoiced db attempt.id := by
      refine Eq.trans ?_ hinvoiced₁
      simp only [collectionOf, Invoiced, releaseFailedAttempt_payments]
    rw [collectionOf_finishEvent]
    by_cases hr : attempt.isReleasable
    · rw [if_pos hr] at hlookup
      refine .closed (hopen.mpr (of_decide_eq_true hr).2) ?_ (hkeeps hunpaid) hsame
      rw [collectionOf_isOpen hlookup]
      exact hclosed
    · rw [if_neg hr] at hlookup
      refine .idle ?_ ?_ (hkeeps hunpaid) hsame
      · rw [hopen, collectionOf_isOpen hlookup]
      · rw [hreview, collectionOf_underReview hlookup]
  | pending hstatus =>
    have hsame : (collectionOf (updateOpenAttemptStatus db₁ attempt w.payload.status)
        attempt.id).invoiced = Invoiced db attempt.id := by
      refine Eq.trans ?_ hinvoiced₁
      simp only [collectionOf, Invoiced, updateOpenAttemptStatus_payments]
    obtain ⟨a', ha', hopen', hreview'⟩ := updateOpenAttemptStatus_lookup hrow₁ hstatus
    rw [collectionOf_finishEvent]
    refine .idle ?_ ?_ (hkeeps (by simp [hstatus])) hsame
    · rw [hopen, collectionOf_isOpen ha', hopen']
    · rw [hreview, collectionOf_underReview ha', hreview']

end

/-- A payment transaction takes the collection of every attempt one step. -/
theorem applyWebhookPaymentState_collection {P : Platform} {db db' : Database}
    {w : WebhookApplication} (h : applyWebhookPaymentState P db w = .ok db') {attemptId : Uuid}
    {a : PaymentAttempt} (ha : db.paymentAttempts.lookup attemptId = some a)
    (hsound : (collectionOf db attemptId).Sound) :
    Collection.Step (collectionOf db attemptId) (collectionOf db' attemptId) := by
  obtain rfl | ⟨attempt, money, db₁, transactionId, transaction, haccepted, hrecorded, houtcome⟩ :=
    applyWebhookPaymentState_cases h
  · exact .idle Iff.rfl Iff.rfl rfl rfl
  obtain ⟨hid, hrow, -, -, hpayment⟩ := Database.findAttempt_eq_some.mp haccepted.found
  have hframe := hrecorded.frame
  have hattempts : db₁.paymentAttempts = db.paymentAttempts := by rw [hframe]
  have hpayments : db₁.payments = db.payments := by rw [hframe]
  -- the outcome is computed on the database with the recorded transaction and the linked event
  have hcollected' : ∀ id, Collected db' id = Collected db₁ id := by
    intro id
    simp only [Collected, houtcome.transactions]
    rfl
  by_cases hsame : attemptId = attempt.id
  · subst hsame
    rw [← hid] at hrow hpayment
    refine houtcome.collection hrow hpayment hattempts hpayments
      (fun hsingle ↦ hrecorded.collectsSingle hsingle (hcollected' _)) (fun hunpaid ↦ ?_) hsound
    exact (hcollected' _).trans (hrecorded.collected_of_none rfl
      (by simp [payloadTransaction, hunpaid]))
  · have hlookup : db'.paymentAttempts.lookup attemptId = some a := by
      rw [houtcome.otherAttempt hsame]
      exact hattempts ▸ ha
    refine .idle ?_ ?_ ?_ ?_
    · rw [collectionOf_isOpen ha, collectionOf_isOpen hlookup]
    · rw [collectionOf_underReview ha, collectionOf_underReview hlookup]
    · exact (hcollected' _).trans (hrecorded.collected_of_ne fun heq ↦ hsame heq.symm)
    · refine (houtcome.otherInvoices hsame).trans ?_
      simp only [collectionOf, Invoiced, linkEvent, Database.updateEvent, hpayments]

/-- An expiry batch takes the collection of every attempt one step. -/
theorem expireBatch_collection {db : Database} (now : Time) (batch : List ExpiryCandidate)
    {attemptId : Uuid} {a : PaymentAttempt} (ha : db.paymentAttempts.lookup attemptId = some a) :
    Collection.Step (collectionOf db attemptId)
      (collectionOf (expireBatch db now batch) attemptId) := by
  have hlookup := expireBatch_lookup_attempt db now batch attemptId
  rw [ha, Option.map_some] at hlookup
  split_ifs at hlookup with hexpired
  · have hstatus : a.status.isOpen := (of_decide_eq_true hexpired.2).1
    refine .closed ((collectionOf_isOpen ha).mpr hstatus) ?_ rfl rfl
    rw [collectionOf_isOpen hlookup]
    exact Bool.false_ne_true
  · refine .idle ?_ ?_ rfl rfl
    · rw [collectionOf_isOpen ha, collectionOf_isOpen hlookup]
    · rw [collectionOf_underReview ha, collectionOf_underReview hlookup]

/-! ## Prices -/

section

variable {P : Platform} {db db' : Database} {w : WebhookApplication} {id : Uuid} {p : Payment}

/-- An invoice is one that was there, perhaps flagged for review, or the gateway invoice of the
attempt of the signal. -/
theorem SignalOutcome.payment_cases {attempt : AttemptWithRelations}
    {money : Option (Decimal × Currency)} {transactionId : Uuid} {transaction : PaymentTransaction}
    (h : SignalOutcome P db w attempt money transactionId transaction db')
    (hp : db'.payments.lookup id = some p) :
    (∃ p₀, db.payments.lookup id = some p₀ ∧
        p = { p₀ with ledgerReviewRequired := p.ledgerReviewRequired }) ∨
      p = gatewayPayment attempt transactionId transaction w.clock.issuedAt := by
  have hsame : ∀ {d : Database}, d.payments = db.payments → d.payments.lookup id = some p →
      ∃ p₀, db.payments.lookup id = some p₀ ∧
        p = { p₀ with ledgerReviewRequired := p.ledgerReviewRequired } :=
    fun hd h ↦ ⟨p, hd ▸ h, rfl⟩
  cases h with
  | reviewed problem => exact .inl (hsame (reviewCollection_payments problem) hp)
  | alreadyPaid => exact .inl (hsame rfl hp)
  | confirmed =>
    change AList.lookup id (db.payments.insert w.fresh.payment _) = some p at hp
    rw [Table.lookup_insert] at hp
    split_ifs at hp with hid
    · exact .inr (Option.some.inj hp).symm
    · exact .inl ⟨p, hp, rfl⟩
  | reversed =>
    simp only [finishEvent, Database.updateEvent, recordReversal] at hp
    cases hpayment : attempt.payment with
    | none =>
      rw [hpayment] at hp
      exact .inl ⟨p, hp, rfl⟩
    | some e =>
      simp only [hpayment, Table.lookup_update] at hp
      split_ifs at hp with hid
      · obtain ⟨p₀, hp₀, rfl⟩ := Option.map_eq_some_iff.mp hp
        exact .inl ⟨p₀, hp₀, rfl⟩
      · exact .inl ⟨p, hp, rfl⟩
  | released => exact .inl (hsame (releaseFailedAttempt_payments _ _) hp)
  | pending => exact .inl (hsame (updateOpenAttemptStatus_payments _) hp)

/-- The booking is as it was made, and its invoices are over its price. -/
structure AtPrice (a : PaymentAttempt) (attemptId : Uuid) (db : Database) : Prop where
  booking : ∃ a', db.paymentAttempts.lookup attemptId = some a' ∧ a.SameBooking a'
  price : ∀ id p, db.payments.lookup id = some p → p.paymentAttemptId = some attemptId →
    p.amount = a.amount ∧ p.currency = a.currency

theorem AtPrice.step {a : PaymentAttempt} {attemptId : Uuid} (P : Platform)
    (h : AtPrice a attemptId db) (request : PaymentRequest) :
    AtPrice a attemptId (paymentStep P db request) := by
  refine paymentStep_preserves (fun db events h ↦ ⟨h.booking, h.price⟩) ?_ ?_ h request
  · intro db db' w h hok
    obtain ⟨a₁, ha₁, hbooking⟩ := h.booking
    obtain ⟨a₂, ha₂, hstep⟩ := (applyWebhookPaymentState_frame hok).attempts.lookup ha₁
    refine ⟨⟨a₂, ha₂, hbooking.trans hstep⟩, fun id p hp hattempt ↦ ?_⟩
    obtain rfl | ⟨attempt, money, db₁, transactionId, transaction, haccepted, hrecorded, houtcome⟩ :=
      applyWebhookPaymentState_cases hok
    · exact h.price id p hp hattempt
    obtain ⟨hid, hrow, -⟩ := Database.findAttempt_eq_some.mp haccepted.found
    have hpayments : db₁.payments = db.payments := by rw [hrecorded.frame]
    rcases houtcome.payment_cases hp with ⟨p₀, hp₀, hflag⟩ | hgateway
    · simp only [linkEvent, Database.updateEvent, hpayments] at hp₀
      rw [hflag] at hattempt ⊢
      exact h.price id p₀ hp₀ hattempt
    · subst hgateway
      obtain rfl : attempt.id = attemptId := Option.some.inj hattempt
      rw [hid, hrow] at ha₁
      cases ha₁
      exact hbooking.money_eq
  · intro db now batch h
    obtain ⟨a₁, ha₁, hbooking⟩ := h.booking
    obtain ⟨a₂, ha₂, hstep⟩ := (expireBatch_paymentFrame db now batch).attempts.lookup ha₁
    exact ⟨⟨a₂, ha₂, hbooking.trans hstep⟩, h.price⟩

end

/-! ## Runs -/

section

variable {P : Platform} {db : Database} {attemptId : Uuid}

/-- A request takes the collection of every attempt of the database some steps. -/
theorem paymentStep_collection (request : PaymentRequest)
    (hrow : ∃ a, db.paymentAttempts.lookup attemptId = some a)
    (hsound : (collectionOf db attemptId).Sound) :
    Relation.ReflTransGen Collection.Step (collectionOf db attemptId)
      (collectionOf (paymentStep P db request) attemptId) := by
  obtain ⟨a, ha⟩ := hrow
  have houtcome := paymentStep_outcome P db request
  generalize paymentStep P db request = db' at houtcome ⊢
  cases houtcome with
  | events events => exact .refl
  | applied events w _ _ hok =>
    exact .single (applyWebhookPaymentState_collection hok ha hsound)
  | expired now _ _ _ batch => exact .single (expireBatch_collection now batch ha)

/-- Every request keeps to the payment frame. -/
theorem paymentStep_frame (P : Platform) (db : Database) (request : PaymentRequest) :
    PaymentFrame db (paymentStep P db request) := by
  have houtcome := paymentStep_outcome P db request
  generalize paymentStep P db request = db' at houtcome ⊢
  cases houtcome with
  | events events => exact { PaymentFrame.refl db with }
  | applied events w _ _ hok => exact { applyWebhookPaymentState_frame hok with }
  | expired now _ _ _ batch => exact expireBatch_paymentFrame db now batch

/-- The attempt is stored and its collection is sound. -/
def SoundAttempt (attemptId : Uuid) (db : Database) : Prop :=
  (∃ a, db.paymentAttempts.lookup attemptId = some a) ∧ (collectionOf db attemptId).Sound

theorem SoundAttempt.step (h : SoundAttempt attemptId db) (request : PaymentRequest) :
    SoundAttempt attemptId (paymentStep P db request) := by
  obtain ⟨⟨a, ha⟩, hsound⟩ := h
  obtain ⟨a', ha', -⟩ := (paymentStep_frame P db request).attempts.lookup ha
  exact ⟨⟨a', ha'⟩, hsound.reflTransGen (paymentStep_collection request ⟨a, ha⟩ hsound)⟩

theorem SoundAttempt.of_run (P : Platform) (h : SoundAttempt attemptId db)
    (l : List PaymentRequest) : SoundAttempt attemptId (run (paymentStep P) db l) :=
  run_invariant (fun _ request h ↦ h.step request) h l

/-- A run of requests is a run of the collection. -/
theorem run_collection (P : Platform) (h : SoundAttempt attemptId db) (l : List PaymentRequest) :
    Relation.ReflTransGen Collection.Step (collectionOf db attemptId)
      (collectionOf (run (paymentStep P) db l) attemptId) :=
  run_simulates (v := fun db ↦ collectionOf db attemptId) (fun _ request h ↦ h.step request)
    (fun _ request h ↦ paymentStep_collection request h.1 h.2) h l

/-- Along every run from an attempt without transactions and invoices, whatever its status: there is
one invoice at most, over the attempt's price; a collected payment is invoiced and the only one, or
the attempt is under financial review; and a review stays a review, a closed attempt closed. -/
theorem collection_accounted (P : Platform) {a : PaymentAttempt}
    (ha : db.paymentAttempts.lookup attemptId = some a)
    (htransactions : ∀ id t, db.paymentTransactions.lookup id = some t → t.attemptId ≠ attemptId)
    (hpayments : ∀ id p, db.payments.lookup id = some p → p.paymentAttemptId ≠ some attemptId)
    (l l' : List PaymentRequest) :
    ∃ a₁ a₂, (run (paymentStep P) db l).paymentAttempts.lookup attemptId = some a₁ ∧
      (run (paymentStep P) db (l ++ l')).paymentAttempts.lookup attemptId = some a₂ ∧
      (Invoiced (run (paymentStep P) db l) attemptId).Subsingleton ∧
      (∀ id p, (run (paymentStep P) db l).payments.lookup id = some p →
        p.paymentAttemptId = some attemptId → p.amount = a₁.amount ∧ p.currency = a₁.currency) ∧
      ((Collected (run (paymentStep P) db l) attemptId).Nonempty →
        ((Invoiced (run (paymentStep P) db l) attemptId).Nonempty ∧
          (Collected (run (paymentStep P) db l) attemptId).Subsingleton) ∨ a₁.underReview) ∧
      -- an attempt is created without a failure code
      (¬a.underReview → a₁.underReview → a₂.underReview) ∧
      (¬a₁.status.isOpen → ¬a₂.status.isOpen) := by
  have hsound : SoundAttempt attemptId db := by
    have hcollected : Collected db attemptId = ∅ :=
      Set.eq_empty_iff_forall_notMem.mpr fun id ⟨t, ht, hid, _⟩ ↦ htransactions id t ht hid
    have hinvoiced : Invoiced db attemptId = ∅ :=
      Set.eq_empty_iff_forall_notMem.mpr fun id ⟨p, hp, hid⟩ ↦ hpayments id p hp hid
    refine ⟨⟨a, ha⟩, fun _ ↦ ⟨hcollected, hinvoiced⟩, ?_, fun hne ↦ ?_⟩
    · simp only [collectionOf, hinvoiced, Set.subsingleton_empty]
    · simp only [collectionOf, hcollected, Set.not_nonempty_empty] at hne
  have hprice : AtPrice a attemptId db := ⟨⟨a, ha, .refl a⟩, fun id p hp hid ↦
    absurd hid (hpayments id p hp)⟩
  have hsound₁ := hsound.of_run P l
  have hprice₁ : AtPrice a attemptId (run (paymentStep P) db l) :=
    run_invariant (fun _ request h ↦ h.step P request) hprice l
  obtain ⟨a₁, ha₁, hbooking⟩ := hprice₁.booking
  obtain ⟨a₂, ha₂⟩ := (hsound₁.of_run P l').1
  have hsettles := Collection.settles_of_reflTransGen (run_collection P hsound l)
  have hsettles' := Collection.settles_of_reflTransGen (run_collection P hsound₁ l')
  refine ⟨a₁, a₂, ha₁, by rw [run_append]; exact ha₂, hsound₁.2.single, fun id p hp hid ↦ ?_,
    fun hne ↦ ?_, fun hnew hreview ↦ ?_, fun hclosed ↦ ?_⟩
  · obtain ⟨hamount, hcurrency⟩ := hprice₁.price id p hp hid
    exact ⟨hamount.trans hbooking.money_eq.1.symm, hcurrency.trans hbooking.money_eq.2.symm⟩
  · exact (hsound₁.2.accounted hne).imp_right (collectionOf_underReview ha₁).mp
  · -- it is closed, since an open attempt is as little under review as it was when it was created
    have hreview₁ := (collectionOf_underReview ha₁).mpr hreview
    refine (collectionOf_underReview ha₂).mp (hsettles'.review (fun hopen ↦ hnew ?_) hreview₁)
    exact (collectionOf_underReview ha).mp ((hsettles.of_open hopen).mp hreview₁)
  · exact mt (collectionOf_isOpen ha₂).mpr
      (hsettles'.closed (mt (collectionOf_isOpen ha₁).mp hclosed))

/-- The attempt of `heldBooking` when it was created. -/
def newAttempt : PaymentAttempt where
  provider := "paytabs"
  status := .created
  clientId := "c"
  consultationRequestId := "r"
  appointmentId := "p"
  amount := 750
  currency := .egp
  startsAt := 90000
  endsAt := 93600
  expiresAt := 1000
  idempotencyKey := "k"

/-- A new attempt, and a stored event of its provider with one of the seven statuses. -/
def newBooking (status : ProviderPaymentStatus) : Database :=
  { heldBooking with
    paymentAttempts := AList.singleton heldAttempt newAttempt
    paymentWebhookEvents := AList.singleton heldEvent
      { attemptId := some heldAttempt, signatureStatus := .verified, processingStatus := .pending
        payloadHash := "h"
        normalizedPayload := some (storedNormalizedPayload (heldSignal status "750.00" 999).payload) } }

/-- The replay of that event. -/
def replayNewBooking : PaymentRequest :=
  .replay ⟨⟨"u", "Office Admin", none, none⟩, heldEvent, ⟨999, 999, 999, 999, 999⟩, ⟨"t", "i", "e"⟩⟩

theorem collection_accounted_newBooking :
    ∃ a₁ a₂, (run (paymentStep plainPlatform) (newBooking .paid) [replayNewBooking]).paymentAttempts.lookup
        heldAttempt = some a₁ ∧
      (run (paymentStep plainPlatform) (newBooking .paid) ([replayNewBooking] ++ [.expire 1001 none none])
        ).paymentAttempts.lookup heldAttempt = some a₂ ∧
      (Invoiced (run (paymentStep plainPlatform) (newBooking .paid) [replayNewBooking])
        heldAttempt).Subsingleton ∧
      ¬a₂.status.isOpen := by
  obtain ⟨a₁, a₂, h₁, h₂, hsingle, -, -, -, hclosed⟩ := collection_accounted plainPlatform
    (show (newBooking .paid).paymentAttempts.lookup heldAttempt = some newAttempt by decide +kernel)
    (fun id t h ↦ nomatch (show none = some t from h))
    (fun id p h ↦ nomatch (show none = some p from h)) [replayNewBooking] [.expire 1001 none none]
  refine ⟨a₁, a₂, h₁, h₂, hsingle, hclosed ?_⟩
  have hpaid : ((run (paymentStep plainPlatform) (newBooking .paid) [replayNewBooking]
      ).paymentAttempts.lookup heldAttempt).map PaymentAttempt.status = some .paid := by
    decide +kernel
  rw [h₁] at hpaid
  rw [Option.some.inj hpaid]
  decide

end

end KmtLegal
