import KmtLegal.Accounting.Ledger
import KmtLegal.Admin.Invoices
import KmtLegal.Relational.Run

/-!
# The ledger within bounds

The entries of an invoice are a sheet whose limit is the invoice's amount.  A posting is a line the
sheet admits; everything else about an invoice, its status first of all, is settled by the balance.
The two writes of the office come before the first entry or bring it.
-/

namespace KmtLegal

open Relational Accounting

/-! ## The sheet of an invoice -/

def PaymentEntry.line (e : PaymentEntry) : Line Uuid Decimal := ⟨e.amount, e.reversesEntryId⟩

/-- The entries of an invoice as a sheet. -/
def sheetOf (entries : List (Uuid × PaymentEntry)) : Sheet Uuid Decimal where
  lines k := (entries.find? fun e ↦ e.1 = k).map fun e ↦ e.2.line
  balance := paidAmount entries

@[simp] theorem sheetOf_nil : sheetOf [] = .blank := rfl

/-- A new entry is one more line. -/
theorem sheetOf_cons (k : Uuid) (e : PaymentEntry) (entries : List (Uuid × PaymentEntry)) :
    sheetOf ((k, e) :: entries) = (sheetOf entries).post k e.line := by
  have hlines : (sheetOf ((k, e) :: entries)).lines =
      Function.update (sheetOf entries).lines k (some e.line) := by
    funext k'
    by_cases hk : k' = k
    · subst hk
      simp [sheetOf]
    · simp [sheetOf, Ne.symm hk, hk]
  have hbalance : (sheetOf ((k, e) :: entries)).balance = (sheetOf entries).balance + e.amount := by
    simp only [sheetOf, paidAmount, List.map_cons, List.sum_cons]
    exact add_comm _ _
  rw [Sheet.post, ← hlines]
  show (⟨_, (sheetOf ((k, e) :: entries)).balance⟩ : Sheet Uuid Decimal) = _
  rw [hbalance]
  rfl

theorem mem_of_sheetOf_lines {entries : List (Uuid × PaymentEntry)} {k : Uuid}
    {l : Line Uuid Decimal} (h : (sheetOf entries).lines k = some l) :
    ∃ e, (k, e) ∈ entries ∧ e.line = l := by
  obtain ⟨⟨k', e⟩, he, rfl⟩ := Option.map_eq_some_iff.mp h
  obtain rfl : k' = k := by simpa using List.find?_some he
  exact ⟨e, List.mem_of_find?_eq_some he, rfl⟩

/-- An invoice and its entries. -/
structure LedgerSound (p : Payment) (entries : List (Uuid × PaymentEntry)) : Prop where
  manual : p.paymentAttemptId = none
  unflagged : p.ledgerReviewRequired = false
  sheet : (sheetOf entries).Sound p.amount
  currency : ∀ e ∈ entries, e.2.currency = p.currency
  kind : ∀ e ∈ entries, e.2.kind = .reversal ↔ e.2.reversesEntryId.isSome
  used : entries ≠ [] → p.status ≠ .draft ∧ p.status ≠ .cancelled ∧
    (p.status = .paid ↔ paidAmount entries = p.amount)
  unused : entries = [] → p.status ≠ .paid

/-- A sound invoice never asks for a review. -/
theorem LedgerSound.reviewRequired {p : Payment} {entries : List (Uuid × PaymentEntry)}
    (h : LedgerSound p entries) : (invoiceBalance p entries).reviewRequired = false := by
  have hpaid : p.status = .paid → paidAmount entries = p.amount := by
    intro hstatus
    by_cases hempty : entries = []
    · exact absurd hstatus (h.unused hempty)
    · exact (h.used hempty).2.2.mp hstatus
  have hlower : 0 ≤ paidAmount entries := h.sheet.lower
  have hupper : paidAmount entries ≤ p.amount := h.sheet.upper
  simp only [invoiceBalance, h.unflagged, decide_eq_false_iff_not, not_or, not_and, not_not,
    Bool.false_eq_true, not_false_eq_true, true_and, not_lt]
  exact ⟨hlower, hupper, hpaid⟩

/-! ## Posting -/

/-- What a posting that is no repetition passes. -/
structure EntryAccepted (db : Database) (posting : EntryPosting) (invoice : Payment)
    (amount : Decimal) : Prop where
  found : db.payments.lookup posting.paymentId = some invoice
  currency : posting.body.currency = invoice.currency
  status : invoice.status ≠ .draft ∧ ¬(invoice.status = .cancelled ∧ posting.body.kind = .settlement)
  kind : posting.body.kind = .reversal ↔ posting.body.reversesEntryId.isSome
  signed : entryAmount (db.entriesOf posting.paymentId) posting.body = .ok amount
  lower : 0 ≤ paidAmount (db.entriesOf posting.paymentId) + amount
  upper : paidAmount (db.entriesOf posting.paymentId) + amount ≤ invoice.amount
  fresh : db.paymentEntries.lookup posting.entryId = none

/-- A posting repeats an earlier one, or adds its entry and settles its invoice. -/
theorem postPaymentEntry_eq_ok {db db' : Database} {posting : EntryPosting}
    {entry : Uuid × PaymentEntry} (h : postPaymentEntry db posting = .ok (db', entry)) :
    db' = db ∨ ∃ invoice amount, EntryAccepted db posting invoice amount ∧
      db' = { db with
        paymentEntries := db.paymentEntries.insert posting.entryId
          (postedEntry posting invoice amount)
        payments := db.payments.update posting.paymentId fun invoice ↦
          invoice.settle posting (paidAmount (db.entriesOf posting.paymentId) + amount) } := by
  simp only [postPaymentEntry, bind_eq_ok, throwIf_eq_ok, orThrow_eq_ok] at h
  obtain ⟨_, -, body, hbody, invoice, hfound, h⟩ := h
  obtain ⟨rfl, hkind⟩ := PaymentEntryInput.parse_eq_ok hbody
  split at h
  · simp only [bind_eq_ok, pure_eq_ok] at h
    obtain ⟨_, -, h⟩ := h
    cases h
    exact .inl rfl
  · simp only [bind_eq_ok, throwIf_eq_ok, Database.createPaymentEntry_eq_ok,
      Database.updatePayment_eq_ok, pure_eq_ok, not_or, not_not, not_lt] at h
    obtain ⟨_, -, _, ⟨hcurrency, hdraft, hcancelled⟩, _, -, amount, hamount, _, ⟨hlower, hupper⟩,
      _, ⟨-, -, hfresh, rfl⟩, _, ⟨_, -, -, rfl⟩, h⟩ := h
    cases h
    exact .inr ⟨invoice, amount, ⟨hfound, hcurrency, ⟨hdraft, hcancelled⟩, hkind, hamount, hlower,
      hupper, hfresh⟩, rfl⟩

/-- A correction takes back an entry of the invoice that was not taken back. -/
theorem entryAmount_reversal {entries : List (Uuid × PaymentEntry)} {body : PaymentEntryInput}
    {amount : Decimal} (h : entryAmount entries body = .ok amount) (hkind : body.kind = .reversal) :
    ∃ original, entries.find? (fun e ↦ some e.1 = body.reversesEntryId) = some original ∧
      original.2.kind ≠ .reversal ∧ (∀ e ∈ entries, e.2.reversesEntryId ≠ some original.1) ∧
      amount = -original.2.amount := by
  simp only [entryAmount, hkind, bind_eq_ok, orThrow_eq_ok, throwIf_eq_ok, pure_eq_ok, not_or,
    not_exists, not_and] at h
  obtain ⟨original, horiginal, _, ⟨hreversal, honce, -⟩, rfl⟩ := h
  exact ⟨original, horiginal, hreversal, honce, rfl⟩

theorem mem_entriesOf {db : Database} {paymentId k : Uuid} {e : PaymentEntry} :
    (k, e) ∈ db.entriesOf paymentId ↔
      db.paymentEntries.lookup k = some e ∧ e.paymentId = paymentId := by
  simp [Database.entriesOf, Table.mem_select]

/-- The line of an entry of an invoice: its key is no other entry's. -/
theorem sheetOf_lines_of_mem {db : Database} {paymentId : Uuid} {e : Uuid × PaymentEntry}
    (he : e ∈ db.entriesOf paymentId) :
    (sheetOf (db.entriesOf paymentId)).lines e.1 = some e.2.line := by
  simp only [sheetOf]
  cases hfind : (db.entriesOf paymentId).find? fun e' ↦ e'.1 = e.1 with
  | none => simpa using List.find?_eq_none.mp hfind e he
  | some e' =>
    have hkey : e'.1 = e.1 := by simpa using List.find?_some hfind
    have hlookup := (mem_entriesOf.mp (List.mem_of_find?_eq_some hfind)).1
    rw [hkey, (mem_entriesOf.mp he).1] at hlookup
    rw [Option.map_some, Option.some.inj hlookup]

section

variable {db : Database} {posting : EntryPosting} {invoice : Payment} {amount : Decimal}

/-- The entry of an accepted posting is a line its sheet admits. -/
theorem EntryAccepted.admits (h : EntryAccepted db posting invoice amount)
    (hsound : LedgerSound invoice (db.entriesOf posting.paymentId)) :
    (sheetOf (db.entriesOf posting.paymentId)).Admits invoice.amount posting.entryId
      (postedEntry posting invoice amount).line := by
  have hreversal : ∀ k₀, posting.body.reversesEntryId = some k₀ → ∃ original,
      (db.entriesOf posting.paymentId).find? (fun e ↦ e.1 = k₀) = some original ∧
      original.1 = k₀ ∧ original.2.kind ≠ .reversal ∧
      (∀ e ∈ db.entriesOf posting.paymentId, e.2.reversesEntryId ≠ some k₀) ∧
      amount = -original.2.amount := by
    intro k₀ hk₀
    have hkind := h.kind.mpr (by rw [hk₀]; rfl)
    obtain ⟨original, hfind, hnot, honce, hamount⟩ := entryAmount_reversal h.signed hkind
    simp only [hk₀, Option.some.injEq] at hfind
    obtain rfl : original.1 = k₀ := by simpa using List.find?_some hfind
    exact ⟨original, hfind, rfl, hnot, honce, hamount⟩
  refine ⟨?_, h.lower, h.upper, fun k₀ hk₀ ↦ ?_, fun k₀ hk₀ k' l' hl' ↦ ?_⟩
  · simp only [sheetOf, Option.map_eq_none_iff, List.find?_eq_none, Prod.forall]
    intro k e he hk
    obtain rfl : k = posting.entryId := of_decide_eq_true hk
    have hlookup := (mem_entriesOf.mp he).1
    rw [h.fresh] at hlookup
    cases hlookup
  · obtain ⟨original, hfind, rfl, hnot, -, hamount⟩ := hreversal k₀ hk₀
    refine ⟨original.2.line, by simp [sheetOf, hfind], ?_, hamount⟩
    have hkind := hsound.kind original (List.mem_of_find?_eq_some hfind)
    exact Option.not_isSome_iff_eq_none.mp (mt hkind.mpr hnot)
  · obtain ⟨original, -, -, -, honce, -⟩ := hreversal k₀ hk₀
    obtain ⟨e, he, rfl⟩ := mem_of_sheetOf_lines hl'
    exact honce (k', e) he

/-- A cancelled invoice takes no entry: it has none that could be taken back or refunded. -/
theorem EntryAccepted.not_cancelled (h : EntryAccepted db posting invoice amount)
    (hsound : LedgerSound invoice (db.entriesOf posting.paymentId)) :
    invoice.status ≠ .cancelled := by
  intro hcancelled
  have hempty : db.entriesOf posting.paymentId = [] := by
    by_contra hne
    exact (hsound.used hne).2.1 hcancelled
  have hamount := h.signed
  have hlower := h.lower
  have hsettlement := h.status.2
  rw [hempty] at hamount hlower
  cases hkind : posting.body.kind with
  | settlement => exact hsettlement ⟨hcancelled, hkind⟩
  | refund =>
    simp only [entryAmount, hkind, Except.ok.injEq] at hamount
    have hpos := posting.body.amount_pos
    simp only [paidAmount, List.map_nil, List.sum_nil] at hlower
    linarith
  | reversal =>
    obtain ⟨original, hfind, -⟩ := entryAmount_reversal hamount hkind
    cases hfind
  | legacy => exact posting.body.kind_ne_legacy hkind

/-- An accepted posting keeps its invoice sound. -/
theorem EntryAccepted.sound (h : EntryAccepted db posting invoice amount)
    (hsound : LedgerSound invoice (db.entriesOf posting.paymentId)) :
    LedgerSound (invoice.settle posting (paidAmount (db.entriesOf posting.paymentId) + amount))
      ((posting.entryId, postedEntry posting invoice amount) :: db.entriesOf posting.paymentId) := by
  have hcancelled := h.not_cancelled hsound
  have hpaid : paidAmount ((posting.entryId, postedEntry posting invoice amount) ::
      db.entriesOf posting.paymentId) = paidAmount (db.entriesOf posting.paymentId) + amount := by
    simp only [paidAmount, List.map_cons, List.sum_cons]
    exact add_comm _ _
  refine ⟨hsound.manual, hsound.unflagged, ?_, ?_, ?_, fun _ ↦ ?_, nofun⟩
  · rw [sheetOf_cons]
    exact hsound.sheet.post (h.admits hsound)
  · rintro e (_ | ⟨_, he⟩)
    · rfl
    · exact hsound.currency e he
  · rintro e (_ | ⟨_, he⟩)
    · exact h.kind
    · exact hsound.kind e he
  · rw [hpaid]
    simp only [Payment.settle, hcancelled, if_false]
    split_ifs with hfull hdue
    · exact ⟨nofun, nofun, fun _ ↦ hfull, fun _ ↦ rfl⟩
    · exact ⟨nofun, nofun, nofun, fun hnet ↦ absurd hnet hfull⟩
    · exact ⟨nofun, nofun, nofun, fun hnet ↦ absurd hnet hfull⟩

end

/-! ## Creating and editing -/

/-- What an invoice and its entries come to, as seen by a reader of that invoice only. -/
def SoundInvoice (paymentId : Uuid) (db : Database) : Prop :=
  ∃ p, db.payments.lookup paymentId = some p ∧ LedgerSound p (db.entriesOf paymentId)

/-- The invoice and its entries are the same in both databases. -/
def SameLedger (paymentId : Uuid) (db db' : Database) : Prop :=
  db'.payments.lookup paymentId = db.payments.lookup paymentId ∧
    db'.entriesOf paymentId = db.entriesOf paymentId

theorem SoundInvoice.of_same {paymentId : Uuid} {db db' : Database} (h : SoundInvoice paymentId db)
    (hsame : SameLedger paymentId db db') : SoundInvoice paymentId db' := by
  obtain ⟨p, hp, hsound⟩ := h
  exact ⟨p, hsame.1.trans hp, hsame.2 ▸ hsound⟩

theorem entriesOf_insert {db db' : Database} {k : Uuid} {e : PaymentEntry} (paymentId : Uuid)
    (hentries : db'.paymentEntries = db.paymentEntries.insert k e)
    (hfresh : db.paymentEntries.lookup k = none) :
    db'.entriesOf paymentId =
      if e.paymentId = paymentId then (k, e) :: db.entriesOf paymentId
      else db.entriesOf paymentId := by
  simp only [Database.entriesOf, hentries, Table.select_insert hfresh, decide_eq_true_eq]

section

variable {db db' : Database} {entryId id : Uuid} {p : Payment} {now : Time}

/-- An invoice without entries is sound if it is settled when it is written as paid. -/
theorem settleIfPaid_sound (h : settleIfPaid db entryId id p now = .ok db')
    (hp : db.payments.lookup id = some p) (hempty : db.entriesOf id = [])
    (hmanual : p.paymentAttemptId = none) (hunflagged : p.ledgerReviewRequired = false)
    (hamount : 0 ≤ p.amount) : SoundInvoice id db' := by
  unfold settleIfPaid at h
  split_ifs at h with hpaid
  · obtain ⟨-, -, hfresh, rfl⟩ := Database.createPaymentEntry_eq_ok.mp h
    have hself : (trustedSettlement id p now).paymentId = id := rfl
    refine ⟨p, hp, ?_⟩
    rw [entriesOf_insert id rfl hfresh, hempty, if_pos hself]
    refine ⟨hmanual, hunflagged, ?_, ?_, ?_, fun _ ↦ ?_, nofun⟩
    · rw [sheetOf_cons, sheetOf_nil]
      exact Sheet.sound_post_blank hamount le_rfl
    · rintro e (_ | ⟨_, he⟩)
      · rfl
      · cases he
    · rintro e (_ | ⟨_, he⟩)
      · exact ⟨nofun, nofun⟩
      · cases he
    · rw [hpaid]
      refine ⟨nofun, nofun, fun _ ↦ ?_, fun _ ↦ rfl⟩
      simp [paidAmount, trustedSettlement]
  · cases h
    refine ⟨p, hp, ?_⟩
    rw [hempty]
    refine ⟨hmanual, hunflagged, ?_, fun e he ↦ absurd he List.not_mem_nil,
      fun e he ↦ absurd he List.not_mem_nil, fun hne ↦ absurd rfl hne, fun _ ↦ hpaid⟩
    rw [sheetOf_nil]
    exact Sheet.sound_blank hamount

/-- A settlement touches its own invoice only. -/
theorem settleIfPaid_same (h : settleIfPaid db entryId id p now = .ok db') {paymentId : Uuid}
    (hne : paymentId ≠ id) : SameLedger paymentId db db' := by
  unfold settleIfPaid at h
  split_ifs at h with hpaid
  · obtain ⟨-, -, hfresh, rfl⟩ := Database.createPaymentEntry_eq_ok.mp h
    refine ⟨rfl, ?_⟩
    rw [entriesOf_insert paymentId rfl hfresh, if_neg fun heq ↦ hne heq.symm]
  · cases h
    exact ⟨rfl, rfl⟩

end

theorem paymentMutationData_amount {P : Platform} {body : AdminPaymentWriteInput}
    {invoiceNumber : String} {issueDate now : Time} {data : PaymentMutationData}
    (h : paymentMutationData P body invoiceNumber issueDate now = .ok data) :
    data.amount = body.amount := by
  simp only [paymentMutationData, bind_eq_ok, pure_eq_ok] at h
  obtain ⟨_, -, _, -, rfl⟩ := h
  rfl

/-- What a successful creation did, under whichever number. -/
theorem createAdminPayment_eq_ok {P : Platform} {db db' : Database} {creation : InvoiceCreation}
    (h : createAdminPayment P db creation = .ok db') :
    ∃ invoiceNumber issueDate, createInvoice P db creation invoiceNumber issueDate = .ok db' := by
  have hloop : ∀ attempts issueDate, createInvoiceAttempts P db creation issueDate attempts = .ok db' →
      ∃ invoiceNumber, createInvoice P db creation invoiceNumber issueDate = .ok db' := by
    intro attempts issueDate
    induction attempts with
    | zero => nofun
    | succ attempts ih =>
      intro h
      simp only [createInvoiceAttempts, bind_eq_ok] at h
      obtain ⟨invoiceNumber, -, h⟩ := h
      cases hcreate : createInvoice P db creation invoiceNumber issueDate with
      | ok db₁ =>
        simp only [hcreate, pure_eq_ok] at h
        exact ⟨invoiceNumber, h ▸ hcreate⟩
      | error error =>
        simp only [hcreate] at h
        split_ifs at h with hretry
        exact ih h
  simp only [createAdminPayment, bind_eq_ok] at h
  obtain ⟨_, -, _, -, _, -, issueDate, -, h⟩ := h
  obtain ⟨invoiceNumber, hcreate⟩ := hloop 5 issueDate h
  exact ⟨invoiceNumber, issueDate, hcreate⟩

/-- The row a creation inserts, which is then settled if it is paid. -/
theorem createInvoice_eq_ok {P : Platform} {db db' : Database} {creation : InvoiceCreation}
    {invoiceNumber : String} {issueDate : Time}
    (h : createInvoice P db creation invoiceNumber issueDate = .ok db') :
    ∃ data : PaymentMutationData, data.amount = creation.body.amount ∧
      db.payments.lookup creation.paymentId = none ∧
      settleIfPaid { db with
          payments := db.payments.insert creation.paymentId (data.create creation.actor.id) }
        creation.entryId creation.paymentId (data.create creation.actor.id) creation.now =
          .ok db' := by
  simp only [createInvoice, bind_eq_ok, Database.createPayment_eq_ok] at h
  obtain ⟨data, hdata, _, ⟨-, hfree, rfl⟩, hsettle⟩ := h
  exact ⟨data, paymentMutationData_amount hdata, hfree, hsettle⟩

/-- A created invoice is sound. -/
theorem createAdminPayment_sound {P : Platform} {db db' : Database} {creation : InvoiceCreation}
    (h : createAdminPayment P db creation = .ok db')
    (hempty : db.entriesOf creation.paymentId = []) : SoundInvoice creation.paymentId db' := by
  obtain ⟨invoiceNumber, issueDate, hcreate⟩ := createAdminPayment_eq_ok h
  obtain ⟨data, hamount, -, hsettle⟩ := createInvoice_eq_ok hcreate
  refine settleIfPaid_sound hsettle (by simp) hempty rfl rfl ?_
  show 0 ≤ data.amount
  rw [hamount]
  exact creation.body.amount_nonneg

/-- A creation leaves the invoices that are there alone. -/
theorem createAdminPayment_same {P : Platform} {db db' : Database} {creation : InvoiceCreation}
    (h : createAdminPayment P db creation = .ok db') {paymentId : Uuid} {p : Payment}
    (hp : db.payments.lookup paymentId = some p) : SameLedger paymentId db db' := by
  obtain ⟨invoiceNumber, issueDate, hcreate⟩ := createAdminPayment_eq_ok h
  obtain ⟨data, -, hfree, hsettle⟩ := createInvoice_eq_ok hcreate
  have hne : paymentId ≠ creation.paymentId := by
    rintro rfl
    rw [hfree] at hp
    cases hp
  obtain ⟨hpayments, hentries⟩ := settleIfPaid_same hsettle hne
  exact ⟨by rw [hpayments]; simp [hne], hentries⟩

/-- What a successful edit did: the invoice had no entries, and is settled if it is now paid. -/
theorem updateAdminPayment_eq_ok {P : Platform} {db db' : Database} {update : InvoiceUpdate}
    (h : updateAdminPayment P db update = .ok db') :
    ∃ (data : PaymentMutationData) (current : Payment), data.amount = update.body.amount ∧
      db.payments.lookup update.paymentId = some current ∧ db.entriesOf update.paymentId = [] ∧
      current.ledgerReviewRequired = false ∧ current.paymentAttemptId = none ∧
      settleIfPaid { db with payments := db.payments.update update.paymentId data.write }
        update.entryId update.paymentId (data.write current) update.now = .ok db' := by
  simp only [updateAdminPayment, bind_eq_ok, Platform.parseUuid_eq_ok] at h
  obtain ⟨_, -, _, ⟨-, rfl⟩, _, -, existing, -, _, -, _, -, h⟩ := h
  cases hupdate : updateInvoice P db update update.paymentId
      (Js.orElse update.body.invoiceNumber existing.invoiceNumber) with
  | error error => simp [hupdate] at h
  | ok db₁ =>
    simp only [hupdate, pure_eq_ok] at h
    subst h
    simp only [updateInvoice, bind_eq_ok, orThrow_eq_ok, throwIf_eq_ok, not_or, not_not,
      Bool.not_eq_true, Option.isSome_eq_false_iff, Option.isNone_iff_eq_none,
      Database.updatePayment_eq_ok] at hupdate
    obtain ⟨current, hcurrent, _, ⟨hempty, hunflagged, hmanual⟩, _, -, data, hdata, _,
      ⟨_, -, -, rfl⟩, hsettle⟩ := hupdate
    exact ⟨data, current, paymentMutationData_amount hdata, hcurrent, hempty, hunflagged, hmanual,
      hsettle⟩

/-! ## Runs -/

inductive LedgerRequest where
  | create (creation : InvoiceCreation)
  | update (update : InvoiceUpdate)
  | post (posting : EntryPosting)

/-- The database after one request; one that throws changes nothing. -/
def ledgerStep (P : Platform) (db : Database) : LedgerRequest → Database
  | .create creation => commit (createAdminPayment P db creation) db
  | .update update => commit (updateAdminPayment P db update) db
  | .post posting => commit ((postPaymentEntry db posting).map Prod.fst) db

/-- What a request does to one invoice. -/
inductive InvoiceStep (paymentId : Uuid) (db db' : Database) : Prop
  | same (h : SameLedger paymentId db db')
  | posted (posting : EntryPosting) (invoice : Payment) (amount : Decimal)
      (hid : posting.paymentId = paymentId) (haccepted : EntryAccepted db posting invoice amount)
      (hpayment : db'.payments.lookup paymentId =
        some (invoice.settle posting (paidAmount (db.entriesOf paymentId) + amount)))
      (hentries : db'.entriesOf paymentId =
        (posting.entryId, postedEntry posting invoice amount) :: db.entriesOf paymentId)
  | rewritten (hempty : db.entriesOf paymentId = []) (hsound : SoundInvoice paymentId db')

section

variable {P : Platform} {db db' : Database} {paymentId : Uuid} {p : Payment}

theorem postPaymentEntry_invoiceStep {posting : EntryPosting} {entry : Uuid × PaymentEntry}
    (h : postPaymentEntry db posting = .ok (db', entry)) : InvoiceStep paymentId db db' := by
  obtain rfl | ⟨invoice, amount, haccepted, rfl⟩ := postPaymentEntry_eq_ok h
  · exact .same ⟨rfl, rfl⟩
  have hpaymentId : (postedEntry posting invoice amount).paymentId = posting.paymentId := rfl
  have hentries : Database.entriesOf { db with
        paymentEntries := db.paymentEntries.insert posting.entryId
          (postedEntry posting invoice amount)
        payments := db.payments.update posting.paymentId fun invoice ↦
          invoice.settle posting (paidAmount (db.entriesOf posting.paymentId) + amount) }
      paymentId = _ := entriesOf_insert paymentId rfl haccepted.fresh
  by_cases hid : posting.paymentId = paymentId
  · subst hid
    rw [if_pos hpaymentId] at hentries
    exact .posted posting invoice amount rfl haccepted (by simp [haccepted.found]) hentries
  · rw [hpaymentId, if_neg hid] at hentries
    exact .same ⟨by simp [Ne.symm hid], hentries⟩

theorem updateAdminPayment_invoiceStep {update : InvoiceUpdate}
    (h : updateAdminPayment P db update = .ok db') : InvoiceStep paymentId db db' := by
  obtain ⟨data, current, hamount, hcurrent, hempty, hunflagged, hmanual, hsettle⟩ :=
    updateAdminPayment_eq_ok h
  by_cases hid : paymentId = update.paymentId
  · subst hid
    refine .rewritten hempty (settleIfPaid_sound hsettle ?_ hempty hmanual hunflagged ?_)
    · simp [hcurrent]
    · show 0 ≤ data.amount
      rw [hamount]
      exact update.body.amount_nonneg
  · obtain ⟨hpayments, hentries⟩ := settleIfPaid_same hsettle hid
    exact .same ⟨by rw [hpayments]; simp [hid], hentries⟩

/-- Every request takes every invoice that is there one step. -/
theorem ledgerStep_invoiceStep (hp : db.payments.lookup paymentId = some p)
    (request : LedgerRequest) : InvoiceStep paymentId db (ledgerStep P db request) := by
  have hsame : InvoiceStep paymentId db db := .same ⟨rfl, rfl⟩
  rcases request with creation | update | posting
  · exact commit_of hsame fun db' hok ↦ .same (createAdminPayment_same hok hp)
  · exact commit_of hsame fun db' hok ↦ updateAdminPayment_invoiceStep hok
  · refine commit_of hsame fun db' hok ↦ ?_
    cases hpost : postPaymentEntry db posting with
    | error error =>
      rw [hpost] at hok
      cases hok
    | ok result =>
      rw [hpost] at hok
      cases hok
      exact postPaymentEntry_invoiceStep hpost

/-- One step keeps an invoice sound. -/
theorem SoundInvoice.step (h : SoundInvoice paymentId db) (hstep : InvoiceStep paymentId db db') :
    SoundInvoice paymentId db' := by
  rcases hstep with hsame | ⟨posting, invoice, amount, rfl, haccepted, hpayment, hentries⟩ |
    ⟨-, hsound⟩
  · exact h.of_same hsame
  · obtain ⟨p, hp, hsound⟩ := h
    rw [haccepted.found] at hp
    cases hp
    exact ⟨_, hpayment, hentries ▸ haccepted.sound hsound⟩
  · exact hsound

theorem SoundInvoice.ledgerStep (h : SoundInvoice paymentId db) (request : LedgerRequest) :
    SoundInvoice paymentId (ledgerStep P db request) := by
  obtain ⟨p, hp, -⟩ := id h
  exact h.step (ledgerStep_invoiceStep hp request)

/-- What an invoice with entries keeps for good. -/
def KeepsTerms (paymentId : Uuid) (db db' : Database) : Prop :=
  ∀ p, db.payments.lookup paymentId = some p → db.entriesOf paymentId ≠ [] →
    ∃ p', db'.payments.lookup paymentId = some p' ∧ db'.entriesOf paymentId ≠ [] ∧
      p'.amount = p.amount ∧ p'.currency = p.currency ∧ p'.clientId = p.clientId

theorem KeepsTerms.trans {db'' : Database} (h : KeepsTerms paymentId db db')
    (h' : KeepsTerms paymentId db' db'') : KeepsTerms paymentId db db'' := by
  intro p hp hne
  obtain ⟨p', hp', hne', hamount, hcurrency, hclient⟩ := h p hp hne
  obtain ⟨p'', hp'', hne'', hamount', hcurrency', hclient'⟩ := h' p' hp' hne'
  exact ⟨p'', hp'', hne'', hamount'.trans hamount, hcurrency'.trans hcurrency,
    hclient'.trans hclient⟩

theorem ledgerStep_keepsTerms (P : Platform) (paymentId : Uuid) (db : Database)
    (request : LedgerRequest) : KeepsTerms paymentId db (ledgerStep P db request) := by
  intro p hp hne
  rcases ledgerStep_invoiceStep (P := P) hp request with ⟨hpayment, hentries⟩ |
    ⟨posting, invoice, amount, rfl, haccepted, hpayment, hentries⟩ | ⟨hempty, -⟩
  · exact ⟨p, hpayment.trans hp, hentries ▸ hne, rfl, rfl, rfl⟩
  · rw [haccepted.found] at hp
    cases hp
    exact ⟨_, hpayment, by rw [hentries]; exact List.cons_ne_nil _ _, rfl, rfl, rfl⟩
  · exact absurd hempty hne

end

/-- Along every run from a created invoice: what was paid is between nothing and its amount, in its
currency; a correction takes back one entry, that is none itself, exactly and once; with entries
it is paid exactly when all of it is paid, keeps its terms, and never asks for a review. -/
theorem ledger_within_bounds (P : Platform) {db db₀ : Database} {creation : InvoiceCreation}
    (hcreate : createAdminPayment P db creation = .ok db₀)
    (hempty : db.entriesOf creation.paymentId = []) (l l' : List LedgerRequest) :
    ∃ p, (run (ledgerStep P) db₀ l).payments.lookup creation.paymentId = some p ∧
      let entries := (run (ledgerStep P) db₀ l).entriesOf creation.paymentId
      (0 ≤ paidAmount entries ∧ paidAmount entries ≤ p.amount) ∧
      (∀ e ∈ entries, e.2.currency = p.currency) ∧
      (∀ e ∈ entries, ∀ e' ∈ entries, e.2.reversesEntryId.isSome →
        e.2.reversesEntryId = e'.2.reversesEntryId → e.1 = e'.1) ∧
      (∀ e ∈ entries, e.2.kind = .reversal → ∃ e₀ ∈ entries, e.2.reversesEntryId = some e₀.1 ∧
        e₀.2.kind ≠ .reversal ∧ e.2.amount = -e₀.2.amount) ∧
      (entries ≠ [] → p.status ≠ .draft → p.status ≠ .cancelled →
        (p.status = .paid ↔ paidAmount entries = p.amount)) ∧
      KeepsTerms creation.paymentId (run (ledgerStep P) db₀ l) (run (ledgerStep P) db₀ (l ++ l')) ∧
      (invoiceBalance p entries).reviewRequired = false := by
  obtain ⟨p, hp, hsound⟩ : SoundInvoice creation.paymentId (run (ledgerStep P) db₀ l) :=
    run_invariant (fun _ request h ↦ h.ledgerStep request) (createAdminPayment_sound hcreate hempty)
      l
  refine ⟨p, hp, ⟨hsound.sheet.lower, hsound.sheet.upper⟩, hsound.currency, ?_, ?_, ?_, ?_,
    hsound.reviewRequired⟩
  · intro e he e' he' hsome heq
    obtain ⟨k₀, hk₀⟩ := Option.isSome_iff_exists.mp hsome
    exact hsound.sheet.once e.1 e.2.line e'.1 e'.2.line k₀ (sheetOf_lines_of_mem he)
      (sheetOf_lines_of_mem he') hk₀ (heq.symm.trans hk₀)
  · intro e he hkind
    obtain ⟨k₀, hk₀⟩ := Option.isSome_iff_exists.mp ((hsound.kind e he).mp hkind)
    obtain ⟨l₀, hl₀, hnone, hamount⟩ :=
      hsound.sheet.reverses e.1 e.2.line k₀ (sheetOf_lines_of_mem he) hk₀
    obtain ⟨e₀, he₀, rfl⟩ := mem_of_sheetOf_lines hl₀
    refine ⟨(k₀, e₀), he₀, hk₀, fun hreversal ↦ ?_, hamount⟩
    have hsome := (hsound.kind (k₀, e₀) he₀).mp hreversal
    exact absurd hsome (Option.not_isSome_iff_eq_none.mpr hnone)
  · exact fun hne _ _ ↦ (hsound.used hne).2.2
  · rw [run_append]
    exact run_related (fun db p hp hne ↦ ⟨p, hp, hne, rfl, rfl, rfl⟩) (fun _ _ _ ↦ .trans)
      (ledgerStep_keepsTerms P creation.paymentId) _ l'

/-- An invoice over 1000 for a client of the office. -/
def officeCreation : InvoiceCreation where
  actor := ⟨"u", "Office Admin", none, none⟩
  body := { clientId := "c", issueDate := "2026-01-15", cents := 100000, cents_le := by decide
            status := .issued }
  now := 1768435200000
  paymentId := "i"
  entryId := "e"

def officeDatabase : Database where
  clients := AList.singleton "c" { fullName := "Client", phone := "01000000001" }

/-- The platform that reads the date of `officeCreation`. -/
def officePlatform : Platform :=
  { plainPlatform with
    parseDate := fun s ↦ if s = "2026-01-15" then some 1768435200000 else none }

/-- 400 in cash. -/
def officePosting : LedgerRequest :=
  .post {
    actor := ⟨"u", "Office Admin", none, none⟩
    paymentId := "i"
    body := { idempotencyKey := "k", kind := .settlement, kind_ne_legacy := nofun, cents := 40000
              cents_pos := by decide, currency := .egp, method := .cash, receiptNumber := "R-1"
              occurredAt := 1768435200000 }
    checkedAt := 1768435200000
    postedAt := 1768435200000
    entryId := "e" }

theorem ledger_within_bounds_office :
    ∃ p, (run (ledgerStep officePlatform)
        (commit (createAdminPayment officePlatform officeDatabase officeCreation) officeDatabase)
        [officePosting]).payments.lookup "i" = some p ∧
      paidAmount ((run (ledgerStep officePlatform)
        (commit (createAdminPayment officePlatform officeDatabase officeCreation) officeDatabase)
        [officePosting]).entriesOf "i") ≤ p.amount := by
  have hcreate : createAdminPayment officePlatform officeDatabase officeCreation =
      .ok (commit (createAdminPayment officePlatform officeDatabase officeCreation)
        officeDatabase) := rfl
  obtain ⟨p, hp, ⟨-, hupper⟩, -⟩ := ledger_within_bounds officePlatform hcreate rfl [officePosting] []
  exact ⟨p, hp, hupper⟩

end KmtLegal
