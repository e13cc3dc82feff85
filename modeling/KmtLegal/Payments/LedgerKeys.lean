import KmtLegal.Payments.LedgerBounds

/-!
# One entry per identifier

A posting names its action by an identifier, and the unique index of the entries keeps two entries
of an invoice from sharing one.  A posting finds the entry of its identifier before it looks at
the invoice's balance or status, so that a repeated request is answered from that entry whatever
became of the invoice.
-/

namespace KmtLegal

open Relational

/-! ## What an entry says of its body -/

namespace PaymentEntryInput

theorem amount_injective {body body' : PaymentEntryInput} (h : body.amount = body'.amount) :
    body.cents = body'.cents := by
  unfold amount at h
  have hcents : (body.cents : Decimal) = body'.cents := by linarith
  exact_mod_cast hcents

theorem ext_fields {body body' : PaymentEntryInput}
    (hkey : body.idempotencyKey = body'.idempotencyKey) (hkind : body.kind = body'.kind)
    (hcents : body.cents = body'.cents) (hcurrency : body.currency = body'.currency)
    (hmethod : body.method = body'.method) (hreceipt : body.receiptNumber = body'.receiptNumber)
    (hoccurred : body.occurredAt = body'.occurredAt)
    (hreverses : body.reversesEntryId = body'.reversesEntryId)
    (hreason : body.reason = body'.reason) : body = body' := by
  cases body
  cases body'
  simp only [mk.injEq]
  exact ⟨hkey, hkind, hcents, hcurrency, hmethod, hreceipt, hoccurred, hreverses, hreason⟩

end PaymentEntryInput

/-- An entry leaves no choice of the body it repeats. -/
theorem PaymentEntry.repeats_unique {e : PaymentEntry} {body body' : PaymentEntryInput}
    (h : e.repeats body) (h' : e.repeats body')
    (hkey : body.idempotencyKey = body'.idempotencyKey) : body = body' := by
  simp only [repeats, decide_eq_true_eq] at h h'
  obtain ⟨hkind, hamount, hcurrency, hmethod, hreceipt, hoccurred, hreverses, hreason⟩ := h
  obtain ⟨hkind', hamount', hcurrency', hmethod', hreceipt', hoccurred', hreverses', hreason'⟩ := h'
  have hcents := PaymentEntryInput.amount_injective (hamount.symm.trans hamount')
  have htext : body.method.text = body'.method.text := hmethod.symm.trans hmethod'
  have hmethods : body.method = body'.method := by
    cases hm : body.method <;> cases hm' : body'.method <;>
      first | rfl | simp [hm, hm', PaymentEntryMethod.text] at htext
  exact PaymentEntryInput.ext_fields hkey (hkind.symm.trans hkind') hcents
    (hcurrency.symm.trans hcurrency') hmethods (hreceipt.symm.trans hreceipt')
    (hoccurred.symm.trans hoccurred') (hreverses.symm.trans hreverses') (hreason.symm.trans hreason')

/-- Whatever its sign, an entry has the amount its body names. -/
theorem abs_entryAmount {entries : List (Uuid × PaymentEntry)} {body : PaymentEntryInput}
    {amount : Decimal} (h : entryAmount entries body = .ok amount) : |amount| = body.amount := by
  have hpos := body.amount_pos
  unfold entryAmount at h
  split at h
  · simp only [bind_eq_ok, orThrow_eq_ok, throwIf_eq_ok, pure_eq_ok, not_or, not_not] at h
    obtain ⟨original, -, _, ⟨-, -, habs⟩, rfl⟩ := h
    rw [abs_neg, habs]
  · cases h
    rw [abs_neg, abs_of_pos hpos]
  · cases h
    exact abs_of_pos hpos

theorem postedEntry_repeats {posting : EntryPosting} {invoice : Payment} {amount : Decimal}
    (habs : |amount| = posting.body.amount) (hcurrency : posting.body.currency = invoice.currency) :
    (postedEntry posting invoice amount).repeats posting.body := by
  simp only [PaymentEntry.repeats, postedEntry, decide_eq_true_eq, true_and, and_true]
  exact ⟨habs, hcurrency.symm⟩

/-! ## The entry of an identifier -/

/-- The unique index of an invoice's entries by their identifiers. -/
def OneEntryPerKey (db : Database) : Prop :=
  ∀ k e k' e', db.paymentEntries.lookup k = some e → db.paymentEntries.lookup k' = some e' →
    e.paymentId = e'.paymentId → e.idempotencyKey = e'.idempotencyKey → k = k'

/-- `entry` is stored for the action `key` of the invoice. -/
structure EntryOf (db : Database) (paymentId : Uuid) (key : String) (entry : Uuid × PaymentEntry) :
    Prop where
  stored : db.paymentEntries.lookup entry.1 = some entry.2
  invoice : entry.2.paymentId = paymentId
  key : entry.2.idempotencyKey = key
  found : (db.payments.lookup paymentId).isSome

section

variable {db db' : Database} {paymentId : Uuid} {key : String} {entry entry' : Uuid × PaymentEntry}

theorem EntryOf.unique (hdb : OneEntryPerKey db) (h : EntryOf db paymentId key entry)
    (h' : EntryOf db paymentId key entry') : entry = entry' := by
  have hid := hdb _ _ _ _ h.stored h'.stored (h.invoice.trans h'.invoice.symm)
    (h.key.trans h'.key.symm)
  have hrow : some entry.2 = some entry'.2 := by rw [← h.stored, ← h'.stored, hid]
  exact Prod.ext hid (Option.some.inj hrow)

theorem EntryOf.find (hdb : OneEntryPerKey db) (h : EntryOf db paymentId key entry) :
    (db.entriesOf paymentId).find? (fun e ↦ e.2.idempotencyKey = key) = some entry := by
  cases hfind : (db.entriesOf paymentId).find? fun e ↦ e.2.idempotencyKey = key with
  | none =>
    have hmem : (entry.1, entry.2) ∈ db.entriesOf paymentId := mem_entriesOf.mpr ⟨h.stored, h.invoice⟩
    have hno := List.find?_eq_none.mp hfind _ hmem
    exact absurd h.key (by simpa using hno)
  | some e =>
    obtain ⟨hstored, hinvoice⟩ := mem_entriesOf.mp (List.mem_of_find?_eq_some hfind)
    have hkey : e.2.idempotencyKey = key := by simpa using List.find?_some hfind
    rw [h.unique hdb ⟨hstored, hinvoice, hkey, h.found⟩]

/-- A posting under the identifier of a stored entry is answered by that entry or refused. -/
theorem EntryOf.post (hdb : OneEntryPerKey db) {posting : EntryPosting}
    (h : EntryOf db posting.paymentId posting.body.idempotencyKey entry) :
    postPaymentEntry db posting = (do
      throwIf (¬hasPermission posting.actor "finance.manage.any")
        (.permissionDenied "Finance management permission is required.")
      let body ← posting.body.parse posting.checkedAt
      throwIf (¬entry.2.repeats body)
        (.conflict "This payment action identifier has already been used.")
      return (db, entry)) := by
  obtain ⟨invoice, hinvoice⟩ := Option.isSome_iff_exists.mp h.found
  unfold postPaymentEntry
  congr 1
  funext _
  cases hparse : posting.body.parse posting.checkedAt with
  | error failure => rfl
  | ok body =>
    obtain ⟨rfl, -⟩ := PaymentEntryInput.parse_eq_ok hparse
    show (orThrow (db.payments.lookup posting.paymentId) _ >>= _) = _
    rw [hinvoice]
    simp only [orThrow_some, ok_bind, h.find hdb]

/-- The entry a posting answers with is stored, and says what its body asked for. -/
theorem postPaymentEntry_entryOf {posting : EntryPosting}
    (h : postPaymentEntry db posting = .ok (db', entry)) :
    EntryOf db' posting.paymentId posting.body.idempotencyKey entry ∧
      entry.2.repeats posting.body := by
  simp only [postPaymentEntry, bind_eq_ok, throwIf_eq_ok, orThrow_eq_ok] at h
  obtain ⟨_, -, body, hbody, invoice, hfound, h⟩ := h
  obtain ⟨rfl, -⟩ := PaymentEntryInput.parse_eq_ok hbody
  split at h
  · rename_i existing hfind
    simp only [bind_eq_ok, throwIf_eq_ok, pure_eq_ok, not_not] at h
    obtain ⟨_, hrepeats, h⟩ := h
    cases h
    obtain ⟨hstored, hinvoice⟩ := mem_entriesOf.mp (List.mem_of_find?_eq_some hfind)
    exact ⟨⟨hstored, hinvoice, by simpa using List.find?_some hfind, by rw [hfound]; rfl⟩, hrepeats⟩
  · simp only [bind_eq_ok, throwIf_eq_ok, Database.createPaymentEntry_eq_ok,
      Database.updatePayment_eq_ok, pure_eq_ok, not_or, not_not] at h
    obtain ⟨_, -, _, ⟨hcurrency, -⟩, _, -, amount, hamount, _, -, _, ⟨-, -, -, rfl⟩, _,
      ⟨_, -, -, rfl⟩, h⟩ := h
    cases h
    refine ⟨⟨by simp, rfl, rfl, by simp [hfound]⟩, ?_⟩
    exact postedEntry_repeats (abs_entryAmount hamount) hcurrency

end

/-! ## Runs -/

/-- What happens to invoices and their entries: postings, the settlements of trusted transactions,
new invoices, and updates of invoices of whatever kind. -/
inductive LedgerMove where
  | post (posting : EntryPosting)
  | settle (id : Uuid) (entry : PaymentEntry)
  | createInvoice (id : Uuid) (p : Payment)
  | updateInvoices (p : Uuid → Payment → Bool) (data : Payment → Payment)

def ledgerMove (db : Database) : LedgerMove → Database
  | .post posting => commit ((postPaymentEntry db posting).map Prod.fst) db
  | .settle id entry => commit (db.createPaymentEntry id entry) db
  | .createInvoice id p => commit (db.createPayment id p) db
  | .updateInvoices p data => { db with payments := db.payments.updateMany p data }

/-- Entries are for good, and so are invoices. -/
structure LedgerGrows (db db' : Database) : Prop where
  entries : ∀ k e, db.paymentEntries.lookup k = some e → db'.paymentEntries.lookup k = some e
  invoices : ∀ id, (db.payments.lookup id).isSome → (db'.payments.lookup id).isSome
  keys : OneEntryPerKey db → OneEntryPerKey db'

namespace LedgerGrows

variable {db db' db'' : Database}

theorem refl (db : Database) : LedgerGrows db db :=
  ⟨fun _ _ h ↦ h, fun _ h ↦ h, fun h ↦ h⟩

theorem trans (h : LedgerGrows db db') (h' : LedgerGrows db' db'') : LedgerGrows db db'' :=
  ⟨fun k e he ↦ h'.entries k e (h.entries k e he), fun id hid ↦ h'.invoices id (h.invoices id hid),
    fun hdb ↦ h'.keys (h.keys hdb)⟩

/-- The index lets no second entry of an identifier in. -/
theorem of_createPaymentEntry {id : Uuid} {e : PaymentEntry}
    (h : db.createPaymentEntry id e = .ok db') : LedgerGrows db db' := by
  obtain ⟨-, hclash, hfresh, rfl⟩ := Database.createPaymentEntry_eq_ok.mp h
  have hother : ∀ k e', db.paymentEntries.lookup k = some e' → e'.paymentId = e.paymentId →
      e'.idempotencyKey ≠ e.idempotencyKey := by
    intro k e' he' hpayment hkey
    have hno := Table.any_eq_false.mp hclash k e' he'
    simp [hpayment, hkey] at hno
  refine ⟨fun k e' he' ↦ ?_, fun _ hid ↦ hid, fun hdb k e₁ k' e₂ h₁ h₂ hpayment hkey ↦ ?_⟩
  · rw [Table.lookup_insert, if_neg]
    · exact he'
    · rintro rfl
      rw [hfresh] at he'
      cases he'
  · rw [Table.lookup_insert] at h₁ h₂
    split_ifs at h₁ h₂ with hk hk' hk'
    · rw [hk, hk']
    · cases h₁
      exact absurd hkey.symm (hother k' e₂ h₂ hpayment.symm)
    · cases h₂
      exact absurd hkey (hother k e₁ h₁ hpayment)
    · exact hdb k e₁ k' e₂ h₁ h₂ hpayment hkey

/-- So does every write that leaves the entries alone. -/
theorem of_payments {payments : Table Uuid Payment}
    (h : ∀ id, (db.payments.lookup id).isSome → (payments.lookup id).isSome) :
    LedgerGrows db { db with payments } :=
  ⟨fun _ _ he ↦ he, h, fun hdb ↦ hdb⟩

end LedgerGrows

theorem postPaymentEntry_grows {db db' : Database} {posting : EntryPosting}
    {entry : Uuid × PaymentEntry} (h : postPaymentEntry db posting = .ok (db', entry)) :
    LedgerGrows db db' := by
  simp only [postPaymentEntry, bind_eq_ok, throwIf_eq_ok, orThrow_eq_ok] at h
  obtain ⟨_, -, body, hbody, invoice, hfound, h⟩ := h
  split at h
  · simp only [bind_eq_ok, pure_eq_ok] at h
    obtain ⟨_, -, h⟩ := h
    cases h
    exact .refl db
  · simp only [bind_eq_ok, pure_eq_ok] at h
    obtain ⟨_, -, _, -, _, -, amount, -, _, -, db₁, hcreate, db₂, hupdate, h⟩ := h
    cases h
    obtain ⟨_, -, -, rfl⟩ := Database.updatePayment_eq_ok.mp hupdate
    refine (LedgerGrows.of_createPaymentEntry hcreate).trans (.of_payments fun id hid ↦ ?_)
    rw [Table.lookup_update]
    split_ifs <;> simpa using hid

theorem ledgerMove_grows (db : Database) (move : LedgerMove) :
    LedgerGrows db (ledgerMove db move) := by
  cases move with
  | post posting =>
    refine commit_of (.refl db) fun db' hok ↦ ?_
    obtain ⟨⟨_, entry⟩, hpost, rfl⟩ := map_eq_ok.mp hok
    exact postPaymentEntry_grows hpost
  | settle id entry => exact commit_of (.refl db) fun db' hok ↦ .of_createPaymentEntry hok
  | createInvoice id p =>
    refine commit_of (.refl db) fun db' hok ↦ ?_
    obtain ⟨-, -, rfl⟩ := Database.createPayment_eq_ok.mp hok
    refine .of_payments fun id' hid ↦ ?_
    rw [Table.lookup_insert]
    split_ifs
    · rfl
    · exact hid
  | updateInvoices p data =>
    refine .of_payments fun id hid ↦ ?_
    rw [Table.lookup_updateMany, Option.isSome_map]
    exact hid

theorem run_ledgerGrows (db : Database) (l : List LedgerMove) :
    LedgerGrows db (run ledgerMove db l) :=
  run_related LedgerGrows.refl (fun _ _ _ ↦ LedgerGrows.trans) ledgerMove_grows db l

/-- An invoice over 1000 that a settlement of 400 was posted to. -/
def keyedDatabase : Database where
  payments := AList.singleton "i" {
    clientId := "c", invoiceNumber := "INV-2026-0001", amount := 1000, currency := .egp
    status := .pending, issueDate := 0 }

theorem settlement_ne_legacy : PaymentEntryKind.settlement ≠ .legacy := by decide

theorem keyedCents_pos : 0 < 40000 := by decide

def keyedPosting : EntryPosting where
  actor := ⟨"u", "Office Admin", none, none⟩
  paymentId := "i"
  body := { idempotencyKey := "k", kind := .settlement, kind_ne_legacy := settlement_ne_legacy
            cents := 40000, cents_pos := keyedCents_pos, currency := .egp, method := .cash
            receiptNumber := "R-1", occurredAt := 0 }
  checkedAt := 0
  postedAt := 0
  entryId := "e"

end KmtLegal
