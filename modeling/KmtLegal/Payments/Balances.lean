import Mathlib.Algebra.Order.BigOperators.Group.List
import KmtLegal.Payments.Ledger
import KmtLegal.Relational.Grouping

/-!
# Balances by currency

`payment-ledger-service.ts` adds up balances in two ways.  `groupInvoiceBalances` goes through
invoices that were read with their entries; `aggregateInvoiceBalances` has the database sum amounts
and entries in six groupings.  The first leaves drafts and cancelled invoices out of the total, the
second does not.
-/

namespace KmtLegal

open Relational

/-! ## One by one -/

/-- `readInvoiceBalances(where)`. -/
def readInvoiceBalances (db : Database) (p : Uuid → Payment → Bool) :
    List (Payment × InvoiceBalance) :=
  (db.payments.select p).map fun e ↦ (e.2, invoiceBalance e.2 (db.entriesOf e.1))

/-- The sums `groupInvoiceBalances` keeps for a currency. -/
structure CurrencyBalance where
  total : Decimal
  paid : Decimal
  remaining : Decimal
  deriving DecidableEq

/-- The sums with one more invoice. -/
def CurrencyBalance.add (current : CurrencyBalance) (invoice : Payment × InvoiceBalance) :
    CurrencyBalance where
  total :=
    if invoice.1.status ≠ .cancelled ∧ invoice.1.status ≠ .draft then
      current.total + invoice.2.total
    else current.total
  paid := current.paid + invoice.2.paid
  remaining := current.remaining + invoice.2.remaining

/-- `(a, b) => a.currency.localeCompare(b.currency)`; the codes are upper-case letters. -/
def currencyOrder {β : Type} (a b : Currency × β) : Bool := a.1.text ≤ b.1.text

/-- `groupInvoiceBalances(invoices)`. -/
def groupInvoiceBalances (invoices : List (Payment × InvoiceBalance)) :
    List (Currency × CurrencyBalance) :=
  (collect (fun i ↦ i.1.currency) CurrencyBalance.add ⟨0, 0, 0⟩ invoices).rows.mergeSort currencyOrder

/-! ## By queries -/

/-- The sums of `aggregateInvoiceBalances` for a currency. -/
structure AggregateBalance where
  count : ℕ
  totalAmount : Decimal
  paidAmount : Decimal
  openAmount : Decimal
  overdueAmount : Decimal
  deriving DecidableEq

/-- `status: { in: ["ISSUED", "PENDING", "OVERDUE"] }`. -/
def Payment.isOpen (p : Payment) : Bool := p.status ∈ [.issued, .pending, .overdue]

/-- `OR: [{ status: "OVERDUE" }, { dueDate: { lt: now } }]`. -/
def Payment.isOverdue (now : Time) (p : Payment) : Bool :=
  p.status = .overdue ∨ p.dueDate.any (· < now)

section

variable (db : Database)

/-- `prisma.payment.groupBy({ by: ["currency"], where, _sum: { amount: true } })`. -/
def groupAmounts (p : Uuid → Payment → Bool) : List (Currency × Decimal) :=
  groupSum (fun e ↦ e.2.currency) (fun e ↦ e.2.amount) (db.payments.select p)

/-- The entries `where: { payment: where }`. -/
def entriesWhere (p : Uuid → Payment → Bool) : List (Uuid × PaymentEntry) :=
  db.paymentEntries.select fun _ e ↦ (db.payments.lookup e.paymentId).any (p e.paymentId)

/-- `prisma.paymentEntry.groupBy({ by: ["currency"], where: { payment: where }, … })`. -/
def groupEntries (p : Uuid → Payment → Bool) : List (Currency × Decimal) :=
  groupSum (fun e ↦ e.2.currency) (fun e ↦ e.2.amount) (entriesWhere db p)

/-- `aggregateInvoiceBalances(where)`. -/
def aggregateInvoiceBalances (p : Uuid → Payment → Bool) (now : Time) :
    List (Currency × AggregateBalance) :=
  let opened := fun id i ↦ p id i && i.isOpen
  let overdue := fun id i ↦ (p id i && i.isOpen) && i.isOverdue now
  ((groupAmounts db p).map fun total ↦
    (total.1,
      { count := ((db.payments.select p).filter fun e ↦ e.2.currency = total.1).length
        totalAmount := total.2
        paidAmount := groupValue (groupEntries db p) total.1
        openAmount := groupValue (groupAmounts db opened) total.1 -
          groupValue (groupEntries db opened) total.1
        overdueAmount := groupValue (groupAmounts db overdue) total.1 -
          groupValue (groupEntries db overdue) total.1 })).mergeSort currencyOrder

end

/-! ## Sums over invoices -/

/-- What the operations of the ledger keep of an invoice and its entries. -/
structure SettledInvoice (p : Payment) (entries : List (Uuid × PaymentEntry)) : Prop where
  lower : 0 ≤ paidAmount entries
  upper : paidAmount entries ≤ p.amount
  currency : ∀ e ∈ entries, e.2.currency = p.currency
  paid : p.status ≠ .draft → p.status ≠ .cancelled →
    (p.status = .paid ↔ paidAmount entries = p.amount)

/-- Every invoice of a selection is settled so far. -/
def AllSettled (db : Database) (p : Uuid → Payment → Bool) : Prop :=
  ∀ e ∈ db.payments.select p, SettledInvoice e.2 (db.entriesOf e.1)

/-- What an invoice still owes. -/
def owed (db : Database) (e : Uuid × Payment) : Decimal := e.2.amount - paidAmount (db.entriesOf e.1)

section

variable {db : Database} {p : Uuid → Payment → Bool} {c : Currency}

theorem AllSettled.mono {q : Uuid → Payment → Bool} (h : AllSettled db p)
    (hq : ∀ id i, q id i → p id i) : AllSettled db q := by
  rintro ⟨id, i⟩ he
  obtain ⟨hi, hqi⟩ := Table.mem_select.mp he
  exact h _ (Table.mem_select.mpr ⟨hi, hq id i hqi⟩)

/-- The ids of a selection are different. -/
theorem nodup_select_ids (db : Database) (p : Uuid → Payment → Bool) (q : Uuid × Payment → Bool) :
    (((db.payments.select p).filter q).map Prod.fst).Nodup := by
  have hkeys : (db.payments.rows.map Prod.fst).Nodup := by
    have hnodup := db.payments.nodupKeys
    rw [List.NodupKeys, List.keys] at hnodup
    simpa only [Table.rows, List.map_map, Function.comp_def] using hnodup
  exact hkeys.sublist ((List.filter_sublist.trans List.filter_sublist).map Prod.fst)

/-- The entries of a currency, invoice by invoice. -/
theorem sumUnder_entries (h : AllSettled db p) :
    sumUnder (fun e ↦ e.2.currency) (fun e ↦ e.2.amount) (entriesWhere db p) c =
      (((db.payments.select p).filter fun e ↦ e.2.currency = c).map fun e ↦
        paidAmount (db.entriesOf e.1)).sum := by
  have howner := sum_by_owner (l := db.paymentEntries.rows) (fun e ↦ e.2.amount)
    (fun e ↦ e.2.paymentId) (nodup_select_ids db p fun e ↦ e.2.currency = c)
  rw [List.map_map] at howner
  have hpaid : (fun e : Uuid × Payment ↦ paidAmount (db.entriesOf e.1)) =
      (fun i ↦ ((db.paymentEntries.rows.filter fun e ↦ e.2.paymentId = i).map
        fun e ↦ e.2.amount).sum) ∘ Prod.fst := rfl
  rw [hpaid, howner, sumUnder, entriesWhere, Table.select, List.filter_filter]
  congr 2
  refine List.filter_congr fun e he ↦ ?_
  rw [Bool.eq_iff_iff]
  simp only [Bool.and_eq_true, decide_eq_true_eq, Option.any_eq_true, List.mem_map, List.mem_filter,
    Prod.exists, exists_and_right, exists_eq_right]
  have hstored := Table.mem_rows.mp (show (e.1, e.2) ∈ db.paymentEntries.rows from he)
  have hcurrency : ∀ i, db.payments.lookup e.2.paymentId = some i → p e.2.paymentId i →
      e.2.currency = i.currency := by
    intro i hi hpi
    have hmem : (e.1, e.2) ∈ db.entriesOf e.2.paymentId :=
      Table.mem_select.mpr ⟨hstored, decide_eq_true rfl⟩
    exact (h _ (Table.mem_select.mpr ⟨hi, hpi⟩)).currency _ hmem
  constructor
  · rintro ⟨hc, i, hi, hpi⟩
    exact ⟨i, Table.mem_select.mpr ⟨hi, hpi⟩, (hcurrency i hi hpi).symm.trans hc⟩
  · rintro ⟨i, hmem, hc⟩
    obtain ⟨hi, hpi⟩ := Table.mem_select.mp hmem
    exact ⟨(hcurrency i hi hpi).trans hc, i, hi, hpi⟩

/-- Amounts less entries are what the invoices owe. -/
theorem groupValue_owed (h : AllSettled db p) :
    groupValue (groupAmounts db p) c - groupValue (groupEntries db p) c =
      (((db.payments.select p).filter fun e ↦ e.2.currency = c).map (owed db)).sum := by
  rw [groupAmounts, groupEntries, groupValue_groupSum, groupValue_groupSum, sumUnder_entries h,
    sumUnder]
  induction (db.payments.select p).filter fun e ↦ e.2.currency = c with
  | nil => simp
  | cons e l ih =>
    simp only [List.map_cons, List.sum_cons, owed] at ih ⊢
    rw [← ih]
    exact add_sub_add_comm _ _ _ _

theorem select_and (q : Payment → Bool) :
    db.payments.select (fun id i ↦ p id i && q i) =
      (db.payments.select p).filter fun e ↦ q e.2 := by
  simp only [Table.select, List.filter_filter]
  exact List.filter_congr fun e _ ↦ Bool.and_comm _ _

theorem isOpen_iff {i : Payment} :
    i.isOpen ↔ i.status ≠ .draft ∧ i.status ≠ .cancelled ∧ i.status ≠ .paid := by
  rw [Payment.isOpen, decide_eq_true_eq]
  cases i.status <;> simp

/-- What remains of an invoice is what it owes, if it is open, and else nothing. -/
theorem remaining_eq {e : Uuid × Payment} (h : SettledInvoice e.2 (db.entriesOf e.1)) :
    (invoiceBalance e.2 (db.entriesOf e.1)).remaining = if e.2.isOpen then owed db e else 0 := by
  have howed : 0 ≤ e.2.amount - paidAmount (db.entriesOf e.1) := sub_nonneg.mpr h.upper
  simp only [invoiceBalance, owed]
  by_cases hclosed : e.2.status = .cancelled ∨ e.2.status = .draft
  · rw [if_pos hclosed, if_neg]
    rw [isOpen_iff]
    rintro ⟨hdraft, hcancelled, -⟩
    exact hclosed.elim hcancelled hdraft
  · rw [if_neg hclosed, max_eq_right howed]
    rw [not_or] at hclosed
    split_ifs with hopen
    · rfl
    · have hpaid : e.2.status = .paid := by
        by_contra hnot
        exact hopen (isOpen_iff.mpr ⟨hclosed.2, hclosed.1, hnot⟩)
      rw [(h.paid hclosed.2 hclosed.1).mp hpaid, sub_self]

/-- The sums kept for a currency are those of its invoices. -/
theorem foldl_add (l : List (Payment × InvoiceBalance)) (b : CurrencyBalance) :
    l.foldl CurrencyBalance.add b =
      { total := b.total + ((l.filter fun i ↦ i.1.status ≠ .cancelled ∧ i.1.status ≠ .draft).map
          fun i ↦ i.2.total).sum
        paid := b.paid + (l.map fun i ↦ i.2.paid).sum
        remaining := b.remaining + (l.map fun i ↦ i.2.remaining).sum } := by
  induction l generalizing b with
  | nil => simp
  | cons i l ih =>
    rw [List.foldl_cons, ih, List.filter_cons]
    simp only [CurrencyBalance.add, List.map_cons, List.sum_cons, CurrencyBalance.mk.injEq]
    refine ⟨?_, add_assoc _ _ _, add_assoc _ _ _⟩
    by_cases hcounted : i.1.status ≠ .cancelled ∧ i.1.status ≠ .draft
    · rw [if_pos hcounted, if_pos (decide_eq_true hcounted), List.map_cons, List.sum_cons, add_assoc]
    · rw [if_neg hcounted, if_neg (by simpa using hcounted)]

end

/-! ## Agreement -/

section

variable {db : Database} {p : Uuid → Payment → Bool} {c : Currency}

/-- The invoices of a currency. -/
def invoicesOf (db : Database) (p : Uuid → Payment → Bool) (c : Currency) : List (Uuid × Payment) :=
  (db.payments.select p).filter fun e ↦ e.2.currency = c

/-- An invoice that counts for the total of `groupInvoiceBalances`. -/
def Payment.isCounted (i : Payment) : Bool := i.status ≠ .cancelled ∧ i.status ≠ .draft

theorem mem_invoicesOf {e : Uuid × Payment} :
    e ∈ invoicesOf db p c ↔ e ∈ db.payments.select p ∧ e.2.currency = c := by
  simp only [invoicesOf, List.mem_filter, decide_eq_true_eq]

/-- What `groupInvoiceBalances` reports of a currency. -/
theorem mem_groupInvoiceBalances (h : AllSettled db p) {b : CurrencyBalance} :
    (c, b) ∈ groupInvoiceBalances (readInvoiceBalances db p) ↔
      (∃ e ∈ db.payments.select p, e.2.currency = c) ∧
      b.total = (((invoicesOf db p c).filter fun e ↦ e.2.isCounted).map fun e ↦ e.2.amount).sum ∧
      b.paid = ((invoicesOf db p c).map fun e ↦ paidAmount (db.entriesOf e.1)).sum ∧
      b.remaining = (((invoicesOf db p c).filter fun e ↦ e.2.isOpen).map (owed db)).sum := by
  rw [groupInvoiceBalances, List.mem_mergeSort, Table.mem_rows, lookup_collect, foldl_add]
  have hread : ((readInvoiceBalances db p).filter fun i ↦ i.1.currency = c) =
      (invoicesOf db p c).map fun e ↦ (e.2, invoiceBalance e.2 (db.entriesOf e.1)) := by
    simp only [readInvoiceBalances, invoicesOf, List.filter_map]
    rfl
  have hsome : (∃ i ∈ readInvoiceBalances db p, i.1.currency = c) ↔
      ∃ e ∈ db.payments.select p, e.2.currency = c := by
    simp only [readInvoiceBalances, List.mem_map]
    constructor
    · rintro ⟨_, ⟨e, he, rfl⟩, hc⟩
      exact ⟨e, he, hc⟩
    · rintro ⟨e, he, hc⟩
      exact ⟨_, ⟨e, he, rfl⟩, hc⟩
  have hremaining : ((invoicesOf db p c).map fun e ↦
      (invoiceBalance e.2 (db.entriesOf e.1)).remaining).sum =
      (((invoicesOf db p c).filter fun e ↦ e.2.isOpen).map (owed db)).sum := by
    rw [sum_filter_of_zero (p := fun e ↦ e.2.isOpen)]
    · refine congrArg List.sum (List.map_congr_left fun e he ↦ ?_)
      obtain ⟨he, hopen⟩ := List.mem_filter.mp he
      rw [remaining_eq (h e (mem_invoicesOf.mp he).1), if_pos hopen]
    · intro e he hclosed
      rw [remaining_eq (h e (mem_invoicesOf.mp he).1), if_neg hclosed]
  simp only [hread, hsome, List.filter_map, List.map_map, Function.comp_def, zero_add]
  split_ifs with hany
  · simp only [Option.some.injEq, hany, true_and]
    constructor
    · rintro rfl
      exact ⟨rfl, rfl, hremaining⟩
    · rintro ⟨htotal, hpaid, howed⟩
      cases b
      simp only [CurrencyBalance.mk.injEq]
      exact ⟨htotal.symm, hpaid.symm, hremaining.trans howed.symm⟩
  · simp only [hany, false_and]

/-- What `aggregateInvoiceBalances` reports of a currency. -/
theorem mem_aggregateInvoiceBalances (h : AllSettled db p) {now : Time} {a : AggregateBalance}
    (ha : (c, a) ∈ aggregateInvoiceBalances db p now) :
    a.totalAmount = ((invoicesOf db p c).map fun e ↦ e.2.amount).sum ∧
    a.paidAmount = ((invoicesOf db p c).map fun e ↦ paidAmount (db.entriesOf e.1)).sum ∧
    a.openAmount = (((invoicesOf db p c).filter fun e ↦ e.2.isOpen).map (owed db)).sum ∧
    a.overdueAmount = ((((invoicesOf db p c).filter fun e ↦ e.2.isOpen).filter fun e ↦
      e.2.isOverdue now).map (owed db)).sum := by
  rw [aggregateInvoiceBalances, List.mem_mergeSort, List.mem_map] at ha
  obtain ⟨⟨c', total⟩, htotal, hrow⟩ := ha
  obtain ⟨rfl, rfl⟩ := Prod.mk.inj hrow
  have hopened := h.mono (q := fun id i ↦ p id i && i.isOpen) fun id i hi ↦
    (Bool.and_eq_true_iff.mp hi).1
  have hoverdue := hopened.mono (q := fun id i ↦ (p id i && i.isOpen) && i.isOverdue now)
    fun id i hi ↦ (Bool.and_eq_true_iff.mp hi).1
  refine ⟨(mem_groupSum.mp htotal).2, ?_, ?_, ?_⟩
  · show groupValue (groupEntries db p) c' = _
    rw [groupEntries, groupValue_groupSum, sumUnder_entries h]
    rfl
  · show groupValue _ c' - groupValue _ c' = _
    rw [groupValue_owed hopened, select_and, List.filter_comm]
    rfl
  · show groupValue _ c' - groupValue _ c' = _
    rw [groupValue_owed hoverdue, select_and (p := fun id i ↦ p id i && i.isOpen), select_and,
      List.filter_comm, List.filter_comm (l := db.payments.select p)]
    rfl

theorem exists_aggregate (now : Time) :
    (∃ a, (c, a) ∈ aggregateInvoiceBalances db p now) ↔
      ∃ e ∈ db.payments.select p, e.2.currency = c := by
  simp only [aggregateInvoiceBalances, List.mem_mergeSort, List.mem_map, Prod.mk.injEq]
  constructor
  · rintro ⟨a, ⟨c', total⟩, htotal, rfl, -⟩
    exact (mem_groupSum.mp htotal).1
  · intro hsome
    exact ⟨_, ⟨c, _⟩, mem_groupSum.mpr ⟨hsome, rfl⟩, rfl, rfl⟩

end

/-- The two sums say the same of every currency, and what is overdue is part of what is open. -/
structure BalancesAgree (db : Database) (p : Uuid → Payment → Bool) (now : Time) : Prop where
  currencies : ∀ c, (∃ b, (c, b) ∈ groupInvoiceBalances (readInvoiceBalances db p)) ↔
    ∃ a, (c, a) ∈ aggregateInvoiceBalances db p now
  sums : ∀ c b a, (c, b) ∈ groupInvoiceBalances (readInvoiceBalances db p) →
    (c, a) ∈ aggregateInvoiceBalances db p now →
    a.paidAmount = b.paid ∧ a.openAmount = b.remaining ∧ a.totalAmount = b.total
  overdue : ∀ c a, (c, a) ∈ aggregateInvoiceBalances db p now →
    0 ≤ a.overdueAmount ∧ a.overdueAmount ≤ a.openAmount

/-- Over invoices as the ledger keeps them the two sums agree exactly if no draft and no cancelled
invoice is for an amount; what is paid, open and overdue agrees in any case. -/
theorem balances_agree_iff {db : Database} {p : Uuid → Payment → Bool} (h : AllSettled db p)
    (now : Time) :
    BalancesAgree db p now ↔
      ∀ e ∈ db.payments.select p, e.2.status = .draft ∨ e.2.status = .cancelled → e.2.amount = 0 := by
  have hnonneg : ∀ e ∈ db.payments.select p, 0 ≤ e.2.amount := fun e he ↦
    (h e he).lower.trans (h e he).upper
  have howed : ∀ e ∈ db.payments.select p, 0 ≤ owed db e := fun e he ↦
    sub_nonneg.mpr (h e he).upper
  have hcurrencies : ∀ c, (∃ b, (c, b) ∈ groupInvoiceBalances (readInvoiceBalances db p)) ↔
      ∃ e ∈ db.payments.select p, e.2.currency = c := by
    intro c
    constructor
    · rintro ⟨b, hb⟩
      exact ((mem_groupInvoiceBalances h).mp hb).1
    · intro hsome
      exact ⟨⟨_, _, _⟩, (mem_groupInvoiceBalances h).mpr ⟨hsome, rfl, rfl, rfl⟩⟩
  constructor
  · rintro hagree ⟨id, i⟩ he hclosed
    have hsome : ∃ e ∈ db.payments.select p, e.2.currency = i.currency := ⟨_, he, rfl⟩
    obtain ⟨b, hb⟩ := (hcurrencies _).mpr hsome
    obtain ⟨a, ha⟩ := (exists_aggregate now).mpr hsome
    have htotal := (hagree.sums _ _ _ hb ha).2.2
    rw [((mem_groupInvoiceBalances h).mp hb).2.1, (mem_aggregateInvoiceBalances h ha).1] at htotal
    have hsplit := sum_filter_or (l := invoicesOf db p i.currency) (fun e ↦ e.2.amount)
      (p := fun e ↦ e.2.isCounted) (q := fun e ↦ !e.2.isCounted) fun e _ hcounted ↦ by simp [hcounted]
    have hall : ((invoicesOf db p i.currency).filter fun e ↦ e.2.isCounted || !e.2.isCounted) =
        invoicesOf db p i.currency := by
      rw [List.filter_eq_self]
      exact fun e _ ↦ Bool.or_not_self _
    rw [hall, htotal] at hsplit
    have hrest := left_eq_add.mp hsplit
    have hmem : (id, i) ∈ (invoicesOf db p i.currency).filter fun e ↦ !e.2.isCounted := by
      refine List.mem_filter.mpr ⟨mem_invoicesOf.mpr ⟨he, rfl⟩, ?_⟩
      rw [Bool.not_eq_true', Payment.isCounted, decide_eq_false_iff_not]
      exact fun hcounted ↦ hclosed.elim hcounted.2 hcounted.1
    have hle := List.single_le_sum (l := ((invoicesOf db p i.currency).filter fun e ↦
      !e.2.isCounted).map fun e ↦ e.2.amount) (by
        intro x hx
        obtain ⟨e, he, rfl⟩ := List.mem_map.mp hx
        exact hnonneg e (mem_invoicesOf.mp (List.mem_filter.mp he).1).1) _
      (List.mem_map_of_mem hmem)
    exact le_antisymm (hle.trans_eq hrest) (hnonneg _ he)
  · intro hzero
    refine ⟨fun c ↦ (hcurrencies c).trans (exists_aggregate now).symm, fun c b a hb ha ↦ ?_, fun c a ha ↦ ?_⟩
    · obtain ⟨-, htotal, hpaid, hremaining⟩ := (mem_groupInvoiceBalances h).mp hb
      obtain ⟨htotal', hpaid', hopen, -⟩ := mem_aggregateInvoiceBalances h ha
      refine ⟨hpaid'.trans hpaid.symm, hopen.trans hremaining.symm, ?_⟩
      rw [htotal, htotal']
      refine sum_filter_of_zero fun e he hclosed ↦ hzero e (mem_invoicesOf.mp he).1 ?_
      simp only [Payment.isCounted, decide_eq_true_eq, not_and_or, not_not] at hclosed
      exact hclosed.symm
    · obtain ⟨-, -, hopen, hoverdue⟩ := mem_aggregateInvoiceBalances h ha
      have hpositive : ∀ x ∈ ((invoicesOf db p c).filter fun e ↦ e.2.isOpen).map (owed db),
          0 ≤ x := by
        intro x hx
        obtain ⟨e, he, rfl⟩ := List.mem_map.mp hx
        exact howed e (mem_invoicesOf.mp (List.mem_filter.mp he).1).1
      have hpart := (List.filter_sublist (l := (invoicesOf db p c).filter fun e ↦ e.2.isOpen)
        (p := fun e ↦ e.2.isOverdue now)).map (owed db)
      rw [hopen, hoverdue]
      exact ⟨List.sum_nonneg fun x hx ↦ hpositive x (hpart.subset hx),
        hpart.sum_le_sum hpositive⟩

/-- A cancelled invoice over 1000, and an open one over 500. -/
def cancelledDatabase : Database where
  payments := ((∅ : Table Uuid Payment).insert "i" {
    clientId := "c", invoiceNumber := "INV-2026-0001", amount := 1000, currency := .egp
    status := .cancelled, issueDate := 0 }).insert "j" {
    clientId := "c", invoiceNumber := "INV-2026-0002", amount := 500, currency := .egp
    status := .pending, issueDate := 0 }

theorem cancelledDatabase_settled (p : Uuid → Payment → Bool) : AllSettled cancelledDatabase p := by
  rintro ⟨id, i⟩ he
  have hstored := (Table.mem_select.mp he).1
  have hentries : cancelledDatabase.entriesOf id = [] := rfl
  have hnone : paidAmount [] = 0 := rfl
  rw [cancelledDatabase, Table.lookup_insert, Table.lookup_insert] at hstored
  rw [hentries]
  have hcases : (i.status = .pending ∧ i.amount = 500) ∨ (i.status = .cancelled ∧ i.amount = 1000) := by
    split_ifs at hstored
    · cases hstored
      exact .inl ⟨rfl, rfl⟩
    · cases hstored
      exact .inr ⟨rfl, rfl⟩
    · cases hstored
  refine ⟨hnone.ge, ?_, fun e he ↦ absurd he List.not_mem_nil, ?_⟩
  · rw [hnone]
    rcases hcases with ⟨-, hamount⟩ | ⟨-, hamount⟩ <;> rw [hamount] <;> norm_num
  · rw [hnone]
    rcases hcases with ⟨hstatus, hamount⟩ | ⟨hstatus, hamount⟩ <;> rw [hstatus, hamount] <;>
      simp

/-- The queries count the cancelled invoice in the total, the loop does not. -/
theorem cancelled_counted_in_total :
    groupInvoiceBalances (readInvoiceBalances cancelledDatabase fun _ _ ↦ true) =
        [(.egp, ⟨500, 0, 500⟩)] ∧
      aggregateInvoiceBalances cancelledDatabase (fun _ _ ↦ true) 0 =
        [(.egp, ⟨2, 1500, 0, 500, 0⟩)] ∧
      ¬BalancesAgree cancelledDatabase (fun _ _ ↦ true) 0 := by
  have hgroup : groupInvoiceBalances (readInvoiceBalances cancelledDatabase fun _ _ ↦ true) =
      [(.egp, ⟨500, 0, 500⟩)] := by
    decide +kernel
  have haggregate : aggregateInvoiceBalances cancelledDatabase (fun _ _ ↦ true) 0 =
      [(.egp, ⟨2, 1500, 0, 500, 0⟩)] := by
    decide +kernel
  refine ⟨hgroup, haggregate, fun h ↦ ?_⟩
  have htotal := (h.sums .egp ⟨500, 0, 500⟩ ⟨2, 1500, 0, 500, 0⟩ (by rw [hgroup]; simp)
    (by rw [haggregate]; simp)).2.2
  norm_num at htotal

/-- Of the open invoice alone they say the same. -/
theorem balances_agree_iff_open :
    BalancesAgree cancelledDatabase (fun id _ ↦ id = "j") 0 := by
  refine (balances_agree_iff (cancelledDatabase_settled _) 0).mpr ?_
  rintro ⟨id, i⟩ he hclosed
  obtain ⟨hstored, hid⟩ := Table.mem_select.mp he
  obtain rfl : id = "j" := of_decide_eq_true hid
  rw [cancelledDatabase, AList.lookup_insert] at hstored
  cases hstored
  rcases hclosed with h | h <;> cases h

end KmtLegal
