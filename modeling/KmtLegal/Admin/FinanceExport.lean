import KmtLegal.Auth.Policy
import KmtLegal.Formats.Csv
import KmtLegal.Payments.Ledger
import KmtLegal.Platform

/-!
# The finance export

`exportAdminPaymentsCsv` writes the selected payments as comma separated values, one record each under
a header.  Client names, case titles, methods and receipts are free texts; whatever is in them, a reader
of the file has the cells again.
-/

namespace KmtLegal

open Relational

/-! ## The file -/

def PaymentStatus.text : PaymentStatus → String
  | draft => "DRAFT"
  | issued => "ISSUED"
  | pending => "PENDING"
  | paid => "PAID"
  | overdue => "OVERDUE"
  | cancelled => "CANCELLED"

/-- A payment as the export selects it. -/
structure ExportedPayment where
  row : Payment
  createdAt : Time
  /-- `client.fullName`. -/
  clientFullName : String
  /-- `internalFileNumber` and `title` of the case. -/
  case_ : Option (String × String)
  entries : List (Uuid × PaymentEntry)

/-- `text.replace(/"/g, '""')`. -/
def doubleQuotes (text : String) : String := String.ofList (Csv.doubleQuotes text.toList)

/-- `csvCell(value)` of a text. -/
def csvCell (text : String) : String :=
  if text.toList.any Csv.isSpecial then "\x22" ++ doubleQuotes text ++ "\x22" else text

/-- The first row. -/
def paymentsCsvHeader : List String :=
  ["invoiceNumber", "client", "case", "issueDate", "dueDate", "amount", "currency", "status",
    "paymentMethod", "receiptNumber", "paidAt", "createdAt", "netPaid", "remaining",
    "reviewRequired"]

section

variable (P : Platform) (decimalText : Decimal → String)

/-- The row of a payment; `decimalText` is `toString` of a decimal. -/
def paymentCsvRow (payment : ExportedPayment) : List String :=
  let balance := invoiceBalance payment.row payment.entries
  let isoDate (date : Option Time) := (date.map P.isoString).getD ""
  [payment.row.invoiceNumber, payment.clientFullName,
    match payment.case_ with
    | some (internalFileNumber, title) => internalFileNumber ++ " - " ++ title
    | none => "",
    P.isoString payment.row.issueDate, isoDate payment.row.dueDate, decimalText payment.row.amount,
    payment.row.currency.text, payment.row.status.text, payment.row.paymentMethod.getD "",
    payment.row.receiptNumber.getD "", isoDate payment.row.paidAt, P.isoString payment.createdAt,
    decimalText balance.paid, decimalText balance.remaining, toString balance.reviewRequired]

/-- All rows of the export. -/
def paymentsCsvRows (items : List ExportedPayment) : List (List String) :=
  paymentsCsvHeader :: items.map (paymentCsvRow P decimalText)

/-- `rows.map((row) => row.map(csvCell).join(",")).join("\n")`. -/
def csvContent (rows : List (List String)) : String :=
  "\n".intercalate (rows.map fun row ↦ ",".intercalate (row.map csvCell))

/-- What `exportAdminPaymentsCsv` returns. -/
structure CsvExport where
  filename : String
  content : String
  count : ℕ

/-- `exportAdminPaymentsCsv({ actor, query })` for the payments its query selects. -/
def exportAdminPaymentsCsv (actor : Principal) (items : List ExportedPayment) (now : Time) :
    Except Failure CsvExport := do
  throwIf (¬(hasPermission actor "finance.read.any" ∨ hasPermission actor "finance.manage.any"))
    (.permissionDenied "Finance read permission is required.")
  return {
    filename := "kmt-finance-" ++ String.ofList ((P.isoString now).toList.take 10) ++ ".csv"
    content := csvContent (paymentsCsvRows P decimalText items)
    count := items.length }

end

/-! ## Reading it -/

/-- A reader of the file. -/
def parseCsv (content : String) : Option (List (List String)) :=
  (Csv.parse content.toList).map (List.map (List.map String.ofList))

/-- A cell is written in one of the two ways of the format. -/
theorem cellText_csvCell (text : String) : Csv.CellText text.toList (csvCell text).toList := by
  unfold csvCell
  split_ifs with hspecial
  · have hquoted : ("\x22" ++ doubleQuotes text ++ "\x22").toList =
        '\x22' :: (Csv.doubleQuotes text.toList ++ ['\x22']) := by
      simp [doubleQuotes]
    rw [hquoted]
    exact .quoted
  · rw [Bool.not_eq_true, List.any_eq_false] at hspecial
    exact .plain hspecial

example : csvCell "A \x22B\x22, C" = "\x22A \x22\x22B\x22\x22, C\x22" := by decide +kernel

/-- `csvCell` of a list of characters. -/
def csvCellChars (cell : List Char) : List Char := (csvCell (String.ofList cell)).toList

theorem csvContent_toList (rows : List (List String)) :
    (csvContent rows).toList =
      Csv.tableText csvCellChars (rows.map (List.map String.toList)) := by
  have hrow (row : List String) : (",".intercalate (row.map csvCell)).toList =
      Csv.rowText csvCellChars (row.map String.toList) := by
    rw [String.toList_intercalate, Csv.rowText, List.map_map, List.map_map]
    simp [csvCellChars, Function.comp_def]
  rw [csvContent, String.toList_intercalate, Csv.tableText, List.map_map, List.map_map]
  simp [hrow, Function.comp_def]

/-- What is written is read, cell by cell. -/
theorem parseCsv_csvContent {rows : List (List String)} (hrows : rows ≠ [])
    (hcells : ∀ row ∈ rows, row ≠ []) : parseCsv (csvContent rows) = some rows := by
  have hwritten (cell : List Char) : Csv.CellText cell (csvCellChars cell) := by
    have hcell := cellText_csvCell (String.ofList cell)
    rwa [String.toList_ofList] at hcell
  have hparse : Csv.parse (csvContent rows).toList = some (rows.map (List.map String.toList)) := by
    rw [csvContent_toList]
    refine Csv.parse_tableText hwritten ?_ ?_
    · simpa using hrows
    · simpa using hcells
  rw [parseCsv, hparse, Option.map_some, List.map_map]
  simp [Function.comp_def]

theorem length_paymentCsvRow (P : Platform) (decimalText : Decimal → String)
    (payment : ExportedPayment) : (paymentCsvRow P decimalText payment).length = 15 := rfl

/-- The exported file is read back as the rows of 15 cells that were written, and no two tables are
written alike. -/
theorem finance_export_lossless (P : Platform) (decimalText : Decimal → String) :
    (∀ actor items now file, exportAdminPaymentsCsv P decimalText actor items now = .ok file →
      parseCsv file.content =
        some (paymentsCsvRows P decimalText items)) ∧
    (∀ items, ∀ row ∈ paymentsCsvRows P decimalText items, row.length = 15) ∧
    ∀ rows rows', rows ≠ [] → rows' ≠ [] → (∀ row ∈ rows, row ≠ []) → (∀ row ∈ rows', row ≠ []) →
      csvContent rows = csvContent rows' → rows = rows' := by
  have hlength (items : List ExportedPayment) :
      ∀ row ∈ paymentsCsvRows P decimalText items, row.length = 15 := by
    refine List.forall_mem_cons.mpr ⟨rfl, fun row hrow ↦ ?_⟩
    obtain ⟨payment, -, rfl⟩ := List.mem_map.mp hrow
    exact length_paymentCsvRow P decimalText payment
  refine ⟨fun actor items now file hfile ↦ ?_, hlength, ?_⟩
  · simp only [exportAdminPaymentsCsv, bind_eq_ok, pure_eq_ok] at hfile
    obtain ⟨_, _, rfl⟩ := hfile
    refine parseCsv_csvContent (List.cons_ne_nil _ _) fun row hrow hnil ↦ ?_
    have hcells := hlength items row hrow
    rw [hnil] at hcells
    cases hcells
  · intro rows rows' hrows hrows' hcells hcells' hcontent
    have hread := parseCsv_csvContent hrows hcells
    rw [hcontent, parseCsv_csvContent hrows' hcells', Option.some.injEq] at hread
    exact hread.symm

end KmtLegal
