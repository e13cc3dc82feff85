import KmtLegal.Admin.Invoices

/-!
# Generated invoice numbers

A new invoice number is one more than the largest of its year.  The sequence numbers of the office
have as many digits as they like, but the code computes with doubles, and it knows the numbers of
years of four digits only.
-/

namespace KmtLegal

open Relational Js

/-- `INV-` with a year, as it is written. -/
def invoicePrefix (year : ℤ) : List Char := "INV-".toList ++ (toString year).toList ++ ['-']

theorem invoicePrefix_append (year : ℤ) (l : List Char) :
    invoicePrefix year ++ l = 'I' :: 'N' :: 'V' :: '-' :: ((toString year).toList ++ '-' :: l) :=
  congrArg ("INV-".toList ++ ·) (List.append_assoc (toString year).toList ['-'] l)

/-- The sequence of an invoice number of the year, whatever it is. -/
def sequenceOf (year : ℤ) (invoiceNumber : String) : Option ℕ :=
  let digits := invoiceNumber.toList.drop (invoicePrefix year).length
  if (invoicePrefix year).isPrefixOf invoiceNumber.toList ∧ isDigits digits then
    some (digitsValue digits)
  else none

/-- The largest sequence of a year. -/
def largestSequence (year : ℤ) (invoiceNumbers : List String) : ℕ :=
  (invoiceNumbers.filterMap (sequenceOf year)).foldl max 0

/-- A number that is new: it is not there, and it is an invoice number of the year with at least
four digits whose sequence exceeds all others. -/
structure FreshNumber (year : ℤ) (invoiceNumbers : List String) (invoiceNumber : String) : Prop where
  new : invoiceNumber ∉ invoiceNumbers
  form : ∃ digits, isDigits digits ∧ 4 ≤ digits.length ∧
    invoiceNumber.toList = invoicePrefix year ++ digits ∧
    ∀ n ∈ invoiceNumbers.filterMap (sequenceOf year), n < digitsValue digits

/-- The year is written with four digits. -/
def HasFourDigits (year : ℤ) : Prop := 1000 ≤ year ∧ year ≤ 9999

instance (year : ℤ) : Decidable (HasFourDigits year) := inferInstanceAs (Decidable (_ ∧ _))

/-! ## Texts -/

theorem length_year {year : ℤ} (h : 1 ≤ year) :
    (toString year).toList.length = 4 ↔ HasFourDigits year := by
  obtain ⟨n, rfl⟩ := Int.eq_ofNat_of_zero_le (show 0 ≤ year by omega)
  have hle := @Nat.length_repr_le_iff n 4 (by decide)
  have hle' := @Nat.length_repr_le_iff n 3 (by decide)
  show (Nat.repr n).length = 4 ↔ _
  simp only [HasFourDigits]
  omega

theorem isDigits_year {year : ℤ} (h : 1 ≤ year) : isDigits (toString year).toList := by
  obtain ⟨n, rfl⟩ := Int.eq_ofNat_of_zero_le (show 0 ≤ year by omega)
  show isDigits (Nat.repr n).toList
  rw [Nat.toList_repr]
  exact isDigits_toDigits n

theorem sequenceOf_eq_some {year : ℤ} {s : String} {n : ℕ} :
    sequenceOf year s = some n ↔
      ∃ digits, isDigits digits ∧ s.toList = invoicePrefix year ++ digits ∧ n = digitsValue digits := by
  simp only [sequenceOf]
  constructor
  · intro h
    split_ifs at h with hmatch
    cases h
    refine ⟨_, hmatch.2, ?_, rfl⟩
    exact (List.prefix_iff_eq_append.mp (List.isPrefixOf_iff_prefix.mp hmatch.1)).symm
  · rintro ⟨digits, hdigits, hs, rfl⟩
    rw [hs, List.drop_left, if_pos]
    exact ⟨List.isPrefixOf_iff_prefix.mpr (List.prefix_append _ _), hdigits⟩

/-- The code reads the numbers of a year of four digits, as doubles. -/
theorem invoiceSequence_eq {year : ℤ} (h : HasFourDigits year) (s : String) :
    invoiceSequence year s = (sequenceOf year s).bind fun n ↦
      if Nat.log 2 (roundDouble n) < 1024 then some (roundDouble n) else none := by
  have hyear : (toString year).toList.length = 4 := (length_year (by have := h.1; omega)).mpr h
  have hdigits := isDigits_year (show 1 ≤ year by have := h.1; omega)
  cases hsequence : sequenceOf year s with
  | some n =>
    obtain ⟨digits, hall, hs, rfl⟩ := sequenceOf_eq_some.mp hsequence
    have hsplit : s.toList = 'I' :: 'N' :: 'V' :: '-' :: ((toString year).toList ++ '-' :: digits) := by
      rw [hs, invoicePrefix_append]
    have hrest : s.toList.drop 4 = (toString year).toList ++ '-' :: digits := by rw [hsplit]; rfl
    have hdrop : ((toString year).toList ++ '-' :: digits).drop 4 = '-' :: digits := by
      rw [← hyear, List.drop_left]
    have htake : ((toString year).toList ++ '-' :: digits).take 4 = (toString year).toList := by
      rw [← hyear, List.take_left]
    have hstart : startsWith s "INV-" := by
      rw [startsWith, hsplit]
      rfl
    simp only [invoiceSequence, hrest, hdrop, htake, Option.bind_some]
    rw [if_pos ⟨hstart, hdigits, String.ofList_toList, hall⟩]
    rfl
  | none =>
    rw [Option.bind_none]
    cases hcode : invoiceSequence year s with
    | none => rfl
    | some m =>
      exfalso
      simp only [invoiceSequence] at hcode
      split at hcode
      · rename_i digits hdrop
        split_ifs at hcode with hmatch
        obtain ⟨hstart, -, htake, hall⟩ := hmatch
        have hprefix := List.prefix_iff_eq_append.mp (List.isPrefixOf_iff_prefix.mp hstart)
        have hs : s.toList = invoicePrefix year ++ digits := by
          have hmiddle : s.toList.drop 4 = (toString year).toList ++ '-' :: digits := by
            rw [← hdrop, ← htake, String.toList_ofList, List.take_append_drop]
          have hfour : "INV-".toList.length = 4 := rfl
          rw [← hprefix, hfour, hmiddle, invoicePrefix_append]
          rfl
        rw [sequenceOf_eq_some.mpr ⟨digits, hall, hs, rfl⟩] at hsequence
        cases hsequence
      · cases hcode

/-- It reads none of any other year. -/
theorem invoiceSequence_eq_none {year : ℤ} (hpos : 1 ≤ year) (h : ¬HasFourDigits year) (s : String) :
    invoiceSequence year s = none := by
  cases hcode : invoiceSequence year s with
  | none => rfl
  | some m =>
    exfalso
    simp only [invoiceSequence] at hcode
    split at hcode
    · rename_i digits hdrop
      split_ifs at hcode with hmatch
      obtain ⟨-, -, htake, -⟩ := hmatch
      apply h
      rw [← length_year hpos, ← htake, String.toList_ofList, List.length_take]
      have hlength := congrArg List.length hdrop
      simp only [List.length_drop, List.length_cons] at hlength ⊢
      omega
    · cases hcode

/-! ## The largest sequence -/

theorem foldl_max_mem (l : List ℕ) (a : ℕ) : l.foldl max a = a ∨ l.foldl max a ∈ l := by
  induction l generalizing a with
  | nil => exact .inl rfl
  | cons b l ih =>
    rw [List.foldl_cons]
    rcases ih (max a b) with h | h
    · rw [h]
      rcases max_choice a b with hmax | hmax
      · exact .inl hmax
      · rw [hmax]
        exact .inr List.mem_cons_self
    · exact .inr (List.mem_cons_of_mem _ h)

theorem le_foldl_max (l : List ℕ) (a : ℕ) : a ≤ l.foldl max a ∧ ∀ n ∈ l, n ≤ l.foldl max a := by
  induction l generalizing a with
  | nil => exact ⟨le_rfl, fun n hn ↦ absurd hn List.not_mem_nil⟩
  | cons b l ih =>
    rw [List.foldl_cons]
    obtain ⟨hstart, hrest⟩ := ih (max a b)
    refine ⟨(le_max_left a b).trans hstart, fun n hn ↦ ?_⟩
    rcases List.mem_cons.mp hn with rfl | hn
    · exact (le_max_right a n).trans hstart
    · exact hrest n hn

/-- Rounding does not change which sequence is the largest. -/
theorem maxSequence_eq {year : ℤ} (h : HasFourDigits year) {invoiceNumbers : List String}
    (hlarge : largestSequence year invoiceNumbers < 2 ^ 54) :
    (invoiceNumbers.filterMap (invoiceSequence year)).foldl max 0 =
      roundDouble (largestSequence year invoiceNumbers) := by
  have hbound := le_foldl_max (invoiceNumbers.filterMap (sequenceOf year)) 0
  have hlist : invoiceNumbers.filterMap (invoiceSequence year) =
      (invoiceNumbers.filterMap (sequenceOf year)).map roundDouble := by
    rw [List.map_filterMap]
    refine List.filterMap_congr fun s hs ↦ ?_
    rw [invoiceSequence_eq h]
    cases hsequence : sequenceOf year s with
    | none => rfl
    | some n =>
      have hn : n ≤ largestSequence year invoiceNumbers :=
        hbound.2 n (List.mem_filterMap.mpr ⟨s, hs, hsequence⟩)
      simp only [Option.bind_some, Option.map_some]
      rw [if_pos (log_roundDouble (by omega))]
  rw [hlist]
  have hmap : ∀ (l : List ℕ) (a : ℕ), a < 2 ^ 54 → (∀ n ∈ l, n < 2 ^ 54) →
      (l.map roundDouble).foldl max (roundDouble a) = roundDouble (l.foldl max a) := by
    intro l
    induction l with
    | nil => exact fun a _ _ ↦ rfl
    | cons n l ih =>
      intro a ha hl
      have hn := hl n List.mem_cons_self
      rw [List.map_cons, List.foldl_cons, List.foldl_cons,
        ← ih (max a n) (max_lt ha hn) fun m hm ↦ hl m (List.mem_cons_of_mem _ hm)]
      congr 1
      rcases le_total a n with hle | hle
      · rw [max_eq_right hle, max_eq_right (roundDouble_mono hle hn)]
      · rw [max_eq_left hle, max_eq_left (roundDouble_mono hle ha)]
  exact hmap _ 0 (by norm_num) fun n hn ↦ (hbound.2 n hn).trans_lt hlarge

theorem maxSequence_eq_zero {year : ℤ} (hpos : 1 ≤ year) (h : ¬HasFourDigits year)
    (invoiceNumbers : List String) :
    (invoiceNumbers.filterMap (invoiceSequence year)).foldl max 0 = 0 := by
  have hnil : invoiceNumbers.filterMap (invoiceSequence year) = [] :=
    List.filterMap_eq_nil_iff.mpr fun s _ ↦ invoiceSequence_eq_none hpos h s
  rw [hnil]
  rfl

/-! ## Formatting -/

theorem digitsValue_leftpad (n : ℕ) (l : List Char) :
    digitsValue (l.leftpad n '0') = digitsValue l := by
  have hzeros : ∀ k, (List.replicate k '0').foldl
      (fun n c ↦ 10 * n + (c.toNat - '0'.toNat)) 0 = 0 := by
    intro k
    induction k with
    | zero => rfl
    | succ k ih =>
      rw [List.replicate_succ, List.foldl_cons]
      exact ih
  rw [digitsValue, List.leftpad, List.foldl_append, hzeros]
  rfl

/-- A sequence up to `2 ^ 54` is written with at least four digits, which say what it is. -/
theorem formatAdminInvoiceNumber_eq {year : ℤ} {sequence : ℕ} (hyear : 1 ≤ year)
    (hpos : 1 ≤ sequence) (hle : sequence ≤ 2 ^ 54) :
    ∃ digits invoiceNumber, formatAdminInvoiceNumber year sequence = .ok invoiceNumber ∧
      invoiceNumber.toList = invoicePrefix year ++ digits ∧ isDigits digits ∧ 4 ≤ digits.length ∧
      digitsValue digits = sequence := by
  refine ⟨(toString sequence).toList.leftpad 4 '0',
    "INV-" ++ toString year ++ "-" ++ padStart (wholeText sequence) 4, ?_, ?_, ?_, ?_, ?_⟩
  · rw [formatAdminInvoiceNumber, if_neg (by omega), if_neg (by omega)]
  · rw [wholeText, if_pos hle, invoicePrefix_append]
    simp [padStart]
  · have hdigits : isDigits (toString sequence).toList := Nat.toList_repr ▸ isDigits_toDigits sequence
    obtain ⟨hne, hall⟩ := of_decide_eq_true hdigits
    refine decide_eq_true ⟨?_, ?_⟩
    · simp only [List.leftpad, ne_eq, List.append_eq_nil_iff, not_and]
      exact fun _ ↦ hne
    · rw [List.leftpad, List.all_append, hall, Bool.and_true, List.all_eq_true]
      intro c hc
      rw [List.eq_of_mem_replicate hc]
      rfl
  · rw [List.length_leftpad]
    exact le_max_left _ _
  · rw [digitsValue_leftpad]
    show digitsValue (Nat.repr sequence).toList = sequence
    rw [Nat.toList_repr, digitsValue_toDigits]

/-- A number is new if its sequence is larger than the largest. -/
theorem freshNumber_iff {year : ℤ} (invoiceNumbers : List String) {invoiceNumber : String}
    {digits : List Char} (hdigits : isDigits digits) (hlength : 4 ≤ digits.length)
    (hform : invoiceNumber.toList = invoicePrefix year ++ digits) (hpos : 1 ≤ digitsValue digits) :
    FreshNumber year invoiceNumbers invoiceNumber ↔
      largestSequence year invoiceNumbers < digitsValue digits := by
  obtain ⟨-, hbound⟩ := le_foldl_max (invoiceNumbers.filterMap (sequenceOf year)) 0
  constructor
  · rintro ⟨-, digits', -, -, hform', hall⟩
    obtain rfl : digits = digits' := List.append_cancel_left (hform.symm.trans hform')
    rcases foldl_max_mem (invoiceNumbers.filterMap (sequenceOf year)) 0 with h | h
    · rw [largestSequence, h]
      exact hpos
    · exact hall _ h
  · intro hlarger
    have hall : ∀ n ∈ invoiceNumbers.filterMap (sequenceOf year), n < digitsValue digits :=
      fun n hn ↦ (hbound n hn).trans_lt hlarger
    refine ⟨fun hmem ↦ ?_, digits, hdigits, hlength, hform, hall⟩
    have hsequence := sequenceOf_eq_some.mpr ⟨digits, hdigits, hform, rfl⟩
    exact absurd (hall _ (List.mem_filterMap.mpr ⟨_, hmem, hsequence⟩)) (lt_irrefl _)

/-- As long as the largest sequence is below `2 ^ 54`, the number generated for a year of four digits
is new exactly if that sequence is below `2 ^ 53` or is rounded up, and for any other year exactly
if there is no sequence but 0. -/
theorem generated_number_fresh_iff {year : ℤ} (hyear : 1 ≤ year) (invoiceNumbers : List String)
    (hlarge : HasFourDigits year → largestSequence year invoiceNumbers < 2 ^ 54) :
    (∃ invoiceNumber, nextAdminInvoiceNumberFromExisting year invoiceNumbers = .ok invoiceNumber ∧
      FreshNumber year invoiceNumbers invoiceNumber) ↔
    if HasFourDigits year then
      largestSequence year invoiceNumbers < 2 ^ 53 ∨ largestSequence year invoiceNumbers % 4 = 2 ∨
        largestSequence year invoiceNumbers % 4 = 3
    else largestSequence year invoiceNumbers = 0 := by
  have hnext : ∀ sequence, 1 ≤ sequence → sequence ≤ 2 ^ 54 →
      nextAdminInvoiceNumberFromExisting year invoiceNumbers =
        formatAdminInvoiceNumber year sequence →
      ((∃ invoiceNumber, nextAdminInvoiceNumberFromExisting year invoiceNumbers = .ok invoiceNumber ∧
        FreshNumber year invoiceNumbers invoiceNumber) ↔
      largestSequence year invoiceNumbers < sequence) := by
    intro sequence hpos hle hsequence
    obtain ⟨digits, invoiceNumber, hformat, hform, hdigits, hlength, hvalue⟩ :=
      formatAdminInvoiceNumber_eq hyear hpos hle
    have hfresh := freshNumber_iff invoiceNumbers hdigits hlength hform
      (hvalue.symm ▸ hpos)
    rw [hvalue] at hfresh
    rw [hsequence, hformat, ← hfresh]
    constructor
    · rintro ⟨_, hok, h⟩
      cases hok
      exact h
    · exact fun h ↦ ⟨_, rfl, h⟩
  split_ifs with hfour
  · have hmax := maxSequence_eq hfour (hlarge hfour)
    have hround := roundDouble_le (hlarge hfour)
    rw [← lt_add_one_rounded_iff (hlarge hfour)]
    refine hnext _ (one_le_roundDouble (by omega)) (roundDouble_add_one_le hround) ?_
    rw [nextAdminInvoiceNumberFromExisting]
    simp only [hmax]
  · have hmax := maxSequence_eq_zero hyear hfour invoiceNumbers
    rw [hnext 1 le_rfl (by norm_num) (by
      rw [nextAdminInvoiceNumberFromExisting]
      simp only [hmax]
      rfl)]
    exact Nat.lt_one_iff

/-- With the number `2 ^ 53` in the list the same number is generated again, for ever; in the year
10000 the first number is. -/
theorem generated_number_taken :
    nextAdminInvoiceNumberFromExisting 2026 ["INV-2026-9007199254740992"] =
        .ok "INV-2026-9007199254740992" ∧
      nextAdminInvoiceNumberFromExisting 10000 ["INV-10000-0001"] = .ok "INV-10000-0001" ∧
      ¬∃ invoiceNumber, nextAdminInvoiceNumberFromExisting 2026 ["INV-2026-9007199254740992"] =
        .ok invoiceNumber ∧ FreshNumber 2026 ["INV-2026-9007199254740992"] invoiceNumber := by
  have hsame : nextAdminInvoiceNumberFromExisting 2026 ["INV-2026-9007199254740992"] =
      .ok "INV-2026-9007199254740992" := by
    decide +kernel
  refine ⟨hsame, by decide +kernel, ?_⟩
  rintro ⟨invoiceNumber, hok, hfresh⟩
  rw [hsame] at hok
  cases hok
  exact hfresh.new List.mem_cons_self

theorem generated_number_fresh_iff_ninth : ∃ invoiceNumber,
    nextAdminInvoiceNumberFromExisting 2026 ["INV-2026-0009", "A-7"] = .ok invoiceNumber ∧
      FreshNumber 2026 ["INV-2026-0009", "A-7"] invoiceNumber := by
  have hlargest : largestSequence 2026 ["INV-2026-0009", "A-7"] = 9 := by decide +kernel
  refine (generated_number_fresh_iff (by decide) _ fun _ ↦ by rw [hlargest]; norm_num).mpr ?_
  rw [if_pos (by decide), hlargest]
  exact .inl (by norm_num)

end KmtLegal
