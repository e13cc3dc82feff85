import KmtLegal.Payments.Isolation
import KmtLegal.Payments.SignedFields
import KmtLegal.Payments.Webhook
import Mathlib.Tactic.Linarith
import Mathlib.Tactic.NormNum
import Mathlib.Tactic.Positivity
import Mathlib.Tactic.Ring

/-!
# Minor units

Paymob is sent an amount as a whole number of minor units and reports it back as one.
`decimalAmountToMinorUnits` and `centsToAmountText` convert texts by hand; between them an amount with
two decimals comes back as it was, and no other number of minor units passes for it.
-/

namespace KmtLegal

open Relational Js

/-! ## Texts of digits -/

theorem digitsValue_concat (l : List Char) (c : Char) :
    digitsValue (l ++ [c]) = 10 * digitsValue l + (c.toNat - '0'.toNat) := by
  simp [digitsValue]

theorem isSpace_of_isDigit {c : Char} (h : isDigit c) : isSpace c = false := by
  have hbound := of_decide_eq_true h
  have hle : c.toNat ≤ 57 := hbound.2
  have hge : 48 ≤ c.toNat := hbound.1
  simp only [isSpace, decide_eq_false_iff_not, List.mem_cons, List.not_mem_nil, or_false]
  omega

/-- Nothing is trimmed from a text without spaces. -/
theorem trim_of_noSpace {s : String} (h : ∀ c ∈ s.toList, isSpace c = false) : trim s = s := by
  have hall (l : List Char) (hl : ∀ c ∈ l, isSpace c = false) : l.dropWhile isSpace = l := by
    cases l with
    | nil => rfl
    | cons c l => rw [List.dropWhile_cons, hl c List.mem_cons_self, if_neg Bool.false_ne_true]
  have hback : s.toList.rdropWhile isSpace = s.toList := by
    rw [List.rdropWhile, hall _ fun c hc ↦ h c (List.mem_reverse.mp hc), List.reverse_reverse]
  rw [trim, hall _ h, hback, String.ofList_toList]

theorem parseInt_of_isDigits {s : String} (h : isDigits s.toList) :
    parseInt s = some (digitsValue s.toList : ℤ) := by
  obtain ⟨hne, hall⟩ := of_decide_eq_true h
  have hdigit := List.all_eq_true.mp hall
  obtain ⟨c, l, hs⟩ := List.exists_cons_of_ne_nil hne
  rw [hs] at hdigit
  have hc : isDigit c := hdigit c List.mem_cons_self
  have hspace : (c :: l).dropWhile isSpace = c :: l := by
    rw [List.dropWhile_cons, isSpace_of_isDigit hc, if_neg Bool.false_ne_true]
  have htake : (c :: l).takeWhile isDigit = c :: l := List.takeWhile_eq_self_iff.mpr hdigit
  have hminus : c ≠ '-' := by
    rintro rfl
    exact absurd hc (by decide)
  have hplus : c ≠ '+' := by
    rintro rfl
    exact absurd hc (by decide)
  simp only [parseInt, hs, hspace]
  split
  · rename_i heq
    exact absurd (List.cons.inj heq).1 hminus
  · rename_i heq
    exact absurd (List.cons.inj heq).1 hplus
  · simp only [htake, List.cons_ne_nil, if_false, one_mul]

/-! ## Money texts -/

/-- The digits of a money text. -/
structure MoneyDigits where
  whole : List Char
  fraction : List Char
  isDigits_whole : isDigits whole
  isDigit_fraction : ∀ c ∈ fraction, isDigit c
  length_fraction : fraction.length ≤ 2

namespace MoneyDigits

variable (money : MoneyDigits)

/-- The text: a fraction without digits is left out with its point. -/
def text : List Char :=
  if money.fraction = [] then money.whole else money.whole ++ '.' :: money.fraction

def value : Decimal := mkRat (digitsValue (money.whole ++ money.fraction)) (10 ^ money.fraction.length)

theorem isDigit_whole : ∀ c ∈ money.whole, isDigit c :=
  List.all_eq_true.mp (of_decide_eq_true money.isDigits_whole).2

theorem point_not_mem_whole : '.' ∉ money.whole := fun h ↦
  absurd (money.isDigit_whole '.' h) (by decide)

theorem point_not_mem_fraction : '.' ∉ money.fraction := fun h ↦
  absurd (money.isDigit_fraction '.' h) (by decide)

theorem takeWhile_text : money.text.takeWhile isDigit = money.whole := by
  rw [text]
  split_ifs with hfraction
  · exact List.takeWhile_eq_self_iff.mpr money.isDigit_whole
  · rw [List.takeWhile_append_of_pos money.isDigit_whole, List.takeWhile_cons_of_neg (by decide),
      List.append_nil]

theorem dropWhile_text : money.text.dropWhile isDigit =
    if money.fraction = [] then [] else '.' :: money.fraction := by
  rw [text]
  split_ifs with hfraction
  · exact List.dropWhile_eq_nil_iff.mpr money.isDigit_whole
  · rw [List.dropWhile_append_of_pos money.isDigit_whole, List.dropWhile_cons_of_neg (by decide)]

theorem isDigits_fraction (h : money.fraction ≠ []) : isDigits money.fraction :=
  decide_eq_true ⟨h, List.all_eq_true.mpr money.isDigit_fraction⟩

/-- The text of digits is a money text. -/
theorem isMoneyText_text {s : String} (h : s.toList = money.text) : isMoneyText s := by
  simp only [isMoneyText, h, takeWhile_text, dropWhile_text]
  split_ifs with hfraction
  · exact money.isDigits_whole
  · exact decide_eq_true
      ⟨money.isDigits_whole, rfl, money.isDigits_fraction hfraction, money.length_fraction⟩

theorem plainDecimal_text {s : String} (h : s.toList = money.text) :
    plainDecimal s = .finite money.value := by
  simp only [plainDecimal, h, takeWhile_text, dropWhile_text]
  by_cases hfraction : money.fraction = []
  · simp only [if_pos hfraction]
    rw [if_pos money.isDigits_whole, value, hfraction]
    simp [Rat.mkRat_one]
  · simp only [if_neg hfraction]
    rw [if_pos ⟨money.isDigits_whole, trivial, money.isDigits_fraction hfraction⟩, value]

/-- Every money text is one of digits. -/
theorem exists_of_isMoneyText {s : String} (h : isMoneyText s) :
    ∃ money : MoneyDigits, s.toList = money.text := by
  have hsplit := List.takeWhile_append_dropWhile (p := isDigit) (l := s.toList)
  simp only [isMoneyText] at h
  split at h
  · rename_i hdrop
    rw [hdrop, List.append_nil] at hsplit
    exact ⟨⟨s.toList.takeWhile isDigit, [], h, (fun _ hc ↦ nomatch hc), by decide⟩, hsplit.symm⟩
  · rename_i c fraction hdrop
    obtain ⟨hwhole, rfl, hfraction, hlength⟩ := of_decide_eq_true h
    obtain ⟨hne, hall⟩ := of_decide_eq_true hfraction
    refine ⟨⟨s.toList.takeWhile isDigit, fraction, hwhole, List.all_eq_true.mp hall, hlength⟩, ?_⟩
    rw [text, if_neg hne, ← hdrop, hsplit]

end MoneyDigits

/-! ## To minor units -/

/-- `decimalAmountToMinorUnits(amount)`; `none` is `NaN`. -/
def decimalAmountToMinorUnits (amount : String) : Option ℤ :=
  let parts := split amount '.'
  let whole := parts.head?.getD "0"
  let fraction := (parts.drop 1).head?.getD ""
  let cents := sliceTo (fraction ++ "00") 2
  parseInt (orElse (String.ofList (whole.toList.filter isDigit)) "0" ++ cents)

namespace MoneyDigits

variable (money : MoneyDigits)

/-- The digits of the cents. -/
def cents : List Char := (money.fraction ++ ['0', '0']).take 2

/-- The number of minor units. -/
def minorUnits : ℕ := digitsValue (money.whole ++ money.cents)

/-- The cents are the fraction, filled up with zeros. -/
theorem digitsValue_cents : money.minorUnits * 10 ^ money.fraction.length =
    100 * digitsValue (money.whole ++ money.fraction) := by
  obtain ⟨whole, fraction, hwhole, hdigits, hlength⟩ := money
  rcases fraction with _ | ⟨c, _ | ⟨d, _ | ⟨e, fraction⟩⟩⟩
  · simp only [minorUnits, cents, digitsValue, List.nil_append, List.append_nil, List.take,
      List.foldl_append, List.foldl_cons, List.foldl_nil, List.length_nil]
    omega
  · simp only [minorUnits, cents, digitsValue, List.cons_append, List.nil_append, List.take,
      List.foldl_append, List.foldl_cons, List.foldl_nil, List.length_cons, List.length_nil]
    omega
  · simp only [minorUnits, cents, digitsValue, List.cons_append, List.nil_append, List.take,
      List.foldl_append, List.foldl_cons, List.foldl_nil, List.length_cons, List.length_nil]
    omega
  · simp at hlength

theorem minorUnits_eq : (money.minorUnits : Decimal) = 100 * money.value := by
  have hcents : (money.minorUnits : ℚ) * 10 ^ money.fraction.length =
      100 * digitsValue (money.whole ++ money.fraction) := by
    exact_mod_cast money.digitsValue_cents
  rw [value, Rat.mkRat_eq_div, mul_div_assoc']
  push_cast
  exact eq_div_of_mul_eq (by positivity) hcents

theorem split_text {s : String} (h : s.toList = money.text) :
    split s '.' = String.ofList money.whole ::
      if money.fraction = [] then [] else [String.ofList money.fraction] := by
  have hsplit : money.text.splitOn '.' =
      money.whole :: if money.fraction = [] then [] else [money.fraction] := by
    rw [text]
    split_ifs with hfraction
    · have hone : (['.'].intercalate [money.whole]).splitOn '.' = [money.whole] :=
        List.splitOn_intercalate '.' (by simpa using money.point_not_mem_whole) (by simp)
      rwa [List.intercalate_singleton] at hone
    · have htwo : (['.'].intercalate [money.whole, money.fraction]).splitOn '.' =
          [money.whole, money.fraction] :=
        List.splitOn_intercalate '.'
          (by simpa using ⟨money.point_not_mem_whole, money.point_not_mem_fraction⟩) (by simp)
      rwa [List.intercalate_cons_cons, List.intercalate_singleton, List.append_assoc] at htwo
  rw [split, h, hsplit]
  split_ifs <;> rfl

theorem decimalAmountToMinorUnits_eq {s : String} (h : s.toList = money.text) :
    decimalAmountToMinorUnits s = some (money.minorUnits : ℤ) := by
  have hfilter : money.whole.filter isDigit = money.whole :=
    List.filter_eq_self.mpr money.isDigit_whole
  have hwhole : String.ofList money.whole ≠ "" := by
    intro hempty
    have hnil := congrArg String.toList hempty
    rw [String.toList_ofList] at hnil
    exact (of_decide_eq_true money.isDigits_whole).1 hnil
  have hfraction : (((split s '.').drop 1).head?.getD "").toList = money.fraction := by
    rw [money.split_text h]
    split_ifs with hnil
    · rw [hnil]
      rfl
    · exact String.toList_ofList
  have hdigits : (orElse (String.ofList money.whole) "0" ++
      sliceTo (((split s '.').drop 1).head?.getD "" ++ "00") 2).toList =
      money.whole ++ money.cents := by
    rw [orElse, if_neg hwhole, sliceTo, String.toList_append, String.toList_append, hfraction,
      String.toList_ofList, String.toList_ofList]
    rfl
  have hall : isDigits (money.whole ++ money.cents) := by
    refine decide_eq_true ⟨?_, List.all_eq_true.mpr fun c hc ↦ ?_⟩
    · exact fun hnil ↦ (of_decide_eq_true money.isDigits_whole).1 (List.append_eq_nil_iff.mp hnil).1
    · obtain hc | hc := List.mem_append.mp hc
      · exact money.isDigit_whole c hc
      · obtain hc | hc := List.mem_append.mp (List.mem_of_mem_take hc)
        · exact money.isDigit_fraction c hc
        · obtain rfl : c = '0' := by simpa using hc
          rfl
  have hhead : (split s '.').head?.getD "0" = String.ofList money.whole := by
    rw [money.split_text h]
    rfl
  rw [decimalAmountToMinorUnits, hhead, String.toList_ofList, hfilter, minorUnits, ← hdigits]
  rw [← hdigits] at hall
  exact parseInt_of_isDigits hall

end MoneyDigits

/-! ## From minor units -/

theorem isDigit_digitChar {n : ℕ} (h : n < 10) : isDigit (Nat.digitChar n) := by
  have hdigits := isDigits_toDigits n
  rw [Nat.toDigits_of_lt_base h] at hdigits
  exact List.all_eq_true.mp (of_decide_eq_true hdigits).2 _ List.mem_cons_self

/-- The digits of a number of cents. -/
def centsDigits (n : ℕ) : MoneyDigits where
  whole := Nat.toDigits 10 (n / 100)
  fraction := [Nat.digitChar (n / 10 % 10), Nat.digitChar (n % 10)]
  isDigits_whole := isDigits_toDigits _
  isDigit_fraction := List.forall_mem_cons.mpr ⟨isDigit_digitChar (Nat.mod_lt _ (by decide)),
    List.forall_mem_cons.mpr ⟨isDigit_digitChar (Nat.mod_lt _ (by decide)), fun _ h ↦ nomatch h⟩⟩
  length_fraction := le_rfl

theorem centsText_toList {P : Platform} {n : ℕ} (h : n < exactCentsBound) :
    (centsText P n).toList = (centsDigits n).text := by
  have hdigit (k : ℕ) : (toString (k % 10)).toList = [Nat.digitChar (k % 10)] := by
    rw [← Nat.toDigits_of_lt_base (Nat.mod_lt k (by decide : 0 < 10)), ← Nat.toList_repr]
    rfl
  have hwhole : (toString (n / 100)).toList = Nat.toDigits 10 (n / 100) := by
    rw [← Nat.toList_repr]
    rfl
  rw [centsText, if_pos h, String.toList_append, String.toList_append, String.toList_append, hwhole,
    hdigit, hdigit]
  simp [MoneyDigits.text, centsDigits]

theorem centsDigits_value (n : ℕ) : (centsDigits n).value = n / 100 := by
  have hdigit (k : ℕ) : (Nat.digitChar (k % 10)).toNat - '0'.toNat = k % 10 :=
    Nat.toNat_digitChar_sub_48_of_lt_ten (Nat.mod_lt k (by decide))
  have hvalue : digitsValue ((centsDigits n).whole ++ (centsDigits n).fraction) = n := by
    have hconcat : (centsDigits n).whole ++ (centsDigits n).fraction =
        (Nat.toDigits 10 (n / 100) ++ [Nat.digitChar (n / 10 % 10)]) ++ [Nat.digitChar (n % 10)] := by
      simp [centsDigits]
    rw [hconcat, digitsValue_concat, digitsValue_concat, digitsValue_toDigits, hdigit, hdigit]
    omega
  rw [MoneyDigits.value, hvalue, Rat.mkRat_eq_div]
  norm_num [centsDigits]

/-! ## There and back -/

/-- What is relied on of `new Prisma.Decimal` and of `toFixed`: a plain decimal is read as it is
written, and a number of cents too large to be exact is not written as an amount in range. -/
structure ReadsMoney (P : Platform) : Prop where
  plain : ∀ s, isMoneyText s → P.decimal s = plainDecimal s
  large : ∀ n, exactCentsBound ≤ n → ∀ value, P.decimal (trim (P.largeCentsText n)) = .finite value →
    9999999999.99 < value

/-- The text of `amount_cents` for a number of minor units: its digits, or from 10²¹ on the text with
an exponent `String` gives a number. -/
inductive ReportsMinorUnits (P : Platform) : String → ℕ → Prop
  | digits {t : String} (h : isDigits t.toList) : ReportsMinorUnits P t (digitsValue t.toList)
  | exponent {t : String} {n : ℕ} (hlarge : 10 ^ 21 ≤ n) (htext : ¬isDigits t.toList)
      (hvalue : P.decimal (trim t) = .finite n) : ReportsMinorUnits P t n

section

variable {P : Platform} {payload : NormalizedWebhookPayload} {attempt : PaymentAttempt}

theorem MoneyDigits.trim_text (money : MoneyDigits) {s : String} (h : s.toList = money.text) :
    trim s = s := by
  refine trim_of_noSpace fun c hc ↦ ?_
  rw [h, MoneyDigits.text] at hc
  split_ifs at hc
  · exact isSpace_of_isDigit (money.isDigit_whole c hc)
  · obtain hc | hc := List.mem_append.mp hc
    · exact isSpace_of_isDigit (money.isDigit_whole c hc)
    · obtain rfl | hc := List.mem_cons.mp hc
      · decide
      · exact isSpace_of_isDigit (money.isDigit_fraction c hc)

/-- The amount of a payload that reports an exact number of cents. -/
theorem decimal_centsText (hP : ReadsMoney P) {n : ℕ} (h : n < exactCentsBound) :
    trim (centsText P n) = centsText P n ∧ isMoneyText (centsText P n) ∧
      P.decimal (centsText P n) = .finite (n / 100) := by
  have htext := centsText_toList (P := P) h
  have hmoney := (centsDigits n).isMoneyText_text htext
  refine ⟨(centsDigits n).trim_text htext, hmoney, ?_⟩
  rw [hP.plain _ hmoney, (centsDigits n).plainDecimal_text htext, centsDigits_value]

theorem Currency.text_ne_empty (currency : Currency) : currency.text ≠ "" := by
  cases currency <;> decide

/-- With the right currency a payload is compared by its amount. -/
theorem paidWebhookPayloadProblem_of_ne
    (hcurrency : toUpperCase (trim payload.currency) = attempt.currency.text)
    (hamount : P.decimal (trim payload.amount) ≠ .finite attempt.amount) :
    ∃ problem, paidWebhookPayloadProblem P payload attempt = some problem ∧
      problem.code = "PAYMENT_AMOUNT_MISMATCH" := by
  have hne := attempt.currency.text_ne_empty
  simp only [paidWebhookPayloadProblem, hcurrency, hne, ne_eq, not_true_eq_false, or_self, if_false]
  split_ifs
  · exact ⟨_, rfl, rfl⟩
  · cases hdecimal : P.decimal (trim payload.amount) with
    | throws => exact ⟨_, rfl, rfl⟩
    | notFinite => exact ⟨_, rfl, rfl⟩
    | finite value =>
      rw [hdecimal] at hamount
      simp only [if_neg hamount]
      exact ⟨_, rfl, rfl⟩

/-- The very number of minor units of an amount reports the amount. -/
theorem reported_of_eq (hP : ReadsMoney P) {n : ℕ} (hn : n < exactCentsBound)
    (hamount : payload.amount = centsText P n) (hvalue : attempt.amount = n / 100)
    (hmax : attempt.amount ≤ 9999999999.99)
    (hcurrency : toUpperCase (trim payload.currency) = attempt.currency.text) :
    providerReportedMoney P payload = .ok (some (attempt.amount, attempt.currency)) ∧
      paidWebhookPayloadProblem P payload attempt = none := by
  obtain ⟨htrim, hmoney, hdecimal⟩ := decimal_centsText hP hn
  rw [← hvalue] at hdecimal
  have hnonneg : 0 ≤ attempt.amount := by
    rw [hvalue]
    positivity
  have hne : centsText P n ≠ "" := by
    intro hempty
    rw [hempty] at hmoney
    exact absurd hmoney (by decide)
  constructor
  · simp only [providerReportedMoney, hcurrency, Currency.ofText_text, hamount, htrim, hmoney, if_true,
      hdecimal, if_pos (And.intro hnonneg hmax)]
  · simp only [paidWebhookPayloadProblem, hcurrency, attempt.currency.text_ne_empty, hamount, htrim,
      hne, hdecimal, ne_eq, not_true_eq_false, or_self, if_false, if_true]

/-- Another number of minor units does not. -/
theorem decimal_ne_of_ne (hP : ReadsMoney P) {t : String} {m n : ℕ} (hreports : ReportsMinorUnits P t m)
    (hne : m ≠ n) {a : Decimal} (hvalue : a = n / 100) (hmax : a ≤ 9999999999.99) :
    P.decimal (trim (centsToAmountText P t)) ≠ .finite a := by
  cases hreports with
  | digits h =>
    rw [centsToAmountText, if_pos h]
    by_cases hsmall : digitsValue t.toList < exactCentsBound
    · obtain ⟨htrim, -, hdecimal⟩ := decimal_centsText hP hsmall
      rw [htrim, hdecimal, hvalue]
      intro heq
      rw [DecimalResult.finite.injEq, div_left_inj' (by norm_num)] at heq
      exact hne (by exact_mod_cast heq)
    · rw [centsText, if_neg hsmall]
      exact fun heq ↦ absurd (hP.large _ (not_lt.mp hsmall) a heq) (not_lt.mpr hmax)
  | exponent hlarge htext hdecimal =>
    rw [centsToAmountText, if_neg htext, hdecimal]
    intro heq
    rw [DecimalResult.finite.injEq] at heq
    have hm : (10 : Decimal) ^ 21 ≤ m := by exact_mod_cast hlarge
    rw [heq] at hm
    norm_num at hm hmax
    linarith

end

/-- Paymob is sent a hundred times the amount; a callback that reports that number reports the amount
and has no problem, and one that reports another number has another amount. -/
theorem minor_units_round_trip (P : Platform) (hP : ReadsMoney P) (s : String) (a : Decimal)
    (hs : isMoneyText s) (hvalue : P.decimal s = .finite a) (hmax : a ≤ 9999999999.99) :
    ∃ n : ℕ, decimalAmountToMinorUnits s = some (n : ℤ) ∧ (n : Decimal) = 100 * a ∧
      ∀ body p attempt, normalizeProviderWebhookPayload P body .paymob = .ok p →
        attempt.amount = a → toUpperCase (trim p.currency) = attempt.currency.text →
        ∀ t m, text (prop (paymobWebhookObject body) "amount_cents") = .ok t →
          ReportsMinorUnits P t m →
          (m = n → providerReportedMoney P p = .ok (some (a, attempt.currency)) ∧
            paidWebhookPayloadProblem P p attempt = none) ∧
          (m ≠ n → ∃ problem, paidWebhookPayloadProblem P p attempt = some problem ∧
            problem.code = "PAYMENT_AMOUNT_MISMATCH") := by
  obtain ⟨money, hmoney⟩ := MoneyDigits.exists_of_isMoneyText hs
  obtain rfl : money.value = a := by
    rw [hP.plain s hs, money.plainDecimal_text hmoney, DecimalResult.finite.injEq] at hvalue
    exact hvalue
  have hunits := money.minorUnits_eq
  refine ⟨money.minorUnits, money.decimalAmountToMinorUnits_eq hmoney, hunits, ?_⟩
  intro body p attempt hp hamount hcurrency t m ht hreports
  obtain ⟨_, _, cents, _, -, -, -, hcents, -, -, -, -, hpamount, -⟩ := normalizePaymob_eq_ok hp
  rw [canonicalText_amountCents, ht, Except.ok.injEq] at hcents
  subst hcents
  have hcentsValue : money.value = money.minorUnits / 100 := by
    rw [hunits]
    ring
  have hbound : money.minorUnits < exactCentsBound := by
    have hreal : (money.minorUnits : Decimal) < exactCentsBound := by
      rw [hunits, exactCentsBound]
      norm_num at hmax ⊢
      linarith
    exact_mod_cast hreal
  constructor
  · intro heq
    cases hreports with
    | digits hdigits =>
      rw [centsToAmountText, if_pos hdigits, heq] at hpamount
      rw [← hamount] at hcentsValue hmax ⊢
      exact reported_of_eq hP hbound hpamount hcentsValue hmax hcurrency
    | exponent hlarge =>
      rw [heq] at hlarge
      exact absurd (hlarge.trans hbound.le) (by decide)
  · intro hne
    refine paidWebhookPayloadProblem_of_ne hcurrency ?_
    rw [hpamount, hamount]
    exact decimal_ne_of_ne hP hreports hne hcentsValue hmax

/-- 750.50 in its shorter form, and the callback about it. -/
theorem minor_units_round_trip_sample :
    ∃ n : ℕ, decimalAmountToMinorUnits "750.5" = some (n : ℤ) ∧ (n : Decimal) = 100 * mkRat 7505 10 ∧
      ∃ p, normalizeProviderWebhookPayload plainPlatform
          (paymobCallback "75050" "2026-03-01T10:00:00.000000") .paymob = .ok p ∧
        providerReportedMoney plainPlatform p = .ok (some (mkRat 7505 10, .egp)) := by
  have hplain (s : String) : plainPlatform.decimal s = plainDecimal s := rfl
  have hlarge (n : ℕ) : plainPlatform.largeCentsText n = "" := rfl
  have hempty : plainDecimal (trim "") = .throws := by decide +kernel
  have hP : ReadsMoney plainPlatform := {
    plain := fun s _ ↦ hplain s
    large := fun n _ value h ↦ by
      rw [hplain, hlarge, hempty] at h
      exact nomatch h }
  obtain ⟨n, hn, hvalue, hcallback⟩ := minor_units_round_trip plainPlatform hP "750.5" (mkRat 7505 10)
    (by decide +kernel) (by decide +kernel) (by norm_num [Rat.mkRat_eq_div])
  have hn' : decimalAmountToMinorUnits "750.5" = some 75050 := by decide +kernel
  have hm : (75050 : ℕ) = n := by
    rw [hn, Option.some.injEq] at hn'
    exact_mod_cast hn'.symm
  obtain ⟨p, hp, hcurrency, hcents⟩ : ∃ p, normalizeProviderWebhookPayload plainPlatform
      (paymobCallback "75050" "2026-03-01T10:00:00.000000") .paymob = .ok p ∧
      toUpperCase (trim p.currency) = "EGP" ∧ text (prop (paymobWebhookObject
        (paymobCallback "75050" "2026-03-01T10:00:00.000000")) "amount_cents") = .ok "75050" :=
    ⟨_, rfl, by decide +kernel, rfl⟩
  have hattempt := hcallback _ p
    { provider := "paymob", status := .pending, clientId := "c", consultationRequestId := "r"
      appointmentId := "p", amount := mkRat 7505 10, currency := .egp, startsAt := 0, endsAt := 0
      expiresAt := 0, idempotencyKey := "k" } hp rfl hcurrency "75050" 75050 hcents
    (.digits (by decide +kernel))
  exact ⟨n, hn, hvalue, p, hp, (hattempt.1 hm).1⟩

end KmtLegal
