import Mathlib.Data.Prod.Lex
import Mathlib.Order.BooleanAlgebra.Basic
import KmtLegal.Database
import KmtLegal.Js.Sort

/-!
# Consultation prices

`resolveConsultationPrice` of `pricing-service.ts`: the rules that apply are read newest first, and
of the first twenty the most specific one is the price.
-/

namespace KmtLegal

open Relational Js

/-- A row of `consultation_pricing_rules`. -/
structure ConsultationPricingRule where
  serviceCategory : Option String := none
  mode : Option ConsultationMode := none
  amount : Decimal
  currency : Currency := .egp
  active : Bool := true
  effectiveFrom : Time
  version : ℕ := 1
  label : Option String := none
  createdAt : Time
  deriving DecidableEq

/-- `ConsultationPriceSnapshot`. -/
structure ConsultationPriceSnapshot where
  amount : Decimal
  currency : Currency
  pricingRuleId : Uuid
  priceVersion : ℕ
  serviceCategory : String
  mode : ConsultationMode
  label : Option String
  deriving DecidableEq

namespace ConsultationPricingRule

/-- `ruleSpecificity(rule, serviceCategory, mode)`. -/
def ruleSpecificity (rule : ConsultationPricingRule) (serviceCategory : String)
    (mode : ConsultationMode) : ℤ :=
  let categoryScore := if rule.serviceCategory = some serviceCategory then 2
    else if rule.serviceCategory = none then 0 else -10
  let modeScore := if rule.mode = some mode then 1 else if rule.mode = none then 0 else -10
  categoryScore + modeScore

/-- The rule is active and effective, and is for the category and the mode or for any. -/
def applies (serviceCategory : String) (mode : ConsultationMode) (now : Time)
    (rule : ConsultationPricingRule) : Bool :=
  rule.active ∧ rule.effectiveFrom ≤ now ∧
    ((rule.serviceCategory = some serviceCategory ∧ rule.mode = some mode) ∨
      (rule.serviceCategory = some serviceCategory ∧ rule.mode = none) ∨
      (rule.serviceCategory = none ∧ rule.mode = some mode) ∨
      (rule.serviceCategory = none ∧ rule.mode = none))

/-- What the rules are ordered by. -/
def age (rule : ConsultationPricingRule) : ℤ ×ₗ ℕ ×ₗ ℤ :=
  toLex (rule.effectiveFrom, toLex (rule.version, rule.createdAt))

def snapshot (rule : ConsultationPricingRule) (id : Uuid) (serviceCategory : String)
    (mode : ConsultationMode) : ConsultationPriceSnapshot where
  amount := rule.amount
  currency := rule.currency
  pricingRuleId := id
  priceVersion := rule.version
  serviceCategory
  mode
  label := rule.label

end ConsultationPricingRule

/-- `orderBy: [{ effectiveFrom: "desc" }, { version: "desc" }, { createdAt: "desc" }]`. -/
def newestFirst (a b : Uuid × ConsultationPricingRule) : Prop := b.2.age ≤ a.2.age

instance : DecidableRel newestFirst := fun a b ↦ inferInstanceAs (Decidable (b.2.age ≤ a.2.age))

section

variable (rules : Table Uuid ConsultationPricingRule) (serviceCategory : String)
  (mode : ConsultationMode) (now : Time)

/-- The newest rules that apply, twenty at most. -/
def newestRules : List (Uuid × ConsultationPricingRule) :=
  rules.findMany (fun _ r ↦ r.applies serviceCategory mode now) newestFirst 20

/-- `resolveConsultationPrice({ serviceCategory, mode, now })`. -/
def resolveConsultationPrice : Except Failure ConsultationPriceSnapshot :=
  let serviceCategory := trim serviceCategory
  let sorted := (newestRules rules serviceCategory mode now).mergeSort fun left right ↦
    right.2.ruleSpecificity serviceCategory mode ≤ left.2.ruleSpecificity serviceCategory mode
  match sorted.head? with
  | some (id, rule) => .ok (rule.snapshot id serviceCategory mode)
  | none => .error (.conflict
      "Consultation booking fee is not configured. Please contact the office.")

/-! ## What a price is -/

/-- A rule for a category comes before one for a mode. -/
def ConsultationPricingRule.specificity (rule : ConsultationPricingRule) : Bool ×ₗ Bool :=
  toLex (rule.serviceCategory.isSome, rule.mode.isSome)

/-- A rule that applies, none that applies is more specific, and of those as specific it is the
newest. -/
structure BestRule (id : Uuid) (rule : ConsultationPricingRule) : Prop where
  stored : rules.lookup id = some rule
  applies : rule.applies serviceCategory mode now
  specific : ∀ id' rule', rules.lookup id' = some rule' → rule'.applies serviceCategory mode now →
    rule'.specificity ≤ rule.specificity
  newest : ∀ id' rule', rules.lookup id' = some rule' → rule'.applies serviceCategory mode now →
    rule'.specificity = rule.specificity → rule'.age ≤ rule.age

/-- The price is that of the best rule, and there is one if a rule applies. -/
def PriceIsBest : Prop :=
  match resolveConsultationPrice rules serviceCategory mode now with
  | .ok price => ∃ id rule, BestRule rules (trim serviceCategory) mode now id rule ∧
      price = rule.snapshot id (trim serviceCategory) mode
  | .error _ => ∀ id rule, rules.lookup id = some rule →
      ¬rule.applies (trim serviceCategory) mode now

/-- One of the twenty newest rules that apply is as specific as any that applies. -/
def SpecificIsNew : Prop :=
  (∃ id rule, rules.lookup id = some rule ∧ rule.applies serviceCategory mode now) →
    ∃ e ∈ newestRules rules serviceCategory mode now, ∀ id rule, rules.lookup id = some rule →
      rule.applies serviceCategory mode now → rule.specificity ≤ e.2.specificity

end

/-! ## Sorting -/

section

variable {rules : Table Uuid ConsultationPricingRule} {serviceCategory : String}
  {mode : ConsultationMode} {now : Time}

/-- The score orders the rules that apply by what they name. -/
theorem ruleSpecificity_le_iff {r r' : ConsultationPricingRule}
    (h : r.applies serviceCategory mode now) (h' : r'.applies serviceCategory mode now) :
    r.ruleSpecificity serviceCategory mode ≤ r'.ruleSpecificity serviceCategory mode ↔
      r.specificity ≤ r'.specificity := by
  have hscore : ∀ r : ConsultationPricingRule, r.applies serviceCategory mode now →
      r.ruleSpecificity serviceCategory mode =
        (if r.serviceCategory.isSome then 2 else 0) + if r.mode.isSome then 1 else 0 := by
    intro r h
    simp only [ConsultationPricingRule.applies, decide_eq_true_eq] at h
    rcases h.2.2 with ⟨hc, hm⟩ | ⟨hc, hm⟩ | ⟨hc, hm⟩ | ⟨hc, hm⟩ <;>
      simp [ConsultationPricingRule.ruleSpecificity, hc, hm]
  rw [hscore r h, hscore r' h', ConsultationPricingRule.specificity,
    ConsultationPricingRule.specificity]
  cases r.serviceCategory.isSome <;> cases r.mode.isSome <;> cases r'.serviceCategory.isSome <;>
    cases r'.mode.isSome <;> decide

theorem mem_newestRules {id : Uuid} {rule : ConsultationPricingRule}
    (h : (id, rule) ∈ newestRules rules serviceCategory mode now) :
    rules.lookup id = some rule ∧ rule.applies serviceCategory mode now :=
  Table.mem_findMany h

instance : Std.Total newestFirst := ⟨fun a b ↦ le_total b.2.age a.2.age⟩

instance : IsTrans (Uuid × ConsultationPricingRule) newestFirst :=
  ⟨fun _ _ _ hab hbc ↦ le_trans hbc hab⟩

theorem pairwise_newestRules : (newestRules rules serviceCategory mode now).Pairwise newestFirst :=
  (List.pairwise_insertionSort newestFirst _).sublist (List.take_sublist 20 _)

theorem nodup_newestRules : (newestRules rules serviceCategory mode now).Nodup := by
  have hrows : rules.rows.Nodup := by
    refine List.Nodup.map ?_ rules.nodupKeys.nodup
    rintro ⟨id, rule⟩ ⟨id', rule'⟩ heq
    cases heq
    rfl
  exact ((List.perm_insertionSort newestFirst _).nodup_iff.mpr (hrows.filter _)).sublist
    (List.take_sublist 20 _)

/-- A rule that applies and is not among the newest is no newer than any of them. -/
theorem age_le_of_newest {e : Uuid × ConsultationPricingRule}
    (he : e ∈ newestRules rules serviceCategory mode now) {id : Uuid}
    {rule : ConsultationPricingRule} (hrule : rules.lookup id = some rule)
    (happlies : rule.applies serviceCategory mode now) :
    (id, rule) ∈ newestRules rules serviceCategory mode now ∨ rule.age ≤ e.2.age := by
  let ordered := (rules.select fun _ r ↦ r.applies serviceCategory mode now).insertionSort newestFirst
  have hmem : (id, rule) ∈ ordered.take 20 ++ ordered.drop 20 := by
    rw [List.take_append_drop]
    exact (List.mem_insertionSort newestFirst).mpr (Table.mem_select.mpr ⟨hrule, happlies⟩)
  have hordered : (ordered.take 20 ++ ordered.drop 20).Pairwise newestFirst := by
    rw [List.take_append_drop]
    exact List.pairwise_insertionSort newestFirst _
  rcases List.mem_append.mp hmem with hnew | hold
  · exact .inl hnew
  · exact .inr ((List.pairwise_append.mp hordered).2.2 e he (id, rule) hold)

/-! ## The rule that is chosen -/

/-- The most specific of the newest rules, and of those the newest. -/
structure Chosen (rules : Table Uuid ConsultationPricingRule) (serviceCategory : String)
    (mode : ConsultationMode) (now : Time) (e : Uuid × ConsultationPricingRule) : Prop where
  mem : e ∈ newestRules rules serviceCategory mode now
  specific : ∀ e' ∈ newestRules rules serviceCategory mode now,
    e'.2.specificity ≤ e.2.specificity
  newest : ∀ e' ∈ newestRules rules serviceCategory mode now,
    e'.2.specificity = e.2.specificity → e'.2.age ≤ e.2.age

theorem chosen_of_head {e : Uuid × ConsultationPricingRule}
    (h : ((newestRules rules serviceCategory mode now).mergeSort fun left right ↦
      decide (right.2.ruleSpecificity serviceCategory mode ≤
        left.2.ruleSpecificity serviceCategory mode)).head? = some e) :
    Chosen rules serviceCategory mode now e := by
  obtain ⟨hmem, hfirst⟩ := head?_mergeSort
    (fun a b c hab hbc ↦ decide_eq_true ((of_decide_eq_true hbc).trans (of_decide_eq_true hab)))
    (fun a b ↦ by simpa using le_total _ _) nodup_newestRules pairwise_newestRules h
  have happlies : ∀ e ∈ newestRules rules serviceCategory mode now,
      e.2.applies serviceCategory mode now := fun e he ↦ (mem_newestRules he).2
  refine ⟨hmem, fun e' he' ↦ ?_, fun e' he' hsame ↦ ?_⟩
  · exact (ruleSpecificity_le_iff (happlies e' he') (happlies e hmem)).mp
      (of_decide_eq_true (hfirst e' he').1)
  · by_cases hne : e' = e
    · rw [hne]
    · exact (hfirst e' he').2 (decide_eq_true ((ruleSpecificity_le_iff (happlies e hmem)
        (happlies e' he')).mpr hsame.ge)) hne

/-- A price is that of the chosen rule; there is none if no rule applies. -/
theorem resolveConsultationPrice_cases (rules : Table Uuid ConsultationPricingRule)
    (serviceCategory : String) (mode : ConsultationMode) (now : Time) :
    (∃ e, resolveConsultationPrice rules serviceCategory mode now =
        .ok (e.2.snapshot e.1 (trim serviceCategory) mode) ∧
        Chosen rules (trim serviceCategory) mode now e) ∨
      ((∃ f, resolveConsultationPrice rules serviceCategory mode now = .error f) ∧
        ∀ id rule, rules.lookup id = some rule → ¬rule.applies (trim serviceCategory) mode now) := by
  unfold resolveConsultationPrice
  simp only
  split
  · rename_i id rule hhead
    exact .inl ⟨(id, rule), rfl, chosen_of_head hhead⟩
  · rename_i hnone
    refine .inr ⟨⟨_, rfl⟩, ?_⟩
    have hnil : newestRules rules (trim serviceCategory) mode now = [] := by
      rw [List.head?_eq_none_iff] at hnone
      rw [← List.length_eq_zero_iff, ← List.length_mergeSort, hnone, List.length_nil]
    exact (Table.findMany_eq_nil (by decide)).mp hnil

end

/-- The price is that of the best rule exactly if a most specific rule is among the twenty newest
that apply. -/
theorem price_is_best_iff (rules : Table Uuid ConsultationPricingRule) (serviceCategory : String)
    (mode : ConsultationMode) (now : Time) : PriceIsBest rules serviceCategory mode now ↔
      SpecificIsNew rules (trim serviceCategory) mode now := by
  obtain ⟨⟨id, rule⟩, hprice, hchosen⟩ | ⟨⟨f, hprice⟩, hnone⟩ :=
    resolveConsultationPrice_cases rules serviceCategory mode now
  · obtain ⟨hstored, happlies⟩ := mem_newestRules hchosen.mem
    unfold PriceIsBest
    rw [hprice]
    constructor
    · rintro ⟨id', rule', hbest, heq⟩ -
      -- the price names its rule
      obtain rfl : id = id' := congrArg ConsultationPriceSnapshot.pricingRuleId heq
      obtain rfl := Option.some.inj (hstored.symm.trans hbest.stored)
      exact ⟨(id, rule), hchosen.mem, hbest.specific⟩
    · intro hnew
      obtain ⟨e, he, hspecific⟩ := hnew ⟨id, rule, hstored, happlies⟩
      refine ⟨id, rule, ⟨hstored, happlies, ?_, ?_⟩, rfl⟩
      · exact fun id' rule' hstored' happlies' ↦
          (hspecific id' rule' hstored' happlies').trans (hchosen.specific e he)
      · intro id' rule' hstored' happlies' hsame
        rcases age_le_of_newest hchosen.mem hstored' happlies' with hmem | hage
        · exact hchosen.newest (id', rule') hmem hsame
        · exact hage
  · unfold PriceIsBest
    rw [hprice]
    exact ⟨fun _ ⟨id, rule, hstored, happlies⟩ ↦ absurd happlies (hnone id rule hstored),
      fun _ ↦ hnone⟩

/-- A rule for family matters, and twenty later ones for every category. -/
def crowdedRules : Table Uuid ConsultationPricingRule :=
  (List.range 20).foldl
    (fun rules n ↦ rules.insert (toString n) { amount := 500, effectiveFrom := 100 + n, createdAt := 0 })
    (AList.singleton "family"
      { serviceCategory := some "family", amount := 750, effectiveFrom := 50, createdAt := 0 })

/-- The rule for family matters is not among the first twenty. -/
theorem specific_rule_cut : ¬∀ (rules : Table Uuid ConsultationPricingRule)
    (serviceCategory : String) (mode : ConsultationMode) (now : Time),
    PriceIsBest rules serviceCategory mode now := by
  intro h
  have hgeneral : ∀ e ∈ newestRules crowdedRules (trim "family") .office 1000,
      e.2.serviceCategory = none := by
    decide +kernel
  have hstored : crowdedRules.lookup "family" =
      some { serviceCategory := some "family", amount := 750, effectiveFrom := 50, createdAt := 0 } := by
    decide +kernel
  obtain ⟨e, he, hspecific⟩ := (price_is_best_iff crowdedRules "family" .office 1000).mp
    (h crowdedRules "family" .office 1000) ⟨"family", _, hstored, by decide +kernel⟩
  have hle := hspecific "family" _ hstored (by decide +kernel)
  rw [ConsultationPricingRule.specificity, ConsultationPricingRule.specificity, hgeneral e he] at hle
  rcases Prod.Lex.toLex_le_toLex.mp hle with hlt | ⟨heq, -⟩
  · exact absurd (show true < false from hlt) (by decide)
  · cases heq

end KmtLegal
