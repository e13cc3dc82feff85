import Mathlib.Algebra.Order.Ring.Rat
import KmtLegal.Js.Stringify

/-!
# Formation drafts

`business-formation.ts`: what an interview about a new company collects, and the review of it that
needs no assistant.
-/

namespace KmtLegal

open Js

/-! ## Drafts -/

inductive ExistingBusiness where
  | new | existing | unsure
  deriving DecidableEq

def ExistingBusiness.text : ExistingBusiness → String
  | new => "NEW"
  | existing => "EXISTING"
  | unsure => "UNSURE"

inductive Regulated where
  | yes | no | unsure
  deriving DecidableEq

def Regulated.text : Regulated → String
  | yes => "YES"
  | no => "NO"
  | unsure => "UNSURE"

structure FormationFounder where
  name : String := ""
  nationality : String := ""
  /-- A percentage. -/
  ownership : Option Js.Number := none
  deriving DecidableEq

/-- What `formationDraftSchema` accepts; the defaults are those of the schema. -/
structure FormationDraft where
  activity : String := ""
  existingBusiness : ExistingBusiness := .unsure
  founders : List FormationFounder := []
  capital : String := ""
  management : String := ""
  location : String := ""
  timing : String := ""
  regulated : Regulated := .unsure
  notes : String := ""
  deriving DecidableEq

/-! ## The text of a draft

The schema puts the fields into its own order, so that drafts with one text are one draft. -/

def FormationFounder.json (f : FormationFounder) : Json :=
  .obj [("name", .str f.name), ("nationality", .str f.nationality),
    ("ownership", (f.ownership.map fun n ↦ Json.num n.text).getD .null)]

def FormationDraft.json (draft : FormationDraft) : Json :=
  .obj [("activity", .str draft.activity),
    ("existingBusiness", .str draft.existingBusiness.text),
    ("founders", .arr (draft.founders.map FormationFounder.json)),
    ("capital", .str draft.capital), ("management", .str draft.management),
    ("location", .str draft.location), ("timing", .str draft.timing),
    ("regulated", .str draft.regulated.text), ("notes", .str draft.notes)]

theorem ExistingBusiness.text_injective : Function.Injective ExistingBusiness.text := by
  intro a b h
  cases a <;> cases b <;> first | rfl | exact absurd h (by decide)

theorem Regulated.text_injective : Function.Injective Regulated.text := by
  intro a b h
  cases a <;> cases b <;> first | rfl | exact absurd h (by decide)

theorem FormationFounder.json_injective : Function.Injective FormationFounder.json := by
  rintro ⟨name, nationality, ownership⟩ ⟨name', nationality', ownership'⟩ h
  simp only [FormationFounder.json, Json.obj.injEq, List.cons.injEq, Prod.mk.injEq, true_and,
    Json.str.injEq, and_true] at h
  obtain ⟨rfl, rfl, hownership⟩ := h
  have hsame : ownership = ownership' := by
    cases ownership with
    | none => cases ownership' with
      | none => rfl
      | some n => cases hownership
    | some n => cases ownership' with
      | none => cases hownership
      | some n' =>
        have htext : n.text = n'.text := Json.num.inj hownership
        cases n
        cases n'
        cases htext
        rfl
  rw [hsame]

theorem FormationDraft.json_injective : Function.Injective FormationDraft.json := by
  rintro ⟨⟩ ⟨⟩ h
  simp only [FormationDraft.json, Json.obj.injEq, List.cons.injEq, Prod.mk.injEq, true_and,
    Json.str.injEq, Json.arr.injEq, and_true] at h
  obtain ⟨rfl, hexisting, hfounders, rfl, rfl, rfl, rfl, hregulated, rfl⟩ := h
  rw [ExistingBusiness.text_injective hexisting, Regulated.text_injective hregulated,
    List.map_injective_iff.mpr FormationFounder.json_injective hfounders]

theorem FormationFounder.json_numeric (f : FormationFounder) : f.json.numeric := by
  cases hownership : f.ownership with
  | none => simp [FormationFounder.json, hownership, Json.numeric, Json.fieldsNumeric]
  | some n =>
    simp [FormationFounder.json, hownership, Json.numeric, Json.fieldsNumeric, n.isNumber]

theorem FormationDraft.json_numeric (draft : FormationDraft) : draft.json.numeric := by
  have hfounders : ∀ l : List FormationFounder,
      Json.itemsNumeric (l.map FormationFounder.json) := by
    intro l
    induction l with
    | nil => rfl
    | cons f l ih => rw [List.map_cons, Json.itemsNumeric, f.json_numeric, ih]; rfl
  simp [FormationDraft.json, Json.numeric, Json.fieldsNumeric, hfounders]

/-- Two drafts with the same text are the same. -/
theorem FormationDraft.stringify_injective :
    Function.Injective fun draft : FormationDraft ↦ draft.json.stringify := fun a b h ↦
  FormationDraft.json_injective (Json.stringify_inj a.json_numeric b.json_numeric h)

/-! ## The review -/

/-- What `formationReview` returns. -/
structure FormationReview where
  missing : List String
  flags : List String
  humanReviewRequired : Bool := true
  legalOptionsEnabled : Bool := false
  deriving DecidableEq

namespace FormationDraft

variable (draft : FormationDraft)

/-- The fields of `formationFieldKeys` without `notes`, each with whether it is missing. -/
def missingFields : List (String × Bool) :=
  [("activity", draft.activity = ""),
    ("existingBusiness", draft.existingBusiness = .unsure),
    ("founders", draft.founders = [] ∨
      draft.founders.any fun f ↦ f.name = "" ∨ f.nationality = "" ∨ f.ownership = none),
    ("capital", draft.capital = ""),
    ("management", draft.management = ""),
    ("location", draft.location = ""),
    ("timing", draft.timing = ""),
    ("regulated", draft.regulated = .unsure)]

/-- `/^(egypt|egyptian|مصر|مصري|مصرية)$/i`. -/
def isEgyptian (nationality : String) : Bool :=
  nationality.toLower ∈ ["egypt", "egyptian", "مصر", "مصري", "مصرية"]

/-- The shares add up to something else than 100.  `value` is what a number is worth, `round` the
rounding of sums. -/
def sharesDiffer (value : Js.Number → ℚ) (round : ℚ → ℚ) : Bool :=
  let sum := draft.founders.foldl
    (fun sum f ↦ round (sum + (f.ownership.map value).getD 0)) 0
  draft.founders ≠ [] ∧ (draft.founders.all fun f ↦ f.ownership.isSome) ∧
    round (1 / 100) < |round (sum - 100)|

/-- Two founders have the same name. -/
def repeatsName : Bool :=
  let names := (draft.founders.map FormationFounder.name).filter (· ≠ "")
  (names.map Js.toLowerCase).dedup.length < names.length

/-- `formationReview(draft)`. -/
def review (value : Js.Number → ℚ) (round : ℚ → ℚ) : FormationReview where
  missing := (draft.missingFields.filter Prod.snd).map Prod.fst
  flags :=
    (if draft.founders.any fun f ↦ f.nationality ≠ "" ∧ ¬isEgyptian f.nationality then ["foreign"]
      else []) ++
    (if draft.regulated ≠ .no then ["regulated"] else []) ++
    (if draft.sharesDiffer value round then ["ownership"] else []) ++
    (if draft.repeatsName then ["duplicate"] else [])

end FormationDraft

/-! ## Reports -/

/-- An approved reference; the date of its review is ISO text. -/
structure BusinessReference where
  title : String
  excerpt : String
  sourceUrl : Option String := none
  sourceTitle : Option String := none
  reviewedAt : Option String := none
  referenceNumber : Option String := none
  deriving DecidableEq

/-- What `assessFormation` returns. -/
structure FormationAssessment where
  providerAvailable : Bool
  questionKeys : List String
  references : List BusinessReference
  deriving DecidableEq

/-- The snapshot of a report. -/
structure FormationSnapshot where
  draft : FormationDraft
  review : FormationReview
  assessment : Option FormationAssessment
  locale : String
  consentAt : String
  deriving DecidableEq

end KmtLegal
