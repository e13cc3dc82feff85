import KmtLegal.Payments.Provider

/-!
# What a Paymob signature decides

A signature covers one text, the canonical texts of twenty fields joined without a separator.
The joined text alone does not fix the payment: the digits of the amount can be moved into the
field behind it, and a flag sent as the number `1` has the text of a flag sent as `"1"` but is
not read as set.  Field by field the payload is fixed: two bodies with the same canonical field
texts, whose flags are read the way their texts are signed, normalise to the same status,
amount, currency, transaction and order.
-/

namespace KmtLegal

open Relational Js

/-- The part of a payload that decides about money. -/
def SameDecision (p q : NormalizedWebhookPayload) : Prop :=
  p.status = q.status ∧ p.amount = q.amount ∧ p.currency = q.currency ∧
    p.providerTransactionId = q.providerTransactionId ∧ p.providerOrderId = q.providerOrderId

/-- The canonical text of one field of a body. -/
def canonicalText (body : Json) (field : String) : Except Failure String :=
  paymobHmacValue field (paymobHmacFieldValue (paymobWebhookObject body) field)

/-! ## Flags -/

/-- The fields `paymobRawStatus` reads. -/
def statusFlags : List String :=
  ["is_refunded", "is_voided", "pending", "error_occured", "success", "is_auth", "is_capture",
   "is_standalone_payment"]

/-- The texts of a set flag. -/
def setTexts : List String := ["true", "True", "1"]

/-- A flag that is neither a number nor an array with the text of a set flag. -/
def plainFlag : Option Json → Bool
  | some (.num t) => t ∉ setTexts
  | some (.arr items) => ∀ t ∈ (Json.arr items).toText, t ∉ setTexts
  | _ => true

/-- Every flag that decides about the status is plain. -/
def PlainFlags (body : Json) : Prop :=
  ∀ flag ∈ statusFlags, plainFlag (prop (paymobWebhookObject body) flag)

/-- A plain flag is read as set exactly if its text says so. -/
theorem booleanValue_eq_of_plain {v : Option Json} (h : plainFlag v) :
    booleanValue v = ((stringValue v).any fun t ↦ t ∈ setTexts) := by
  cases v with
  | none => rfl
  | some v =>
    cases v with
    | null => rfl
    | bool b => cases b <;> rfl
    | num t => simpa [booleanValue, stringValue, Json.toText, plainFlag] using h
    | str s => simp [booleanValue, stringValue, Json.toText, setTexts]
    | arr items =>
      rw [plainFlag] at h
      simp only [booleanValue, stringValue]
      cases ht : (Json.arr items).toText with
      | none => rfl
      | some t => simpa [ht] using h
    | obj fields =>
      simp only [booleanValue, stringValue, Json.toText]
      split <;> rfl

/-- Plain flags with one text are read alike. -/
theorem booleanValue_congr {v w : Option Json} (hv : plainFlag v) (hw : plainFlag w)
    (h : text v = text w) : booleanValue v = booleanValue w := by
  rw [booleanValue_eq_of_plain hv, booleanValue_eq_of_plain hw]
  unfold text at h
  cases hs : stringValue v <;> cases ht : stringValue w <;> simp_all

/-- A status flag is signed by its own text. -/
theorem canonicalText_flag {flag : String} (h : flag ∈ statusFlags) (body : Json) :
    canonicalText body flag = text (prop (paymobWebhookObject body) flag) := by
  simp only [statusFlags, List.mem_cons, List.not_mem_nil, or_false] at h
  rcases h with rfl | rfl | rfl | rfl | rfl | rfl | rfl | rfl <;> rfl

/-- Bodies whose plain flags have the same texts report the same status. -/
theorem paymobRawStatus_congr {b₁ b₂ : Json} (h₁ : PlainFlags b₁) (h₂ : PlainFlags b₂)
    (h : ∀ flag ∈ statusFlags, canonicalText b₁ flag = canonicalText b₂ flag) :
    paymobRawStatus (paymobWebhookObject b₁) = paymobRawStatus (paymobWebhookObject b₂) := by
  have hflag : ∀ flag ∈ statusFlags, booleanValue (prop (paymobWebhookObject b₁) flag) =
      booleanValue (prop (paymobWebhookObject b₂) flag) := by
    intro flag hmem
    refine booleanValue_congr (h₁ flag hmem) (h₂ flag hmem) ?_
    rw [← canonicalText_flag hmem, ← canonicalText_flag hmem]
    exact h flag hmem
  simp only [statusFlags, List.forall_mem_cons] at hflag
  obtain ⟨hrefunded, hvoided, hpending, herror, hsuccess, hauth, hcapture, halone, -⟩ := hflag
  simp only [paymobRawStatus, hrefunded, hvoided, hpending, herror, hsuccess, hauth, hcapture,
    halone]

/-! ## The order -/

/-- The order id of a payload is the canonical text of the field, unless that is empty: then the
order was an object without an id, and what is read is the text of an object. -/
theorem paymobOrderId_eq {body : Json} {id : String}
    (h : paymobOrderId (paymobWebhookObject body) = .ok id) (hne : id ≠ "") :
    ∃ t, canonicalText body "order" = .ok t ∧ id = if t = "" then "[object Object]" else t := by
  have hnested : nestedValue (some (paymobWebhookObject body)) ["order", "id"] =
      nestedValue (prop (paymobWebhookObject body) "order") ["id"] := by
    cases paymobWebhookObject body <;> rfl
  have hcanonical : canonicalText body "order" =
      paymobHmacValue "order" (prop (paymobWebhookObject body) "order") := rfl
  rw [paymobOrderId, hnested] at h
  rw [hcanonical]
  generalize prop (paymobWebhookObject body) "order" = order at h ⊢
  by_cases hobj : ∃ fields, order = some (.obj fields)
  · obtain ⟨fields, rfl⟩ := hobj
    simp only [firstText, bind_eq_ok] at h
    obtain ⟨t, ht, h⟩ := h
    refine ⟨t, ht, ?_⟩
    by_cases hempty : t = ""
    · rw [if_pos hempty] at h ⊢
      obtain ⟨u, hu, h⟩ := bind_eq_ok.mp h
      have hu' : u = "[object Object]" := by
        simp only [text, stringValue, Json.toText, orThrow_eq_ok, Option.ite_none_left_eq_some,
          Option.some.injEq] at hu
        exact hu.2.symm
      subst hu'
      rw [if_neg (by decide)] at h
      exact (pure_eq_ok.mp h).symm
    · rw [if_neg hempty] at h ⊢
      exact (pure_eq_ok.mp h).symm
  · have hempty : nestedValue order ["id"] = none := by
      cases order with
      | none => rfl
      | some v => cases v <;> first | rfl | exact absurd ⟨_, rfl⟩ hobj
    have hvalue : paymobHmacValue "order" order = text order := by
      unfold paymobHmacValue
      split
      · exact absurd ⟨_, rfl⟩ hobj
      · rfl
    rw [hempty] at h
    simp only [firstText, text, stringValue_none, orThrow_some, ok_bind, if_true, bind_eq_ok] at h
    obtain ⟨t, ht, h⟩ := h
    have hid : t = id := by
      by_cases ht' : t = ""
      · rw [if_pos ht'] at h
        cases h
        exact absurd rfl hne
      · rw [if_neg ht'] at h
        exact pure_eq_ok.mp h
    subst hid
    exact ⟨t, hvalue ▸ ht, by rw [if_neg hne]⟩

/-! ## What a payload is made of -/

theorem canonicalText_id (body : Json) :
    canonicalText body "id" = text (prop (paymobWebhookObject body) "id") := rfl

theorem canonicalText_amountCents (body : Json) :
    canonicalText body "amount_cents" = text (prop (paymobWebhookObject body) "amount_cents") :=
  rfl

theorem canonicalText_currency (body : Json) :
    canonicalText body "currency" = text (prop (paymobWebhookObject body) "currency") := rfl

/-- What a Paymob body has to carry to normalise, and what becomes of it. -/
theorem normalizePaymob_eq_ok {P : Platform} {body : Json} {p : NormalizedWebhookPayload}
    (h : normalizeProviderWebhookPayload P body .paymob = .ok p) :
    ∃ id orderId cents currency,
      canonicalText body "id" = .ok id ∧
      paymobOrderId (paymobWebhookObject body) = .ok orderId ∧ orderId ≠ "" ∧
      canonicalText body "amount_cents" = .ok cents ∧
      canonicalText body "currency" = .ok currency ∧
      p.providerTransactionId = some id ∧ p.providerOrderId = some orderId ∧
      p.status = mapProviderPaymentStatus (paymobRawStatus (paymobWebhookObject body)) ∧
      p.amount = centsToAmountText P cents ∧ p.currency = currency := by
  simp only [normalizeProviderWebhookPayload, normalizePaymobWebhookPayload, bind_eq_ok,
    throwIf_eq_ok, pure_eq_ok, not_or] at h
  obtain ⟨_, _, id, hid, orderId, horder, cents, hcents, currency, hcurrency, _, ⟨hne, _⟩, hp⟩ := h
  subst hp
  refine ⟨id, orderId, cents, currency, ?_, horder, hne, ?_, ?_, ?_⟩
  · rw [canonicalText_id]; exact hid
  · rw [canonicalText_amountCents]; exact hcents
  · rw [canonicalText_currency]; exact hcurrency
  · simp only [and_self]

/-- Two Paymob bodies with the same canonical text in every signed field, neither of which
passes off a number or an array as a set flag, decide the same payment. -/
theorem signedFields_decide (P : Platform) (b₁ b₂ : Json) {p q : NormalizedWebhookPayload}
    (hfields : ∀ field ∈ paymobHmacFields, canonicalText b₁ field = canonicalText b₂ field)
    (hplain₁ : PlainFlags b₁) (hplain₂ : PlainFlags b₂)
    (h₁ : normalizeProviderWebhookPayload P b₁ .paymob = .ok p)
    (h₂ : normalizeProviderWebhookPayload P b₂ .paymob = .ok q) : SameDecision p q := by
  obtain ⟨id₁, order₁, cents₁, currency₁, hid₁, horder₁, hne₁, hcents₁, hcur₁, ptx, porder,
    pstatus, pamount, pcurrency⟩ := normalizePaymob_eq_ok h₁
  obtain ⟨id₂, order₂, cents₂, currency₂, hid₂, horder₂, hne₂, hcents₂, hcur₂, qtx, qorder,
    qstatus, qamount, qcurrency⟩ := normalizePaymob_eq_ok h₂
  have hid : id₁ = id₂ := by
    simpa [hid₁, hid₂] using hfields "id" (by decide)
  have hcents : cents₁ = cents₂ := by
    simpa [hcents₁, hcents₂] using hfields "amount_cents" (by decide)
  have hcurrency : currency₁ = currency₂ := by
    simpa [hcur₁, hcur₂] using hfields "currency" (by decide)
  have horder : order₁ = order₂ := by
    obtain ⟨t, ht, heq⟩ := paymobOrderId_eq horder₁ hne₁
    obtain ⟨u, hu, hequ⟩ := paymobOrderId_eq horder₂ hne₂
    have htu : t = u := by simpa [ht, hu] using hfields "order" (by decide)
    rw [heq, hequ, htu]
  have hstatus := paymobRawStatus_congr hplain₁ hplain₂ fun flag hflag ↦
    hfields flag (by revert flag; decide)
  refine ⟨?_, ?_, ?_, ?_, ?_⟩
  · rw [pstatus, qstatus, hstatus]
  · rw [pamount, qamount, hcents]
  · rw [pcurrency, qcurrency, hcurrency]
  · rw [ptx, qtx, hid]
  · rw [porder, qorder, horder]

/-- A callback about a booking fee, with the digits of the amount and the date as given. -/
def paymobCallback (amountCents createdAt : String) : Json :=
  .obj [("obj", .obj [("amount_cents", .num amountCents), ("created_at", .str createdAt),
    ("currency", .str "EGP"), ("id", .num "91"), ("is_standalone_payment", .bool true),
    ("order", .obj [("id", .num "17")]), ("pending", .bool false), ("success", .bool true)])]

/-- One signed text does not decide the payment: a digit moved from the date to the amount
leaves the canonical text as it was and makes 75 pounds 750. -/
theorem signedText_does_not_decide :
    ¬∀ (P : Platform) (b₁ b₂ : Json) (source : String) (p q : NormalizedWebhookPayload),
      paymobWebhookHmacSource b₁ = .ok source → paymobWebhookHmacSource b₂ = .ok source →
      normalizeProviderWebhookPayload P b₁ .paymob = .ok p →
      normalizeProviderWebhookPayload P b₂ .paymob = .ok q → SameDecision p q := by
  intro h
  obtain ⟨-, hamount, -⟩ := h plainPlatform (paymobCallback "7500" "02026-03-01T10:00:00")
    (paymobCallback "75000" "2026-03-01T10:00:00") _ _ _ rfl rfl rfl rfl
  exact absurd hamount (by decide)

/-- The same callback without its wrapping, sent as texts. -/
def paymobTextCallback (amountCents createdAt : String) : Json :=
  .obj [("amount_cents", .str amountCents), ("created_at", .str createdAt),
    ("currency", .str "EGP"), ("id", .str "91"), ("is_standalone_payment", .str "true"),
    ("order", .str "17"), ("pending", .str "false"), ("success", .str "true")]

/-- Neither the wrapping in `obj` nor the types of the values are signed, and neither matters. -/
theorem signedFields_decide_callbacks :
    ∃ p q, normalizeProviderWebhookPayload plainPlatform
        (paymobCallback "7500" "2026-03-01T10:00:00") .paymob = .ok p ∧
      normalizeProviderWebhookPayload plainPlatform
        (paymobTextCallback "7500" "2026-03-01T10:00:00") .paymob = .ok q ∧ SameDecision p q :=
  ⟨_, _, rfl, rfl, signedFields_decide plainPlatform
    (paymobCallback "7500" "2026-03-01T10:00:00")
    (paymobTextCallback "7500" "2026-03-01T10:00:00")
    (by decide) (by unfold PlainFlags; decide) (by unfold PlainFlags; decide) rfl rfl⟩

end KmtLegal
