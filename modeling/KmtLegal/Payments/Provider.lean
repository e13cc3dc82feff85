import KmtLegal.Platform

/-!
# Payment providers

`payment-provider.ts`: what a webhook body says about a payment, the canonical text a Paymob
signature covers, and the check of the signature.
-/

namespace KmtLegal

open Relational Js

/-! ## Normalised payloads -/

/-- The results of `mapProviderPaymentStatus`. -/
inductive ProviderPaymentStatus where
  | paid | pending | refunded | disputed | cancelled | expired | failed
  deriving DecidableEq

def ProviderPaymentStatus.text : ProviderPaymentStatus → String
  | paid => "PAID"
  | pending => "PENDING"
  | refunded => "REFUNDED"
  | disputed => "DISPUTED"
  | cancelled => "CANCELLED"
  | expired => "EXPIRED"
  | failed => "FAILED"

/-- `NormalizedWebhookPayload`. -/
structure NormalizedWebhookPayload where
  provider : PaymentProviderName
  attemptId : String
  providerTransactionId : Option String
  providerOrderId : Option String := none
  rawStatus : String
  status : ProviderPaymentStatus
  amount : String
  currency : String
  deriving DecidableEq

/-- `mapProviderPaymentStatus(status)`. -/
def mapProviderPaymentStatus (status : String) : ProviderPaymentStatus :=
  let value := toLowerCase (trim status)
  if value ∈ ["a", "paid", "success", "succeeded", "captured", "approved", "true"] then .paid
  else if value ∈ ["p", "pending", "created", "processing", "authorized", "auth"] then .pending
  else if value ∈ ["r", "refunded", "refund"] then .refunded
  else if value ∈ ["d", "disputed", "chargeback"] then .disputed
  else if value ∈ ["c", "cancelled", "canceled", "void", "voided"] then .cancelled
  else if value ∈ ["expired", "timeout", "timed_out"] then .expired
  else .failed

/-- A status survives being stored by name and mapped again. -/
@[simp] theorem mapProviderPaymentStatus_text (s : ProviderPaymentStatus) :
    mapProviderPaymentStatus s.text = s := by
  cases s <;> decide

/-! ## Reading a body

`parseWebhookJson` lets objects and arrays through; an array has none of the fields. -/

/-- `body[key]`. -/
def prop (body : Json) (key : String) : Option Json :=
  body.asObject.bind fun fields ↦ Json.field fields key

/-- `stringValue(value)`, throwing where `String` throws. -/
def text (value : Option Json) : Except Failure String := orThrow (stringValue value) .typeError

/-- `stringValue(a) || stringValue(b) || …`: later values are converted only if needed. -/
def firstText : List (Option Json) → Except Failure String
  | [] => .ok ""
  | value :: values => do
    let t ← text value
    if t = "" then firstText values else return t

def truthy : Option Json → Bool
  | none => false
  | some v => !v.falsy

/-- `String(a || b || … || "")`. -/
def textOfFirst (values : List (Option Json)) : Except Failure String :=
  match values.find? truthy with
  | some value => text value
  | none => .ok ""

/-! ## PayTabs -/

/-- `paytabsPaymentStatus(responseStatus, transactionType)`. -/
def paytabsPaymentStatus (responseStatus transactionType : String) : ProviderPaymentStatus :=
  let code := toUpperCase (trim responseStatus)
  if code = "A" then
    if transactionType ∈ ["sale", "capture"] then .paid
    else if transactionType = "refund" then .refunded
    else if transactionType = "void" then .cancelled
    else .pending
  else if code ∈ ["H", "P"] then .pending
  else if code = "V" then .cancelled
  else if code = "X" then .expired
  else if code ∈ ["D", "E"] then .failed
  else
    let status := mapProviderPaymentStatus responseStatus
    if status = .paid then
      if transactionType = "auth" then .pending
      else if transactionType = "refund" then .refunded
      else if transactionType = "void" then .cancelled
      else status
    else status

/-- `normalizePaytabsWebhookPayload(body, provider)`. -/
def normalizePaytabsWebhookPayload (body : Json) : Except Failure NormalizedWebhookPayload := do
  let attemptId ← textOfFirst [prop body "attemptId", prop body "cart_id", prop body "cartId"]
  let providerTransactionId ← textOfFirst [prop body "transactionId", prop body "tran_ref",
    prop body "transaction_id", prop body "providerTransactionId"]
  let responseStatus ← textOfFirst [prop body "status", prop body "respStatus",
    nestedValue (some body) ["payment_result", "response_status"]]
  let transactionType ← text (prop body "tran_type")
  let amount ← textOfFirst [prop body "amount", prop body "cart_amount"]
  let currency ← textOfFirst [prop body "currency", prop body "cart_currency"]
  throwIf (attemptId = "") (.validation "Payment webhook attempt id is missing.")
  return {
    provider := .paytabs
    attemptId
    providerTransactionId := if providerTransactionId = "" then none else providerTransactionId
    rawStatus := responseStatus
    status := paytabsPaymentStatus responseStatus (toLowerCase transactionType)
    amount
    currency }

/-! ## Paymob -/

/-- `paymobWebhookObject(body)`: the transaction inside the callback, if it is wrapped. -/
def paymobWebhookObject (body : Json) : Json :=
  match prop body "obj" with
  | some (.obj fields) => .obj fields
  | _ => body

/-- The flags that decide a status, in the words of the payload. -/
def paymobRawStatus (obj : Json) : String :=
  if booleanValue (prop obj "is_refunded") then "refunded"
  else if booleanValue (prop obj "is_voided") then "voided"
  else if booleanValue (prop obj "pending") then "pending"
  else if booleanValue (prop obj "error_occured") then "failed"
  else if booleanValue (prop obj "success") then
    if booleanValue (prop obj "is_auth") then "authorized"
    else if booleanValue (prop obj "is_capture") || booleanValue (prop obj "is_standalone_payment")
    then "paid"
    else "pending"
  else "failed"

/-- Below this a number of cents divided by 100 is rounded back to itself by `toFixed(2)`. -/
def exactCentsBound : ℕ := 10 ^ 15

/-- `(cents / 100).toFixed(2)`. -/
def centsText (P : Platform) (cents : ℕ) : String :=
  if cents < exactCentsBound then
    toString (cents / 100) ++ "." ++ toString (cents / 10 % 10) ++ toString (cents % 10)
  else P.largeCentsText cents

/-- `centsToAmountText(value)`. -/
def centsToAmountText (P : Platform) (value : String) : String :=
  if isDigits value.toList then centsText P (digitsValue value.toList) else value

/-- `stringValue(nestedValue(obj, ["order", "id"])) || stringValue(obj.order)`. -/
def paymobOrderId (obj : Json) : Except Failure String :=
  firstText [nestedValue (some obj) ["order", "id"], prop obj "order"]

/-- `normalizePaymobWebhookPayload(body, payloadHash)`. -/
def normalizePaymobWebhookPayload (P : Platform) (body : Json) :
    Except Failure NormalizedWebhookPayload := do
  let obj := paymobWebhookObject body
  let attemptId ← firstText [prop body "attemptId", prop obj "attemptId",
    prop obj "merchant_order_id", nestedValue (some obj) ["order", "merchant_order_id"],
    nestedValue (some obj) ["payment_key_claims", "extra", "attemptId"],
    nestedValue (some obj) ["payment_key_claims", "extra", "attempt_id"],
    nestedValue (some obj) ["extra", "attemptId"], nestedValue (some obj) ["extras", "attemptId"]]
  let providerTransactionId ← text (prop obj "id")
  let providerOrderId ← paymobOrderId obj
  let rawStatus := paymobRawStatus obj
  let amountCents ← text (prop obj "amount_cents")
  let currency ← text (prop obj "currency")
  throwIf (providerOrderId = "" ∨ providerTransactionId = "")
    (.validation "Payment webhook order or transaction id is missing.")
  return {
    provider := .paymob
    attemptId
    providerTransactionId := some providerTransactionId
    providerOrderId := some providerOrderId
    rawStatus
    status := mapProviderPaymentStatus rawStatus
    amount := centsToAmountText P amountCents
    currency }

/-- `normalizeProviderWebhookPayload(body, provider, payloadHash)`.  The payload hash would stand
in for a transaction id, but a payload without one is refused. -/
def normalizeProviderWebhookPayload (P : Platform) (body : Json) :
    PaymentProviderName → Except Failure NormalizedWebhookPayload
  | .paymob => normalizePaymobWebhookPayload P body
  | .paytabs => normalizePaytabsWebhookPayload body

/-! ## The canonical text -/

/-- The fields a Paymob signature covers, in order. -/
def paymobHmacFields : List String :=
  ["amount_cents", "created_at", "currency", "error_occured", "has_parent_transaction", "id",
   "integration_id", "is_3d_secure", "is_auth", "is_capture", "is_refunded",
   "is_standalone_payment", "is_voided", "order", "owner", "pending", "source_data_pan",
   "source_data_sub_type", "source_data_type", "success"]

/-- `paymobHmacFieldValue(obj, field)`. -/
def paymobHmacFieldValue (obj : Json) (field : String) : Option Json :=
  match field with
  | "source_data_pan" => nullish (nestedValue (some obj) ["source_data", "pan"]) (prop obj field)
  | "source_data_sub_type" =>
    nullish (nestedValue (some obj) ["source_data", "sub_type"]) (prop obj field)
  | "source_data_type" => nullish (nestedValue (some obj) ["source_data", "type"]) (prop obj field)
  | _ => prop obj field

/-- `paymobHmacValue(field, value)`. -/
def paymobHmacValue (field : String) (value : Option Json) : Except Failure String :=
  match field, value with
  | "order", some (.obj fields) => text (Json.field fields "id")
  | _, _ => text value

/-- `paymobWebhookHmacSource(body)`: the canonical field texts, joined without a separator. -/
def paymobWebhookHmacSource (body : Json) : Except Failure String := do
  let obj := paymobWebhookObject body
  if paymobHmacFields.any fun field ↦ (paymobHmacFieldValue obj field).isSome then
    let texts ← paymobHmacFields.mapM fun field ↦
      paymobHmacValue field (paymobHmacFieldValue obj field)
    return String.join texts
  else return ""

/-- `paymobWebhookFingerprint(body)`. -/
def paymobWebhookFingerprint (P : Platform) (body : Json) : Except Failure String := do
  return P.sha256 (← paymobWebhookHmacSource body)

/-- `providerWebhookEventId(body, provider, payloadHash)`. -/
def providerWebhookEventId (P : Platform) (body : Json) (provider : PaymentProviderName)
    (payloadHash : String) : Except Failure String :=
  match provider with
  | .paymob => do
    let id ← text (prop (paymobWebhookObject body) "id")
    return id ++ ":" ++ (← paymobWebhookFingerprint P body)
  | .paytabs =>
    match [prop body "eventId", prop body "id", prop body "tran_ref", prop body "transaction_id",
      prop body "cart_id"].find? truthy with
    | some value => text value
    | none => .ok payloadHash

/-! ## Signatures -/

/-- A delivery: the raw body, and what of the request the services read. -/
structure WebhookRequest where
  provider : PaymentProviderName
  rawBody : String
  /-- `url.searchParams.get("hmac")`. -/
  hmacParam : Option String := none
  /-- The headers, under lower-case names. -/
  headers : List (String × String) := []

/-- `webhookSignature(request, provider, body)`; no signature is the empty text. -/
def webhookSignature (request : WebhookRequest) (body : Json) : Except Failure String :=
  let header (name : String) := (request.headers.lookup name).getD ""
  match request.provider with
  | .paymob =>
    let sent := orElse (request.hmacParam.getD "") (header "x-paymob-hmac")
    if sent = "" then firstText [prop body "hmac", nestedValue (some body) ["obj", "hmac"]]
    else .ok sent
  | .paytabs =>
    .ok (orElse (header "x-kmt-payment-signature")
      (orElse (header "x-paytabs-signature") (header "signature")))

/-- `normalizeSignature(value)`: trimmed, without a `sha256=` or `sha512=` in front. -/
def normalizeSignature (value : String) : List Char :=
  let s := (trim value).toList
  if (s.take 7).map Char.toLower ∈ ["sha256=".toList, "sha512=".toList] then s.drop 7 else s

/-- The value of a hexadecimal digit in either case. -/
def hexDigit (c : Char) : Option ℕ :=
  if '0' ≤ c ∧ c ≤ '9' then some (c.toNat - '0'.toNat)
  else if 'a' ≤ c.toLower ∧ c.toLower ≤ 'f' then some (c.toLower.toNat - 'a'.toNat + 10)
  else none

/-- The bytes of a hexadecimal text; a digit left over at the end is dropped. -/
def hexBytes : List ℕ → List (ℕ × ℕ)
  | a :: b :: l => (a, b) :: hexBytes l
  | _ => []

/-- `timingSafeHexEqual(left, right)`. -/
def timingSafeHexEqual (left right : List Char) : Bool :=
  match left.mapM hexDigit, right.mapM hexDigit with
  | some l, some r => l ≠ [] ∧ r ≠ [] ∧ hexBytes l = hexBytes r
  | _, _ => false

/-- `paymentWebhookSecret(provider)`. -/
def paymentWebhookSecret (P : Platform) : PaymentProviderName → String
  | .paymob => orElse (P.env "PAYMOB_HMAC_SECRET") (P.env "PAYMENT_WEBHOOK_SECRET")
  | .paytabs => orElse (P.env "PAYTABS_WEBHOOK_SECRET") (P.env "PAYMENT_WEBHOOK_SECRET")

/-- `verifyWebhookSignature({ rawBody, signature, secret, provider, parsedBody })`. -/
def verifyWebhookSignature (P : Platform) (provider : PaymentProviderName)
    (rawBody signature secret : String) (body : Json) : Except Failure Bool :=
  if secret = "" ∨ signature = "" then .ok false
  else
    match provider with
    | .paymob => do
      let canonical ← paymobWebhookHmacSource body
      return canonical ≠ "" ∧
        timingSafeHexEqual (normalizeSignature signature) (P.hmacSha512 secret canonical).toList
    | .paytabs =>
      .ok (timingSafeHexEqual (normalizeSignature signature) (P.hmacSha256 secret rawBody).toList)

end KmtLegal
