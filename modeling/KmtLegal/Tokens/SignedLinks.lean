import KmtLegal.Http.Payloads

/-!
# Signed links

The tokens in links to the state of a payment and to its receipt (`payment-receipt-service.ts`), and
to the setup of a client account (`client-account-setup-service.ts`).  A token is the text of its
payload with a signature of the text; the first two have the version in front, which is not signed.
-/

namespace KmtLegal

open Relational Js

/-! ## Payloads -/

structure StatusPayload where
  attemptId : Uuid
  iat : ℤ
  exp : ℤ
  deriving DecidableEq

structure ReceiptPayload where
  attemptId : Uuid
  paymentId : Uuid
  iat : ℤ
  exp : ℤ
  deriving DecidableEq

/-- The payload of either version; the first has no locale. -/
structure SetupPayload where
  clientId : Uuid
  consultationId : Uuid
  email : Option String := none
  locale : Option PublicLocale
  iat : ℤ
  exp : ℤ
  deriving DecidableEq

/-- A whole number. -/
def jsonInteger (n : ℤ) : Json := .num (toString n)

def StatusPayload.json (payload : StatusPayload) : Json :=
  .obj [("v", .num "1"), ("attemptId", .str payload.attemptId), ("iat", jsonInteger payload.iat),
    ("exp", jsonInteger payload.exp)]

def ReceiptPayload.json (payload : ReceiptPayload) : Json :=
  .obj [("v", .num "2"), ("attemptId", .str payload.attemptId),
    ("paymentId", .str payload.paymentId), ("iat", jsonInteger payload.iat),
    ("exp", jsonInteger payload.exp)]

/-- `CLIENT_ACCOUNT_SETUP_PURPOSE`. -/
def clientAccountSetupPurpose : String := "client_account_setup"

/-- An absent address is no field of the text. -/
def SetupPayload.json (payload : SetupPayload) : Json :=
  .obj ([("purpose", .str clientAccountSetupPurpose),
    ("version", .num (if payload.locale.isSome then "2" else "1")),
    ("clientId", .str payload.clientId), ("consultationId", .str payload.consultationId)] ++
    (payload.email.map fun email ↦ ("email", Json.str email)).toList ++
    (payload.locale.map fun locale ↦ ("locale", Json.str locale.text)).toList ++
    [("iat", jsonInteger payload.iat), ("exp", jsonInteger payload.exp)])

/-! ## Schemas -/

/-- The whole number of a text, as `String` writes it. -/
def integerOfText (text : String) : Option ℤ :=
  match text.toList with
  | '-' :: l => if isDigits l then some (-digitsValue l) else none
  | l => if isDigits l then some (digitsValue l) else none

/-- `z.number().int()`. -/
def intField (fields : List (String × Json)) (key : String) : Option ℤ :=
  match Json.field fields key with
  | some (.num text) => (integerOfText text).filter fun n ↦ n.natAbs ≤ 2 ^ 53 - 1
  | _ => none

/-- `z.string()`. -/
def stringField (fields : List (String × Json)) (key : String) : Option String :=
  match Json.field fields key with
  | some (.str s) => some s
  | _ => none

/-- `z.literal(n)`. -/
def isNumber (fields : List (String × Json)) (key text : String) : Bool :=
  match Json.field fields key with
  | some (.num t) => t = text
  | _ => false

section

variable (P : Platform)

/-- `uuidSchema`. -/
def uuidField (fields : List (String × Json)) (key : String) : Option Uuid :=
  (stringField fields key).filter P.isUuid

/-- `emailSchema`. -/
def emailSchema (value : String) : Option String :=
  let email := trim value
  if P.isEmail email ∧ length email ≤ 254 then some (toLowerCase email) else none

/-- `emailSchema.optional()`. -/
def emailField (fields : List (String × Json)) : Option (Option String) :=
  match Json.field fields "email" with
  | none => some none
  | some (.str s) => (emailSchema P s).map some
  | some _ => none

/-- `localeSchema`. -/
def localeField (fields : List (String × Json)) : Option PublicLocale :=
  match Json.field fields "locale" with
  | none => some .ar
  | some (.str s) => if s = "ar" then some .ar else if s = "en" then some .en else none
  | some _ => none

/-- `statusTokenPayloadSchema`. -/
def parseStatusPayload (value : Json) : Option StatusPayload := do
  let fields ← value.asObject
  guard (isNumber fields "v" "1")
  let attemptId ← uuidField P fields "attemptId"
  let iat ← (intField fields "iat").filter (0 ≤ ·)
  let exp ← (intField fields "exp").filter (0 < ·)
  guard (iat < exp)
  return { attemptId, iat, exp }

/-- `tokenPayloadSchema` of receipts. -/
def parseReceiptPayload (value : Json) : Option ReceiptPayload := do
  let fields ← value.asObject
  guard (isNumber fields "v" "2")
  let attemptId ← uuidField P fields "attemptId"
  let paymentId ← uuidField P fields "paymentId"
  let iat ← (intField fields "iat").filter (0 ≤ ·)
  let exp ← (intField fields "exp").filter (0 < ·)
  guard (iat < exp)
  return { attemptId, paymentId, iat, exp }

/-- `tokenPayloadSchema` of account setups: one version or the other. -/
def parseSetupPayload (value : Json) : Option SetupPayload := do
  let fields ← value.asObject
  guard (stringField fields "purpose" = some clientAccountSetupPurpose)
  let clientId ← uuidField P fields "clientId"
  let consultationId ← uuidField P fields "consultationId"
  let email ← emailField P fields
  let locale ←
    if isNumber fields "version" "1" then some none
    else if isNumber fields "version" "2" then (localeField fields).map some
    else none
  let iat ← (intField fields "iat").filter (0 < ·)
  let exp ← (intField fields "exp").filter (0 < ·)
  return { clientId, consultationId, email, locale, iat, exp }

/-! ## Signatures -/

/-- The server runs in production. -/
def isProduction : Bool := P.env "APP_ENV" = "production" ∨ P.env "NODE_ENV" = "production"

/-- The first secret that is set, or the one for development. -/
def signingSecret (names : List String) (development message : String) : Except Failure String :=
  match (names.map P.env).find? (· ≠ "") with
  | some secret => .ok secret
  | none => if isProduction P then .error (.plain message) else .ok development

/-- `receiptSigningSecret(env)`. -/
def receiptSigningSecret : Except Failure String :=
  signingSecret P ["PAYMENT_RECEIPT_SIGNING_SECRET", "AUTH_SECRET"]
    "local-dev-only-payment-receipt-secret-do-not-use-in-production"
    "PAYMENT_RECEIPT_SIGNING_SECRET or AUTH_SECRET is required for payment receipt links."

/-- `statusSigningSecret(env)`. -/
def statusSigningSecret : Except Failure String :=
  signingSecret P
    ["PAYMENT_STATUS_SIGNING_SECRET", "PAYMENT_RECEIPT_SIGNING_SECRET", "AUTH_SECRET"]
    "local-dev-only-payment-status-secret-do-not-use-in-production"
    "PAYMENT_STATUS_SIGNING_SECRET, PAYMENT_RECEIPT_SIGNING_SECRET, or AUTH_SECRET is required for payment status links."

/-- `clientAccountSetupSigningSecret()`: a short secret does not count. -/
def clientAccountSetupSigningSecret : Except Failure String :=
  let secret := orElse (P.env "CLIENT_ACCOUNT_SETUP_SIGNING_SECRET") (P.env "AUTH_SECRET")
  if 32 ≤ length secret then .ok secret
  else if isProduction P then
    .error (.of 500 .internalError "Client account setup signing secret is missing.")
  else .ok "local-client-account-setup-dev-secret-32-plus-chars"

/-- `signPayload(payload, secret)` and `signTokenPayload(encodedPayload)`. -/
def signPayload (payload secret : String) : String :=
  base64url (Js.hexBytes (P.hmacSha256 secret payload).toList)

/-! ## Payment links -/

/-- `toUnixSeconds(value)`. -/
def toUnixSeconds (value : Time) : ℤ := value / 1000

/-- The whole number an environment variable gives, if it is in a range. -/
def configuredNumber (name : String) (low high : ℤ) : Option ℤ :=
  (parseInt (P.env name)).filter fun n ↦ low ≤ n ∧ n ≤ high

/-- `paymentReservationMinutes(env)`. -/
def paymentReservationMinutes : ℤ := (configuredNumber P "PAYMENT_ATTEMPT_EXPIRY_MINUTES" 5 60).getD 15

/-- `paymentStatusTokenMaxAgeSeconds(env)`. -/
def paymentStatusTokenMaxAgeSeconds : ℤ :=
  (configuredNumber P "PAYMENT_STATUS_TOKEN_MAX_AGE_SECONDS" 1800 7200).getD
    (min ((paymentReservationMinutes P + 60) * 60) 7200)

/-- `paymentReceiptTokenMaxAgeSeconds(env)`. -/
def paymentReceiptTokenMaxAgeSeconds : ℤ :=
  (configuredNumber P "PAYMENT_RECEIPT_TOKEN_MAX_AGE_SECONDS" 3600 2592000).getD 604800

/-- `uuidSchema.parse(value)`. -/
def uuidOrThrow (value : String) : Except Failure Uuid :=
  if P.isUuid value then .ok value else .error .zodError

/-- The payload `createPaymentStatusToken` signs. -/
def newStatusPayload (attemptId : String) (issuedAt : Time) : Except Failure StatusPayload := do
  let attemptId ← uuidOrThrow P attemptId
  return {
    attemptId
    iat := toUnixSeconds issuedAt
    exp := toUnixSeconds issuedAt + paymentStatusTokenMaxAgeSeconds P }

/-- `createPaymentStatusToken({ attemptId, issuedAt })`. -/
def createPaymentStatusToken (attemptId : String) (issuedAt : Time) : Except Failure String := do
  let payload := encodePayload (← newStatusPayload P attemptId issuedAt).json
  let secret ← statusSigningSecret P
  return "v1." ++ payload ++ "." ++ signPayload P payload secret

/-- The payload `createPaymentReceiptToken` signs. -/
def newReceiptPayload (attemptId paymentId : String) (issuedAt : Time) :
    Except Failure ReceiptPayload := do
  let attemptId ← uuidOrThrow P attemptId
  let paymentId ← uuidOrThrow P paymentId
  return {
    attemptId
    paymentId
    iat := toUnixSeconds issuedAt
    exp := toUnixSeconds issuedAt + paymentReceiptTokenMaxAgeSeconds P }

/-- `createPaymentReceiptToken({ attemptId, paymentId, issuedAt })`. -/
def createPaymentReceiptToken (attemptId paymentId : String) (issuedAt : Time) :
    Except Failure String := do
  let payload := encodePayload (← newReceiptPayload P attemptId paymentId issuedAt).json
  let secret ← receiptSigningSecret P
  return "v2." ++ payload ++ "." ++ signPayload P payload secret

/-- What both verifications do with a token. -/
def verifyPaymentToken {α : Type} (version : String) (signingSecret : Except Failure String)
    (decode : Json → Option α) (attemptIdOf : α → Uuid) (expOf : α → ℤ) (attemptId token : String)
    (now : Time) : Except Failure (Option α) :=
  if !P.isUuid attemptId then .ok none
  else match split token '.' with
  | [v, payload, signature] =>
    if v ≠ version ∨ payload = "" ∨ signature = "" then .ok none
    else do
      let secret ← signingSecret
      if signature ≠ signPayload P payload secret then return none
      else return ((decodePayload P payload).bind decode).filter fun p ↦
        attemptIdOf p = attemptId ∧ ¬expOf p ≤ toUnixSeconds now
  | _ => .ok none

/-- `verifyPaymentStatusToken({ attemptId, token, now })`. -/
def verifyPaymentStatusToken (attemptId token : String) (now : Time) :
    Except Failure (Option StatusPayload) :=
  verifyPaymentToken P "v1" (statusSigningSecret P) (parseStatusPayload P) StatusPayload.attemptId
    StatusPayload.exp attemptId token now

/-- `verifyPaymentReceiptToken({ attemptId, token, now })`. -/
def verifyPaymentReceiptToken (attemptId token : String) (now : Time) :
    Except Failure (Option ReceiptPayload) :=
  verifyPaymentToken P "v2" (receiptSigningSecret P) (parseReceiptPayload P)
    ReceiptPayload.attemptId ReceiptPayload.exp attemptId token now

/-! ## Account setup links -/

/-- The payload `createClientAccountSetupToken` signs. -/
def newSetupPayload (clientId consultationId : String) (email : Option String)
    (locale : PublicLocale) (now : Time) : Except Failure SetupPayload := do
  let clientId ← uuidOrThrow P clientId
  let consultationId ← uuidOrThrow P consultationId
  let email ←
    match orNull email with
    | some email => (orThrow (emailSchema P email) .zodError).map some
    | none => .ok none
  return { clientId, consultationId, email, locale := some locale, iat := now, exp := now + 1800000 }

/-- `createClientAccountSetupToken({ clientId, consultationId, email, locale, now })`, with the time
the token expires at. -/
def createClientAccountSetupToken (clientId consultationId : String) (email : Option String)
    (locale : PublicLocale) (now : Time) : Except Failure (String × Time) := do
  let payload ← newSetupPayload P clientId consultationId email locale now
  let encodedPayload := encodePayload payload.json
  let secret ← clientAccountSetupSigningSecret P
  return (encodedPayload ++ "." ++ signPayload P encodedPayload secret, payload.exp)

/-- `invalidTokenError()`. -/
def invalidSetupToken : Failure :=
  .of 400 .validationError "Client account setup token is invalid."

/-- `parseWithSchema(tokenSchema, tokenInput, message)`. -/
def checkSetupToken (token : String) : Except Failure Unit := do
  throwIf (length token < 32) (.validation "Client account setup token is invalid."
    [{ message := "Too small: expected string to have >=32 characters"
       code := some "too_small" }])
  throwIf (4096 < length token) (.validation "Client account setup token is invalid."
    [{ message := "Too big: expected string to have <=4096 characters"
       code := some "too_big" }])

/-- `verifyClientAccountSetupToken(tokenInput, now)`.  What follows a third dot is not looked at. -/
def verifyClientAccountSetupToken (token : String) (now : Time) : Except Failure SetupPayload := do
  checkSetupToken token
  match split token '.' with
  | encodedPayload :: signature :: rest => do
    throwIf (encodedPayload = "" ∨ signature = "" ∨ rest.head?.any (· ≠ "")) invalidSetupToken
    let secret ← clientAccountSetupSigningSecret P
    throwIf (signature ≠ signPayload P encodedPayload secret) invalidSetupToken
    let payload ← orThrow ((decodePayload P encodedPayload).bind (parseSetupPayload P))
      invalidSetupToken
    throwIf (payload.exp ≤ now)
      (.of 410 .tokenExpired "Client account setup link has expired.")
    return payload
  | _ => .error invalidSetupToken

end

end KmtLegal
