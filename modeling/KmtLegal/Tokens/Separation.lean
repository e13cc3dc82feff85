import KmtLegal.Tokens.SignedLinks

/-!
# Links that cannot be confused

All links may be signed with one secret, and the signature covers neither the version in front nor
what the link is for.  What keeps them apart is that every payload is accepted by the schema of its
own kind only.  So a token that is put together from parts of issued tokens is accepted only with a
payload that was issued, and for what it was issued for.
-/

namespace KmtLegal

open Relational Js

/-! ## Numbers in payloads -/

theorem toList_toString_ofNat (n : ℕ) : (toString (n : ℤ)).toList = Nat.toDigits 10 n :=
  Nat.toList_repr

theorem integerOfText_toString {n : ℤ} (h : 0 ≤ n) : integerOfText (toString n) = some n := by
  obtain ⟨m, rfl⟩ := Int.eq_ofNat_of_zero_le h
  have hdigits := isDigits_toDigits m
  unfold integerOfText
  rw [toList_toString_ofNat]
  split
  · rename_i l hl
    rw [hl] at hdigits
    exact absurd hdigits (by simp [isDigits, isDigit])
  · rw [if_pos hdigits, digitsValue_toDigits]

theorem intField_eq {fields : List (String × Json)} {key : String} {n : ℤ}
    (h : Json.field fields key = some (jsonInteger n)) (hn : 0 ≤ n) (hle : n ≤ 2 ^ 53 - 1) :
    intField fields key = some n := by
  unfold intField
  rw [h]
  simp only [jsonInteger, integerOfText_toString hn]
  refine Option.filter_eq_some_iff.mpr ⟨rfl, decide_eq_true ?_⟩
  omega

/-! ## Schemas and payloads -/

/-- The schema accepts the payload. -/
structure StatusPayload.Valid (P : Platform) (p : StatusPayload) : Prop where
  attemptId : P.isUuid p.attemptId
  iat : 0 ≤ p.iat
  order : p.iat < p.exp
  exp : p.exp ≤ 2 ^ 53 - 1

structure ReceiptPayload.Valid (P : Platform) (p : ReceiptPayload) : Prop where
  attemptId : P.isUuid p.attemptId
  paymentId : P.isUuid p.paymentId
  iat : 0 ≤ p.iat
  order : p.iat < p.exp
  exp : p.exp ≤ 2 ^ 53 - 1

/-- The payload is one of the second version. -/
structure SetupPayload.Valid (P : Platform) (p : SetupPayload) : Prop where
  clientId : P.isUuid p.clientId
  consultationId : P.isUuid p.consultationId
  email : ∀ e ∈ p.email, emailSchema P e = some e
  locale : p.locale.isSome
  iat : 0 < p.iat
  order : p.iat < p.exp
  exp : p.exp ≤ 2 ^ 53 - 1

section

variable {P : Platform}

theorem uuidField_eq {fields : List (String × Json)} {key : String} {u : Uuid}
    (h : Json.field fields key = some (.str u)) (hu : P.isUuid u) :
    uuidField P fields key = some u := by
  unfold uuidField stringField
  rw [h]
  exact Option.filter_eq_some_iff.mpr ⟨rfl, hu⟩

theorem parseStatusPayload_json {p : StatusPayload} (h : p.Valid P) :
    parseStatusPayload P p.json = some p := by
  have hle : p.iat ≤ 2 ^ 53 - 1 := h.order.le.trans h.exp
  have hpos : 0 < p.exp := h.iat.trans_lt h.order
  unfold parseStatusPayload StatusPayload.json
  simp only [Json.asObject, Option.bind_eq_bind, Option.bind_some]
  rw [uuidField_eq (u := p.attemptId) rfl h.attemptId, intField_eq (n := p.iat) rfl h.iat hle,
    intField_eq (n := p.exp) rfl hpos.le h.exp]
  simp [Option.filter_some, h.iat, hpos, h.order, isNumber, Json.field]

theorem parseReceiptPayload_json {p : ReceiptPayload} (h : p.Valid P) :
    parseReceiptPayload P p.json = some p := by
  have hle : p.iat ≤ 2 ^ 53 - 1 := h.order.le.trans h.exp
  have hpos : 0 < p.exp := h.iat.trans_lt h.order
  unfold parseReceiptPayload ReceiptPayload.json
  simp only [Json.asObject, Option.bind_eq_bind, Option.bind_some]
  rw [uuidField_eq (u := p.attemptId) rfl h.attemptId, uuidField_eq (u := p.paymentId) rfl h.paymentId,
    intField_eq (n := p.iat) rfl h.iat hle, intField_eq (n := p.exp) rfl hpos.le h.exp]
  simp [Option.filter_some, h.iat, hpos, h.order, isNumber, Json.field]

theorem isNumber_eq {fields : List (String × Json)} {key t text : String}
    (h : Json.field fields key = some (.num t)) : isNumber fields key text = decide (t = text) := by
  unfold isNumber
  rw [h]

/-- A field that is not there is no literal. -/
theorem isNumber_none {fields : List (String × Json)} {key text : String}
    (h : Json.field fields key = none) : isNumber fields key text = false := by
  unfold isNumber
  rw [h]

theorem stringField_none {fields : List (String × Json)} {key : String}
    (h : Json.field fields key = none) : stringField fields key = none := by
  unfold stringField
  rw [h]

theorem localeField_eq {fields : List (String × Json)} {locale : PublicLocale}
    (h : Json.field fields "locale" = some (.str locale.text)) :
    localeField fields = some locale := by
  unfold localeField
  rw [h]
  cases locale <;> decide

theorem parseSetupPayload_json {p : SetupPayload} (h : p.Valid P) :
    parseSetupPayload P p.json = some p := by
  obtain ⟨clientId, consultationId, email, locale, iat, exp⟩ := p
  have hle : iat ≤ 2 ^ 53 - 1 := h.order.le.trans h.exp
  have hexp : 0 < exp := lt_trans h.iat h.order
  have hiat : 0 < iat := h.iat
  obtain ⟨locale, rfl⟩ := Option.isSome_iff_exists.mp h.locale
  have hemail : ∀ fields : List (String × Json),
      Json.field fields "email" = email.map Json.str → emailField P fields = some email := by
    intro fields hfield
    unfold emailField
    rw [hfield]
    cases email with
    | none => rfl
    | some e => simp only [Option.map_some, h.email e rfl]
  unfold parseSetupPayload SetupPayload.json
  cases email with
  | none =>
    simp only [Json.asObject, Option.bind_eq_bind, Option.bind_some, Option.map_none, Option.map_some,
      Option.toList_none, Option.toList_some, List.append_nil, List.cons_append, List.nil_append]
    rw [uuidField_eq (u := clientId) rfl h.clientId,
      uuidField_eq (u := consultationId) rfl h.consultationId, hemail _ rfl, localeField_eq rfl,
      intField_eq (n := iat) rfl hiat.le hle, intField_eq (n := exp) rfl hexp.le h.exp]
    rw [isNumber_eq (t := "2") rfl, isNumber_eq (t := "2") rfl]
    simp [Option.filter_some, hiat, hexp, stringField, Json.field]
  | some e =>
    simp only [Json.asObject, Option.bind_eq_bind, Option.bind_some, Option.map_some,
      Option.toList_some, List.cons_append, List.nil_append]
    rw [uuidField_eq (u := clientId) rfl h.clientId,
      uuidField_eq (u := consultationId) rfl h.consultationId, hemail _ rfl, localeField_eq rfl,
      intField_eq (n := iat) rfl hiat.le hle, intField_eq (n := exp) rfl hexp.le h.exp]
    rw [isNumber_eq (t := "2") rfl, isNumber_eq (t := "2") rfl]
    simp [Option.filter_some, hiat, hexp, stringField, Json.field]

/-! ### No schema accepts a payload of another kind -/

theorem parseStatusPayload_receipt (p : ReceiptPayload) : parseStatusPayload P p.json = none := by
  unfold parseStatusPayload ReceiptPayload.json
  simp only [Json.asObject, Option.bind_eq_bind, Option.bind_some]
  rw [isNumber_eq (t := "2") rfl]
  rfl

theorem parseStatusPayload_setup (p : SetupPayload) : parseStatusPayload P p.json = none := by
  obtain ⟨_, _, email, locale, _, _⟩ := p
  unfold parseStatusPayload SetupPayload.json
  simp only [Json.asObject, Option.bind_eq_bind, Option.bind_some]
  rw [isNumber_none (by cases email <;> cases locale <;> rfl)]
  rfl

theorem parseReceiptPayload_status (p : StatusPayload) : parseReceiptPayload P p.json = none := by
  unfold parseReceiptPayload StatusPayload.json
  simp only [Json.asObject, Option.bind_eq_bind, Option.bind_some]
  rw [isNumber_eq (t := "1") rfl]
  rfl

theorem parseReceiptPayload_setup (p : SetupPayload) : parseReceiptPayload P p.json = none := by
  obtain ⟨_, _, email, locale, _, _⟩ := p
  unfold parseReceiptPayload SetupPayload.json
  simp only [Json.asObject, Option.bind_eq_bind, Option.bind_some]
  rw [isNumber_none (by cases email <;> cases locale <;> rfl)]
  rfl

theorem parseSetupPayload_status (p : StatusPayload) : parseSetupPayload P p.json = none := by
  unfold parseSetupPayload StatusPayload.json
  simp only [Json.asObject, Option.bind_eq_bind, Option.bind_some]
  rw [stringField_none rfl]
  rfl

theorem parseSetupPayload_receipt (p : ReceiptPayload) : parseSetupPayload P p.json = none := by
  unfold parseSetupPayload ReceiptPayload.json
  simp only [Json.asObject, Option.bind_eq_bind, Option.bind_some]
  rw [stringField_none rfl]
  rfl

end

/-! ## Lengths -/

/-- The bytes of a text. -/
def byteSize (l : List Char) : ℕ := (l.map Char.utf8Size).sum

@[simp] theorem byteSize_nil : byteSize [] = 0 := rfl

@[simp] theorem byteSize_cons (c : Char) (l : List Char) :
    byteSize (c :: l) = c.utf8Size + byteSize l := List.sum_cons

@[simp] theorem byteSize_append (l m : List Char) : byteSize (l ++ m) = byteSize l + byteSize m := by
  rw [byteSize, List.map_append, List.sum_append]
  rfl

theorem length_utf8 (s : String) : (utf8 s).length = byteSize s.toList := by
  rw [utf8, List.length_flatMap]
  exact congrArg List.sum (List.map_congr_left fun c _ ↦ String.length_utf8EncodeChar c)

theorem byteSize_of_digits {l : List Char} (h : l.all isDigit) : byteSize l = l.length := by
  induction l with
  | nil => rfl
  | cons c l ih =>
    rw [List.all_cons, Bool.and_eq_true] at h
    have hsize : c.utf8Size = 1 := by
      have hnine : ('9' : Char).val ≤ 0x7f := by decide
      exact if_pos (UInt32.le_trans (of_decide_eq_true h.1).2 hnine)
    rw [byteSize_cons, hsize, ih h.2, List.length_cons, Nat.add_comm]

/-- Escaping takes at most six bytes for a character. -/
theorem byteSize_quoteChars (s : String) :
    2 ≤ byteSize (quoteChars s) ∧ byteSize (quoteChars s) ≤ 2 + 6 * s.toList.length := by
  have hquote : ('\x22' : Char).utf8Size = 1 := by decide
  have hchar : ∀ c : Char, byteSize (escapeChar c) ≤ 6 := by
    intro c
    have hc : c.utf8Size ≤ 4 := Char.utf8Size_le_four c
    have hhex : ∀ n : Fin 16, (Js.hexDigit n).utf8Size = 1 := by decide
    have hite {p : Prop} [Decidable p] {l m : List Char} (hl : byteSize l ≤ 6)
        (hm : byteSize m ≤ 6) : byteSize (if p then l else m) ≤ 6 := by
      by_cases hp : p
      · rwa [if_pos hp]
      · rwa [if_neg hp]
    unfold escapeChar
    -- the seven escapes of two characters
    iterate 7 refine hite (by decide) ?_
    by_cases hcontrol : c.toNat < 32
    · have hhigh := hhex ⟨c.toNat / 16, by omega⟩
      have hlow := hhex ⟨c.toNat % 16, by omega⟩
      rw [if_pos hcontrol]
      simp only [byteSize_cons, byteSize_nil] at *
      rw [hhigh, hlow]
      decide
    · rw [if_neg hcontrol]
      simpa [byteSize_cons] using hc.trans (by decide)
  have hall : ∀ l : List Char, byteSize (l.flatMap escapeChar) ≤ 6 * l.length := by
    intro l
    induction l with
    | nil => exact le_rfl
    | cons c l ih =>
      have hc := hchar c
      rw [List.flatMap_cons, byteSize_append, List.length_cons]
      omega
  have hs := hall s.toList
  rw [quoteChars, byteSize_cons, byteSize_append, byteSize_cons, byteSize_nil, hquote]
  omega

theorem byteSize_fieldChars (key : String) (value : Json) (fields : List (String × Json)) :
    byteSize (Json.fieldChars ((key, value) :: fields)) =
      2 + byteSize (quoteChars key) + byteSize (Json.chars value) +
        byteSize (Json.fieldChars fields) := by
  have hcomma : (',' : Char).utf8Size = 1 := by decide
  have hcolon : (':' : Char).utf8Size = 1 := by decide
  rw [Json.fieldChars, byteSize_cons, byteSize_append, byteSize_cons, byteSize_append, hcomma, hcolon]
  omega

theorem byteSize_obj (key : String) (value : Json) (fields : List (String × Json)) :
    byteSize (Json.chars (.obj ((key, value) :: fields))) =
      2 + byteSize (quoteChars key) + byteSize (Json.chars value) +
        byteSize (Json.fieldChars fields) := by
  have hbrace : ('\x7b' : Char).utf8Size = 1 := by decide
  have hcolon : (':' : Char).utf8Size = 1 := by decide
  rw [Json.chars, byteSize_cons, byteSize_append, byteSize_cons, byteSize_append, hbrace, hcolon]
  omega

/-- A payload is longer than a signature. -/
theorem length_encodePayload (payload : Json) : (encodePayload payload).toList.length =
    (4 * byteSize (Json.chars payload) + 2) / 3 := by
  rw [encodePayload, length_base64url, length_utf8, Json.stringify, String.toList_ofList]

theorem length_signPayload {P : Platform} {payload secret : String}
    (h : isDigest (P.hmacSha256 secret payload)) :
    (signPayload P payload secret).toList.length = 43 := by
  rw [signPayload, length_base64url, length_hexBytes, (of_decide_eq_true h).1]

/-! ## Parts of a token -/

theorem split_eq {token : String} {parts : List String} (hparts : parts ≠ [])
    (hdot : ∀ p ∈ parts, '.' ∉ p.toList)
    (htoken : token.toList = ['.'].intercalate (parts.map String.toList)) :
    split token '.' = parts := by
  rw [split, htoken, List.splitOn_intercalate]
  · rw [List.map_map]
    calc parts.map (String.ofList ∘ String.toList) = parts.map id :=
          List.map_congr_left fun _ _ ↦ String.ofList_toList
      _ = parts := List.map_id _
  · simpa using hdot
  · simpa using hparts

theorem dot_notMem_encodePayload (payload : Json) : '.' ∉ (encodePayload payload).toList :=
  fun h ↦ (mem_base64url h).1 rfl

theorem dot_notMem_signPayload (P : Platform) (payload secret : String) :
    '.' ∉ (signPayload P payload secret).toList := fun h ↦ (mem_base64url h).1 rfl

/-! ## Addresses -/

/-- The characters of the addresses the schema accepts. -/
def emailChars : List Char :=
  "abcdefghijklmnopqrstuvwxyzABCDEFGHIJKLMNOPQRSTUVWXYZ0123456789_+-.@".toList ++ ['\x27']

theorem emailChars_eq : emailChars =
    ['a', 'b', 'c', 'd', 'e', 'f', 'g', 'h', 'i', 'j', 'k', 'l', 'm', 'n', 'o', 'p', 'q', 'r',
      's', 't', 'u', 'v', 'w', 'x', 'y', 'z', 'A', 'B', 'C', 'D', 'E', 'F', 'G', 'H', 'I', 'J',
      'K', 'L', 'M', 'N', 'O', 'P', 'Q', 'R', 'S', 'T', 'U', 'V', 'W', 'X', 'Y', 'Z', '0', '1',
      '2', '3', '4', '5', '6', '7', '8', '9', '_', '+', '-', '.', '@', '\x27'] :=
  congrArg (· ++ ['\x27']) String.toList_ofList

theorem emailChars_lower {c : Char} (h : c ∈ emailChars) :
    lowerChar c = [c.toLower] ∧ c.toLower ∈ emailChars ∧ lowerChar c.toLower = [c.toLower] ∧
      isSpace c = false ∧ c.toNat < 65536 := by
  have hall : emailChars.all fun c ↦ lowerChar c = [c.toLower] ∧ c.toLower ∈ emailChars ∧
      lowerChar c.toLower = [c.toLower] ∧ isSpace c = false ∧ c.toNat < 65536 := by
    rw [emailChars_eq]
    decide +kernel
  exact of_decide_eq_true (List.all_eq_true.mp hall c h)

theorem trim_eq_self {s : String} (h : ∀ c ∈ s.toList, c ∈ emailChars) : trim s = s := by
  have hall : ∀ l : List Char, (∀ c ∈ l, c ∈ emailChars) → l.dropWhile isSpace = l := by
    intro l hl
    cases l with
    | nil => rfl
    | cons c l =>
      rw [List.dropWhile_cons_of_neg]
      rw [(emailChars_lower (hl c List.mem_cons_self)).2.2.2.1]
      exact Bool.false_ne_true
  have hback : s.toList.rdropWhile isSpace = s.toList := by
    rw [List.rdropWhile, hall _ fun c hc ↦ h c (List.mem_reverse.mp hc), List.reverse_reverse]
  rw [trim, hall _ h, hback, String.ofList_toList]

theorem toLowerCase_email {s : String} (h : ∀ c ∈ s.toList, c ∈ emailChars) :
    (toLowerCase s).toList = s.toList.map Char.toLower := by
  rw [toLowerCase, String.toList_ofList, ← List.flatMap_singleton' (s.toList.map Char.toLower),
    List.flatMap_map]
  exact List.flatMap_congr fun c hc ↦ (emailChars_lower (h c hc)).1

theorem length_email {s : String} (h : ∀ c ∈ s.toList, c ∈ emailChars) :
    length s = s.toList.length :=
  length_of_lt fun c hc ↦ (emailChars_lower (h c hc)).2.2.2.2

/-- The regular expression of the schema. -/
structure EmailFormat (P : Platform) : Prop where
  chars : ∀ s, P.isEmail s → ∀ c ∈ s.toList, c ∈ emailChars
  lower : ∀ s, P.isEmail s → P.isEmail (toLowerCase s)

/-- The schema accepts what it has made of an address. -/
theorem emailSchema_idem {P : Platform} (hP : EmailFormat P) {value email : String}
    (h : emailSchema P value = some email) :
    emailSchema P email = some email ∧ email.toList.length ≤ 254 := by
  unfold emailSchema at h
  simp only at h
  split_ifs at h with hvalid
  obtain rfl := Option.some.inj h
  obtain ⟨hemail, hlength⟩ := hvalid
  have hchars := hP.chars _ hemail
  have hlower := hP.lower _ hemail
  have hchars' := hP.chars _ hlower
  have htoList := toLowerCase_email hchars
  have hlength' : (toLowerCase (trim value)).toList.length ≤ 254 := by
    rwa [htoList, List.length_map, ← length_email hchars]
  refine ⟨?_, hlength'⟩
  unfold emailSchema
  simp only [trim_eq_self hchars', hlower, true_and]
  rw [if_pos (by rwa [length_email hchars'])]
  refine congrArg some (String.toList_inj.mp ?_)
  rw [toLowerCase_email hchars', htoList, List.map_map]
  refine List.map_congr_left fun c hc ↦ ?_
  have hidem := (emailChars_lower (hchars c hc)).2
  rw [(emailChars_lower hidem.1).1] at hidem
  exact (List.cons.inj hidem.2.1).1

/-! ## Issued links -/

/-- A link the program was asked for. -/
inductive TokenIssue where
  | status (attemptId : String) (issuedAt : Time)
  | receipt (attemptId paymentId : String) (issuedAt : Time)
  | setup (clientId consultationId : String) (email : Option String) (locale : PublicLocale)
      (now : Time)
  deriving DecidableEq

namespace TokenIssue

def time : TokenIssue → Time
  | status _ issuedAt => issuedAt
  | receipt _ _ issuedAt => issuedAt
  | setup _ _ _ _ now => now

/-- What a token has in front of its payload. -/
def version : TokenIssue → List String
  | status .. => ["v1"]
  | receipt .. => ["v2"]
  | setup .. => []

theorem version_length (issue : TokenIssue) : ∀ v ∈ issue.version, v.toList.length = 2 := by
  cases issue <;> simp [version]

theorem dot_notMem_version (issue : TokenIssue) : ∀ v ∈ issue.version, '.' ∉ v.toList := by
  cases issue <;> simp [version]

/-- The token in the link. -/
def token (P : Platform) : TokenIssue → Except Failure String
  | status attemptId issuedAt => createPaymentStatusToken P attemptId issuedAt
  | receipt attemptId paymentId issuedAt => createPaymentReceiptToken P attemptId paymentId issuedAt
  | setup clientId consultationId email locale now =>
    (createClientAccountSetupToken P clientId consultationId email locale now).map Prod.fst

/-- The payload that is signed. -/
def json (P : Platform) : TokenIssue → Except Failure Json
  | status attemptId issuedAt => (newStatusPayload P attemptId issuedAt).map StatusPayload.json
  | receipt attemptId paymentId issuedAt =>
    (newReceiptPayload P attemptId paymentId issuedAt).map ReceiptPayload.json
  | setup clientId consultationId email locale now =>
    (newSetupPayload P clientId consultationId email locale now).map SetupPayload.json

end TokenIssue

section

variable (P : Platform) (key : String) (issues : List TokenIssue)

/-- A prefix, a payload or a signature of an issued token. -/
def IssuedPart (part : String) : Prop :=
  ∃ issue ∈ issues, ∃ token, issue.token P = .ok token ∧ part ∈ split token '.'

/-- A text of the observer's own.  It is no signature, as nobody but the server can make one, and no
collision. -/
structure OwnText (text : String) : Prop where
  unforgeable : ∀ signed, signPayload P signed key ≠ text
  collisionFree : ∀ signed, IssuedPart P issues signed →
    P.hmacSha256 key text = P.hmacSha256 key signed → text = signed

/-- A token an observer can put together. -/
def Assembled (token : String) : Prop :=
  ∀ part ∈ split token '.', IssuedPart P issues part ∨ OwnText P key issues part

/-- One secret for all links. -/
structure OneSecret : Prop where
  secret : P.env "AUTH_SECRET" = key
  secret_length : 32 ≤ length key
  noOther : ∀ name ∈ ["PAYMENT_STATUS_SIGNING_SECRET", "PAYMENT_RECEIPT_SIGNING_SECRET",
    "CLIENT_ACCOUNT_SETUP_SIGNING_SECRET"], P.env name = ""

/-- One secret for all links, and what the libraries promise. -/
structure TokenAssumptions : Prop extends OneSecret P key where
  digest : ∀ text, isDigest (P.hmacSha256 key text)
  collisionFree : ∀ a b, IssuedPart P issues a → IssuedPart P issues b →
    P.hmacSha256 key a = P.hmacSha256 key b → a = b
  uuid : ∀ s, P.isUuid s → s.toList.length = 36
  email : EmailFormat P
  /-- `JSON.parse` undoes `JSON.stringify`. -/
  parseJson : ∀ issue ∈ issues, ∀ payload, issue.json P = .ok payload →
    P.parseJson payload.stringify = some payload
  /-- The clock is one of our days, in milliseconds a `Date` can have. -/
  clock : ∀ issue ∈ issues, 0 < issue.time ∧ issue.time ≤ 8640000000000000

end

section

variable {P : Platform} {key : String} {issues : List TokenIssue}

/-! ### Valid payloads -/

theorem configuredNumber_mem {name : String} {low high n : ℤ}
    (h : configuredNumber P name low high = some n) : low ≤ n ∧ n ≤ high :=
  of_decide_eq_true (Option.filter_eq_some_iff.mp h).2

theorem paymentReservationMinutes_mem :
    5 ≤ paymentReservationMinutes P ∧ paymentReservationMinutes P ≤ 60 := by
  unfold paymentReservationMinutes
  cases h : configuredNumber P "PAYMENT_ATTEMPT_EXPIRY_MINUTES" 5 60 with
  | none => exact ⟨by decide, by decide⟩
  | some n => exact configuredNumber_mem h

theorem paymentStatusTokenMaxAgeSeconds_mem :
    0 < paymentStatusTokenMaxAgeSeconds P ∧ paymentStatusTokenMaxAgeSeconds P ≤ 7200 := by
  unfold paymentStatusTokenMaxAgeSeconds
  cases h : configuredNumber P "PAYMENT_STATUS_TOKEN_MAX_AGE_SECONDS" 1800 7200 with
  | none =>
    have hminutes := paymentReservationMinutes_mem (P := P)
    rw [Option.getD_none]
    omega
  | some n =>
    have hn := configuredNumber_mem h
    rw [Option.getD_some]
    omega

theorem paymentReceiptTokenMaxAgeSeconds_mem :
    0 < paymentReceiptTokenMaxAgeSeconds P ∧ paymentReceiptTokenMaxAgeSeconds P ≤ 2592000 := by
  unfold paymentReceiptTokenMaxAgeSeconds
  cases h : configuredNumber P "PAYMENT_RECEIPT_TOKEN_MAX_AGE_SECONDS" 3600 2592000 with
  | none => exact ⟨by decide, by decide⟩
  | some n =>
    have hn := configuredNumber_mem h
    rw [Option.getD_some]
    omega

theorem uuidOrThrow_eq_ok {value id : String} :
    uuidOrThrow P value = .ok id ↔ P.isUuid value ∧ value = id := by
  unfold uuidOrThrow
  by_cases h : P.isUuid value <;> simp [h]

theorem toUnixSeconds_mem {t : ℤ} (hpos : 0 < t) (hle : t ≤ 8640000000000000) :
    0 ≤ toUnixSeconds t ∧ toUnixSeconds t ≤ 8640000000000 := by
  unfold toUnixSeconds
  omega

theorem newStatusPayload_eq_ok {attemptId : String} {issuedAt : Time} {p : StatusPayload}
    (h : newStatusPayload P attemptId issuedAt = .ok p) (hpos : 0 < issuedAt)
    (hle : issuedAt ≤ 8640000000000000) : p.Valid P ∧ p.attemptId = attemptId := by
  simp only [newStatusPayload, bind_eq_ok, uuidOrThrow_eq_ok, pure_eq_ok] at h
  obtain ⟨_, ⟨hid, rfl⟩, rfl⟩ := h
  have hage := paymentStatusTokenMaxAgeSeconds_mem (P := P)
  have hiat := toUnixSeconds_mem hpos hle
  refine ⟨⟨hid, hiat.1, ?_, ?_⟩, rfl⟩
  · simp only
    omega
  · simp only
    omega

theorem newReceiptPayload_eq_ok {attemptId paymentId : String} {issuedAt : Time} {p : ReceiptPayload}
    (h : newReceiptPayload P attemptId paymentId issuedAt = .ok p) (hpos : 0 < issuedAt)
    (hle : issuedAt ≤ 8640000000000000) : p.Valid P ∧ p.attemptId = attemptId := by
  simp only [newReceiptPayload, bind_eq_ok, uuidOrThrow_eq_ok, pure_eq_ok] at h
  obtain ⟨_, ⟨hid, rfl⟩, _, ⟨hid', rfl⟩, rfl⟩ := h
  have hage := paymentReceiptTokenMaxAgeSeconds_mem (P := P)
  have hiat := toUnixSeconds_mem hpos hle
  refine ⟨⟨hid, hid', hiat.1, ?_, ?_⟩, rfl⟩
  · simp only
    omega
  · simp only
    omega

theorem newSetupPayload_eq_ok {clientId consultationId : String} {email : Option String}
    {locale : PublicLocale} {now : Time} {p : SetupPayload} (hP : EmailFormat P)
    (h : newSetupPayload P clientId consultationId email locale now = .ok p) (hpos : 0 < now)
    (hle : now ≤ 8640000000000000) :
    p.Valid P ∧ ∀ e ∈ p.email, e.toList.length ≤ 254 := by
  have hbound : ∀ n : ℤ, n ≤ 8640000000000000 → n < n + 1800000 ∧ n + 1800000 ≤ 2 ^ 53 - 1 := by
    intro n hn
    omega
  have hexp := hbound now hle
  simp only [newSetupPayload, bind_eq_ok, uuidOrThrow_eq_ok] at h
  obtain ⟨_, ⟨hid, rfl⟩, _, ⟨hid', rfl⟩, h⟩ := h
  split at h
  · rename_i value _
    cases hvalue : emailSchema P value with
    | none =>
      rw [hvalue] at h
      cases h
    | some e =>
      rw [hvalue] at h
      cases h
      obtain ⟨haccepted, hlength⟩ := emailSchema_idem hP hvalue
      refine ⟨⟨hid, hid', fun e' he ↦ ?_, rfl, hpos, hexp.1, hexp.2⟩, fun e' he ↦ ?_⟩
      · obtain rfl := Option.some.inj he
        exact haccepted
      · obtain rfl := Option.some.inj he
        exact hlength
  · cases h
    exact ⟨⟨hid, hid', nofun, rfl, hpos, hexp.1, hexp.2⟩, nofun⟩

/-! ### Sizes of payloads -/

theorem byteSize_jsonInteger {n : ℤ} (h : 0 ≤ n) (hle : n ≤ 2 ^ 53 - 1) :
    1 ≤ byteSize (Json.chars (jsonInteger n)) ∧ byteSize (Json.chars (jsonInteger n)) ≤ 16 := by
  obtain ⟨m, rfl⟩ := Int.eq_ofNat_of_zero_le h
  have hdigits : (Nat.toDigits 10 m).all isDigit := (of_decide_eq_true (isDigits_toDigits m)).2
  rw [jsonInteger, Json.chars, toList_toString_ofNat, byteSize_of_digits hdigits]
  refine ⟨Nat.length_toDigits_pos, (Nat.length_toDigits_le_iff (by decide) (by decide)).mpr ?_⟩
  omega

theorem byteSize_fieldChars_nil : byteSize (Json.fieldChars []) = 1 := by decide

theorem byteSize_status {p : StatusPayload} (h : p.Valid P) : 33 ≤ byteSize (Json.chars p.json) := by
  have hiat := byteSize_jsonInteger h.iat (h.order.le.trans h.exp)
  have hexp := byteSize_jsonInteger (h.iat.trans h.order.le) h.exp
  have hid := byteSize_quoteChars p.attemptId
  have hkeys : byteSize (quoteChars "v") = 3 ∧ byteSize (quoteChars "attemptId") = 11 ∧
      byteSize (quoteChars "iat") = 5 ∧ byteSize (quoteChars "exp") = 5 := by decide
  rw [StatusPayload.json, byteSize_obj, byteSize_fieldChars, byteSize_fieldChars,
    byteSize_fieldChars, byteSize_fieldChars_nil, Json.chars, Json.chars]
  omega

theorem byteSize_receipt {p : ReceiptPayload} (h : p.Valid P) :
    33 ≤ byteSize (Json.chars p.json) := by
  have hiat := byteSize_jsonInteger h.iat (h.order.le.trans h.exp)
  have hexp := byteSize_jsonInteger (h.iat.trans h.order.le) h.exp
  have hid := byteSize_quoteChars p.attemptId
  have hkeys : byteSize (quoteChars "v") = 3 ∧ byteSize (quoteChars "attemptId") = 11 ∧
      byteSize (quoteChars "paymentId") = 11 ∧ byteSize (quoteChars "iat") = 5 := by decide
  rw [ReceiptPayload.json, byteSize_obj, byteSize_fieldChars, byteSize_fieldChars,
    byteSize_fieldChars, byteSize_fieldChars]
  omega

/-- A setup payload fits into the length the schema allows a token. -/
theorem byteSize_setup {p : SetupPayload} (h : p.Valid P)
    (huuid : ∀ s, P.isUuid s → s.toList.length = 36)
    (hemail : ∀ e ∈ p.email, e.toList.length ≤ 254) :
    33 ≤ byteSize (Json.chars p.json) ∧ byteSize (Json.chars p.json) ≤ 2500 := by
  obtain ⟨clientId, consultationId, email, locale, iat, exp⟩ := p
  obtain ⟨locale, rfl⟩ := Option.isSome_iff_exists.mp h.locale
  have hiat := byteSize_jsonInteger h.iat.le (h.order.le.trans h.exp)
  have hexp := byteSize_jsonInteger (h.iat.trans h.order).le h.exp
  have hclient := byteSize_quoteChars clientId
  have hconsultation := byteSize_quoteChars consultationId
  have hlocale : byteSize (quoteChars locale.text) = 4 := by cases locale <;> decide
  rw [huuid _ h.clientId] at hclient
  rw [huuid _ h.consultationId] at hconsultation
  have hkeys : byteSize (quoteChars "purpose") = 9 ∧
      byteSize (quoteChars clientAccountSetupPurpose) = 22 ∧ byteSize (quoteChars "version") = 9 ∧
      byteSize (quoteChars "clientId") = 10 ∧ byteSize (quoteChars "consultationId") = 16 ∧
      byteSize (quoteChars "email") = 7 ∧ byteSize (quoteChars "locale") = 8 ∧
      byteSize (quoteChars "iat") = 5 ∧ byteSize (quoteChars "exp") = 5 ∧
      byteSize (Json.chars (.num "2")) = 1 := by decide
  cases email with
  | none =>
    simp only [SetupPayload.json, Option.map_none, Option.map_some, Option.toList_none,
      Option.toList_some, List.append_nil, List.cons_append, List.nil_append, Option.isSome_some,
      if_true, byteSize_obj, byteSize_fieldChars, byteSize_fieldChars_nil]
    simp only [Json.chars] at hkeys hiat hexp ⊢
    omega
  | some e =>
    have haddress := byteSize_quoteChars e
    have hlength := hemail e rfl
    simp only [SetupPayload.json, Option.map_some, Option.toList_some, List.cons_append,
      List.nil_append, Option.isSome_some, if_true, byteSize_obj, byteSize_fieldChars,
      byteSize_fieldChars_nil]
    simp only [Json.chars] at hkeys hiat hexp ⊢
    omega

/-! ### Issued tokens -/

theorem signingSecret_eq (names : List String) {development message : String} (hkey : key ≠ "")
    (hother : ∀ name ∈ names, P.env name = "") (hsecret : P.env "AUTH_SECRET" = key) :
    signingSecret P (names ++ ["AUTH_SECRET"]) development message = .ok key := by
  have hnone : (names.map P.env).find? (· ≠ "") = none := by
    rw [List.find?_eq_none]
    intro value hvalue
    obtain ⟨name, hname, rfl⟩ := List.mem_map.mp hvalue
    simp [hother name hname]
  unfold signingSecret
  rw [List.map_append, List.find?_append, hnone, Option.none_or, List.map_singleton, hsecret]
  simp [hkey]

namespace OneSecret

theorem key_ne (h : OneSecret P key) : key ≠ "" := by
  rintro rfl
  exact absurd h.secret_length (by decide)

theorem receiptSecret (h : OneSecret P key) : receiptSigningSecret P = .ok key :=
  signingSecret_eq ["PAYMENT_RECEIPT_SIGNING_SECRET"] h.key_ne
    (fun _ hn ↦ h.noOther _ (by simp_all)) h.secret

theorem statusSecret (h : OneSecret P key) : statusSigningSecret P = .ok key :=
  signingSecret_eq ["PAYMENT_STATUS_SIGNING_SECRET", "PAYMENT_RECEIPT_SIGNING_SECRET"] h.key_ne
    (fun _ hn ↦ h.noOther _ (by simp at hn ⊢; tauto)) h.secret

theorem setupSecret (h : OneSecret P key) : clientAccountSetupSigningSecret P = .ok key := by
  unfold clientAccountSetupSigningSecret
  simp only [h.noOther "CLIENT_ACCOUNT_SETUP_SIGNING_SECRET" (by simp), orElse_empty, h.secret,
    h.secret_length, if_true]

/-- The parts of a token. -/
theorem parts (h : OneSecret P key) {issue : TokenIssue} {token : String}
    (htoken : issue.token P = .ok token) :
    ∃ payload, issue.json P = .ok payload ∧
      token.toList = ['.'].intercalate ((issue.version ++ [encodePayload payload,
        signPayload P (encodePayload payload) key]).map String.toList) := by
  cases issue with
  | status attemptId issuedAt =>
    simp only [TokenIssue.token, createPaymentStatusToken, bind_eq_ok, h.statusSecret,
      Except.ok.injEq, exists_eq_left', pure_eq_ok] at htoken
    obtain ⟨p, hp, rfl⟩ := htoken
    exact ⟨p.json, map_eq_ok.mpr ⟨p, hp, rfl⟩, by simp [TokenIssue.version, List.intercalate]⟩
  | receipt attemptId paymentId issuedAt =>
    simp only [TokenIssue.token, createPaymentReceiptToken, bind_eq_ok, h.receiptSecret,
      Except.ok.injEq, exists_eq_left', pure_eq_ok] at htoken
    obtain ⟨p, hp, rfl⟩ := htoken
    exact ⟨p.json, map_eq_ok.mpr ⟨p, hp, rfl⟩, by simp [TokenIssue.version, List.intercalate]⟩
  | setup clientId consultationId email locale now =>
    cases hp : newSetupPayload P clientId consultationId email locale now with
    | error e =>
      simp only [TokenIssue.token, createClientAccountSetupToken, hp, error_bind] at htoken
      cases htoken
    | ok p =>
      simp only [TokenIssue.token, createClientAccountSetupToken, hp, ok_bind, h.setupSecret] at htoken
      obtain rfl := Except.ok.inj htoken
      exact ⟨p.json, map_eq_ok.mpr ⟨p, hp, rfl⟩, by simp [TokenIssue.version, List.intercalate]⟩

end OneSecret

/-- A verification finds the parts again. -/
theorem split_token {issue : TokenIssue} {token : String} {payload : Json}
    (htoken : token.toList = ['.'].intercalate ((issue.version ++ [encodePayload payload,
      signPayload P (encodePayload payload) key]).map String.toList)) :
    split token '.' =
      issue.version ++ [encodePayload payload, signPayload P (encodePayload payload) key] := by
  refine split_eq (by simp) (fun p hp ↦ ?_) htoken
  rcases List.mem_append.mp hp with hv | hp
  · exact issue.dot_notMem_version p hv
  · rcases List.mem_pair.mp hp with rfl | rfl
    · exact dot_notMem_encodePayload payload
    · exact dot_notMem_signPayload P _ key

namespace TokenAssumptions

theorem payload_size (h : TokenAssumptions P key issues) {issue : TokenIssue}
    (hissue : issue ∈ issues) {payload : Json} (hpayload : issue.json P = .ok payload) :
    33 ≤ byteSize (Json.chars payload) := by
  obtain ⟨hpos, hle⟩ := h.clock issue hissue
  cases issue with
  | status =>
    obtain ⟨p, hp, rfl⟩ := map_eq_ok.mp hpayload
    exact byteSize_status (newStatusPayload_eq_ok hp hpos hle).1
  | receipt =>
    obtain ⟨p, hp, rfl⟩ := map_eq_ok.mp hpayload
    exact byteSize_receipt (newReceiptPayload_eq_ok hp hpos hle).1
  | setup =>
    obtain ⟨p, hp, rfl⟩ := map_eq_ok.mp hpayload
    obtain ⟨hvalid, hemail⟩ := newSetupPayload_eq_ok h.email hp hpos hle
    exact (byteSize_setup hvalid h.uuid hemail).1

/-- A signed text in an assembled token is the payload of an issued one. -/
theorem signed_issued (h : TokenAssumptions P key issues) {token text : String}
    (hassembled : Assembled P key issues token) (htext : text ∈ split token '.')
    (hsignature : signPayload P text key ∈ split token '.') :
    ∃ issue ∈ issues, ∃ payload, issue.json P = .ok payload ∧ text = encodePayload payload := by
  rcases hassembled _ hsignature with ⟨issue, hissue, token', htoken', hpart⟩ | hown
  · obtain ⟨payload, hpayload, hchars⟩ := h.parts htoken'
    have hsize := h.payload_size hissue hpayload
    have hsplit := split_token hchars
    have hissued : IssuedPart P issues (encodePayload payload) :=
      ⟨issue, hissue, token', htoken', by rw [hsplit]; simp⟩
    have hlength := length_signPayload (h.digest text)
    have hlength' := length_encodePayload payload
    rw [hsplit, List.mem_append, List.mem_pair] at hpart
    rcases hpart with hv | hencoded | hsigned
    · rw [issue.version_length _ hv] at hlength
      cases hlength
    · rw [← hencoded, hlength] at hlength'
      omega
    · -- the signature of an issued payload
      have hdigest : P.hmacSha256 key text = P.hmacSha256 key (encodePayload payload) := by
        have hbytes := base64url_injective hsigned
        obtain ⟨hlen, hhex⟩ := of_decide_eq_true (h.digest text)
        obtain ⟨hlen', hhex'⟩ := of_decide_eq_true (h.digest (encodePayload payload))
        refine String.toList_inj.mp (Js.hexBytes_inj ?_ ?_ (hlen.trans hlen'.symm) ?_ hbytes)
        · exact fun c hc ↦ of_decide_eq_true (List.all_eq_true.mp hhex c hc)
        · exact fun c hc ↦ of_decide_eq_true (List.all_eq_true.mp hhex' c hc)
        · rw [hlen]
      refine ⟨issue, hissue, payload, hpayload, ?_⟩
      rcases hassembled _ htext with hother | hown
      · exact h.collisionFree _ _ hother hissued hdigest
      · exact hown.collisionFree _ hissued hdigest
  · exact absurd rfl (hown.unforgeable text)

theorem decode_issued (h : TokenAssumptions P key issues) {issue : TokenIssue}
    (hissue : issue ∈ issues) {payload : Json} (hpayload : issue.json P = .ok payload) :
    decodePayload P (encodePayload payload) = some payload := by
  simp only [decodePayload, encodePayload, base64urlBytes_base64url, utf8Text_utf8,
    Option.getD_some]
  exact h.parseJson issue hissue payload hpayload

/-- What the verification of an issued token meets. -/
theorem issued (h : TokenAssumptions P key issues) {issue : TokenIssue} (hissue : issue ∈ issues)
    {token : String} (htoken : issue.token P = .ok token) {payload : Json}
    (hpayload : issue.json P = .ok payload) :
    split token '.' =
        issue.version ++ [encodePayload payload, signPayload P (encodePayload payload) key] ∧
      encodePayload payload ≠ "" ∧ signPayload P (encodePayload payload) key ≠ "" ∧
      decodePayload P (encodePayload payload) = some payload := by
  obtain ⟨payload', hpayload', hchars⟩ := h.parts htoken
  obtain rfl : payload' = payload := Except.ok.inj (hpayload'.symm.trans hpayload)
  have hsize := h.payload_size hissue hpayload
  refine ⟨split_token hchars, fun hempty ↦ ?_, fun hempty ↦ ?_, h.decode_issued hissue hpayload⟩
  · have hlength := length_encodePayload payload'
    rw [hempty, String.toList_empty, List.length_nil] at hlength
    omega
  · have hlength := length_signPayload (h.digest (encodePayload payload'))
    rw [hempty] at hlength
    cases hlength

/-- The schema bounds the length of a token. -/
theorem length_setup (h : TokenAssumptions P key issues) {p : SetupPayload} (hvalid : p.Valid P)
    (hemail : ∀ e ∈ p.email, e.toList.length ≤ 254) :
    32 ≤ length (encodePayload p.json ++ "." ++ signPayload P (encodePayload p.json) key) ∧
      length (encodePayload p.json ++ "." ++ signPayload P (encodePayload p.json) key) ≤ 4096 := by
  have hsize := byteSize_setup hvalid h.uuid hemail
  have hpayload := length_encodePayload p.json
  have hsignature := length_signPayload (h.digest (encodePayload p.json))
  have hchars : ∀ c ∈ (encodePayload p.json ++ "." ++
      signPayload P (encodePayload p.json) key).toList, c.toNat < 65536 := by
    intro c hc
    simp only [String.toList_append, List.mem_append] at hc
    rcases hc with (hc | hc) | hc
    · exact lt_of_mem_base64url hc
    · obtain rfl := List.mem_singleton.mp hc
      decide
    · exact lt_of_mem_base64url hc
  have hdot : (".".toList).length = 1 := rfl
  rw [length_of_lt hchars, String.toList_append, String.toList_append, List.length_append,
    List.length_append, hdot, hsignature, hpayload]
  omega

end TokenAssumptions

/-! ## Verification -/

/-- What a verification of a payment token has checked. -/
theorem verifyPaymentToken_eq_some {α : Type} {version : String} {secret : Except Failure String}
    {decode : Json → Option α} {attemptIdOf : α → Uuid} {expOf : α → ℤ} {attemptId token : String}
    {now : Time} {p : α}
    (h : verifyPaymentToken P version secret decode attemptIdOf expOf attemptId token now =
      .ok (some p)) :
    attemptIdOf p = attemptId ∧ toUnixSeconds now < expOf p ∧ ∃ key text, secret = .ok key ∧
      text ∈ split token '.' ∧ signPayload P text key ∈ split token '.' ∧
      (decodePayload P text).bind decode = some p := by
  unfold verifyPaymentToken at h
  split at h
  · cases h
  split at h
  · rename_i v text signature hsplit
    split at h
    · cases h
    obtain ⟨key, hkey, h⟩ := bind_eq_ok.mp h
    split at h
    · cases h
    · rename_i hsignature
      have hp := Except.ok.inj h
      obtain ⟨hdecode, hchecked⟩ := Option.filter_eq_some_iff.mp hp
      obtain ⟨hattempt, hexp⟩ := of_decide_eq_true hchecked
      refine ⟨hattempt, not_le.mp hexp, key, text, hkey, by rw [hsplit]; simp, ?_, hdecode⟩
      rw [hsplit, ← not_not.mp hsignature]
      simp
  · cases h

/-- A token with a valid signature is accepted if its payload is. -/
theorem verifyPaymentToken_of {α : Type} {version : String} {decode : Json → Option α}
    {attemptIdOf : α → Uuid} {expOf : α → ℤ} {attemptId token text : String} {now : Time} {p : α}
    (hid : P.isUuid attemptId) (hsplit : split token '.' = [version, text, signPayload P text key])
    (htext : text ≠ "") (hsignature : signPayload P text key ≠ "")
    (hdecode : (decodePayload P text).bind decode = some p) (hattempt : attemptIdOf p = attemptId)
    (hexp : toUnixSeconds now < expOf p) :
    verifyPaymentToken P version (.ok key) decode attemptIdOf expOf attemptId token now =
      .ok (some p) := by
  unfold verifyPaymentToken
  rw [if_neg (by simp [hid]), hsplit]
  simp only [ok_bind]
  rw [if_neg (by simp [htext, hsignature]), if_neg (by simp), hdecode]
  refine congrArg Except.ok (Option.filter_eq_some_iff.mpr ⟨rfl, decide_eq_true ⟨hattempt, ?_⟩⟩)
  exact not_le.mpr hexp

/-- What a verification of an account setup token has checked. -/
theorem verifySetup_eq_ok {token : String} {now : Time} {p : SetupPayload}
    (h : verifyClientAccountSetupToken P token now = .ok p) :
    now < p.exp ∧ ∃ key text, clientAccountSetupSigningSecret P = .ok key ∧
      text ∈ split token '.' ∧ signPayload P text key ∈ split token '.' ∧
      (decodePayload P text).bind (parseSetupPayload P) = some p := by
  obtain ⟨_, -, h⟩ := bind_eq_ok.mp h
  split at h
  · rename_i text signature rest hsplit
    simp only [bind_eq_ok, throwIf_eq_ok, orThrow_eq_ok, pure_eq_ok, not_not] at h
    obtain ⟨_, -, key, hkey, _, hsignature, payload, hdecode, _, hexp, rfl⟩ := h
    refine ⟨not_le.mp hexp, key, text, hkey, by rw [hsplit]; simp, ?_, hdecode⟩
    rw [hsplit, ← hsignature]
    simp
  · cases h

/-- A token of a length the schema allows, with a valid signature, is accepted if its payload is. -/
theorem verifySetup_of {token text : String} {now : Time} {p : SetupPayload}
    (hsecret : clientAccountSetupSigningSecret P = .ok key)
    (hlength : 32 ≤ length token ∧ length token ≤ 4096)
    (hsplit : split token '.' = [text, signPayload P text key]) (htext : text ≠ "")
    (hsignature : signPayload P text key ≠ "")
    (hdecode : (decodePayload P text).bind (parseSetupPayload P) = some p) (hexp : now < p.exp) :
    verifyClientAccountSetupToken P token now = .ok p := by
  have hcheck : checkSetupToken token = .ok () := by
    unfold checkSetupToken
    rw [throwIf_of_not (not_lt.mpr hlength.1), throwIf_of_not (not_lt.mpr hlength.2)]
    rfl
  unfold verifyClientAccountSetupToken
  rw [hcheck, hsplit]
  simp only [ok_bind, hsecret]
  rw [throwIf_of_not (by simp [htext, hsignature]), throwIf_of_not (by simp), hdecode,
    orThrow_some]
  simp only [ok_bind]
  rw [throwIf_of_not (not_le.mpr hexp)]
  rfl

/-! ## Promises -/

variable (P key issues) in
/-- Every link does what it was made for, and nothing else. -/
structure TokenPromise : Prop where
  status_accepted : ∀ attemptId issuedAt token p now, .status attemptId issuedAt ∈ issues →
    createPaymentStatusToken P attemptId issuedAt = .ok token →
    newStatusPayload P attemptId issuedAt = .ok p → toUnixSeconds now < p.exp →
    verifyPaymentStatusToken P attemptId token now = .ok (some p)
  receipt_accepted : ∀ attemptId paymentId issuedAt token p now,
    .receipt attemptId paymentId issuedAt ∈ issues →
    createPaymentReceiptToken P attemptId paymentId issuedAt = .ok token →
    newReceiptPayload P attemptId paymentId issuedAt = .ok p → toUnixSeconds now < p.exp →
    verifyPaymentReceiptToken P attemptId token now = .ok (some p)
  setup_accepted : ∀ clientId consultationId email locale createdAt token expiresAt p now,
    .setup clientId consultationId email locale createdAt ∈ issues →
    createClientAccountSetupToken P clientId consultationId email locale createdAt =
      .ok (token, expiresAt) →
    newSetupPayload P clientId consultationId email locale createdAt = .ok p → now < p.exp →
    verifyClientAccountSetupToken P token now = .ok p
  status_issued : ∀ attemptId token now p, Assembled P key issues token →
    verifyPaymentStatusToken P attemptId token now = .ok (some p) →
    ∃ issuedAt, .status attemptId issuedAt ∈ issues ∧
      newStatusPayload P attemptId issuedAt = .ok p
  receipt_issued : ∀ attemptId token now p, Assembled P key issues token →
    verifyPaymentReceiptToken P attemptId token now = .ok (some p) →
    ∃ paymentId issuedAt, .receipt attemptId paymentId issuedAt ∈ issues ∧
      newReceiptPayload P attemptId paymentId issuedAt = .ok p
  setup_issued : ∀ token now p, Assembled P key issues token →
    verifyClientAccountSetupToken P token now = .ok p →
    ∃ clientId consultationId email locale createdAt,
      .setup clientId consultationId email locale createdAt ∈ issues ∧
      newSetupPayload P clientId consultationId email locale createdAt = .ok p
  status_current : ∀ attemptId token now p,
    verifyPaymentStatusToken P attemptId token now = .ok (some p) → toUnixSeconds now < p.exp
  receipt_current : ∀ attemptId token now p,
    verifyPaymentReceiptToken P attemptId token now = .ok (some p) → toUnixSeconds now < p.exp
  setup_current : ∀ token now p, verifyClientAccountSetupToken P token now = .ok p → now < p.exp

namespace TokenAssumptions

theorem status_accepted (h : TokenAssumptions P key issues) {attemptId token : String}
    {issuedAt now : Time} {p : StatusPayload} (hissue : .status attemptId issuedAt ∈ issues)
    (htoken : createPaymentStatusToken P attemptId issuedAt = .ok token)
    (hp : newStatusPayload P attemptId issuedAt = .ok p) (hexp : toUnixSeconds now < p.exp) :
    verifyPaymentStatusToken P attemptId token now = .ok (some p) := by
  obtain ⟨hpos, hle⟩ := h.clock _ hissue
  obtain ⟨hvalid, hattempt⟩ := newStatusPayload_eq_ok hp hpos hle
  have hpayload : (TokenIssue.status attemptId issuedAt).json P = .ok p.json :=
    map_eq_ok.mpr ⟨p, hp, rfl⟩
  obtain ⟨hsplit, htext, hsignature, hdecode⟩ := h.issued hissue htoken hpayload
  unfold verifyPaymentStatusToken
  rw [h.statusSecret]
  refine verifyPaymentToken_of (hattempt ▸ hvalid.attemptId) hsplit htext hsignature ?_ hattempt hexp
  rw [hdecode]
  exact parseStatusPayload_json hvalid

theorem receipt_accepted (h : TokenAssumptions P key issues) {attemptId paymentId token : String}
    {issuedAt now : Time} {p : ReceiptPayload}
    (hissue : .receipt attemptId paymentId issuedAt ∈ issues)
    (htoken : createPaymentReceiptToken P attemptId paymentId issuedAt = .ok token)
    (hp : newReceiptPayload P attemptId paymentId issuedAt = .ok p)
    (hexp : toUnixSeconds now < p.exp) :
    verifyPaymentReceiptToken P attemptId token now = .ok (some p) := by
  obtain ⟨hpos, hle⟩ := h.clock _ hissue
  obtain ⟨hvalid, hattempt⟩ := newReceiptPayload_eq_ok hp hpos hle
  have hpayload : (TokenIssue.receipt attemptId paymentId issuedAt).json P = .ok p.json :=
    map_eq_ok.mpr ⟨p, hp, rfl⟩
  obtain ⟨hsplit, htext, hsignature, hdecode⟩ := h.issued hissue htoken hpayload
  unfold verifyPaymentReceiptToken
  rw [h.receiptSecret]
  refine verifyPaymentToken_of (hattempt ▸ hvalid.attemptId) hsplit htext hsignature ?_ hattempt hexp
  rw [hdecode]
  exact parseReceiptPayload_json hvalid

theorem setup_accepted (h : TokenAssumptions P key issues) {clientId consultationId token : String}
    {email : Option String} {locale : PublicLocale} {createdAt expiresAt now : Time}
    {p : SetupPayload} (hissue : .setup clientId consultationId email locale createdAt ∈ issues)
    (htoken : createClientAccountSetupToken P clientId consultationId email locale createdAt =
      .ok (token, expiresAt))
    (hp : newSetupPayload P clientId consultationId email locale createdAt = .ok p)
    (hexp : now < p.exp) : verifyClientAccountSetupToken P token now = .ok p := by
  obtain ⟨hpos, hle⟩ := h.clock _ hissue
  obtain ⟨hvalid, hemail⟩ := newSetupPayload_eq_ok h.email hp hpos hle
  have hpayload : (TokenIssue.setup clientId consultationId email locale createdAt).json P =
      .ok p.json := map_eq_ok.mpr ⟨p, hp, rfl⟩
  have htoken' : (TokenIssue.setup clientId consultationId email locale createdAt).token P =
      .ok token := map_eq_ok.mpr ⟨_, htoken, rfl⟩
  obtain ⟨hsplit, htext, hsignature, hdecode⟩ := h.issued hissue htoken' hpayload
  have hlength := h.length_setup hvalid hemail
  simp only [createClientAccountSetupToken, hp, ok_bind, h.setupSecret] at htoken
  obtain rfl := (Prod.mk.inj (Except.ok.inj htoken)).1
  refine verifySetup_of h.setupSecret hlength hsplit htext hsignature ?_ hexp
  rw [hdecode]
  exact parseSetupPayload_json hvalid

/-- What is accepted as a status is the payload of an issued link, and of no other kind of link. -/
theorem status_issued (h : TokenAssumptions P key issues) {attemptId token : String} {now : Time}
    {p : StatusPayload} (hassembled : Assembled P key issues token)
    (hverify : verifyPaymentStatusToken P attemptId token now = .ok (some p)) :
    ∃ issuedAt, .status attemptId issuedAt ∈ issues ∧
      newStatusPayload P attemptId issuedAt = .ok p := by
  obtain ⟨hattempt, -, secret, text, hsecret, htext, hsignature, hdecode⟩ :=
    verifyPaymentToken_eq_some hverify
  obtain rfl := Except.ok.inj (h.statusSecret.symm.trans hsecret)
  obtain ⟨issue, hissue, payload, hpayload, rfl⟩ := h.signed_issued hassembled htext hsignature
  obtain ⟨hpos, hle⟩ := h.clock issue hissue
  rw [h.decode_issued hissue hpayload, Option.bind_some] at hdecode
  cases issue with
  | status attemptId' issuedAt =>
    obtain ⟨q, hq, rfl⟩ := map_eq_ok.mp hpayload
    obtain ⟨hvalid, hattempt'⟩ := newStatusPayload_eq_ok hq hpos hle
    obtain rfl := Option.some.inj ((parseStatusPayload_json hvalid).symm.trans hdecode)
    obtain rfl : attemptId' = attemptId := hattempt'.symm.trans hattempt
    exact ⟨issuedAt, hissue, hq⟩
  | receipt =>
    obtain ⟨q, -, rfl⟩ := map_eq_ok.mp hpayload
    cases (parseStatusPayload_receipt q).symm.trans hdecode
  | setup =>
    obtain ⟨q, -, rfl⟩ := map_eq_ok.mp hpayload
    cases (parseStatusPayload_setup q).symm.trans hdecode

theorem receipt_issued (h : TokenAssumptions P key issues) {attemptId token : String} {now : Time}
    {p : ReceiptPayload} (hassembled : Assembled P key issues token)
    (hverify : verifyPaymentReceiptToken P attemptId token now = .ok (some p)) :
    ∃ paymentId issuedAt, .receipt attemptId paymentId issuedAt ∈ issues ∧
      newReceiptPayload P attemptId paymentId issuedAt = .ok p := by
  obtain ⟨hattempt, -, secret, text, hsecret, htext, hsignature, hdecode⟩ :=
    verifyPaymentToken_eq_some hverify
  obtain rfl := Except.ok.inj (h.receiptSecret.symm.trans hsecret)
  obtain ⟨issue, hissue, payload, hpayload, rfl⟩ := h.signed_issued hassembled htext hsignature
  obtain ⟨hpos, hle⟩ := h.clock issue hissue
  rw [h.decode_issued hissue hpayload, Option.bind_some] at hdecode
  cases issue with
  | status =>
    obtain ⟨q, -, rfl⟩ := map_eq_ok.mp hpayload
    cases (parseReceiptPayload_status q).symm.trans hdecode
  | receipt attemptId' paymentId issuedAt =>
    obtain ⟨q, hq, rfl⟩ := map_eq_ok.mp hpayload
    obtain ⟨hvalid, hattempt'⟩ := newReceiptPayload_eq_ok hq hpos hle
    obtain rfl := Option.some.inj ((parseReceiptPayload_json hvalid).symm.trans hdecode)
    obtain rfl : attemptId' = attemptId := hattempt'.symm.trans hattempt
    exact ⟨paymentId, issuedAt, hissue, hq⟩
  | setup =>
    obtain ⟨q, -, rfl⟩ := map_eq_ok.mp hpayload
    cases (parseReceiptPayload_setup q).symm.trans hdecode

theorem setup_issued (h : TokenAssumptions P key issues) {token : String} {now : Time}
    {p : SetupPayload} (hassembled : Assembled P key issues token)
    (hverify : verifyClientAccountSetupToken P token now = .ok p) :
    ∃ clientId consultationId email locale createdAt,
      .setup clientId consultationId email locale createdAt ∈ issues ∧
      newSetupPayload P clientId consultationId email locale createdAt = .ok p := by
  obtain ⟨-, secret, text, hsecret, htext, hsignature, hdecode⟩ := verifySetup_eq_ok hverify
  obtain rfl := Except.ok.inj (h.setupSecret.symm.trans hsecret)
  obtain ⟨issue, hissue, payload, hpayload, rfl⟩ := h.signed_issued hassembled htext hsignature
  obtain ⟨hpos, hle⟩ := h.clock issue hissue
  rw [h.decode_issued hissue hpayload, Option.bind_some] at hdecode
  cases issue with
  | status =>
    obtain ⟨q, -, rfl⟩ := map_eq_ok.mp hpayload
    cases (parseSetupPayload_status q).symm.trans hdecode
  | receipt =>
    obtain ⟨q, -, rfl⟩ := map_eq_ok.mp hpayload
    cases (parseSetupPayload_receipt q).symm.trans hdecode
  | setup clientId consultationId email locale createdAt =>
    obtain ⟨q, hq, rfl⟩ := map_eq_ok.mp hpayload
    obtain ⟨hvalid, -⟩ := newSetupPayload_eq_ok h.email hq hpos hle
    obtain rfl := Option.some.inj ((parseSetupPayload_json hvalid).symm.trans hdecode)
    exact ⟨clientId, consultationId, email, locale, createdAt, hissue, hq⟩

end TokenAssumptions

/-- One secret for the three kinds of link is enough to keep them apart. -/
theorem links_not_confused (h : TokenAssumptions P key issues) : TokenPromise P key issues where
  status_accepted _ _ _ _ _ := h.status_accepted
  receipt_accepted _ _ _ _ _ _ := h.receipt_accepted
  setup_accepted _ _ _ _ _ _ _ _ _ := h.setup_accepted
  status_issued _ _ _ _ := h.status_issued
  receipt_issued _ _ _ _ := h.receipt_issued
  setup_issued _ _ _ := h.setup_issued
  status_current _ _ _ _ hverify := (verifyPaymentToken_eq_some hverify).2.1
  receipt_current _ _ _ _ hverify := (verifyPaymentToken_eq_some hverify).2.1
  setup_current _ _ _ hverify := (verifySetup_eq_ok hverify).1

end

/-! ## One link of each kind -/

def sampleStatus : StatusPayload :=
  { attemptId := "00000000-0000-4000-8000-000000000001", iat := 1700000000, exp := 1700004500 }

def sampleReceipt : ReceiptPayload where
  attemptId := "00000000-0000-4000-8000-000000000001"
  paymentId := "00000000-0000-4000-8000-000000000002"
  iat := 1700000000
  exp := 1700604800

def sampleSetup : SetupPayload where
  clientId := "00000000-0000-4000-8000-000000000003"
  consultationId := "00000000-0000-4000-8000-000000000004"
  email := some "guest@example.com"
  locale := some .en
  iat := 1700000000000
  exp := 1700001800000

def sampleIssues : List TokenIssue :=
  [.status sampleStatus.attemptId 1700000000000,
    .receipt sampleReceipt.attemptId sampleReceipt.paymentId 1700000000000,
    .setup sampleSetup.clientId sampleSetup.consultationId (some "guest@example.com") .en
      1700000000000]

/-- The digests of the parts of these links, under `sampleKey`. -/
def sampleDigests : List (String × String) := [
  (encodePayload sampleStatus.json,
    "b26652e2410dddbb9a8865a905a9dc0a6b4e498bb5014b3b6c9ca9a1c3b6706f"),
  (encodePayload sampleReceipt.json,
    "e7456be1cc18449ee9643927dbf80aec51e0b4a35b67fa8ac42ad6039096bda6"),
  (encodePayload sampleSetup.json,
    "7c64889b6ae3f3fabcb64a211d99e88b672069b9c517a318cac1d359ad5c4b01"),
  ("v1",
    "bbef3e934e2826002afd13cb541f9431b4d30c59a65a0ab04fdcc540df4aefb7"),
  ("v2",
    "79be5bd8c5c6e385ada1a9ad6e160287278dcfc6db99c8d2894df956abc3acb0"),
  ("smZS4kEN3buaiGWpBancCmtOSYu1AUs7bJypocO2cG8",
    "d30e8c6b6e31d5d9462c1cd1b44b399a1089e9f48b320a78d4ef3b8d2f4161d5"),
  ("50Vr4cwYRJ7pZDkn2_gK7FHgtKNbZ_qKxCrWA5CWvaY",
    "91bdbcd1264fa700bcf2ec4174ecb9ec8ef299f1dae1d8f853bedb6a02de9217"),
  ("fGSIm2rj8_q8tkohHZnoi2cgabnFF6MYysHTWa1cSwE",
    "90372c1e24a86450e8762d459dc948d2eb1f448663bf6f07bf3434f5407c8241")]

def sampleKey : String := "sample-auth-secret-for-signed-links-only"

def linkPlatform : Platform :=
  { plainPlatform with
    isEmail := fun s ↦ s = "guest@example.com"
    parseJson := fun text ↦ [sampleStatus.json, sampleReceipt.json, sampleSetup.json].find?
      fun payload ↦ payload.stringify = text
    hmacSha256 := fun _ text ↦
      (sampleDigests.lookup text).getD (String.ofList (List.replicate 64 '0'))
    env := fun name ↦ if name = "AUTH_SECRET" then sampleKey else "" }

theorem sampleStatus_new :
    newStatusPayload linkPlatform sampleStatus.attemptId 1700000000000 = .ok sampleStatus := by
  decide +kernel

theorem sampleReceipt_new : newReceiptPayload linkPlatform sampleReceipt.attemptId
    sampleReceipt.paymentId 1700000000000 = .ok sampleReceipt := by decide +kernel

theorem sampleSetup_new : newSetupPayload linkPlatform sampleSetup.clientId
    sampleSetup.consultationId (some "guest@example.com") .en 1700000000000 = .ok sampleSetup := by
  decide +kernel

theorem linkSecret : OneSecret linkPlatform sampleKey where
  secret := rfl
  secret_length := by decide
  noOther := by decide

theorem stringify_ne {a b : Json} (h : Json.chars a ≠ Json.chars b) : a.stringify ≠ b.stringify := by
  intro heq
  have hchars := congrArg String.toList heq
  rw [Json.stringify, Json.stringify, String.toList_ofList, String.toList_ofList] at hchars
  exact h hchars

theorem encodePayload_ne {a b : Json} (h : Json.chars a ≠ Json.chars b) :
    encodePayload a ≠ encodePayload b := by
  intro heq
  have hutf8 : utf8Text (utf8 a.stringify) = utf8Text (utf8 b.stringify) :=
    congrArg utf8Text (base64url_injective heq)
  rw [utf8Text_utf8, utf8Text_utf8] at hutf8
  exact stringify_ne h (Option.some.inj hutf8)

theorem sample_chars :
    Json.chars sampleReceipt.json ≠ Json.chars sampleStatus.json ∧
      Json.chars sampleSetup.json ≠ Json.chars sampleStatus.json ∧
      Json.chars sampleSetup.json ≠ Json.chars sampleReceipt.json := by
  decide +kernel

theorem lookup_cons_ne {k a b : String} {l : List (String × String)} (h : k ≠ a) :
    ((a, b) :: l).lookup k = l.lookup k := by
  rw [List.lookup_cons, beq_false_of_ne h]

theorem lookup_sample :
    sampleDigests.lookup (encodePayload sampleStatus.json) =
        some "b26652e2410dddbb9a8865a905a9dc0a6b4e498bb5014b3b6c9ca9a1c3b6706f" ∧
      sampleDigests.lookup (encodePayload sampleReceipt.json) =
        some "e7456be1cc18449ee9643927dbf80aec51e0b4a35b67fa8ac42ad6039096bda6" ∧
      sampleDigests.lookup (encodePayload sampleSetup.json) =
        some "7c64889b6ae3f3fabcb64a211d99e88b672069b9c517a318cac1d359ad5c4b01" := by
  obtain ⟨hreceipt, hsetup, hsetup'⟩ := sample_chars
  refine ⟨List.lookup_cons_self, ?_, ?_⟩
  · exact (lookup_cons_ne (encodePayload_ne hreceipt)).trans List.lookup_cons_self
  · exact ((lookup_cons_ne (encodePayload_ne hsetup)).trans
      (lookup_cons_ne (encodePayload_ne hsetup'))).trans List.lookup_cons_self

theorem signPayload_sample :
    signPayload linkPlatform (encodePayload sampleStatus.json) sampleKey =
        "smZS4kEN3buaiGWpBancCmtOSYu1AUs7bJypocO2cG8" ∧
      signPayload linkPlatform (encodePayload sampleReceipt.json) sampleKey =
        "50Vr4cwYRJ7pZDkn2_gK7FHgtKNbZ_qKxCrWA5CWvaY" ∧
      signPayload linkPlatform (encodePayload sampleSetup.json) sampleKey =
        "fGSIm2rj8_q8tkohHZnoi2cgabnFF6MYysHTWa1cSwE" := by
  obtain ⟨hstatus, hreceipt, hsetup⟩ := lookup_sample
  refine ⟨?_, ?_, ?_⟩
  · simp only [signPayload, linkPlatform, hstatus, Option.getD_some]
    decide +kernel
  · simp only [signPayload, linkPlatform, hreceipt, Option.getD_some]
    decide +kernel
  · simp only [signPayload, linkPlatform, hsetup, Option.getD_some]
    decide +kernel

theorem sampleIssues_json {issue : TokenIssue} (h : issue ∈ sampleIssues) :
    (issue.version = ["v1"] ∧ issue.json linkPlatform = .ok sampleStatus.json) ∨
      (issue.version = ["v2"] ∧ issue.json linkPlatform = .ok sampleReceipt.json) ∨
      (issue.version = [] ∧ issue.json linkPlatform = .ok sampleSetup.json) := by
  simp only [sampleIssues, List.mem_cons, List.not_mem_nil, or_false] at h
  rcases h with rfl | rfl | rfl
  · exact .inl ⟨rfl, map_eq_ok.mpr ⟨_, sampleStatus_new, rfl⟩⟩
  · exact .inr (.inl ⟨rfl, map_eq_ok.mpr ⟨_, sampleReceipt_new, rfl⟩⟩)
  · exact .inr (.inr ⟨rfl, map_eq_ok.mpr ⟨_, sampleSetup_new, rfl⟩⟩)

theorem mem_sampleDigests {part : String} (h : IssuedPart linkPlatform sampleIssues part) :
    part ∈ sampleDigests.map Prod.fst := by
  obtain ⟨issue, hissue, token, htoken, hpart⟩ := h
  obtain ⟨payload, hpayload, hchars⟩ := linkSecret.parts htoken
  obtain ⟨hstatus, hreceipt, hsetup⟩ := signPayload_sample
  rw [split_token hchars] at hpart
  rcases sampleIssues_json hissue with ⟨hversion, hjson⟩ | ⟨hversion, hjson⟩ | ⟨hversion, hjson⟩
  · obtain rfl := Except.ok.inj (hpayload.symm.trans hjson)
    rw [hversion, hstatus] at hpart
    simp only [List.cons_append, List.nil_append, List.mem_cons, List.not_mem_nil, or_false] at hpart
    rcases hpart with rfl | rfl | rfl <;>
      simp only [sampleDigests, List.map_cons, List.mem_cons, true_or, or_true]
  · obtain rfl := Except.ok.inj (hpayload.symm.trans hjson)
    rw [hversion, hreceipt] at hpart
    simp only [List.cons_append, List.nil_append, List.mem_cons, List.not_mem_nil, or_false] at hpart
    rcases hpart with rfl | rfl | rfl <;>
      simp only [sampleDigests, List.map_cons, List.mem_cons, true_or, or_true]
  · obtain rfl := Except.ok.inj (hpayload.symm.trans hjson)
    rw [hversion, hsetup] at hpart
    simp only [List.nil_append, List.mem_cons, List.not_mem_nil, or_false] at hpart
    rcases hpart with rfl | rfl <;>
      simp only [sampleDigests, List.map_cons, List.mem_cons, true_or, or_true]

theorem isDigest_of_toList {s : String} {l : List Char} (hs : s.toList = l) (hlength : l.length = 64)
    (hdigits : l.all (· ∈ hexDigits)) : isDigest s := by
  rw [isDigest, hs]
  exact decide_eq_true ⟨hlength, hdigits⟩

theorem ne_of_toList {s t : String} {l m : List Char} (hs : s.toList = l) (ht : t.toList = m)
    (h : l ≠ m) : s ≠ t := by
  rintro rfl
  exact h (hs.symm.trans ht)

theorem isDigest_sampleDigests : ∀ digest ∈ sampleDigests.map Prod.snd, isDigest digest := by
  simp only [sampleDigests, List.map_cons, List.map_nil, List.forall_mem_cons]
  refine ⟨?_, ?_, ?_, ?_, ?_, ?_, ?_, ?_, nofun⟩ <;>
    exact isDigest_of_toList String.toList_ofList (by decide) (by decide)

theorem nodup_sampleDigests : (sampleDigests.map Prod.snd).Nodup := by
  simp only [sampleDigests, List.map_cons, List.map_nil, List.nodup_cons, List.mem_cons, not_or,
    List.not_mem_nil, not_false_eq_true, List.nodup_nil, and_true]
  refine ⟨⟨?_, ?_, ?_, ?_, ?_, ?_, ?_⟩, ⟨?_, ?_, ?_, ?_, ?_, ?_⟩, ⟨?_, ?_, ?_, ?_, ?_⟩, ⟨?_, ?_, ?_, ?_⟩,
    ⟨?_, ?_, ?_⟩, ⟨?_, ?_⟩, ?_⟩ <;>
    exact ne_of_toList String.toList_ofList String.toList_ofList (by decide)

theorem hmacSha256_sample {text : String} (h : text ∈ sampleDigests.map Prod.fst) :
    (text, linkPlatform.hmacSha256 sampleKey text) ∈ sampleDigests := by
  obtain ⟨digest, hdigest⟩ : ∃ digest, sampleDigests.lookup text = some digest := by
    rw [← Option.isSome_iff_exists, List.lookup_isSome_iff]
    obtain ⟨entry, hentry, rfl⟩ := List.mem_map.mp h
    exact ⟨entry, hentry, beq_self_eq_true _⟩
  obtain ⟨l, r, hsplit, -⟩ := List.lookup_eq_some_iff.mp hdigest
  have hvalue : linkPlatform.hmacSha256 sampleKey text = digest := by
    simp only [linkPlatform, hdigest, Option.getD_some]
  rw [hvalue, hsplit]
  simp

theorem sample_collisionFree {a b : String} (ha : a ∈ sampleDigests.map Prod.fst)
    (hb : b ∈ sampleDigests.map Prod.fst)
    (h : linkPlatform.hmacSha256 sampleKey a = linkPlatform.hmacSha256 sampleKey b) : a = b := by
  have ha' := hmacSha256_sample ha
  have hb' := hmacSha256_sample hb
  rw [h] at ha'
  generalize linkPlatform.hmacSha256 sampleKey b = digest at ha' hb'
  exact congrArg Prod.fst (List.inj_on_of_nodup_map nodup_sampleDigests ha' hb' rfl)

theorem parseJson_sample :
    linkPlatform.parseJson sampleStatus.json.stringify = some sampleStatus.json ∧
      linkPlatform.parseJson sampleReceipt.json.stringify = some sampleReceipt.json ∧
      linkPlatform.parseJson sampleSetup.json.stringify = some sampleSetup.json := by
  obtain ⟨hreceipt, hsetup, hsetup'⟩ := sample_chars
  simp only [linkPlatform]
  refine ⟨?_, ?_, ?_⟩
  · rw [List.find?_cons_of_pos]
    exact decide_eq_true rfl
  · rw [List.find?_cons_of_neg, List.find?_cons_of_pos]
    · exact decide_eq_true rfl
    · exact fun h ↦ stringify_ne hreceipt (of_decide_eq_true h).symm
  · rw [List.find?_cons_of_neg, List.find?_cons_of_neg, List.find?_cons_of_pos]
    · exact decide_eq_true rfl
    · exact fun h ↦ stringify_ne hsetup' (of_decide_eq_true h).symm
    · exact fun h ↦ stringify_ne hsetup (of_decide_eq_true h).symm

theorem sample_tokenAssumptions : TokenAssumptions linkPlatform sampleKey sampleIssues :=
  { linkSecret with
    digest := by
      intro text
      cases htext : sampleDigests.lookup text with
      | none =>
        simp only [linkPlatform, htext, Option.getD_none]
        exact isDigest_of_toList String.toList_ofList (by decide) (by decide)
      | some digest =>
        obtain ⟨l, r, hsplit, -⟩ := List.lookup_eq_some_iff.mp htext
        simp only [linkPlatform, htext, Option.getD_some]
        exact isDigest_sampleDigests digest (List.mem_map.mpr ⟨(text, digest), by simp [hsplit], rfl⟩)
    collisionFree := fun a b ha hb ↦
      sample_collisionFree (mem_sampleDigests ha) (mem_sampleDigests hb)
    uuid := fun _ ↦ length_plainUuid
    email := by
      refine ⟨fun s hs ↦ ?_, fun s hs ↦ ?_⟩
      · obtain rfl : s = "guest@example.com" := of_decide_eq_true hs
        have hall : "guest@example.com".toList.all (· ∈ emailChars) := by
          rw [emailChars_eq]
          decide +kernel
        exact fun c hc ↦ of_decide_eq_true (List.all_eq_true.mp hall c hc)
      · obtain rfl : s = "guest@example.com" := of_decide_eq_true hs
        decide +kernel
    parseJson := by
      intro issue hissue payload hpayload
      rcases sampleIssues_json hissue with ⟨-, hjson⟩ | ⟨-, hjson⟩ | ⟨-, hjson⟩
      · obtain rfl := Except.ok.inj (hpayload.symm.trans hjson)
        exact parseJson_sample.1
      · obtain rfl := Except.ok.inj (hpayload.symm.trans hjson)
        exact parseJson_sample.2.1
      · obtain rfl := Except.ok.inj (hpayload.symm.trans hjson)
        exact parseJson_sample.2.2
    clock := by decide }

theorem links_not_confused_sample : TokenPromise linkPlatform sampleKey sampleIssues :=
  links_not_confused sample_tokenAssumptions

end KmtLegal
