import KmtLegal.Database
import KmtLegal.Js.Date

/-!
# The platform

The third-party code the payment services rest on, as parameters: the decimal parser, the
validation library's UUID format, JSON and the hash functions.  Results that need a fact about
one of them take it as a hypothesis.
-/

namespace KmtLegal

open Relational

inductive PaymentProviderName where
  | paytabs | paymob
  deriving DecidableEq

def PaymentProviderName.text : PaymentProviderName → String
  | paytabs => "paytabs"
  | paymob => "paymob"

/-- What `new Prisma.Decimal(text)` comes to.  `NaN` and the infinities are values that equal no
amount. -/
inductive DecimalResult where
  | throws
  | notFinite
  | finite (value : Decimal)
  deriving DecidableEq

structure Platform where
  /-- `new Prisma.Decimal(text)`. -/
  decimal : String → DecimalResult
  /-- `z.string().uuid()` accepts the text. -/
  isUuid : String → Bool
  /-- `z.string().email()` accepts the text. -/
  isEmail : String → Bool
  /-- `JSON.parse(text)`; `none` if it throws. -/
  parseJson : String → Option Js.Json
  /-- `new Date(text).getTime()`; `none` if it is `NaN`. -/
  parseDate : String → Option Time
  /-- `date.toISOString()`. -/
  isoString : Time → String
  /-- `date.getFullYear()`, which depends on the time zone of the server. -/
  localFullYear : Time → ℤ
  /-- The value of a number. -/
  numberValue : Js.Number → ℚ
  /-- The number nearest to a value. -/
  roundNumber : ℚ → ℚ
  /-- The text of bytes that are not UTF-8, with replacement characters. -/
  lossyText : List UInt8 → String
  /-- Lower-case hexadecimal digests. -/
  sha256 : String → String
  hmacSha256 : (secret text : String) → String
  hmacSha512 : (secret text : String) → String
  /-- `(cents / 100).toFixed(2)` of a whole number of cents too large to be exact. -/
  largeCentsText : ℕ → String
  /-- An environment variable, empty if it is not set. -/
  env : String → String

/-- `parseWithSchema(uuidSchema, value, message)`. -/
def Platform.parseUuid (P : Platform) (value message : String) : Except Failure Uuid :=
  if P.isUuid value then .ok value
  else .error (.validation message
    [{ message := "Invalid UUID", code := some "invalid_format" }])

theorem Platform.parseUuid_eq_ok {P : Platform} {value message : String} {id : Uuid} :
    P.parseUuid value message = .ok id ↔ P.isUuid value ∧ value = id := by
  unfold Platform.parseUuid
  by_cases h : P.isUuid value <;> simp [h]

/-! ## A platform to evaluate with

Decimals without sign or exponent and version 1 to 8 UUIDs are read as the libraries read them;
the hash functions are left empty and are filled in at the texts an evaluation needs. -/

/-- `new Prisma.Decimal` of plain digits with an optional fraction. -/
def plainDecimal (s : String) : DecimalResult :=
  let whole := s.toList.takeWhile Js.isDigit
  match s.toList.dropWhile Js.isDigit with
  | [] => if Js.isDigits whole then .finite (Js.digitsValue whole) else .throws
  | c :: fraction =>
    if Js.isDigits whole ∧ c = '.' ∧ Js.isDigits fraction then
      .finite (mkRat (Js.digitsValue (whole ++ fraction)) (10 ^ fraction.length))
    else .throws

/-- Five hyphenated groups of hexadecimal digits, with a version and a variant. -/
def plainUuid (s : String) : Bool :=
  let hex (c : Char) : Bool := Js.isDigit c ∨ ('a' ≤ c.toLower ∧ c.toLower ≤ 'f')
  match s.toList.splitOn '-' with
  | [a, b, c, d, e] =>
    [a, b, c, d, e].all (·.all hex) ∧ [a, b, c, d, e].map List.length = [8, 4, 4, 4, 12] ∧
      (c.head?.any fun v ↦ '1' ≤ v ∧ v ≤ '8') ∧
      (d.head?.any fun v ↦ v.toLower ∈ ['8', '9', 'a', 'b'])
  | _ => false

theorem length_plainUuid {s : String} (h : plainUuid s) : s.toList.length = 36 := by
  have hjoin : ['-'].intercalate (s.toList.splitOn '-') = s.toList := List.intercalate_splitOn '-'
  unfold plainUuid at h
  simp only at h
  split at h
  · rename_i a b c d e hsplit
    have hlengths := (of_decide_eq_true h).2.1
    simp only [List.map_cons, List.map_nil, List.cons.injEq, and_true] at hlengths
    rw [← hjoin, hsplit]
    simp [List.intercalate, hlengths]
  · cases h

def plainPlatform : Platform where
  decimal := plainDecimal
  isUuid := plainUuid
  isEmail _ := false
  parseJson _ := none
  parseDate _ := none
  isoString t := toString t
  localFullYear := Js.utcFullYear
  numberValue n :=
    match plainDecimal n.text with
    | .finite value => value
    | .throws | .notFinite => 0
  roundNumber value := value
  lossyText _ := ""
  sha256 _ := ""
  hmacSha256 _ _ := ""
  hmacSha512 _ _ := ""
  largeCentsText _ := ""
  env _ := ""

end KmtLegal
