import Mathlib.Data.Nat.Notation
import KmtLegal.Relational.Transaction

/-!
# Errors

`ApiError` as the services throw it, and the other ways a service can stop: a constraint of the
database, a row that had to be there, and the exceptions of the runtime.  All of them roll the
transaction back; only an `ApiError` carries a status, a message and field details.
-/

namespace KmtLegal

/-- The error codes the modelled services use. -/
inductive ApiErrorCode where
  | authRequired
  | permissionDenied
  | notFound
  | validationError
  | conflict
  | appointmentConflict
  | consultationOutcomeNotReady
  | consultationStateChanged
  | consultationReopenRequired
  | conversationLimitReached
  | featureDisabled
  | unauthenticated
  | twoFactorExpired
  | twoFactorInvalid
  | tokenExpired
  | internalError
  | badRequest
  | forbidden
  | rateLimited
  | serviceUnavailable
  | emailDeliveryFailed
  | aiProviderUnavailable
  | aiProviderTimeout
  | aiOutputInvalid
  | caseReferenceConflict
  | fileTooLarge
  | unsupportedFileType
  | malwareDetected
  | malwareScannerUnavailable
  | settingReadOnly
  deriving DecidableEq

/-- The code as it is sent. -/
def ApiErrorCode.text : ApiErrorCode → String
  | authRequired => "AUTH_REQUIRED"
  | permissionDenied => "PERMISSION_DENIED"
  | notFound => "NOT_FOUND"
  | validationError => "VALIDATION_ERROR"
  | conflict => "CONFLICT"
  | appointmentConflict => "APPOINTMENT_CONFLICT"
  | consultationOutcomeNotReady => "CONSULTATION_OUTCOME_NOT_READY"
  | consultationStateChanged => "CONSULTATION_STATE_CHANGED"
  | consultationReopenRequired => "CONSULTATION_REOPEN_REQUIRED"
  | conversationLimitReached => "CONVERSATION_LIMIT_REACHED"
  | featureDisabled => "FEATURE_DISABLED"
  | unauthenticated => "UNAUTHENTICATED"
  | twoFactorExpired => "TWO_FACTOR_EXPIRED"
  | twoFactorInvalid => "TWO_FACTOR_INVALID"
  | tokenExpired => "TOKEN_EXPIRED"
  | internalError => "INTERNAL_ERROR"
  | badRequest => "BAD_REQUEST"
  | forbidden => "FORBIDDEN"
  | rateLimited => "RATE_LIMITED"
  | serviceUnavailable => "SERVICE_UNAVAILABLE"
  | emailDeliveryFailed => "EMAIL_DELIVERY_FAILED"
  | aiProviderUnavailable => "AI_PROVIDER_UNAVAILABLE"
  | aiProviderTimeout => "AI_PROVIDER_TIMEOUT"
  | aiOutputInvalid => "AI_OUTPUT_INVALID"
  | caseReferenceConflict => "CASE_REFERENCE_CONFLICT"
  | fileTooLarge => "FILE_TOO_LARGE"
  | unsupportedFileType => "UNSUPPORTED_FILE_TYPE"
  | malwareDetected => "MALWARE_DETECTED"
  | malwareScannerUnavailable => "MALWARE_SCANNER_UNAVAILABLE"
  | settingReadOnly => "SETTING_READ_ONLY"

/-- One entry of an error's `details`. -/
structure ApiErrorDetail where
  path : Option String := none
  message : String
  code : Option String := none
  deriving DecidableEq

structure ApiError where
  status : ℕ
  code : ApiErrorCode
  message : String
  details : List ApiErrorDetail := []
  deriving DecidableEq

/-- Whatever makes a service throw. -/
inductive Failure where
  | api (error : ApiError)
  /-- A unique index, or the primary key. -/
  | uniqueConstraint
  /-- A reference to a row that is not there. -/
  | foreignKeyConstraint
  /-- An update or an `OrThrow` lookup of a row that is not there. -/
  | recordNotFound
  /-- A `CHECK` of a table. -/
  | checkConstraint
  /-- A conversion of a value that has no text. -/
  | typeError
  /-- `new Prisma.Decimal` of a text that is no number. -/
  | decimalError
  /-- A schema's `parse` of a value it does not accept. -/
  | zodError
  /-- `new Error(message)`. -/
  | plain (message : String)
  deriving DecidableEq

namespace Failure

/-- `new ApiError(status, code, message, details)`. -/
def of (status : ℕ) (code : ApiErrorCode) (message : String)
    (details : List ApiErrorDetail := []) : Failure :=
  .api { status, code, message, details }

def conflict (message : String) (details : List ApiErrorDetail := []) : Failure :=
  of 409 .conflict message details

def notFound (message : String) : Failure := of 404 .notFound message

def permissionDenied (message : String) : Failure := of 403 .permissionDenied message

/-- `new ValidationApiError(message, details)`. -/
def validation (message : String) (details : List ApiErrorDetail := []) : Failure :=
  of 400 .validationError message details

end Failure

end KmtLegal
