import KmtLegal.Documents.WordArchive
import KmtLegal.Js.Utf16
import KmtLegal.Platform

/-!
# What may be uploaded

`upload-policy.ts`: the size, the declared type, the extension of the name and the first bytes of a
file.  A file name is a string as the browser sends it, surrogates alone included.
-/

namespace KmtLegal

open Relational Js

/-- `UploadCandidate`. -/
structure UploadCandidate where
  fileName : Units
  mimeType : String
  sizeBytes : ℕ
  bytes : List UInt8
  deriving DecidableEq

structure UploadPolicy where
  maxBytes : ℕ
  allowedMimeTypes : List String
  deriving DecidableEq

/-- The environment variables of the policy. -/
structure UploadEnv where
  maxUploadMb : Option String := none
  allowedUploadTypes : Option String := none

def defaultMaxUploadMb : ℕ := 5

def wordMimeType : String :=
  "application/vnd.openxmlformats-officedocument.wordprocessingml.document"

/-- `DEFAULT_ALLOWED_UPLOAD_TYPES`. -/
def defaultAllowedUploadTypes : List String :=
  ["application/pdf", "application/msword", wordMimeType, "image/jpeg", "image/png"]

/-- `ALLOWED_EXTENSIONS_BY_MIME`. -/
def allowedExtensionsByMime (mimeType : String) : List String :=
  if mimeType = "application/pdf" then ["pdf"]
  else if mimeType = "application/msword" then ["doc"]
  else if mimeType = wordMimeType then ["docx"]
  else if mimeType = "image/jpeg" then ["jpg", "jpeg"]
  else if mimeType = "image/png" then ["png"]
  else []

/-- `getUploadPolicy(env)`. -/
def getUploadPolicy (env : UploadEnv) : UploadPolicy where
  maxBytes :=
    let maxUploadMb := parseInt (env.maxUploadMb.getD (toString defaultMaxUploadMb))
    (match maxUploadMb with
      | some n => if 0 < n then min n.toNat defaultMaxUploadMb else defaultMaxUploadMb
      | none => defaultMaxUploadMb) * 1024 * 1024
  allowedMimeTypes :=
    ((split (env.allowedUploadTypes.getD (",".intercalate defaultAllowedUploadTypes)) ',').map
      trim).filter (· ∈ defaultAllowedUploadTypes)

/-- `getExtension(fileName)`. -/
def getExtension (fileName : Units) : Units :=
  let cleanName := lowerUnits (trimUnits fileName)
  if 0x2e ∈ cleanName then cleanName.rtakeWhile (· ≠ 0x2e) else []

/-- `[\\/\0\r\n]`. -/
def pathUnits : Units := [0x5c, 0x2f, 0x00, 0x0d, 0x0a]

/-- `sanitizeDownloadFileName(fileName)`. -/
def sanitizeDownloadFileName (fileName : Units) : Units :=
  let cleaned := trimUnits (replaceUnits pathUnits 0x5f fileName)
  if cleaned = [] then units "document" else cleaned

section

variable (lossyText : List UInt8 → String) (inflateRaw : InflateRaw)

/-- `hasExpectedMagicBytes(mimeType, bytes)`; `toString("ascii")` clears the highest bit. -/
def hasExpectedMagicBytes (mimeType : String) (bytes : List UInt8) : Bool :=
  if mimeType = "application/pdf" then
    (bytes.take 5).map (· &&& 0x7f) = [0x25, 0x50, 0x44, 0x46, 0x2d]
  else if mimeType = "image/jpeg" then bytes.take 3 = [0xff, 0xd8, 0xff]
  else if mimeType = "image/png" then
    bytes.take 8 = [0x89, 0x50, 0x4e, 0x47, 0x0d, 0x0a, 0x1a, 0x0a]
  else if mimeType = "application/msword" then
    bytes.take 8 = [0xd0, 0xcf, 0x11, 0xe0, 0xa1, 0xb1, 0x1a, 0xe1]
  else if mimeType = wordMimeType then isWordDocumentArchive lossyText inflateRaw bytes
  else false

/-- `assertUploadAllowed(candidate, policy)`. -/
def assertUploadAllowed (policy : UploadPolicy) (candidate : UploadCandidate) :
    Except Failure Unit := do
  throwIf (candidate.sizeBytes = 0 ∨ candidate.bytes = [])
    (.of 400 .validationError "Uploaded file is empty.")
  throwIf (candidate.sizeBytes > policy.maxBytes ∨ candidate.bytes.length > policy.maxBytes)
    (.of 413 .fileTooLarge "Uploaded file exceeds the 5MB limit.")
  throwIf (candidate.mimeType ∉ policy.allowedMimeTypes)
    (.of 415 .unsupportedFileType "Uploaded file type is not allowed.")
  throwIf (getExtension candidate.fileName ∉
      (allowedExtensionsByMime candidate.mimeType).map units)
    (.of 415 .unsupportedFileType "Uploaded file extension does not match an allowed type.")
  throwIf (!hasExpectedMagicBytes lossyText inflateRaw candidate.mimeType candidate.bytes)
    (.of 415 .unsupportedFileType "Uploaded file content does not match the declared type.")

variable {lossyText inflateRaw} {candidate : UploadCandidate}

/-- Whatever the environment says, no other types are uploaded. -/
theorem mimeType_mem_of_allowed {env : UploadEnv}
    (h : assertUploadAllowed lossyText inflateRaw (getUploadPolicy env) candidate = .ok ()) :
    candidate.mimeType ∈ defaultAllowedUploadTypes := by
  simp only [assertUploadAllowed, bind_eq_ok, throwIf_eq_ok, not_not] at h
  obtain ⟨_, -, _, -, _, htype, -⟩ := h
  exact of_decide_eq_true (List.mem_filter.mp htype).2

end

end KmtLegal
