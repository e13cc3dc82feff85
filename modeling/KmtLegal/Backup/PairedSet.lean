import KmtLegal.Http.Errors
import KmtLegal.Js.Text
import KmtLegal.Platform
import KmtLegal.Relational.Table
import Mathlib.Data.List.Dedup

/-!
# Backup sets of the database and the uploads

`paired-backup.mjs` writes a dump of the database, an archive of the uploads and a manifest into one
directory, and publishes it under its id; `paired-restore.mjs` checks such a set, and restores it
into an empty database and an empty directory; `paired-backup-lib.mjs` has what both use.

`tar`, `pg_dump` and `pg_restore` are parameters, as are the texts of JSON and of URLs.  Paths are
resolved, and stand as the list of their names.
-/

namespace KmtLegal

open Relational Js

/-! ## Files -/

abbrev DirPath := List String

/-- A directory of uploads; the paths are relative to it. -/
structure Uploads where
  directories : List DirPath := []
  /-- With their bytes. -/
  files : List (DirPath × String) := []
  symlinks : List DirPath := []
  deriving DecidableEq

/-- The path as text. -/
def DirPath.text (p : DirPath) : String := String.intercalate "/" p

structure BackupArtifact where
  name : String
  bytes : ℕ
  sha256 : String
  deriving DecidableEq

/-- A file of the inventory. -/
structure UploadedFile where
  relative : String
  sha256 : String
  deriving DecidableEq

/-- `buildManifest`. -/
structure BackupManifest where
  format : String := "kmt-paired-backup-set@1"
  setId : String
  createdAt : String
  appRelease : Option String
  artifacts : List BackupArtifact
  databaseName : String
  /-- Without one the target is not compared with it. -/
  uploadsSource : Option DirPath
  files : List UploadedFile
  mode : String
  verifiedConsistent : Bool
  deriving DecidableEq

/-- The files of a published set, by their paths relative to its directory. -/
abbrev BackupSet := Table String String

/-- What the scripts call, for databases of type `δ`. -/
structure BackupTools (δ : Type) where
  pgDump : δ → String
  pgRestore : String → Option δ
  /-- `tar -czf … -C … .`. -/
  tarCreate : Uploads → String
  /-- The output of `tar -tzf`. -/
  tarList : String → String
  /-- `tar -xzf … -C …`. -/
  tarExtract : String → Uploads
  stringifyManifest : BackupManifest → String
  parseManifest : String → Option BackupManifest
  databaseName : String → Option String

/-- The name under which `tar` records a directory, relative to the root `.`. -/
def directoryEntry (p : DirPath) : String := "./" ++ p.text ++ "/"

def fileEntry (p : DirPath) : String := "./" ++ p.text

/-- `tar` records the root, then every directory and every file of the tree in some order, prints
the names one per line, and recreates what it has recorded. -/
structure BackupTools.RecordsTree {δ : Type} (T : BackupTools δ) (u : Uploads) : Prop where
  list : ∃ names, names.Perm (u.directories.map directoryEntry ++ u.files.map fun f ↦ fileEntry f.1) ∧
    T.tarList (T.tarCreate u) = String.join (("./" :: names).map (· ++ "\n"))
  extract : T.tarExtract (T.tarCreate u) = u

/-! ## Errors -/

/-- An error with the stage it is reported for. -/
structure BackupError where
  stage : String
  message : String
  deriving DecidableEq

/-- `fail(stage, message)` and `throwStage(stage, message)`. -/
def backupError (stage message : String) : BackupError :=
  ⟨stage, "[paired-backup:" ++ stage ++ "] " ++ message⟩

/-- `throwRestore(stage, message)`. -/
def restoreError (stage message : String) : BackupError :=
  ⟨stage, "[paired-restore:" ++ stage ++ "] " ++ message⟩

/-- `if (condition) fail(…)`. -/
def failIf (condition : Prop) [Decidable condition] (e : BackupError) : Except BackupError Unit :=
  if condition then .error e else .ok ()

/-- `value ?? fail(…)`. -/
def orFail {α : Type} (value : Option α) (e : BackupError) : Except BackupError α :=
  match value with
  | some a => .ok a
  | none => .error e

/-! ## The library -/

def manifestName : String := "manifest.json"

def manifestChecksumName : String := "manifest.sha256"

def dbDumpName : String := "database.dump"

def uploadsArchiveName : String := "uploads.tar.gz"

def requiredArtifacts : List String :=
  [dbDumpName, uploadsArchiveName, manifestName, manifestChecksumName]

/-- `a === b || a.startsWith(b + path.sep)`; the root ends in a separator already. -/
def DirPath.isWithin (a b : DirPath) : Bool := a = b ∨ b ≠ [] ∧ b <+: a

/-- `inventoryUploads(root)`. -/
def inventoryUploads (P : Platform) (u : Uploads) : Except BackupError (List UploadedFile) := do
  match u.symlinks.head? with
  | some p => .error (backupError "uploads-scan" ("Symlink refused in uploads: " ++ p.text))
  | none => pure ((u.files.map fun f ↦ ⟨f.1.text, P.sha256 f.2⟩).insertionSort
      fun a b ↦ a.relative < b.relative)

def assertSafeDestination (destination uploadsRoot appDir : DirPath) : Except BackupError Unit := do
  failIf (destination.isWithin uploadsRoot)
    (backupError "destination" "Backup destination must not be inside UPLOADS_DIR.")
  failIf (destination.isWithin appDir)
    (backupError "destination" "Backup destination must be outside the application checkout.")
  failIf ("public" ∈ destination)
    (backupError "destination" "Backup destination must not look like a public web directory.")

def assertDistinctTargets (target : DirPath) (others : List DirPath) : Except BackupError Unit :=
  match others.find? fun other ↦ target.isWithin other with
  | some other => .error (backupError "restore-target"
      ("Restore target must be separate from " ++ "/" ++ DirPath.text other ++ "."))
  | none => .ok ()

/-- `.replace(/^\.\//, "")`. -/
def stripDotSlash (s : String) : String :=
  match s.toList with
  | '.' :: '/' :: l => String.ofList l
  | _ => s

/-- The names of a path, after `.` and `..` are taken into account. -/
def normalizedNames : List String → List String → List String
  | done, [] => done.reverse
  | done, name :: l =>
    if name = "" ∨ name = "." then normalizedNames done l
    else if name = ".." then
      match done with
      | [] => normalizedNames [".."] l
      | last :: done => if last = ".." then normalizedNames (".." :: ".." :: done) l
          else normalizedNames done l
    else normalizedNames (name :: done) l

/-- `path.posix.normalize(entry)` of a relative path. -/
def posixNormalize (entry : String) : String :=
  let names := normalizedNames [] (split entry '/')
  let slash := if entry.toList.getLast? = some '/' then "/" else ""
  if names = [] then "." ++ slash else String.intercalate "/" names ++ slash

/-- `/^[a-zA-Z]:/`. -/
def hasDriveLetter (entry : String) : Bool :=
  match entry.toList with
  | c :: ':' :: _ => c.isAlpha
  | _ => false

def assertArchiveEntrySafe (raw : String) : Except BackupError Unit := do
  let entry := stripDotSlash raw
  failIf (entry = "" ∨ entry.toList.head? = some '/' ∨ hasDriveLetter entry)
    (backupError "archive" ("Absolute archive entry refused: " ++ raw))
  let normalized := (posixNormalize entry).toList
  failIf (normalized = "..".toList ∨ "../".toList <+: normalized ∨ "/../".toList <:+: normalized)
    (backupError "archive" ("Path traversal refused: " ++ raw))

def assertArchiveEntriesSafe : List String → Except BackupError Unit
  | [] => .ok ()
  | raw :: entries => do
    assertArchiveEntrySafe raw
    assertArchiveEntriesSafe entries

def validateManifest (m : BackupManifest) : Except BackupError Unit := do
  failIf (m.format ≠ "kmt-paired-backup-set@1") (backupError "manifest" "Unknown manifest format.")
  failIf (m.setId = "" ∨ m.createdAt = "")
    (backupError "manifest" "Manifest is missing required fields.")
  match m.artifacts.find? fun a ↦ a.name = "" ∨ a.sha256 = "" with
  | some a => .error (backupError "manifest" ("Manifest artifact entry is incomplete: " ++ a.name))
  | none =>
    failIf (m.mode ≠ "live" ∧ m.mode ≠ "maintenance-window")
      (backupError "manifest" "Manifest consistency mode is missing (live|maintenance-window).")

def verifyArtifact (P : Platform) (set : BackupSet) (a : BackupArtifact) :
    Except BackupError Unit := do
  failIf (a.name = manifestName ∨ a.name = manifestChecksumName)
    (backupError "integrity" ("Manifest must not self-reference: " ++ a.name))
  let content ← orFail (set.lookup (posixNormalize a.name))
    (backupError "integrity" ("Artifact missing: " ++ a.name))
  failIf (content.length ≠ a.bytes)
    (backupError "integrity" ("Artifact size mismatch: " ++ a.name))
  failIf (P.sha256 content ≠ a.sha256)
    (backupError "integrity" ("Checksum mismatch: " ++ a.name))

def verifyArtifacts (P : Platform) (set : BackupSet) : List BackupArtifact → Except BackupError Unit
  | [] => .ok ()
  | a :: l => do
    verifyArtifact P set a
    verifyArtifacts P set l

def verifySetIntegrity (P : Platform) (set : BackupSet) (m : BackupManifest) :
    Except BackupError Unit := do
  validateManifest m
  verifyArtifacts P set m.artifacts

/-! ## Backup -/

/-- What a backup is made of, and the sets that are published. -/
structure BackupSite (δ : Type) where
  database : δ
  /-- Without a directory `UPLOADS_DIR` is missing. -/
  uploads : Option Uploads
  sets : Table String BackupSet := ∅
  locked : Bool := false

/-- The options of `createPairedBackupSet`, and what it reads on its way. -/
structure BackupOptions where
  databaseUrl : String
  backupRoot : DirPath
  uploadsRoot : DirPath
  appDir : DirPath
  setId : String
  captureMode : String := "live"
  pauseRecord : Option String := none
  requireQuiet : Bool := false
  requireConsistent : Bool := false
  /-- The other clients of the database. -/
  startWriters : ℕ := 0
  endWriters : ℕ := 0
  createdAt : String
  appRelease : Option String := none

def BackupOptions.isMaintenance (o : BackupOptions) : Bool := o.captureMode = "maintenance-window"

def BackupOptions.verifiedConsistent (o : BackupOptions) : Bool :=
  o.isMaintenance ∧ o.startWriters = 0 ∧ o.endWriters = 0

section

variable {δ : Type} (P : Platform) (T : BackupTools δ) (s : BackupSite δ)

/-- The checks before anything is captured. -/
def assertCapture (o : BackupOptions) : Except BackupError Unit := do
  failIf (o.captureMode ≠ "live" ∧ !o.isMaintenance)
    (backupError "config" "capture mode must be live or maintenance-window.")
  failIf (o.isMaintenance ∧ orNull o.pauseRecord = none)
    (backupError "consistency" ("maintenance-window capture requires --pause-record describing " ++
      "how writers were paused; refusing verified-consistent completion."))
  failIf ((o.isMaintenance ∨ o.requireQuiet) ∧ o.startWriters ≠ 0)
    (backupError "quiesce" ("Other database writers are connected; refusing capture. Pause " ++
      "writers first (see runbook). A quiet activity reading is diagnostic only, never proof."))

/-- The checks before the set is published. -/
def assertPublishable (o : BackupOptions) : Except BackupError Unit := do
  failIf (o.isMaintenance ∧ o.endWriters ≠ 0)
    (backupError "quiesce"
      "Writers appeared during capture; refusing verified-consistent completion.")
  failIf (o.requireConsistent ∧ !o.verifiedConsistent)
    (backupError "consistency"
      "Verified-consistent completion required but not established; refusing.")

def backupArtifact (name content : String) : BackupArtifact where
  name
  bytes := content.length
  sha256 := P.sha256 content

/-- The files of the set. -/
def backupSet (dump archive : String) (manifest : BackupManifest) : BackupSet :=
  let text := T.stringifyManifest manifest ++ "\n"
  ((((∅ : BackupSet).insert dbDumpName dump).insert uploadsArchiveName archive).insert
    manifestName text).insert manifestChecksumName (P.sha256 text ++ "  " ++ manifestName ++ "\n")

def createPairedBackupSet (o : BackupOptions) : Except BackupError (BackupSite δ) := do
  failIf (o.databaseUrl = "") (backupError "config" "DATABASE_URL is required.")
  assertSafeDestination o.backupRoot o.uploadsRoot o.appDir
  let uploads ← orFail s.uploads (backupError "uploads-source"
    ("UPLOADS_DIR is missing or unreadable: " ++ "/" ++ DirPath.text o.uploadsRoot))
  failIf s.locked
    (backupError "lock" "Another paired backup run holds the lock; refusing concurrent run.")
  failIf (s.sets.lookup o.setId).isSome
    (backupError "publish" ("Backup set already exists: " ++ o.setId))
  assertCapture o
  let dump := T.pgDump s.database
  failIf (dump = "") (backupError "database-dump" "Database dump is empty.")
  let files ← inventoryUploads P uploads
  let archive := T.tarCreate uploads
  failIf (archive = "") (backupError "uploads-archive" "Uploads archive is empty.")
  assertPublishable o
  let databaseName ← orFail (T.databaseName o.databaseUrl)
    (backupError "config" "DATABASE_URL is not a valid URL.")
  let manifest : BackupManifest :=
    { setId := o.setId
      createdAt := o.createdAt
      appRelease := o.appRelease
      artifacts := [backupArtifact P dbDumpName dump, backupArtifact P uploadsArchiveName archive]
      databaseName
      uploadsSource := some o.uploadsRoot
      files
      mode := o.captureMode
      verifiedConsistent := o.verifiedConsistent }
  pure { s with sets := s.sets.insert o.setId (backupSet P T dump archive manifest) }

/-! ## Restore -/

/-- `loadAndVerifySet({ backupRoot, setId })`. -/
def loadAndVerifySet (setId : String) : Except BackupError (BackupSet × BackupManifest) := do
  let set := (s.sets.lookup setId).getD ∅
  match requiredArtifacts.find? fun name ↦ (set.lookup name).isNone with
  | some name => .error (restoreError "incomplete"
      ("Backup set is missing " ++ name ++ "; refusing restore."))
  | none => do
    let sidecar := ((set.lookup manifestChecksumName).getD "").toList.takeWhile fun c ↦ !isSpace c
    let text := (set.lookup manifestName).getD ""
    failIf (String.ofList sidecar ≠ P.sha256 text)
      (restoreError "integrity" "Manifest checksum mismatch; refusing restore.")
    let manifest ← orFail (T.parseManifest text) ⟨"", "Unexpected token in JSON"⟩
    validateManifest manifest
    failIf (manifest.setId ≠ setId)
      (restoreError "manifest" "Manifest setId does not match the requested set.")
    verifySetIntegrity P set manifest
    pure (set, manifest)

/-- `listArchiveEntries(run, archivePath)`. -/
def listArchiveEntries (archive : String) : List String :=
  ((split (T.tarList archive) '\n').map trim).filter (· ≠ "")

/-- What `inspectBackupSet` reports. -/
structure InspectionReport where
  manifest : BackupManifest
  archiveEntries : ℕ

/-- `inspectBackupSet({ backupRoot, setId })`. -/
def inspectBackupSet (setId : String) : Except BackupError InspectionReport := do
  let (set, manifest) ← loadAndVerifySet P T s setId
  let entries := listArchiveEntries T ((set.lookup uploadsArchiveName).getD "")
  assertArchiveEntriesSafe entries
  pure ⟨manifest, entries.length⟩

/-- Where a set is restored to. -/
structure RestoreTarget (δ : Type) where
  /-- Without one its public schema has no tables. -/
  database : Option δ := none
  uploads : Uploads := {}
  /-- Whether the URL of the target leads to the source database. -/
  isSource : Bool := false

structure RestoreOptions where
  setId : String
  backupRoot : DirPath
  targetDatabaseUrl : String
  targetUploads : DirPath
  confirm : String
  sourceDatabaseUrl : String

variable (target : RestoreTarget δ)

/-- Everything `restorePairedBackupSet` checks before it writes. -/
def assertRestorable (o : RestoreOptions) : Except BackupError (BackupSet × BackupManifest) := do
  let (set, manifest) ← loadAndVerifySet P T s o.setId
  failIf (o.targetDatabaseUrl = "") (restoreError "restore-target"
    "A separately designated target database URL is required (PAIRED_RESTORE_DATABASE_URL).")
  failIf (o.targetUploads = []) (restoreError "restore-target"
    "A separate target uploads directory is required (--target-uploads).")
  failIf (o.confirm ≠ o.setId) (restoreError "restore-target"
    "Explicit confirmation is required: --confirm=<setId> must match the backup set.")
  failIf (o.sourceDatabaseUrl ≠ "" ∧ o.targetDatabaseUrl = o.sourceDatabaseUrl)
    (restoreError "restore-target" "Restore target must not be the source/production database.")
  assertDistinctTargets o.targetUploads (manifest.uploadsSource.toList ++ [o.backupRoot])
  failIf target.database.isSome (restoreError "restore-target"
    "Target database is not empty; refusing overwrite. Use a new empty database.")
  failIf (target.uploads ≠ {}) (restoreError "restore-target"
    ("Target uploads directory is not empty: " ++ "/" ++ DirPath.text o.targetUploads))
  assertArchiveEntriesSafe (listArchiveEntries T ((set.lookup uploadsArchiveName).getD ""))
  pure (set, manifest)

/-- `new Map(manifest.uploads.files.map((file) => [file.relative, file.sha256]))`: of two entries for a
path the last stays. -/
def BackupManifest.expected (manifest : BackupManifest) (relative : String) : Option String :=
  (manifest.files.reverse.find? fun file ↦ file.relative = relative).map UploadedFile.sha256

/-- `expected.size`. -/
def BackupManifest.expectedSize (manifest : BackupManifest) : ℕ :=
  (manifest.files.map UploadedFile.relative).dedup.length

/-- The restored files are those of the manifest. -/
def verifyRestoredFiles (manifest : BackupManifest) (restored : List UploadedFile) :
    Except BackupError Unit := do
  failIf (restored.length ≠ manifest.expectedSize)
    (restoreError "verify" "Restored file count does not match the manifest inventory.")
  match restored.find? fun file ↦ manifest.expected file.relative ≠ some file.sha256 with
  | some file => .error (restoreError "verify" ("Restored file mismatch: " ++ file.relative))
  | none => .ok ()

/-- `restorePairedBackupSet`: what is in the target afterwards, and the answer.  The documents are
not verified. -/
def restorePairedBackupSet (o : RestoreOptions) : RestoreTarget δ × Except BackupError ℕ :=
  match assertRestorable P T s target o with
  | .error e => (target, .error e)
  | .ok (set, manifest) =>
    match T.pgRestore ((set.lookup dbDumpName).getD "") with
    | none => (target, .error ⟨"restore-database", "pg_restore failed"⟩)
    | some database =>
      let uploads := T.tarExtract ((set.lookup uploadsArchiveName).getD "")
      ({ target with database := some database, uploads }, do
        let restored ← inventoryUploads P uploads
        verifyRestoredFiles manifest restored
        pure restored.length)

end

end KmtLegal
