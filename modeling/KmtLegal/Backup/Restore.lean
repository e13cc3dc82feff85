import KmtLegal.Backup.PairedSet
import KmtLegal.Backup.Restorable

/-!
# What a restore has verified

Before `pg_restore` and `tar` are started every check has passed, and until then nothing is written.
Three things are not checked: that the manifest mentions the dump and the archive at all, that another
URL is not the source database after all, and that the target is not above the uploads it came from.
-/

namespace KmtLegal

open Relational Js

section

variable {δ : Type} {P : Platform} {T : BackupTools δ} {s : BackupSite δ} {target : RestoreTarget δ}
  {o : RestoreOptions}

/-! ## The claims of a restore -/

/-- An artifact of the manifest is the file, with its size and its digest. -/
def BackupManifest.Records (P : Platform) (manifest : BackupManifest) (set : BackupSet)
    (name : String) : Prop :=
  ∃ a ∈ manifest.artifacts, posixNormalize a.name = name ∧
    ∃ content, set.lookup name = some content ∧ content.length = a.bytes ∧
      P.sha256 content = a.sha256

/-- The manifest mentions the file. -/
def BackupManifest.Lists (manifest : BackupManifest) (name : String) : Prop :=
  ∃ a ∈ manifest.artifacts, posixNormalize a.name = name

/-- The entry is absolute, or its path begins with a step up. -/
def LeavesTarget (raw : String) : Prop :=
  raw.toList.head? = some '/' ∨ (normalizedNames [] (split raw '/')).head? = some ".."

/-- Neither directory is in the other. -/
def DirPath.Apart (a b : DirPath) : Prop := ¬b <+: a ∧ ¬a <+: b

/-- What has to be verified before anything is restored. -/
structure RestoreVerified (P : Platform) (T : BackupTools δ) (target : RestoreTarget δ)
    (o : RestoreOptions) (set : BackupSet) (manifest : BackupManifest) : Prop where
  checksum : ∃ text sidecar, set.lookup manifestName = some text ∧
    set.lookup manifestChecksumName = some sidecar ∧ T.parseManifest text = some manifest ∧
      String.ofList (sidecar.toList.takeWhile fun c ↦ !isSpace c) = P.sha256 text
  setId : manifest.setId = o.setId
  artifacts : ∀ name ∈ [dbDumpName, uploadsArchiveName], manifest.Records P set name
  confirmed : o.confirm = o.setId
  notSource : target.isSource = false
  emptyDatabase : target.database.isNone
  emptyUploads : target.uploads = {}
  apart : ∀ other ∈ manifest.uploadsSource.toList ++ [o.backupRoot],
    DirPath.Apart o.targetUploads other
  entries : ∀ raw ∈ listArchiveEntries T ((set.lookup uploadsArchiveName).getD ""), ¬LeavesTarget raw

/-- The restored files are those of the manifest, with their digests. -/
def RestoresManifest (manifest : BackupManifest) (restored : List UploadedFile) : Prop :=
  ∀ relative sha256, ⟨relative, sha256⟩ ∈ restored ↔ manifest.expected relative = some sha256

/-- Nothing is touched until everything is verified. -/
structure RestoreSafe (P : Platform) (T : BackupTools δ) (s : BackupSite δ) (target : RestoreTarget δ)
    (o : RestoreOptions) : Prop where
  verified : ∀ set manifest, assertRestorable P T s target o = .ok (set, manifest) →
    RestoreVerified P T target o set manifest
  untouched : ∀ e, assertRestorable P T s target o = .error e →
    restorePairedBackupSet P T s target o = (target, .error e)
  restored : ∀ n, (restorePairedBackupSet P T s target o).2 = .ok n →
    ∃ set manifest files, assertRestorable P T s target o = .ok (set, manifest) ∧
      inventoryUploads P (restorePairedBackupSet P T s target o).1.uploads = .ok files ∧
        RestoresManifest manifest files

/-! ## The checks -/

theorem failIf_eq_ok {c : Prop} [Decidable c] {e : BackupError} {u : Unit} :
    failIf c e = .ok u ↔ ¬c := by
  by_cases h : c <;> simp [failIf, h]

theorem orFail_eq_ok {α : Type} {value : Option α} {e : BackupError} {a : α} :
    orFail value e = .ok a ↔ value = some a := by
  cases value <;> simp [orFail]

theorem assertDistinctTargets_eq_ok {path : DirPath} {others : List DirPath} {u : Unit} :
    assertDistinctTargets path others = .ok u ↔ ∀ other ∈ others, ¬path.isWithin other := by
  unfold assertDistinctTargets
  split
  · rename_i other hfound
    refine ⟨nofun, fun h ↦ absurd (List.find?_some hfound) ?_⟩
    simpa using h other (List.mem_of_find?_eq_some hfound)
  · rename_i hnone
    refine ⟨fun _ other hother hwithin ↦ ?_, fun _ ↦ rfl⟩
    exact absurd hwithin (List.find?_eq_none.mp hnone other hother)

theorem verifyArtifacts_eq_ok {set : BackupSet} {l : List BackupArtifact} {u : Unit}
    (h : verifyArtifacts P set l = .ok u) : ∀ a ∈ l, ∃ content,
      set.lookup (posixNormalize a.name) = some content ∧ content.length = a.bytes ∧
        P.sha256 content = a.sha256 := by
  induction l with
  | nil => nofun
  | cons a l ih =>
    obtain ⟨_, ha, hl⟩ := bind_eq_ok.mp h
    simp only [verifyArtifact, bind_eq_ok, failIf_eq_ok, orFail_eq_ok, not_not] at ha
    obtain ⟨_, -, content, hcontent, _, hlength, hdigest⟩ := ha
    intro b hb
    rcases List.mem_cons.mp hb with rfl | hb
    · exact ⟨content, hcontent, hlength, hdigest⟩
    · exact ih hl b hb

/-- The leading `./` of an entry does not count. -/
theorem normalizedNames_stripDotSlash (raw : String) :
    normalizedNames [] (split (stripDotSlash raw) '/') = normalizedNames [] (split raw '/') := by
  unfold stripDotSlash
  split
  · rename_i l hraw
    have hsplit : split raw '/' = "." :: split (String.ofList l) '/' := by
      have hdot : ('.' == '/') = false := rfl
      have hslash : ('/' == '/') = true := rfl
      simp only [split, hraw, String.toList_ofList, List.splitOn_cons_eq_if_modifyHead, hdot, hslash,
        if_true, Bool.false_eq_true, if_false, List.modifyHead_cons, List.map_cons]
    rw [hsplit]
    simp [normalizedNames]
  · rfl

theorem not_leavesTarget {raw : String} {u : Unit} (h : assertArchiveEntrySafe raw = .ok u) :
    ¬LeavesTarget raw := by
  simp only [assertArchiveEntrySafe, bind_eq_ok, failIf_eq_ok, not_or] at h
  obtain ⟨_, ⟨-, habsolute, -⟩, hdots, hup, -⟩ := h
  rintro (hslash | hclimbs)
  · have hsame : stripDotSlash raw = raw := by
      unfold stripDotSlash
      split
      · rename_i l hraw
        rw [hraw] at hslash
        exact absurd (Option.some.inj hslash) (by decide)
      · rfl
    exact habsolute (by rw [hsame, hslash])
  · -- the normalised text begins with two dots
    rw [← normalizedNames_stripDotSlash] at hclimbs
    obtain ⟨names, hnames⟩ := List.head?_eq_some_iff.mp hclimbs
    cases names with
    | nil =>
      by_cases hslash : (stripDotSlash raw).toList.getLast? = some '/'
      · refine hup ?_
        simp [posixNormalize, hnames, hslash]
      · refine hdots ?_
        simp [posixNormalize, hnames, hslash]
    | cons name names =>
      refine hup ?_
      simp [posixNormalize, hnames, String.toList_append, String.toList_intercalate,
        List.intercalate]

theorem assertArchiveEntriesSafe_eq_ok {entries : List String} {u : Unit}
    (h : assertArchiveEntriesSafe entries = .ok u) : ∀ raw ∈ entries, ¬LeavesTarget raw := by
  induction entries with
  | nil => nofun
  | cons raw entries ih =>
    obtain ⟨_, hraw, hrest⟩ := bind_eq_ok.mp h
    intro entry hentry
    rcases List.mem_cons.mp hentry with rfl | hentry
    · exact not_leavesTarget hraw
    · exact ih hrest entry hentry

/-- What the checks establish. -/
theorem assertRestorable_eq_ok {set : BackupSet} {manifest : BackupManifest}
    (h : assertRestorable P T s target o = .ok (set, manifest)) :
    (∃ text sidecar, set.lookup manifestName = some text ∧
      set.lookup manifestChecksumName = some sidecar ∧ T.parseManifest text = some manifest ∧
        String.ofList (sidecar.toList.takeWhile fun c ↦ !isSpace c) = P.sha256 text) ∧
    manifest.setId = o.setId ∧
    (∀ a ∈ manifest.artifacts, ∃ content, set.lookup (posixNormalize a.name) = some content ∧
      content.length = a.bytes ∧ P.sha256 content = a.sha256) ∧
    o.confirm = o.setId ∧ target.database.isNone ∧ target.uploads = {} ∧
    (∀ other ∈ manifest.uploadsSource.toList ++ [o.backupRoot], ¬o.targetUploads.isWithin other) ∧
    ∀ raw ∈ listArchiveEntries T ((set.lookup uploadsArchiveName).getD ""), ¬LeavesTarget raw := by
  obtain ⟨⟨set', manifest'⟩, hload, h⟩ := bind_eq_ok.mp h
  simp only [bind_eq_ok, failIf_eq_ok, pure_eq_ok, not_not] at h
  obtain ⟨_, -, _, -, _, hconfirm, _, -, _, hdistinct, _, hdatabase, _, huploads, _, hentries, hresult⟩ := h
  obtain ⟨rfl, rfl⟩ := Prod.mk.inj hresult
  unfold loadAndVerifySet at hload
  simp only at hload
  split at hload
  · cases hload
  · rename_i hrequired
    simp only [bind_eq_ok, failIf_eq_ok, orFail_eq_ok, pure_eq_ok, not_not] at hload
    obtain ⟨_, hchecksum, manifest, hmanifest, _, -, _, hsetId, _, hintegrity, hloaded⟩ := hload
    obtain ⟨rfl, rfl⟩ := Prod.mk.inj hloaded
    have hpresent : ∀ name ∈ requiredArtifacts,
        ∃ text, ((s.sets.lookup o.setId).getD ∅).lookup name = some text := fun name hname ↦ by
      have hsome := List.find?_eq_none.mp hrequired name hname
      exact Option.isSome_iff_exists.mp (by simpa [Option.isNone_iff_eq_none, Option.isSome_iff_ne_none]
        using hsome)
    obtain ⟨text, htext⟩ := hpresent manifestName (by decide)
    obtain ⟨sidecar, hsidecar⟩ := hpresent manifestChecksumName (by decide)
    rw [htext, hsidecar] at hchecksum
    rw [htext] at hmanifest
    obtain ⟨_, -, hartifacts⟩ := bind_eq_ok.mp hintegrity
    exact ⟨⟨text, sidecar, htext, hsidecar, hmanifest, hchecksum⟩, hsetId,
      verifyArtifacts_eq_ok hartifacts, hconfirm, by simpa using hdatabase, huploads,
      assertDistinctTargets_eq_ok.mp hdistinct, assertArchiveEntriesSafe_eq_ok hentries⟩

/-! ## After the extraction -/

/-- Files of different paths that are all expected are all that is expected, if there are as many. -/
theorem restoresManifest_of_verify {manifest : BackupManifest} {restored : List UploadedFile} {u : Unit}
    (hnodup : (restored.map UploadedFile.relative).Nodup)
    (h : verifyRestoredFiles manifest restored = .ok u) : RestoresManifest manifest restored := by
  obtain ⟨_, hcount, hfiles⟩ := bind_eq_ok.mp h
  rw [failIf_eq_ok, not_not] at hcount
  have hall : ∀ file ∈ restored, manifest.expected file.relative = some file.sha256 := by
    split at hfiles
    · cases hfiles
    · rename_i hnone
      intro file hfile
      simpa using List.find?_eq_none.mp hnone file hfile
  have hkeys : ∀ relative sha256, manifest.expected relative = some sha256 →
      relative ∈ (manifest.files.map UploadedFile.relative).dedup := by
    intro relative sha256 hexpected
    obtain ⟨file, hfile, -⟩ := Option.map_eq_some_iff.mp hexpected
    have hname : file.relative = relative := by simpa using List.find?_some hfile
    refine List.mem_dedup.mpr (List.mem_map.mpr ⟨file, ?_, hname⟩)
    exact List.mem_reverse.mp (List.mem_of_find?_eq_some hfile)
  have hsub : (restored.map UploadedFile.relative).Subperm
      (manifest.files.map UploadedFile.relative).dedup := by
    refine List.subperm_of_subset hnodup fun relative hmem ↦ ?_
    obtain ⟨file, hfile, rfl⟩ := List.mem_map.mp hmem
    exact hkeys _ _ (hall file hfile)
  have hperm := hsub.perm_of_length_le (by rw [List.length_map, hcount, BackupManifest.expectedSize])
  intro relative sha256
  refine ⟨fun hmem ↦ hall _ hmem, fun hexpected ↦ ?_⟩
  obtain ⟨file, hfile, rfl⟩ := List.mem_map.mp (hperm.mem_iff.mpr (hkeys relative sha256 hexpected))
  have hsame := hall file hfile
  rw [hexpected] at hsame
  obtain rfl := Option.some.inj hsame
  exact hfile

theorem relative_nodup_of_inventory {u : Uploads} {files : List UploadedFile}
    (hnodup : (u.files.map fun f ↦ f.1.text).Nodup) (h : inventoryUploads P u = .ok files) :
    (files.map UploadedFile.relative).Nodup := by
  unfold inventoryUploads at h
  split at h
  · cases h
  · obtain rfl := pure_eq_ok.mp h
    refine ((List.perm_insertionSort _ _).map _).nodup_iff.mpr ?_
    rw [List.map_map]
    exact hnodup

/-! ## What is not checked -/

/-- What the checks leave open is as it should be. -/
structure RestoreGapsClosed (target : RestoreTarget δ) (o : RestoreOptions) (manifest : BackupManifest) :
    Prop where
  listed : ∀ name ∈ [dbDumpName, uploadsArchiveName], manifest.Lists name
  notSource : target.isSource = false
  notAbove : ∀ source ∈ manifest.uploadsSource, source ≠ [] ∧ ¬o.targetUploads <+: source
  rooted : o.backupRoot ≠ []

theorem not_prefix_of_not_isWithin {a b : DirPath} (h : ¬a.isWithin b) (hb : b ≠ []) : ¬b <+: a :=
  fun hprefix ↦ h (decide_eq_true (.inr ⟨hb, hprefix⟩))

theorem restoreVerified_of_gapsClosed {set : BackupSet} {manifest : BackupManifest}
    (hreported : o.targetUploads <+: o.backupRoot → target.uploads ≠ {})
    (h : assertRestorable P T s target o = .ok (set, manifest))
    (hgaps : RestoreGapsClosed target o manifest) : RestoreVerified P T target o set manifest := by
  obtain ⟨hchecksum, hsetId, hartifacts, hconfirm, hdatabase, huploads, hdistinct, hentries⟩ :=
    assertRestorable_eq_ok h
  refine ⟨hchecksum, hsetId, fun name hname ↦ ?_, hconfirm, hgaps.notSource, hdatabase, huploads,
    fun other hother ↦ ?_, hentries⟩
  · obtain ⟨a, ha, rfl⟩ := hgaps.listed name hname
    exact ⟨a, ha, rfl, hartifacts a ha⟩
  · have hwithin := hdistinct other hother
    rcases List.mem_append.mp hother with hsource | hroot
    · obtain ⟨hne, habove⟩ := hgaps.notAbove other (Option.mem_toList.mp hsource)
      exact ⟨not_prefix_of_not_isWithin hwithin hne, habove⟩
    · obtain rfl := List.mem_singleton.mp hroot
      exact ⟨not_prefix_of_not_isWithin hwithin hgaps.rooted, fun habove ↦ hreported habove huploads⟩

theorem gapsClosed_of_restoreVerified {set : BackupSet} {manifest : BackupManifest}
    (h : RestoreVerified P T target o set manifest) : RestoreGapsClosed target o manifest := by
  refine ⟨fun name hname ↦ ?_, h.notSource, fun source hsource ↦ ?_, ?_⟩
  · obtain ⟨a, ha, hname, -⟩ := h.artifacts name hname
    exact ⟨a, ha, hname⟩
  · have hapart := h.apart source (List.mem_append_left _ (Option.mem_toList.mpr hsource))
    exact ⟨fun hnil ↦ hapart.1 (hnil ▸ List.nil_prefix), hapart.2⟩
  · have hapart := h.apart o.backupRoot (List.mem_append_right _ (List.mem_singleton_self _))
    exact fun hnil ↦ hapart.1 (hnil ▸ List.nil_prefix)

end

/-! ## A manifest that mentions nothing -/

/-- A manifest of one document. -/
def oneFileManifest (artifacts : List BackupArtifact) : BackupManifest where
  setId := "kmt-paired-20260105"
  createdAt := "2026-01-05T08:00:00.000Z"
  appRelease := none
  artifacts
  databaseName := "kmt"
  uploadsSource := some ["uploads"]
  files := [⟨"documents/a.pdf", codesPlatform.sha256 "%PDF"⟩]
  mode := "live"
  verifiedConsistent := false

def oneFileTools (artifacts : List BackupArtifact) : BackupTools String where
  pgDump database := database
  pgRestore dump := some dump
  tarCreate _ := "archive"
  tarList _ := "./documents/a.pdf\n"
  tarExtract _ := { directories := [["documents"]], files := [(["documents", "a.pdf"], "%PDF")] }
  stringifyManifest _ := "manifest"
  parseManifest _ := some (oneFileManifest artifacts)
  databaseName _ := some "kmt"

/-- A published set with a dump. -/
def oneFileSite (dump : String) : BackupSite String where
  database := "rows"
  uploads := none
  sets := (∅ : Table String BackupSet).insert "kmt-paired-20260105"
    (((((∅ : BackupSet).insert dbDumpName dump).insert uploadsArchiveName "archive").insert manifestName
      "manifest").insert manifestChecksumName
        (codesPlatform.sha256 "manifest" ++ "  " ++ manifestName ++ "\n"))

def sampleRestore : RestoreOptions where
  setId := "kmt-paired-20260105"
  backupRoot := ["backups"]
  targetDatabaseUrl := "postgresql://localhost/restored"
  targetUploads := ["restored"]
  confirm := "kmt-paired-20260105"
  sourceDatabaseUrl := "postgresql://localhost/kmt"

def bothArtifacts : List BackupArtifact :=
  [backupArtifact codesPlatform dbDumpName "rows", backupArtifact codesPlatform uploadsArchiveName "archive"]

end KmtLegal
