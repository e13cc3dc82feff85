import KmtLegal.Backup.PairedSet

/-!
# Published sets and their restore

`tar` records the root of the uploads as `./`.  The check of the entries takes the leading `./` off
and refuses what is left, the empty text, as an absolute path: it refuses every archive a backup
has made.
-/

namespace KmtLegal

open Relational Js

/-! ## The promise -/

/-- The tools do for the site what they are for. -/
structure BackupTools.WorkFor {δ : Type} (T : BackupTools δ) (P : Platform) (database : δ)
    (u : Uploads) : Prop where
  records : T.RecordsTree u
  restores : T.pgRestore (T.pgDump database) = some database
  digests : Function.Injective P.sha256

/-- The options designate an empty target apart from the source, and confirm the set. -/
structure RestoreOptions.Designate {δ : Type} (r : RestoreOptions) (o : BackupOptions)
    (target : RestoreTarget δ) : Prop where
  setId : r.setId = o.setId
  confirm : r.confirm = o.setId
  backupRoot : r.backupRoot = o.backupRoot
  database : target.database = none ∧ r.targetDatabaseUrl ≠ "" ∧
    r.targetDatabaseUrl ≠ r.sourceDatabaseUrl
  uploads : target.uploads = {} ∧ r.targetUploads ≠ [] ∧
    ¬r.targetUploads.isWithin o.uploadsRoot ∧ ¬r.targetUploads.isWithin o.backupRoot

/-- The set `o` of the site can be inspected, and restored to the database and the tree it was
made of. -/
structure Restorable {δ : Type} (P : Platform) (T : BackupTools δ) (s : BackupSite δ)
    (o : BackupOptions) (database : δ) (u : Uploads) : Prop where
  inspects : ∃ report, inspectBackupSet P T s o.setId = .ok report
  restores : ∀ target r, r.Designate o target →
    ∃ n, restorePairedBackupSet P T s target r =
      ({ target with database := some database, uploads := u }, .ok n)

/-! ## The entries of an archive -/

section

variable {δ : Type} {P : Platform} {T : BackupTools δ} {s s' : BackupSite δ}

theorem split_line (line text : String) (h : '\n' ∉ line.toList) :
    split (line ++ "\n" ++ text) '\n' = line :: split text '\n' := by
  have hlist : (line ++ "\n" ++ text).toList = line.toList ++ '\n' :: text.toList := by
    simp
  unfold split
  rw [hlist, List.splitOn_append_cons_self, List.splitOn_eq_singleton h]
  simp

/-- The first entry of an archive is its root. -/
theorem listArchiveEntries_root {u : Uploads} (h : T.RecordsTree u) :
    ∃ entries, listArchiveEntries T (T.tarCreate u) = "./" :: entries := by
  obtain ⟨names, -, hlist⟩ := h.list
  have hsplit : split (T.tarList (T.tarCreate u)) '\n' =
      "./" :: split (String.join (names.map (· ++ "\n"))) '\n' := by
    rw [hlist, List.map_cons, String.join_cons, split_line _ _ (by decide)]
  have htrim : trim "./" = "./" := by decide +kernel
  refine ⟨((split (String.join (names.map (· ++ "\n"))) '\n').map trim).filter (· ≠ ""), ?_⟩
  rw [listArchiveEntries, hsplit, List.map_cons, htrim, List.filter_cons_of_pos (by decide)]

/-- The root is refused. -/
theorem assertArchiveEntriesSafe_root (entries : List String) :
    assertArchiveEntriesSafe ("./" :: entries) =
      .error (backupError "archive" "Absolute archive entry refused: ./") := by
  have hroot : assertArchiveEntrySafe "./" =
      .error (backupError "archive" "Absolute archive entry refused: ./") := by
    decide +kernel
  rw [assertArchiveEntriesSafe, hroot]
  rfl

/-! ## The published set -/

/-- A published set has the archive of the uploads. -/
theorem createPairedBackupSet_archive {o : BackupOptions} {u : Uploads} (hu : s.uploads = some u)
    (h : createPairedBackupSet P T s o = .ok s') :
    ∃ set, s'.sets.lookup o.setId = some set ∧
      set.lookup uploadsArchiveName = some (T.tarCreate u) := by
  unfold createPairedBackupSet at h
  obtain ⟨_, -, h⟩ := bind_eq_ok.mp h
  obtain ⟨_, -, h⟩ := bind_eq_ok.mp h
  obtain ⟨uploads, huploads, h⟩ := bind_eq_ok.mp h
  obtain ⟨_, -, h⟩ := bind_eq_ok.mp h
  obtain ⟨_, -, h⟩ := bind_eq_ok.mp h
  obtain ⟨_, -, h⟩ := bind_eq_ok.mp h
  obtain ⟨_, -, h⟩ := bind_eq_ok.mp h
  obtain ⟨files, -, h⟩ := bind_eq_ok.mp h
  obtain ⟨_, -, h⟩ := bind_eq_ok.mp h
  obtain ⟨_, -, h⟩ := bind_eq_ok.mp h
  obtain ⟨databaseName, -, h⟩ := bind_eq_ok.mp h
  obtain rfl := pure_eq_ok.mp h
  rw [hu] at huploads
  cases huploads
  refine ⟨_, by rw [Table.lookup_insert, if_pos rfl], ?_⟩
  unfold backupSet
  rw [Table.lookup_insert, if_neg (by decide), Table.lookup_insert, if_neg (by decide),
    Table.lookup_insert, if_pos rfl]

/-- A set that is loaded is the one that was published. -/
theorem loadAndVerifySet_eq_ok {setId : String} {set : BackupSet} {manifest : BackupManifest}
    (h : loadAndVerifySet P T s setId = .ok (set, manifest)) :
    set = (s.sets.lookup setId).getD ∅ := by
  unfold loadAndVerifySet at h
  simp only at h
  split at h
  · cases h
  · obtain ⟨_, -, h⟩ := bind_eq_ok.mp h
    obtain ⟨_, -, h⟩ := bind_eq_ok.mp h
    obtain ⟨_, -, h⟩ := bind_eq_ok.mp h
    obtain ⟨_, -, h⟩ := bind_eq_ok.mp h
    obtain ⟨_, -, h⟩ := bind_eq_ok.mp h
    exact (Prod.mk.inj (pure_eq_ok.mp h)).1.symm

/-- No set with an archive of the tree passes the check of its entries. -/
theorem entries_refused {setId : String} {u : Uploads} {set published : BackupSet}
    {manifest : BackupManifest} (hu : T.RecordsTree u)
    (hpublished : s.sets.lookup setId = some published)
    (harchive : published.lookup uploadsArchiveName = some (T.tarCreate u))
    (h : loadAndVerifySet P T s setId = .ok (set, manifest)) :
    assertArchiveEntriesSafe (listArchiveEntries T ((set.lookup uploadsArchiveName).getD "")) ≠
      .ok () := by
  obtain rfl := loadAndVerifySet_eq_ok h
  rw [hpublished, Option.getD_some, harchive, Option.getD_some]
  obtain ⟨entries, hentries⟩ := listArchiveEntries_root hu
  rw [hentries, assertArchiveEntriesSafe_root]
  exact nofun

theorem not_inspectBackupSet {o : BackupOptions} {u : Uploads} (hu : s.uploads = some u)
    (hrecords : T.RecordsTree u) (h : createPairedBackupSet P T s o = .ok s')
    (report : InspectionReport) : inspectBackupSet P T s' o.setId ≠ .ok report := by
  obtain ⟨published, hpublished, harchive⟩ := createPairedBackupSet_archive hu h
  intro hinspect
  obtain ⟨⟨set, manifest⟩, hload, hinspect⟩ := bind_eq_ok.mp hinspect
  obtain ⟨_, hentries, -⟩ := bind_eq_ok.mp hinspect
  exact entries_refused hrecords hpublished harchive hload hentries

/-- A restore throws before it writes. -/
theorem not_restorePairedBackupSet {o : BackupOptions} {u : Uploads} (hu : s.uploads = some u)
    (hrecords : T.RecordsTree u) (h : createPairedBackupSet P T s o = .ok s')
    (target : RestoreTarget δ) (r : RestoreOptions) (hset : r.setId = o.setId) :
    ∃ e, restorePairedBackupSet P T s' target r = (target, .error e) := by
  obtain ⟨published, hpublished, harchive⟩ := createPairedBackupSet_archive hu h
  unfold restorePairedBackupSet
  cases hchecks : assertRestorable P T s' target r with
  | error e => exact ⟨e, rfl⟩
  | ok loaded =>
    obtain ⟨⟨set, manifest⟩, hload, hchecks⟩ := bind_eq_ok.mp hchecks
    obtain ⟨_, -, hchecks⟩ := bind_eq_ok.mp hchecks
    obtain ⟨_, -, hchecks⟩ := bind_eq_ok.mp hchecks
    obtain ⟨_, -, hchecks⟩ := bind_eq_ok.mp hchecks
    obtain ⟨_, -, hchecks⟩ := bind_eq_ok.mp hchecks
    obtain ⟨_, -, hchecks⟩ := bind_eq_ok.mp hchecks
    obtain ⟨_, -, hchecks⟩ := bind_eq_ok.mp hchecks
    obtain ⟨_, -, hchecks⟩ := bind_eq_ok.mp hchecks
    obtain ⟨_, hentries, -⟩ := bind_eq_ok.mp hchecks
    rw [hset] at hload
    exact absurd hentries (entries_refused hrecords hpublished harchive hload)

/-- No set that is published can be inspected or restored, whatever the database and the tree. -/
theorem published_not_restorable (o : BackupOptions) {u : Uploads} (hu : s.uploads = some u)
    (hwork : T.WorkFor P s.database u) (h : createPairedBackupSet P T s o = .ok s') :
    ¬Restorable P T s' o s.database u ∧
      ∀ target r, r.setId = o.setId →
        ∃ e, restorePairedBackupSet P T s' target r = (target, .error e) := by
  refine ⟨fun hrestorable ↦ ?_, not_restorePairedBackupSet hu hwork.records h⟩
  obtain ⟨report, hreport⟩ := hrestorable.inspects
  exact not_inspectBackupSet hu hwork.records h report hreport

end

/-! ### One document -/

/-- The codes of the characters. -/
def codesText (l : List Char) : List Char := l.flatMap fun c ↦ Nat.toDigits 10 c.toNat ++ [';']

/-- Digits before a semicolon can be read off. -/
theorem digits_append_inj {a b x y : List Char} (ha : a.all isDigit) (hb : b.all isDigit)
    (h : a ++ ';' :: x = b ++ ';' :: y) : a = b ∧ x = y := by
  have htake : ∀ {l r : List Char}, l.all isDigit → (l ++ ';' :: r).takeWhile isDigit = l := by
    intro l r hl
    have hstop : (';' :: r).takeWhile isDigit = [] := by
      rw [List.takeWhile_cons_of_neg (by decide)]
    rw [List.takeWhile_append_of_pos (List.all_eq_true.mp hl), hstop, List.append_nil]
  have hab : a = b := by rw [← htake ha (r := x), h, htake hb]
  subst hab
  exact ⟨rfl, (List.cons.inj (List.append_cancel_left h)).2⟩

theorem codesText_injective : Function.Injective codesText := by
  intro l
  induction l with
  | nil =>
    intro l' h
    cases l' with
    | nil => rfl
    | cons c l' => simp [codesText] at h
  | cons c l ih =>
    intro l' h
    cases l' with
    | nil => simp [codesText] at h
    | cons c' l' =>
      simp only [codesText, List.flatMap_cons, List.append_assoc, List.singleton_append] at h
      obtain ⟨hcode, hrest⟩ := digits_append_inj (of_decide_eq_true (isDigits_toDigits _)).2
        (of_decide_eq_true (isDigits_toDigits _)).2 h
      have hnat := congrArg digitsValue hcode
      rw [digitsValue_toDigits, digitsValue_toDigits] at hnat
      rw [Char.toNat_inj.mp hnat, ih hrest]

/-- A platform whose digests are the codes of the text. -/
def codesPlatform : Platform :=
  { plainPlatform with sha256 := fun s ↦ String.ofList (codesText s.toList) }

theorem codesPlatform_digests : Function.Injective codesPlatform.sha256 := by
  intro a b h
  exact String.toList_injective (codesText_injective (String.ofList_injective h))

def sampleUploads : Uploads where
  directories := [["documents"], ["documents", "2026"], ["documents", "2026", "01"],
    ["documents", "2026", "01", "05"]]
  files := [(["documents", "2026", "01", "05", "7b6c5d4e-3f2a-4b1c-8d9e-0f1a2b3c4d5e.pdf"], "%PDF")]

def sampleBackup : BackupOptions where
  databaseUrl := "postgresql://localhost/kmt"
  backupRoot := ["backups"]
  uploadsRoot := ["uploads"]
  appDir := ["app"]
  setId := "kmt-paired-20260105"
  createdAt := "2026-01-05T08:00:00.000Z"

/-- The manifest of the backup. -/
def sampleManifest : BackupManifest where
  setId := "kmt-paired-20260105"
  createdAt := "2026-01-05T08:00:00.000Z"
  appRelease := none
  artifacts := [backupArtifact codesPlatform dbDumpName "dump of rows",
    backupArtifact codesPlatform uploadsArchiveName "archive"]
  databaseName := "kmt"
  uploadsSource := some ["uploads"]
  files := sampleUploads.files.map fun f ↦ ⟨f.1.text, codesPlatform.sha256 f.2⟩
  mode := "live"
  verifiedConsistent := false

/-- Tools that work for the tree. -/
def sampleTools : BackupTools String where
  pgDump database := "dump of " ++ database
  pgRestore dump := some (String.ofList (dump.toList.drop 8))
  tarCreate _ := "archive"
  tarList _ := String.join (("./" :: (sampleUploads.directories.map directoryEntry ++
    sampleUploads.files.map fun f ↦ fileEntry f.1)).map (· ++ "\n"))
  tarExtract _ := sampleUploads
  stringifyManifest _ := "manifest"
  parseManifest _ := some sampleManifest
  databaseName _ := some "kmt"

def sampleSite : BackupSite String where
  database := "rows"
  uploads := some sampleUploads

theorem sampleTools_work : sampleTools.WorkFor codesPlatform "rows" sampleUploads where
  records := ⟨⟨_, List.Perm.refl _, rfl⟩, rfl⟩
  restores := by decide +kernel
  digests := codesPlatform_digests

theorem sampleBackup_published :
    ∃ s', createPairedBackupSet codesPlatform sampleTools sampleSite sampleBackup = .ok s' :=
  ⟨_, rfl⟩

theorem published_not_restorable_sample :
    ∃ s', ¬Restorable codesPlatform sampleTools s' sampleBackup "rows" sampleUploads ∧
      ∀ target r, r.setId = sampleBackup.setId →
        ∃ e, restorePairedBackupSet codesPlatform sampleTools s' target r = (target, .error e) := by
  obtain ⟨s', h⟩ := sampleBackup_published
  exact ⟨s', published_not_restorable sampleBackup rfl sampleTools_work h⟩

/-- The inspection of the published set refuses its root. -/
theorem published_set_refused :
    ¬∀ (P : Platform) (T : BackupTools String) (s s' : BackupSite String) (o : BackupOptions)
      (u : Uploads), s.uploads = some u → T.WorkFor P s.database u →
      createPairedBackupSet P T s o = .ok s' → Restorable P T s' o s.database u := by
  intro h
  obtain ⟨s', hpublished⟩ := sampleBackup_published
  obtain ⟨report, hreport⟩ :=
    (h codesPlatform sampleTools sampleSite s' sampleBackup sampleUploads rfl sampleTools_work
      hpublished).inspects
  exact not_inspectBackupSet rfl sampleTools_work.records hpublished report hreport

end KmtLegal
