import KmtLegal.Backup.PairedSet
import KmtLegal.Js.IsoText
import Mathlib.Data.List.Sort
import Mathlib.Data.List.Nodup

/-!
# The daily backup

`runDailyBackup` of `daily-paired-backup.mjs` after its preflight, and `pruneDailySets`.  The writers
are stopped, a set is made and verified, the writers are restarted whatever happened, and only after
a success is the set marked and are old sets removed.

What the tools answer is given, and so is when a signal arrives: until the handlers are removed it
is noticed at the next check, and after that it ends the process.
-/

namespace KmtLegal

open Relational Js

/-! ## The backup directory -/

/-- `daily-managed.json` of a set, with the instant `Date.parse` reads in it; without one it is not
finite. -/
structure DailyMarker where
  format : String
  setId : String
  completedAt : Option Time
  verified : Bool
  deriving DecidableEq

inductive RootEntryKind where
  | directory | symlink | file
  deriving DecidableEq

/-- An entry of the backup directory, with its marker if that can be read. -/
structure RootEntry where
  name : String
  kind : RootEntryKind := .directory
  marker : Option DailyMarker := none
  deriving DecidableEq

/-- The entries in the order `readdir` lists them. -/
structure BackupRoot where
  entries : List RootEntry
  nodup : (entries.map RootEntry.name).Nodup

/-- `/^kmt-paired-\d{8}-\d{8}$/`. -/
def isSafeSet (name : String) : Bool :=
  match name.toList.drop 11 with
  | rest => startsWith name "kmt-paired-" ∧ rest.length = 17 ∧ (rest.take 8).all isDigit ∧
      rest[8]? = some '-' ∧ (rest.drop 9).all isDigit

/-- When a set marked by this tool was completed. -/
def RootEntry.managedAt (entry : RootEntry) : Option Time :=
  if entry.kind = .directory ∧ isSafeSet entry.name then
    entry.marker.bind fun managed ↦
      if managed.format = "kmt-daily@1" ∧ managed.setId = entry.name ∧ managed.verified then
        managed.completedAt
      else none
  else none

namespace BackupRoot

variable (root : BackupRoot)

/-- `fs.rm(path.join(root, name), { recursive: true })`. -/
def remove (name : String) : BackupRoot where
  entries := root.entries.filter (·.name ≠ name)
  nodup := root.nodup.sublist (List.filter_sublist.map _)

/-- The marker is written into the directory of the set. -/
def mark (setId : String) (marker : DailyMarker) : BackupRoot where
  entries := root.entries.map fun entry ↦
    if entry.name = setId then { entry with marker := some marker } else entry
  nodup := by
    rw [List.map_map]
    have hnames : RootEntry.name ∘ (fun entry : RootEntry ↦
        if entry.name = setId then { entry with marker := some marker } else entry) =
          RootEntry.name := by
      funext entry
      simp only [Function.comp_apply]
      split_ifs <;> rfl
    rw [hnames]
    exact root.nodup

/-- A new directory, which `readdir` lists at the position. -/
def add (setId : String) (position : ℕ) (h : ∀ entry ∈ root.entries, entry.name ≠ setId) :
    BackupRoot where
  entries := root.entries.take position ++ { name := setId } :: root.entries.drop position
  nodup := by
    have hperm : ((root.entries.take position ++ { name := setId } :: root.entries.drop position).map
        RootEntry.name).Perm (setId :: root.entries.map RootEntry.name) := by
      have hmiddle : (root.entries.take position ++ { name := setId } :: root.entries.drop position).Perm
          ({ name := setId } :: (root.entries.take position ++ root.entries.drop position)) :=
        List.perm_middle
      rw [List.take_append_drop] at hmiddle
      exact hmiddle.map RootEntry.name
    refine hperm.nodup_iff.mpr (List.nodup_cons.mpr ⟨fun hmem ↦ ?_, root.nodup⟩)
    obtain ⟨entry, hentry, hname⟩ := List.mem_map.mp hmem
    exact h entry hentry hname

/-- The candidates of `pruneDailySets`. -/
def candidates : List (String × Time) :=
  root.entries.filterMap fun entry ↦ entry.managedAt.map (entry.name, ·)

/-- `candidates.sort((a, b) => b.completedAt.localeCompare(a.completedAt))`; on the texts of
`toISOString` that is the order of the instants. -/
def newestFirst : List (String × Time) := root.candidates.insertionSort fun a b ↦ b.2 ≤ a.2

/-- The sets to be removed. -/
def stale (keep : ℕ) : List String := (root.newestFirst.drop keep).map Prod.fst

end BackupRoot

def pruneDailySets (root : BackupRoot) (keep : ℕ := 15) : Except Failure (BackupRoot × ℕ) := do
  throwIf (keep < 1) (.plain "Invalid retention count.")
  pure ((root.stale keep).foldl BackupRoot.remove root, (root.stale keep).length)

/-! ## What the tools answer -/

/-- What `backup(…)` returns. -/
structure DailyBackupResult where
  setId : String
  verifiedConsistent : Bool
  checksumsVerified : Bool
  deriving DecidableEq

/-- Where `assertRunning()` is called. -/
inductive DailyCheck where
  | stopping (name : String) | capturing | verified

structure DailyWorld where
  startedAt : Time
  /-- `pm2 stop` and `pm2 restart` of an application succeed. -/
  stops : String → Bool
  restarts : String → Bool
  /-- `git rev-parse HEAD` succeeds. -/
  revParses : Bool := true
  backup : Option DailyBackupResult
  /-- Where `readdir` lists the new set. -/
  position : ℕ := 0
  /-- The configuration is copied and the manifest rewritten. -/
  configures : Bool := true
  verifies : Bool
  bytes : ℕ := 0
  /-- A signal has arrived before the check. -/
  interrupted : DailyCheck → Bool
  /-- The health probe of the attempt is answered. -/
  healthy : ℕ → Bool
  /-- The clock when the writers run again. -/
  completedAt : Time
  /-- A signal that arrives after the handlers are removed, before the step of this number. -/
  killedBefore : Option ℕ := none

/-- The status that is written. -/
structure DailyStatus where
  ok : Bool
  completedAt : Time
  durationMs : ℤ
  bytes : ℕ
  setId : Option String
  servicesRecovered : Bool
  failure : Option String
  deriving DecidableEq

/-- A failure with its stage. -/
structure DailyFailure where
  stage : String
  error : Failure

/-- The variable `stopped`, and the applications `pm2 stop` was run for. -/
structure StopLoop where
  stopped : List String := []
  commands : List String := []
  failure : Option DailyFailure := none

namespace DailyWorld

variable (W : DailyWorld)

def interruption : Failure := .plain "Maintenance interrupted; restoring writers."

/-- The loop over the writers; every application is pushed before it is stopped. -/
def stopWriters (loop : StopLoop) : List String → StopLoop
  | [] => loop
  | name :: names =>
    if W.interrupted (.stopping name) then
      { loop with failure := some ⟨"STOP_WRITERS", interruption⟩ }
    else
      let loop := { loop with stopped := loop.stopped ++ [name] }
      let loop := { loop with commands := loop.commands ++ [name] }
      if W.stops name then stopWriters loop names
      else { loop with failure := some ⟨"STOP_WRITERS", .plain "pm2 stop"⟩ }

end DailyWorld

/-- What the `try` block leaves. -/
structure DailyAttempt extends StopLoop where
  root : BackupRoot
  result : Option DailyBackupResult := none
  bytes : ℕ := 0

namespace DailyWorld

variable (W : DailyWorld) (names : List String) (root : BackupRoot)

/-- From the verified capture to the end of the `try` block. -/
def configure (loop : StopLoop) (root : BackupRoot) (result : DailyBackupResult) : DailyAttempt :=
  let attempt : DailyAttempt := { loop with root, result := some result }
  if ¬(result.verifiedConsistent ∧ result.checksumsVerified) then
    { attempt with failure := some ⟨"CAPTURE", .plain "Backup consistency verification failed."⟩ }
  else if ¬W.configures then
    { attempt with failure := some ⟨"VERIFY_CONFIGURATION", .plain "configuration"⟩ }
  else if ¬W.verifies then
    { attempt with failure := some ⟨"VERIFY_CONFIGURATION", .plain "verification"⟩ }
  else if W.interrupted .verified then
    { attempt with bytes := W.bytes, failure := some ⟨"VERIFY_CONFIGURATION", interruption⟩ }
  else { attempt with bytes := W.bytes }

/-- The `try` block. -/
def attempt : DailyAttempt :=
  let loop := W.stopWriters {} names
  let failed (failure : DailyFailure) : DailyAttempt := { loop with root, failure := some failure }
  match loop.failure with
  | some failure => failed failure
  | none =>
    if ¬W.revParses then failed ⟨"CAPTURE", .plain "git rev-parse"⟩
    else if W.interrupted .capturing then failed ⟨"CAPTURE", interruption⟩
    else
      match W.backup with
      | none => failed ⟨"CAPTURE", .plain "backup"⟩
      | some result =>
        if h : ∀ entry ∈ root.entries, entry.name ≠ result.setId then
          W.configure loop (root.add result.setId W.position h) result
        else failed ⟨"CAPTURE", .plain ("Backup set already exists: " ++ result.setId)⟩

/-- At most fifteen probes. -/
def recovers : Bool := (List.range 15).any W.healthy

/-- The failure after the restarts and the probes. -/
def finalFailure (attempt : DailyAttempt) : Option DailyFailure :=
  if attempt.stopped.reverse.all W.restarts then
    if W.recovers then attempt.failure
    else some ⟨"HEALTH_CHECK", .plain "Application health did not recover after maintenance."⟩
  else some ⟨"RESTART_WRITERS",
    .plain "One or more PM2 applications failed to restart; inspect PM2 immediately."⟩

def status (attempt : DailyAttempt) : DailyStatus where
  ok := (W.finalFailure attempt).isNone
  completedAt := W.completedAt
  durationMs := W.completedAt - W.startedAt
  bytes := attempt.bytes
  setId := attempt.result.map (·.setId)
  servicesRecovered := attempt.stopped.reverse.all W.restarts && W.recovers
  failure := (W.finalFailure attempt).map (·.stage)

end DailyWorld

/-! ## After the restarts -/

/-- What is on the disk. -/
structure DailyDisk where
  root : BackupRoot
  lastAttempt : Option DailyStatus := none
  lastSuccess : Option DailyStatus := none

/-- A step after the handlers are removed. -/
inductive DailyStep where
  | writeAttempt (status : DailyStatus)
  | mark (setId : String) (marker : DailyMarker)
  | writeSuccess (status : DailyStatus)
  | remove (name : String)

def DailyDisk.apply (disk : DailyDisk) : DailyStep → DailyDisk
  | .writeAttempt status => { disk with lastAttempt := some status }
  | .mark setId marker => { disk with root := disk.root.mark setId marker }
  | .writeSuccess status => { disk with lastSuccess := some status }
  | .remove name => { disk with root := disk.root.remove name }

/-- How the run ends. -/
inductive DailyEnd where
  | returned (setId : String) (servicesRecovered : Bool)
  | threw (failure : Failure)
  | killed
  deriving DecidableEq

structure DailyOutcome where
  stopAttempts : List String
  restartAttempts : List String
  disk : DailyDisk
  ended : DailyEnd

namespace DailyWorld

variable (W : DailyWorld)

/-- The marker of the new set. -/
def marker (result : DailyBackupResult) : DailyMarker where
  format := "kmt-daily@1"
  setId := result.setId
  completedAt := some W.completedAt
  verified := true

/-- The steps that are left; the sets to prune are looked up when the new one is marked. -/
def lastSteps (attempt : DailyAttempt) : List DailyStep :=
  .writeAttempt (W.status attempt) ::
    match W.finalFailure attempt, attempt.result with
    | none, some result =>
      .mark result.setId (W.marker result) :: .writeSuccess (W.status attempt) ::
        ((attempt.root.mark result.setId (W.marker result)).stale 15).map .remove
    | _, _ => []

/-- The steps that are done before the process ends. -/
def doneSteps (steps : List DailyStep) : List DailyStep :=
  match W.killedBefore with
  | some n => steps.take n
  | none => steps

/-- `runDailyBackup()` after the preflight. -/
def runDailyBackup (names : List String) (root : BackupRoot) (disk : DailyDisk) : DailyOutcome :=
  let attempt := W.attempt names root
  let steps := W.lastSteps attempt
  let done := W.doneSteps steps
  { stopAttempts := attempt.commands
    restartAttempts := attempt.stopped.reverse
    disk := done.foldl DailyDisk.apply { disk with root := attempt.root }
    ended :=
      if done.length < steps.length then .killed
      else match W.finalFailure attempt, attempt.result with
        | some failure, _ => .threw failure.error
        | none, some result => .returned result.setId W.recovers
        | none, none => .threw .typeError }

end DailyWorld

/-! ## Retention -/

section

/-- Of a list without repetitions, what is not among the last elements is the beginning. -/
theorem filter_notMem_drop {α β : Type} [DecidableEq β] {f : α → β} {l : List α} (h : (l.map f).Nodup)
    (k : ℕ) : l.filter (fun a ↦ f a ∉ (l.drop k).map f) = l.take k := by
  have hdisjoint : ∀ a ∈ l.take k, f a ∉ (l.drop k).map f := by
    have hsplit : (l.take k).map f ++ (l.drop k).map f = l.map f := by
      rw [← List.map_append, List.take_append_drop]
    rw [← hsplit] at h
    exact fun a ha hmem ↦ List.disjoint_of_nodup_append h (List.mem_map_of_mem ha) hmem
  have hfront : (l.take k).filter (fun a ↦ f a ∉ (l.drop k).map f) = l.take k :=
    List.filter_eq_self.mpr fun a ha ↦ decide_eq_true (hdisjoint a ha)
  have hback : (l.drop k).filter (fun a ↦ f a ∉ (l.drop k).map f) = [] :=
    List.filter_eq_nil_iff.mpr fun a ha ↦ by simp only [List.mem_map_of_mem ha, not_true, decide_false,
      Bool.false_eq_true, not_false_iff]
  conv_lhs => rw [← List.take_append_drop k l]
  rw [List.filter_append, List.take_append_drop, hfront, hback, List.append_nil]

theorem map_fst_filterMap_sublist {α β γ : Type} {f : α → β} {g : α → Option (β × γ)}
    (h : ∀ a c, g a = some c → c.1 = f a) {l : List α} :
    ((l.filterMap g).map Prod.fst).Sublist (l.map f) := by
  induction l with
  | nil => exact .slnil
  | cons a l ih =>
    rw [List.filterMap_cons]
    cases ha : g a with
    | none => exact ih.cons _
    | some c =>
      rw [List.map_cons, List.map_cons, h a c ha]
      exact ih.cons_cons _

namespace BackupRoot

variable (root : BackupRoot)

theorem candidates_remove (name : String) :
    (root.remove name).candidates = root.candidates.filter (·.1 ≠ name) := by
  rw [candidates, candidates, remove, List.filterMap_filter, List.filter_filterMap]
  congr 1
  funext entry
  cases hmanaged : entry.managedAt with
  | none => simp
  | some t =>
    by_cases hname : entry.name = name
    · simp [hname, Option.filter]
    · simp [hname, Option.filter]

theorem foldl_remove (names : List String) :
    (names.foldl remove root).candidates = root.candidates.filter (·.1 ∉ names) ∧
      (names.foldl remove root).entries = root.entries.filter (·.name ∉ names) := by
  induction names generalizing root with
  | nil => simp
  | cons name names ih =>
    obtain ⟨hcandidates, hentries⟩ := ih (root.remove name)
    constructor
    · rw [List.foldl_cons, hcandidates, candidates_remove, List.filter_filter]
      congr 1
      funext c
      simp [Bool.and_comm]
    · rw [List.foldl_cons, hentries, remove, List.filter_filter]
      congr 1
      funext entry
      simp [Bool.and_comm]

theorem candidates_names_nodup : (root.candidates.map Prod.fst).Nodup := by
  have hsub : (root.candidates.map Prod.fst).Sublist (root.entries.map RootEntry.name) := by
    refine map_fst_filterMap_sublist fun entry c hc ↦ ?_
    obtain ⟨t, -, rfl⟩ := Option.map_eq_some_iff.mp hc
    rfl
  exact root.nodup.sublist hsub

theorem newestFirst_perm : root.newestFirst.Perm root.candidates := List.perm_insertionSort _ _

theorem newestFirst_sorted : root.newestFirst.Pairwise fun a b ↦ b.2 ≤ a.2 :=
  have : Std.Total fun a b : String × Time ↦ b.2 ≤ a.2 := ⟨fun a b ↦ le_total b.2 a.2⟩
  have : IsTrans (String × Time) fun a b ↦ b.2 ≤ a.2 := ⟨fun _ _ _ hab hbc ↦ hbc.trans hab⟩
  List.pairwise_insertionSort _ _

/-- What is left is the beginning of the sorted list. -/
theorem candidates_prune (keep : ℕ) :
    ((root.stale keep).foldl remove root).candidates.Perm (root.newestFirst.take keep) := by
  have hnodup : (root.newestFirst.map Prod.fst).Nodup :=
    (root.newestFirst_perm.map Prod.fst).nodup_iff.mpr root.candidates_names_nodup
  rw [(foldl_remove root (root.stale keep)).1, ← filter_notMem_drop hnodup keep]
  exact root.newestFirst_perm.symm.filter _

/-- Only managed sets are removed. -/
theorem managedAt_of_mem_stale {entry : RootEntry} {keep : ℕ} (hentry : entry ∈ root.entries)
    (hstale : entry.name ∈ root.stale keep) : entry.managedAt ≠ none := by
  obtain ⟨c, hc, hname⟩ := List.mem_map.mp hstale
  have hcandidate := root.newestFirst_perm.mem_iff.mp (List.mem_of_mem_drop hc)
  obtain ⟨managed, hmanaged, hc⟩ := List.mem_filterMap.mp hcandidate
  obtain ⟨t, ht, rfl⟩ := Option.map_eq_some_iff.mp hc
  have hsame : managed = entry := List.inj_on_of_nodup_map root.nodup hmanaged hentry hname
  rw [← hsame, ht]
  exact Option.some_ne_none t

/-- The new set is a candidate, and the others are those there were. -/
theorem candidates_mark_add {setId : String} {position : ℕ} {marker : DailyMarker} {completedAt : Time}
    (h : ∀ entry ∈ root.entries, entry.name ≠ setId) (hsafe : isSafeSet setId)
    (hmarker : marker = ⟨"kmt-daily@1", setId, some completedAt, true⟩) :
    ((root.add setId position h).mark setId marker).candidates.Perm
      ((setId, completedAt) :: root.candidates) := by
  have hother : ∀ entry ∈ root.entries,
      (if entry.name = setId then { entry with marker := some marker } else entry) = entry :=
    fun entry hentry ↦ if_neg (h entry hentry)
  have htake : (root.entries.take position).map (fun entry : RootEntry ↦
      if entry.name = setId then { entry with marker := some marker } else entry) =
        root.entries.take position :=
    List.map_congr_left (fun entry hentry ↦ hother entry (List.mem_of_mem_take hentry)) |>.trans
      (List.map_id' _)
  have hdrop : (root.entries.drop position).map (fun entry : RootEntry ↦
      if entry.name = setId then { entry with marker := some marker } else entry) =
        root.entries.drop position :=
    List.map_congr_left (fun entry hentry ↦ hother entry (List.mem_of_mem_drop hentry)) |>.trans
      (List.map_id' _)
  have hnew : RootEntry.managedAt { name := setId, marker := some marker } = some completedAt := by
    simp [RootEntry.managedAt, hsafe, hmarker]
  simp only [candidates, mark, add, List.map_append, List.map_cons, htake, hdrop, if_true,
    List.filterMap_append, List.filterMap_cons, hnew, Option.map_some]
  refine List.perm_middle.trans ?_
  rw [← List.filterMap_append, List.take_append_drop]

end BackupRoot

/-- After a success the managed sets are the fifteen newest. -/
structure KeepsNewest (root : BackupRoot) (new : String × Time) (root' : BackupRoot) : Prop where
  among : ∀ c ∈ root'.candidates, c ∈ new :: root.candidates
  count : root'.candidates.length = min 15 (root.candidates.length + 1)
  newest : ∀ old ∈ new :: root.candidates, old ∉ root'.candidates → ∀ kept ∈ root'.candidates,
    old.2 ≤ kept.2
  new_kept : new ∈ root'.candidates ∨ 15 ≤ (root.candidates.filter (·.2 = new.2)).length
  untouched : ∀ entry ∈ root.entries, entry.managedAt = none → entry ∈ root'.entries

/-- Nothing is removed, and nothing marked. -/
structure Unpruned (root root' : BackupRoot) : Prop where
  kept : ∀ entry ∈ root.entries, entry ∈ root'.entries
  unmarked : ∀ entry ∈ root'.entries, entry.managedAt ≠ none → entry ∈ root.entries

theorem Unpruned.refl (root : BackupRoot) : Unpruned root root :=
  ⟨fun _ h ↦ h, fun _ h _ ↦ h⟩

theorem unpruned_add (root : BackupRoot) {setId : String} {position : ℕ}
    (h : ∀ entry ∈ root.entries, entry.name ≠ setId) : Unpruned root (root.add setId position h) where
  kept entry hentry := by
    rw [← List.take_append_drop position root.entries] at hentry
    rcases List.mem_append.mp hentry with hmem | hmem
    · exact List.mem_append_left _ hmem
    · exact List.mem_append_right _ (List.mem_cons_of_mem _ hmem)
  unmarked entry hentry hmanaged := by
    rcases List.mem_append.mp hentry with hmem | hmem
    · exact List.mem_of_mem_take hmem
    · rcases List.mem_cons.mp hmem with rfl | hmem
      · refine absurd ?_ hmanaged
        simp [RootEntry.managedAt]
      · exact List.mem_of_mem_drop hmem

/-- The pruning of a root with a new newest set. -/
theorem keepsNewest_prune {root : BackupRoot} {setId : String} {position : ℕ} {marker : DailyMarker}
    {completedAt : Time} (h : ∀ entry ∈ root.entries, entry.name ≠ setId) (hsafe : isSafeSet setId)
    (hmarker : marker = ⟨"kmt-daily@1", setId, some completedAt, true⟩)
    (hold : ∀ c ∈ root.candidates, c.2 ≤ completedAt) :
    KeepsNewest root (setId, completedAt)
      ((((root.add setId position h).mark setId marker).stale 15).foldl BackupRoot.remove
        ((root.add setId position h).mark setId marker)) := by
  set marked := (root.add setId position h).mark setId marker with hmarked
  have hperm : marked.candidates.Perm ((setId, completedAt) :: root.candidates) :=
    root.candidates_mark_add h hsafe hmarker
  have hleft := marked.candidates_prune 15
  have hall : ∀ c, c ∈ marked.newestFirst ↔ c ∈ (setId, completedAt) :: root.candidates :=
    fun c ↦ (marked.newestFirst_perm.trans hperm).mem_iff
  have hsorted := marked.newestFirst_sorted
  rw [← List.take_append_drop 15 marked.newestFirst] at hsorted
  have hcross := (List.pairwise_append.mp hsorted).2.2
  refine ⟨fun c hc ↦ (hall c).mp (List.mem_of_mem_take (hleft.mem_iff.mp hc)), ?_, ?_, ?_, ?_⟩
  · rw [hleft.length_eq, List.length_take, (marked.newestFirst_perm.trans hperm).length_eq,
      List.length_cons]
  · intro old hmem hremoved kept hkept
    have hdropped : old ∈ marked.newestFirst.drop 15 := by
      have hin := (hall old).mpr hmem
      rw [← List.take_append_drop 15 marked.newestFirst] at hin
      exact (List.mem_append.mp hin).resolve_left fun htake ↦ hremoved (hleft.mem_iff.mpr htake)
    exact hcross kept (hleft.mem_iff.mp hkept) old hdropped
  · -- without the new set, the fifteen that are kept are as new
    rw [or_iff_not_imp_left]
    intro hremoved
    have hin := (hall (setId, completedAt)).mpr List.mem_cons_self
    have hdropped : (setId, completedAt) ∈ marked.newestFirst.drop 15 := by
      rw [← List.take_append_drop 15 marked.newestFirst] at hin
      exact (List.mem_append.mp hin).resolve_left fun htake ↦ hremoved (hleft.mem_iff.mpr htake)
    have hlength : (marked.newestFirst.take 15).length = 15 := by
      have hlong := List.length_pos_of_mem hdropped
      rw [List.length_drop] at hlong
      rw [List.length_take]
      omega
    have hnodup : marked.newestFirst.Nodup :=
      List.Nodup.of_map Prod.fst ((marked.newestFirst_perm.map Prod.fst).nodup_iff.mpr
        marked.candidates_names_nodup)
    have hdisjoint : (marked.newestFirst.take 15).Disjoint (marked.newestFirst.drop 15) := by
      rw [← List.take_append_drop 15 marked.newestFirst] at hnodup
      exact List.disjoint_of_nodup_append hnodup
    have hsubset : marked.newestFirst.take 15 ⊆ root.candidates.filter (·.2 = completedAt) := by
      intro c hc
      have hne : c ≠ (setId, completedAt) := fun heq ↦ hdisjoint hc (heq ▸ hdropped)
      have hmem := (List.mem_cons.mp ((hall c).mp (List.mem_of_mem_take hc))).resolve_left hne
      have hlate := hcross c hc _ hdropped
      exact List.mem_filter.mpr ⟨hmem, decide_eq_true (le_antisymm (hold c hmem) hlate)⟩
    have hsub := List.subperm_of_subset (hnodup.sublist (List.take_sublist 15 _)) hsubset
    exact hlength.symm.le.trans hsub.length_le
  · intro entry hentry hunmanaged
    have hmem : entry ∈ marked.entries := by
      refine List.mem_map.mpr ⟨entry, (unpruned_add root h).kept entry hentry, ?_⟩
      exact if_neg (h entry hentry)
    rw [(BackupRoot.foldl_remove marked (marked.stale 15)).2]
    refine List.mem_filter.mpr ⟨hmem, decide_eq_true fun hstale ↦ ?_⟩
    exact marked.managedAt_of_mem_stale hmem hstale hunmanaged

/-! ## A run -/

namespace DailyWorld

variable (W : DailyWorld)

theorem stopWriters_commands (loop : StopLoop) (h : loop.commands = loop.stopped) (names : List String) :
    (W.stopWriters loop names).commands = (W.stopWriters loop names).stopped := by
  induction names generalizing loop with
  | nil => exact h
  | cons name names ih =>
    unfold stopWriters
    split_ifs
    · exact h
    · exact ih _ (congrArg (· ++ [name]) h)
    · exact congrArg (· ++ [name]) h

variable {W} {names : List String} {root : BackupRoot}

theorem configure_loop (W : DailyWorld) (loop : StopLoop) (root : BackupRoot)
    (result : DailyBackupResult) :
    (W.configure loop root result).commands = loop.commands ∧
      (W.configure loop root result).stopped = loop.stopped ∧
      (W.configure loop root result).root = root ∧
      (W.configure loop root result).result = some result := by
  unfold configure
  dsimp only
  split_ifs <;> exact ⟨rfl, rfl, rfl, rfl⟩

theorem configure_failure {loop : StopLoop} {result : DailyBackupResult}
    (h : (W.configure loop root result).failure = none) :
    result.verifiedConsistent ∧ result.checksumsVerified ∧ W.verifies := by
  unfold configure at h
  dsimp only at h
  split_ifs at h with hconsistent _ hverifies
  exact ⟨hconsistent.1, hconsistent.2, hverifies⟩

/-- What the `try` block leaves: a failure, or a verified set. -/
inductive AttemptEnd (W : DailyWorld) (root : BackupRoot) (attempt : DailyAttempt) : Prop
  | failed (failure : DailyFailure) (failed : attempt.failure = some failure)
      (unpruned : Unpruned root attempt.root)
  | verified (result : DailyBackupResult) (fresh : ∀ entry ∈ root.entries, entry.name ≠ result.setId)
      (backup : W.backup = some result) (consistent : result.verifiedConsistent)
      (checksums : result.checksumsVerified) (verifies : W.verifies) (passed : attempt.failure = none)
      (set : attempt.result = some result)
      (added : attempt.root = root.add result.setId W.position fresh)

/-- What the `try` block has stopped, and how it ends. -/
theorem attempt_spec (W : DailyWorld) (names : List String) (root : BackupRoot) :
    (W.attempt names root).commands = (W.attempt names root).stopped ∧
      AttemptEnd W root (W.attempt names root) := by
  have hcommands := W.stopWriters_commands {} rfl names
  unfold attempt
  dsimp only
  split
  · exact ⟨hcommands, .failed _ rfl (.refl root)⟩
  · split_ifs
    · exact ⟨hcommands, .failed _ rfl (.refl root)⟩
    · split
      · exact ⟨hcommands, .failed _ rfl (.refl root)⟩
      · rename_i result hbackup
        split_ifs with hfresh
        · obtain ⟨hrun, hstopped, hroot, hresult⟩ := W.configure_loop (W.stopWriters {} names)
            (root.add result.setId W.position hfresh) result
          refine ⟨by rw [hrun, hstopped, hcommands], ?_⟩
          cases hfailure : (W.configure (W.stopWriters {} names)
              (root.add result.setId W.position hfresh) result).failure with
          | some failure => exact .failed failure hfailure (by rw [hroot]; exact unpruned_add root hfresh)
          | none =>
            obtain ⟨hconsistent, hchecksums, hverifies⟩ := configure_failure hfailure
            exact .verified result hfresh hbackup hconsistent hchecksums hverifies hfailure hresult hroot
        · exact ⟨hcommands, .failed _ rfl (.refl root)⟩
    · exact ⟨hcommands, .failed _ rfl (.refl root)⟩

/-- The set is verified consistent, every restart has succeeded, and health has recovered. -/
structure Recovered (W : DailyWorld) (restartAttempts : List String) : Prop where
  verified : ∃ result, W.backup = some result ∧ result.verifiedConsistent ∧ result.checksumsVerified ∧
    W.verifies
  restarted : ∀ name ∈ restartAttempts, W.restarts name
  healthy : ∃ probe < 15, W.healthy probe

theorem finalFailure_eq_none {attempt : DailyAttempt} (h : W.finalFailure attempt = none) :
    attempt.failure = none ∧ (∀ name ∈ attempt.stopped.reverse, W.restarts name) ∧
      ∃ probe < 15, W.healthy probe := by
  unfold finalFailure at h
  split_ifs at h with hrestarts hhealth
  refine ⟨h, List.all_eq_true.mp hrestarts, ?_⟩
  obtain ⟨probe, hprobe, hanswer⟩ := List.any_eq_true.mp hhealth
  exact ⟨probe, List.mem_range.mp hprobe, hanswer⟩

theorem foldl_remove_root (names : List String) (disk : DailyDisk) :
    ((names.map DailyStep.remove).foldl DailyDisk.apply disk).root =
      names.foldl BackupRoot.remove disk.root := by
  induction names generalizing disk with
  | nil => rfl
  | cons name names ih => exact ih _

/-- What is done after the restarts, if the run fails or succeeds. -/
theorem lastSteps_cases (attempt : DailyAttempt) :
    (W.lastSteps attempt = [.writeAttempt (W.status attempt)] ∧
      ¬(W.finalFailure attempt = none ∧ attempt.result.isSome)) ∨
      ∃ result, W.finalFailure attempt = none ∧ attempt.result = some result ∧
        W.lastSteps attempt = .writeAttempt (W.status attempt) ::
          .mark result.setId (W.marker result) :: .writeSuccess (W.status attempt) ::
            ((attempt.root.mark result.setId (W.marker result)).stale 15).map .remove := by
  unfold lastSteps
  cases hfailure : W.finalFailure attempt with
  | some failure => exact .inl ⟨rfl, nofun⟩
  | none =>
    cases hresult : attempt.result with
    | none => exact .inl ⟨rfl, fun h ↦ by cases h.2⟩
    | some result => exact .inr ⟨result, rfl, rfl, rfl⟩

theorem doneSteps_eq {steps : List DailyStep} (h : ¬(W.doneSteps steps).length < steps.length) :
    W.doneSteps steps = steps := by
  unfold doneSteps at h ⊢
  cases hkilled : W.killedBefore with
  | none => rfl
  | some n =>
    simp only [hkilled, List.length_take] at h
    exact List.take_of_length_le (by omega)

/-- Writing the attempt, or not, leaves the directories alone. -/
theorem doneSteps_writeAttempt (W : DailyWorld) (status : DailyStatus) (disk : DailyDisk) :
    ((W.doneSteps [.writeAttempt status]).foldl DailyDisk.apply disk).root = disk.root := by
  unfold doneSteps
  split
  · rename_i n _
    cases n with
    | zero => rfl
    | succ n => rw [List.take_succ_cons, List.take_nil, List.foldl_cons, List.foldl_nil, DailyDisk.apply]
  · rfl

theorem AttemptEnd.unpruned {attempt : DailyAttempt} (h : AttemptEnd W root attempt) :
    Unpruned root attempt.root := by
  cases h with
  | failed _ _ unpruned => exact unpruned
  | verified result fresh _ _ _ _ _ _ added =>
    rw [added]
    exact unpruned_add root fresh

/-- A run that marks nothing. -/
theorem run_of_failure (W : DailyWorld) (disk : DailyDisk)
    (hsteps : W.lastSteps (W.attempt names root) = [.writeAttempt (W.status (W.attempt names root))])
    (hfailed : ¬(W.finalFailure (W.attempt names root) = none ∧ (W.attempt names root).result.isSome)) :
    Unpruned root (W.runDailyBackup names root disk).disk.root ∧
      ∀ setId recovered, (W.runDailyBackup names root disk).ended ≠ .returned setId recovered := by
  constructor
  · simp only [runDailyBackup, hsteps, doneSteps_writeAttempt]
    exact (W.attempt_spec names root).2.unpruned
  · intro setId recovered hended
    simp only [runDailyBackup] at hended
    split_ifs at hended
    split at hended
    · cases hended
    · rename_i result hfinal hresult
      exact hfailed ⟨hfinal, by rw [hresult]; rfl⟩
    · cases hended

/-- Every application that was stopped is restarted; a set is marked, and sets are removed, only after a
verified backup, with all writers restarted and health recovered; a run that throws has done
neither; and a run that returns leaves the fifteen newest sets. -/
theorem daily_backup_outcome (W : DailyWorld) (names : List String) (root : BackupRoot)
    (disk : DailyDisk) (hclock : W.startedAt ≤ W.completedAt)
    (hold : ∀ c ∈ root.candidates, c.2 ≤ W.startedAt)
    (hsafe : ∀ result, W.backup = some result → isSafeSet result.setId) :
    (∀ name ∈ (W.runDailyBackup names root disk).stopAttempts,
        name ∈ (W.runDailyBackup names root disk).restartAttempts) ∧
      (¬Recovered W (W.runDailyBackup names root disk).restartAttempts →
        Unpruned root (W.runDailyBackup names root disk).disk.root ∧
          ∀ setId recovered, (W.runDailyBackup names root disk).ended ≠ .returned setId recovered) ∧
      (∀ failure, (W.runDailyBackup names root disk).ended = .threw failure →
        Unpruned root (W.runDailyBackup names root disk).disk.root) ∧
      ∀ setId recovered, (W.runDailyBackup names root disk).ended = .returned setId recovered →
        KeepsNewest root (setId, W.completedAt) (W.runDailyBackup names root disk).disk.root := by
  obtain ⟨hcommands, hattempt⟩ := W.attempt_spec names root
  refine ⟨fun name hname ↦ ?_, ?_⟩
  · have hstopped : name ∈ (W.attempt names root).stopped := hcommands ▸ hname
    exact List.mem_reverse.mpr hstopped
  rcases W.lastSteps_cases (W.attempt names root) with ⟨hsteps, hfailed⟩ | ⟨result, hfinal, hset, hsteps⟩
  · obtain ⟨hunpruned, hended⟩ := W.run_of_failure disk hsteps hfailed
    exact ⟨fun _ ↦ ⟨hunpruned, hended⟩, fun _ _ ↦ hunpruned,
      fun setId recovered hreturned ↦ absurd hreturned (hended setId recovered)⟩
  · obtain ⟨hpassed, hrestarts, hhealthy⟩ := finalFailure_eq_none hfinal
    cases hattempt with
    | failed failure failed unpruned =>
      rw [failed] at hpassed
      cases hpassed
    | verified result' fresh backup consistent checksums verifies passed set added =>
      obtain rfl := Option.some.inj (hset.symm.trans set)
      refine ⟨fun hnot ↦ absurd ⟨⟨result, backup, consistent, checksums, verifies⟩, hrestarts, hhealthy⟩ hnot,
        fun failure hthrew ↦ ?_, fun setId recovered hreturned ↦ ?_⟩
      · simp only [runDailyBackup, hfinal, hset] at hthrew
        split_ifs at hthrew
      · simp only [runDailyBackup, hfinal, hset] at hreturned ⊢
        split_ifs at hreturned with hkilled
        obtain rfl := (DailyEnd.returned.inj hreturned).1
        -- the process was not killed, so every step is done
        rw [doneSteps_eq hkilled, hsteps]
        simp only [List.foldl_cons, DailyDisk.apply, foldl_remove_root, added]
        exact keepsNewest_prune fresh (hsafe result backup) rfl fun c hc ↦ (hold c hc).trans hclock

end DailyWorld

/-! ## Runs without a duration -/

/-- A set that was completed at the instant. -/
def sampleManagedSet (completedAt : Time) (n : ℕ) : RootEntry :=
  let name := "kmt-paired-20260101-000000" ++ String.ofList (paddedDigits 2 n)
  { name, marker := some ⟨"kmt-daily@1", name, some completedAt, true⟩ }

/-- Fifteen sets that were completed at the instant. -/
def sampleBackupRoot (completedAt : Time) : BackupRoot where
  entries := (List.range 15).map (sampleManagedSet completedAt)
  nodup := by
    rw [List.map_map]
    exact (by decide +kernel : ((List.range 15).map fun n ↦
      "kmt-paired-20260101-000000" ++ String.ofList (paddedDigits 2 n)).Nodup)

def sampleDailyWorld (now : Time) : DailyWorld where
  startedAt := now
  stops _ := true
  restarts _ := true
  backup := some ⟨"kmt-paired-20261011-03000000", true, true⟩
  position := 15
  verifies := true
  interrupted _ := false
  healthy _ := true
  completedAt := now

theorem daily_backup_outcome_sample : KeepsNewest (sampleBackupRoot 0)
    ("kmt-paired-20261011-03000000", 5000)
    ((sampleDailyWorld 5000).runDailyBackup ["kmtlegal"] (sampleBackupRoot 0)
      { root := sampleBackupRoot 0 }).disk.root := by
  refine (DailyWorld.daily_backup_outcome (sampleDailyWorld 5000) ["kmtlegal"] (sampleBackupRoot 0)
    { root := sampleBackupRoot 0 } le_rfl (by decide +kernel) ?_).2.2.2 _ true (by decide +kernel)
  rintro result hresult
  cases hresult
  decide +kernel

/-- The new set is listed after fifteen sets of its very instant, and is removed. -/
theorem daily_backup_removes_new_set : ¬∀ (W : DailyWorld) (names : List String) (root : BackupRoot)
    (disk : DailyDisk), W.startedAt ≤ W.completedAt → (∀ c ∈ root.candidates, c.2 ≤ W.startedAt) →
      (∀ result, W.backup = some result → isSafeSet result.setId) →
        ∀ setId recovered, (W.runDailyBackup names root disk).ended = .returned setId recovered →
          (setId, W.completedAt) ∈ (W.runDailyBackup names root disk).disk.root.candidates := by
  intro h
  have hnew := h (sampleDailyWorld 0) ["kmtlegal"] (sampleBackupRoot 0) { root := sampleBackupRoot 0 }
    le_rfl (by decide +kernel) (fun result hresult ↦ by cases hresult; decide +kernel)
    "kmt-paired-20261011-03000000" true (by decide +kernel)
  exact absurd hnew (by decide +kernel)

end

end KmtLegal
