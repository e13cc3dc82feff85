import KmtLegal.Backup.PairedSet
import KmtLegal.Documents.Upload
import KmtLegal.Js.IsoText

/-!
# File keys and private paths

`vps-storage.ts` turns a file key into a path below the root of the uploads.  The key is normalised
as text, checked, and resolved against the root; the last check lets the root itself pass.
-/

namespace KmtLegal

open Relational Js Scheduling

/-! ## Paths -/

/-- `path.isAbsolute(p)`. -/
def isAbsolute (p : String) : Bool := p.toList.head? = some '/'

/-- The names of an absolute path; above its root there is nothing. -/
def absoluteNames : List String → List String → List String
  | done, [] => done.reverse
  | done, name :: l =>
    if name = "" ∨ name = "." then absoluteNames done l
    else if name = ".." then absoluteNames done.tail l
    else absoluteNames (name :: done) l

/-- The text of an absolute path. -/
def absoluteText (names : List String) : String := "/" ++ String.intercalate "/" names

/-- `path.resolve(root, ...segments)`, for an absolute root and segments without a slash. -/
def resolvePath (root : String) (segments : List String) : String :=
  absoluteText (absoluteNames [] (split root '/' ++ segments))

/-- `a.endsWith(b)`. -/
def endsWith (a b : String) : Bool := b.toList.isSuffixOf a.toList

/-! ## The storage -/

def storageConfigError (message : String) : Failure := .of 500 .internalError message

def storagePathError : Failure := .of 400 .validationError "Invalid storage path."

/-- `resolveUploadsRoot(uploadRoot)`. -/
def resolveUploadsRoot (uploadRoot : String) : Except Failure String := do
  let resolved := resolvePath uploadRoot []
  let lower := toLowerCase resolved
  throwIf (endsWith lower "/public" ∨ "/public/".toList <:+: lower.toList)
    (storageConfigError "UPLOADS_DIR must not be inside a public web directory.")
  return resolved

/-- `resolvePrivateFilePath(fileKey, uploadRoot)`. -/
def resolvePrivateFilePath (fileKey uploadRoot : String) : Except Failure String := do
  throwIf (fileKey = "" ∨ '\x00' ∈ fileKey.toList ∨ '\\' ∈ fileKey.toList ∨ isAbsolute fileKey)
    storagePathError
  let normalized := posixNormalize fileKey
  throwIf (normalized = "." ∨ normalized = ".." ∨ startsWith normalized "../") storagePathError
  let root ← resolveUploadsRoot uploadRoot
  let absolutePath := resolvePath root (split normalized '/')
  let allowedPrefix := if endsWith root "/" then root else root ++ "/"
  throwIf (absolutePath ≠ root ∧ !startsWith absolutePath allowedPrefix) storagePathError
  return absolutePath

/-- A name of a normalised path. -/
structure IsPathName (name : String) : Prop where
  ne_empty : name ≠ ""
  ne_dot : name ≠ "."
  ne_dots : name ≠ ".."
  no_slash : '/' ∉ name.toList

/-- The path lies below the directory, and is not the directory. -/
def IsBelow (root path : String) : Prop :=
  ∃ names more, root = absoluteText names ∧ path = absoluteText (names ++ more) ∧ more ≠ [] ∧
    ∀ name ∈ names ++ more, IsPathName name

/-! ## Absolute paths -/

theorem not_mem_of_mem_splitOn {l : List Char} {c : Char} :
    ∀ part ∈ l.splitOn c, c ∉ part := by
  induction l with
  | nil =>
    intro part hpart
    rw [List.splitOn_nil, List.mem_singleton] at hpart
    rw [hpart]
    exact List.not_mem_nil
  | cons d l ih =>
    rw [List.splitOn_cons_eq_if_modifyHead]
    split_ifs with hd
    · intro part hpart
      rcases List.mem_cons.mp hpart with rfl | hpart
      · exact List.not_mem_nil
      · exact ih part hpart
    · have hne : c ≠ d := fun heq ↦ hd (by rw [heq]; exact beq_self_eq_true d)
      cases hparts : l.splitOn c with
      | nil => exact absurd hparts (List.splitOn_ne_nil c l)
      | cons first rest =>
        rw [hparts] at ih
        intro part hpart
        rw [List.modifyHead_cons] at hpart
        rcases List.mem_cons.mp hpart with rfl | hpart
        · intro hmem
          rcases List.mem_cons.mp hmem with heq | hmem
          · exact hne heq
          · exact ih first List.mem_cons_self hmem
        · exact ih part (List.mem_cons_of_mem _ hpart)

theorem no_slash_of_mem_split {s name : String} (h : name ∈ split s '/') : '/' ∉ name.toList := by
  obtain ⟨part, hpart, rfl⟩ := List.mem_map.mp h
  rw [String.toList_ofList]
  exact not_mem_of_mem_splitOn part hpart

/-- Resolving leaves names. -/
theorem isPathName_absoluteNames {done l : List String} (hdone : ∀ name ∈ done, IsPathName name)
    (hl : ∀ name ∈ l, '/' ∉ name.toList) : ∀ name ∈ absoluteNames done l, IsPathName name := by
  induction l generalizing done with
  | nil =>
    intro name hname
    exact hdone name (List.mem_reverse.mp hname)
  | cons first l ih =>
    have hrest : ∀ name ∈ l, '/' ∉ name.toList := fun name hname ↦
      hl name (List.mem_cons_of_mem _ hname)
    rw [absoluteNames]
    split_ifs with hdot hdots
    · exact ih hdone hrest
    · exact ih (fun name hname ↦ hdone name (List.mem_of_mem_tail hname)) hrest
    · refine ih (fun name hname ↦ ?_) hrest
      rcases List.mem_cons.mp hname with rfl | hname
      · exact ⟨fun h ↦ hdot (.inl h), fun h ↦ hdot (.inr h), hdots, hl _ List.mem_cons_self⟩
      · exact hdone name hname

/-- Names are kept as they are. -/
theorem absoluteNames_append {names : List String} (h : ∀ name ∈ names, IsPathName name)
    (done l : List String) :
    absoluteNames done (names ++ l) = absoluteNames (names.reverse ++ done) l := by
  induction names generalizing done with
  | nil => rfl
  | cons name names ih =>
    obtain ⟨hempty, hdot, hdots, -⟩ := h name List.mem_cons_self
    rw [List.cons_append, absoluteNames, if_neg (not_or.mpr ⟨hempty, hdot⟩), if_neg hdots,
      ih fun n hn ↦ h n (List.mem_cons_of_mem _ hn), List.reverse_cons, List.append_assoc,
      List.singleton_append]

theorem split_absoluteText {names : List String} (h : ∀ name ∈ names, IsPathName name) :
    split (absoluteText names) '/' = "" :: if names = [] then [""] else names := by
  have htext : (absoluteText names).toList =
      '/' :: ['/'].intercalate (names.map String.toList) := by
    rw [absoluteText, String.toList_append, String.toList_intercalate]
    rfl
  have hempty : String.ofList [] = "" := rfl
  rw [split, htext, List.splitOn_cons_eq_if_modifyHead, if_pos (beq_self_eq_true _), List.map_cons,
    hempty]
  split_ifs with hnil
  · rw [hnil]
    rfl
  · rw [List.splitOn_intercalate]
    · rw [List.map_map]
      exact congrArg _ (List.map_id'' (fun name ↦ String.ofList_toList) names)
    · intro part hpart
      obtain ⟨name, hname, rfl⟩ := List.mem_map.mp hpart
      exact (h name hname).no_slash
    · exact fun hmap ↦ hnil (List.map_eq_nil_iff.mp hmap)

theorem resolvePath_absoluteText {names : List String} (h : ∀ name ∈ names, IsPathName name)
    (segments : List String) : resolvePath (absoluteText names) segments =
      absoluteText (absoluteNames names.reverse segments) := by
  rw [resolvePath, split_absoluteText h, List.cons_append, absoluteNames, if_pos (.inl rfl)]
  split_ifs with hnil
  · rw [hnil, List.singleton_append, absoluteNames, if_pos (.inl rfl), List.reverse_nil]
  · rw [absoluteNames_append h, List.append_nil]

/-- A path is known by its names. -/
theorem absoluteText_inj {names names' : List String} (h : ∀ name ∈ names, IsPathName name)
    (h' : ∀ name ∈ names', IsPathName name) (heq : absoluteText names = absoluteText names') :
    names = names' := by
  have hnames : ∀ {l : List String}, (∀ name ∈ l, IsPathName name) →
      absoluteNames [] (split (absoluteText l) '/') = l := by
    intro l hl
    rw [split_absoluteText hl, absoluteNames, if_pos (.inl rfl)]
    split_ifs with hnil
    · rw [hnil]
      rfl
    · have happend := absoluteNames_append hl [] []
      rw [List.append_nil, List.append_nil, absoluteNames, List.reverse_reverse] at happend
      exact happend
  rw [← hnames h, heq, hnames h']

theorem resolveUploadsRoot_eq_ok {uploadRoot root : String}
    (h : resolveUploadsRoot uploadRoot = .ok root) :
    ∃ names, root = absoluteText names ∧ ∀ name ∈ names, IsPathName name := by
  obtain ⟨_, -, h⟩ := bind_eq_ok.mp h
  refine ⟨absoluteNames [] (split uploadRoot '/' ++ []), (pure_eq_ok.mp h).symm, ?_⟩
  refine isPathName_absoluteNames nofun fun name hname ↦ ?_
  rw [List.append_nil] at hname
  exact no_slash_of_mem_split hname

/-- Nothing is below itself. -/
theorem not_isBelow_self (root : String) : ¬IsBelow root root := by
  rintro ⟨names, more, hroot, hpath, hmore, hnames⟩
  have hsame := absoluteText_inj (fun name hname ↦ hnames name (List.mem_append_left _ hname)) hnames
    (hroot.symm.trans hpath)
  exact hmore (List.self_eq_append_right.mp hsame)

/-! ## Normalised keys -/

/-- Some steps up, then names. -/
def Climbs (k : ℕ) (names : List String) (l : List String) : Prop :=
  l = List.replicate k ".." ++ names ∧ ∀ name ∈ names, IsPathName name

theorem normalizedNames_climbs {done l : List String} {k : ℕ} {names : List String}
    (hdone : Climbs k names done.reverse) (hl : ∀ name ∈ l, '/' ∉ name.toList) :
    ∃ k names, Climbs k names (normalizedNames done l) := by
  induction l generalizing done k names with
  | nil => exact ⟨k, names, hdone⟩
  | cons name l ih =>
    have hrest : ∀ n ∈ l, '/' ∉ n.toList := fun n hn ↦ hl n (List.mem_cons_of_mem _ hn)
    unfold normalizedNames
    split_ifs with hdot hdots
    · exact ih hdone hrest
    · -- a step up takes the last name away, or goes on climbing
      obtain ⟨hsplit, hnames⟩ := hdone
      cases done with
      | nil =>
        have hclimbs : Climbs 1 [] [".."] := ⟨rfl, nofun⟩
        exact ih hclimbs hrest
      | cons last done =>
        rw [List.reverse_cons] at hsplit
        rcases names.eq_nil_or_concat' with rfl | ⟨initial, final, rfl⟩
        · rw [List.append_nil] at hsplit
          have hlast : last = ".." := by
            have hmem : last ∈ List.replicate k ".." := by
              rw [← hsplit]
              exact List.mem_append_right _ (List.mem_singleton_self last)
            exact List.eq_of_mem_replicate hmem
          subst hlast
          have hclimbs : Climbs (k + 1) [] (".." :: ".." :: done).reverse := by
            refine ⟨?_, nofun⟩
            rw [List.reverse_cons, List.reverse_cons, List.append_nil, List.replicate_succ', ← hsplit]
          exact ih hclimbs hrest
        · rw [← List.append_assoc] at hsplit
          obtain ⟨hdone, hlast⟩ := List.append_inj' hsplit rfl
          obtain rfl := List.head_eq_of_cons_eq hlast
          have hname := hnames last (List.mem_append_right _ (List.mem_singleton_self last))
          simp only [if_neg hname.ne_dots]
          exact ih ⟨hdone, fun n hn ↦ hnames n (List.mem_append_left _ hn)⟩ hrest
    · obtain ⟨hsplit, hnames⟩ := hdone
      have hclimbs : Climbs k (names ++ [name]) (name :: done).reverse := by
        constructor
        · rw [List.reverse_cons, hsplit, List.append_assoc]
        · intro n hn
          rcases List.mem_append.mp hn with hn | hn
          · exact hnames n hn
          · rw [List.mem_singleton.mp hn]
            exact ⟨fun h ↦ hdot (.inl h), fun h ↦ hdot (.inr h), hdots, hl _ List.mem_cons_self⟩
      exact ih hclimbs hrest

theorem split_intercalate {parts : List String} (hne : parts ≠ [])
    (h : ∀ part ∈ parts, '/' ∉ part.toList) : split (String.intercalate "/" parts) '/' = parts := by
  rw [split, String.toList_intercalate]
  have hsplit : (['/'].intercalate (parts.map String.toList)).splitOn '/' =
      parts.map String.toList := by
    refine List.splitOn_intercalate '/' (fun part hpart ↦ ?_) fun hmap ↦
      hne (List.map_eq_nil_iff.mp hmap)
    obtain ⟨text, htext, rfl⟩ := List.mem_map.mp hpart
    exact h text htext
  have hparts : ("/".toList.intercalate (parts.map String.toList)).splitOn '/' =
      parts.map String.toList := hsplit
  rw [hparts, List.map_map]
  exact List.map_id'' (fun part ↦ String.ofList_toList) parts

/-- What the check of the normalised key leaves: names, or the directory itself with a slash. -/
theorem split_posixNormalize {fileKey : String}
    (hdot : posixNormalize fileKey ≠ ".") (hdots : posixNormalize fileKey ≠ "..")
    (hup : startsWith (posixNormalize fileKey) "../" = false) :
    posixNormalize fileKey = "./" ∨
      ∃ names slash, names ≠ [] ∧ (∀ name ∈ names, IsPathName name) ∧ (slash = [] ∨ slash = [""]) ∧
        split (posixNormalize fileKey) '/' = names ++ slash := by
  have hstart : Climbs 0 [] ([] : List String).reverse := ⟨rfl, nofun⟩
  obtain ⟨k, names, hsplit, hnames⟩ := normalizedNames_climbs hstart
    fun name (hname : name ∈ split fileKey '/') ↦ no_slash_of_mem_split hname
  obtain ⟨slash, hslash, htext⟩ : ∃ slash, (slash = "" ∨ slash = "/") ∧ posixNormalize fileKey =
      (if List.replicate k ".." ++ names = [] then "." else
        String.intercalate "/" (List.replicate k ".." ++ names)) ++ slash := by
    refine ⟨if fileKey.toList.getLast? = some '/' then "/" else "", ?_, ?_⟩
    · split_ifs
      · exact .inr rfl
      · exact .inl rfl
    · simp only [posixNormalize, hsplit]
      split_ifs <;> rfl
  rw [htext] at hdot hdots hup ⊢
  cases k with
  | zero =>
    rw [List.replicate_zero, List.nil_append] at hdot ⊢
    by_cases hnil : names = []
    · left
      rw [if_pos hnil] at hdot ⊢
      rcases hslash with rfl | rfl
      · exact absurd rfl hdot
      · rfl
    · right
      rw [if_neg hnil]
      rcases hslash with rfl | rfl
      · refine ⟨names, [], hnil, hnames, .inl rfl, ?_⟩
        rw [String.append_empty, List.append_nil,
          split_intercalate hnil fun name hname ↦ (hnames name hname).no_slash]
      · refine ⟨names, [""], hnil, hnames, .inr rfl, ?_⟩
        have hconcat : String.intercalate "/" names ++ "/" =
            String.intercalate "/" (names ++ [""]) := by
          rw [String.intercalate_append_of_ne_nil hnil (List.cons_ne_nil _ _),
            String.intercalate_singleton, String.append_empty]
        rw [hconcat, split_intercalate (List.append_ne_nil_of_left_ne_nil hnil _)]
        intro part hpart
        rcases List.mem_append.mp hpart with hpart | hpart
        · exact (hnames part hpart).no_slash
        · rw [List.mem_singleton.mp hpart]
          exact List.not_mem_nil
  | succ k =>
    -- the text begins with a step up
    exfalso
    rw [List.replicate_succ, List.cons_append, if_neg (List.cons_ne_nil _ _)] at hdots hup
    by_cases hrest : List.replicate k ".." ++ names = []
    · rw [hrest, String.intercalate_singleton] at hdots hup
      rcases hslash with rfl | rfl
      · exact hdots rfl
      · exact absurd hup (by decide)
    · rw [String.intercalate_cons_of_ne_nil hrest, String.append_assoc] at hup
      have hup' : (".." ++ "/" : String) = "../" := by decide
      rw [hup', startsWith_append] at hup
      cases hup

/-! ## The path of a key -/

section

variable {fileKey uploadRoot root path : String}

theorem resolvePrivateFilePath_eq_ok (h : resolvePrivateFilePath fileKey uploadRoot = .ok path) :
    posixNormalize fileKey ≠ "." ∧ posixNormalize fileKey ≠ ".." ∧
      startsWith (posixNormalize fileKey) "../" = false ∧
      ∃ root, resolveUploadsRoot uploadRoot = .ok root ∧
        path = resolvePath root (split (posixNormalize fileKey) '/') := by
  simp only [resolvePrivateFilePath, bind_eq_ok, throwIf_eq_ok, not_or, pure_eq_ok] at h
  obtain ⟨_, -, _, ⟨hdot, hdots, hup⟩, root, hroot, _, -, hpath⟩ := h
  exact ⟨hdot, hdots, by simpa using hup, root, hroot, hpath.symm⟩

/-- A key that does not normalise to the directory itself stays below the root. -/
theorem isBelow_of_ne (hroot : resolveUploadsRoot uploadRoot = .ok root)
    (h : resolvePrivateFilePath fileKey uploadRoot = .ok path)
    (hne : posixNormalize fileKey ≠ "./") : IsBelow root path := by
  obtain ⟨hdot, hdots, hup, root', hroot', rfl⟩ := resolvePrivateFilePath_eq_ok h
  obtain rfl := Except.ok.inj (hroot'.symm.trans hroot)
  obtain ⟨rootNames, rfl, hrootNames⟩ := resolveUploadsRoot_eq_ok hroot
  obtain ⟨names, slash, hnil, hnames, hslash, hsplit⟩ :=
    (split_posixNormalize hdot hdots hup).resolve_left hne
  refine ⟨rootNames, names, rfl, ?_, hnil, fun name hname ↦ ?_⟩
  · rw [hsplit, resolvePath_absoluteText hrootNames, absoluteNames_append hnames]
    rcases hslash with rfl | rfl
    · rw [absoluteNames, List.reverse_append, List.reverse_reverse, List.reverse_reverse]
    · rw [absoluteNames, if_pos (.inl rfl), absoluteNames, List.reverse_append, List.reverse_reverse,
        List.reverse_reverse]
  · rcases List.mem_append.mp hname with hname | hname
    · exact hrootNames name hname
    · exact hnames name hname

/-- A key that does is answered with the root. -/
theorem resolvePrivateFilePath_dot (hroot : resolveUploadsRoot uploadRoot = .ok root)
    (h : posixNormalize fileKey = "./")
    (hkey : fileKey ≠ "" ∧ '\x00' ∉ fileKey.toList ∧ '\\' ∉ fileKey.toList ∧ isAbsolute fileKey = false) :
    resolvePrivateFilePath fileKey uploadRoot = .ok root := by
  obtain ⟨hempty, hnul, hback, habs⟩ := hkey
  obtain ⟨names, rfl, hnames⟩ := resolveUploadsRoot_eq_ok hroot
  have hsplit : split "./" '/' = [".", ""] := by decide
  have hpath : resolvePath (absoluteText names) [".", ""] = absoluteText names := by
    rw [resolvePath_absoluteText hnames, absoluteNames, if_pos (.inr rfl), absoluteNames,
      if_pos (.inl rfl), absoluteNames, List.reverse_reverse]
  have hkey : ¬(fileKey = "" ∨ '\x00' ∈ fileKey.toList ∨ '\\' ∈ fileKey.toList ∨ isAbsolute fileKey) := by
    rw [habs]
    simp [hempty, hnul, hback]
  have hnormal : ¬("./" = "." ∨ "./" = ".." ∨ startsWith "./" "../") := by decide
  simp only [resolvePrivateFilePath, h, hroot, hsplit, hpath, throwIf, if_neg hkey, if_neg hnormal,
    ok_bind, ne_eq, not_true_eq_false, false_and, if_false]
  rfl

end

/-! ## Generated keys -/

section

variable {names : List String}

theorem normalizedNames_names (h : ∀ name ∈ names, IsPathName name) (done : List String) :
    normalizedNames done names = done.reverse ++ names := by
  induction names generalizing done with
  | nil => rw [normalizedNames, List.append_nil]
  | cons name names ih =>
    obtain ⟨hempty, hdot, hdots, -⟩ := h name List.mem_cons_self
    unfold normalizedNames
    rw [if_neg (not_or.mpr ⟨hempty, hdot⟩), if_neg hdots,
      ih fun n hn ↦ h n (List.mem_cons_of_mem _ hn), List.reverse_cons, List.append_assoc,
      List.singleton_append]

/-- The key is made of names. -/
structure PlainKey (names : List String) (key : String) : Prop where
  names_ne_nil : names ≠ []
  isPathName : ∀ name ∈ names, IsPathName name
  key_eq : key = String.intercalate "/" names

namespace PlainKey

variable {key : String} (h : PlainKey names key)

include h

theorem split_eq : split key '/' = names := by
  rw [h.key_eq, split_intercalate h.names_ne_nil fun name hname ↦ (h.isPathName name hname).no_slash]

theorem getLast?_ne : key.toList.getLast? ≠ some '/' := by
  intro hlast
  obtain ⟨l, hl⟩ := List.getLast?_eq_some_iff.mp hlast
  have hmem : "" ∈ split key '/' := by
    rw [split, hl, List.splitOn_append_cons_self, List.map_append]
    exact List.mem_append_right _ (List.mem_singleton_self _)
  rw [h.split_eq] at hmem
  exact (h.isPathName _ hmem).ne_empty rfl

theorem head?_ne : key.toList.head? ≠ some '/' := by
  intro hhead
  obtain ⟨l, hl⟩ := List.head?_eq_some_iff.mp hhead
  have hmem : "" ∈ split key '/' := by
    rw [split, hl, List.splitOn_cons_eq_if_modifyHead, if_pos (beq_self_eq_true _)]
    exact List.mem_cons_self
  rw [h.split_eq] at hmem
  exact (h.isPathName _ hmem).ne_empty rfl

theorem startsWith_eq : startsWith key "../" = false := by
  rw [Bool.eq_false_iff]
  intro hstart
  obtain ⟨l, hl⟩ := List.isPrefixOf_iff_prefix.mp hstart
  have hmem : ".." ∈ split key '/' := by
    have hkey : key.toList = ['.', '.'] ++ '/' :: l := hl.symm
    rw [split, hkey, List.splitOn_append_cons_self_of_not_mem (by decide)]
    exact List.mem_cons_self
  rw [h.split_eq] at hmem
  exact (h.isPathName _ hmem).ne_dots rfl

theorem ne_of_split {s : String} (hs : split s '/' = [s]) (hname : ¬IsPathName s) : key ≠ s := by
  rintro rfl
  rw [h.split_eq] at hs
  exact hname (h.isPathName key (hs ▸ List.mem_singleton_self key))

theorem posixNormalize_eq : posixNormalize key = key := by
  simp only [posixNormalize, h.split_eq, normalizedNames_names h.isPathName, List.reverse_nil,
    List.nil_append, if_neg h.getLast?_ne, if_neg h.names_ne_nil, String.append_empty]
  exact h.key_eq.symm

/-- The key is kept as it is, below the root. -/
theorem resolvePrivateFilePath_eq {uploadRoot root : String}
    (hroot : resolveUploadsRoot uploadRoot = .ok root)
    (hplain : '\x00' ∉ key.toList ∧ '\\' ∉ key.toList) :
    ∃ rootNames, root = absoluteText rootNames ∧ (∀ name ∈ rootNames, IsPathName name) ∧
      resolvePrivateFilePath key uploadRoot = .ok (absoluteText (rootNames ++ names)) := by
  obtain ⟨rootNames, rfl, hrootNames⟩ := resolveUploadsRoot_eq_ok hroot
  refine ⟨rootNames, rfl, hrootNames, ?_⟩
  have hempty := h.ne_of_split (s := "") (by decide) fun hname ↦ hname.ne_empty rfl
  have hdot := h.ne_of_split (s := ".") (by decide) fun hname ↦ hname.ne_dot rfl
  have hdots := h.ne_of_split (s := "..") (by decide) fun hname ↦ hname.ne_dots rfl
  have hpath : resolvePath (absoluteText rootNames) names = absoluteText (rootNames ++ names) := by
    have happend := absoluteNames_append h.isPathName rootNames.reverse []
    rw [List.append_nil, absoluteNames, List.reverse_append, List.reverse_reverse,
      List.reverse_reverse] at happend
    rw [resolvePath_absoluteText hrootNames, happend]
  have hbelow : startsWith (absoluteText (rootNames ++ names))
      (if endsWith (absoluteText rootNames) "/" then absoluteText rootNames
        else absoluteText rootNames ++ "/") := by
    by_cases hnil : rootNames = []
    · rw [hnil, if_pos (by decide)]
      exact startsWith_append _ _
    · have htext : absoluteText (rootNames ++ names) =
          absoluteText rootNames ++ ("/" ++ String.intercalate "/" names) := by
        rw [absoluteText, absoluteText, String.intercalate_append_of_ne_nil hnil h.names_ne_nil,
          String.append_assoc, String.append_assoc]
      rw [htext]
      split_ifs
      · exact startsWith_append _ _
      · rw [← String.append_assoc]
        exact startsWith_append _ _
  have hkey : ¬(key = "" ∨ '\x00' ∈ key.toList ∨ '\\' ∈ key.toList ∨ isAbsolute key) := by
    simp [hempty, hplain.1, hplain.2, isAbsolute, h.head?_ne]
  simp only [resolvePrivateFilePath, h.posixNormalize_eq, hroot, h.split_eq, hpath, throwIf,
    if_neg hkey, ok_bind, hdot, hdots, h.startsWith_eq, hbelow, Bool.false_eq_true, or_self, if_false,
    Bool.not_true, and_false]
  rfl

end PlainKey

end

theorem paddedDigits_spec (width n : ℕ) :
    (paddedDigits width n).length = width ∧ ∀ c ∈ paddedDigits width n, isDigit c := by
  induction width generalizing n with
  | zero => exact ⟨rfl, nofun⟩
  | succ width ih =>
    obtain ⟨hlength, hdigits⟩ := ih (n / 10)
    refine ⟨by rw [paddedDigits, List.length_append, hlength, List.length_singleton], ?_⟩
    have hlast : ∀ k < 10, isDigit (Char.ofNat (48 + k)) := by decide
    intro c hc
    rcases List.mem_append.mp hc with hc | hc
    · exact hdigits c hc
    · rw [List.mem_singleton.mp hc]
      exact hlast _ (Nat.mod_lt n (by decide))

theorem isPathName_of_digits {width n : ℕ} (h : 0 < width) :
    IsPathName (String.ofList (paddedDigits width n)) := by
  obtain ⟨hlength, hdigits⟩ := paddedDigits_spec width n
  have hchars : ∀ c ∈ (String.ofList (paddedDigits width n)).toList, isDigit c := by
    rw [String.toList_ofList]
    exact hdigits
  refine ⟨fun hempty ↦ ?_, fun hdot ↦ ?_, fun hdots ↦ ?_, fun hslash ↦ ?_⟩
  · have hnil := congrArg String.toList hempty
    rw [String.toList_ofList] at hnil
    rw [hnil] at hlength
    exact h.ne hlength
  · rw [hdot] at hchars
    exact absurd (hchars '.' (by decide)) (by decide)
  · rw [hdots] at hchars
    exact absurd (hchars '.' (by decide)) (by decide)
  · exact absurd (hchars '/' hslash) (by decide)

/-- The date of an instant, with slashes. -/
theorem date_isoText {t : ℤ} (hyear : 0 ≤ (civilDate (t / 86400000)).year ∧
    (civilDate (t / 86400000)).year ≤ 9999) :
    String.ofList ((sliceTo (isoText t) 10).toList.map fun c ↦ if c = '-' then '/' else c) =
      String.ofList (paddedDigits 4 (civilDate (t / 86400000)).year.toNat) ++ "/" ++
        String.ofList (paddedDigits 2 (civilDate (t / 86400000)).month.toNat) ++ "/" ++
        String.ofList (paddedDigits 2 (civilDate (t / 86400000)).day.toNat) := by
  obtain ⟨hyears, hyear'⟩ := paddedDigits_spec 4 (civilDate (t / 86400000)).year.toNat
  obtain ⟨hmonths, hmonth'⟩ := paddedDigits_spec 2 (civilDate (t / 86400000)).month.toNat
  obtain ⟨hdays, hday'⟩ := paddedDigits_spec 2 (civilDate (t / 86400000)).day.toNat
  have hkept : ∀ l : List Char, (∀ c ∈ l, isDigit c) →
      l.map (fun c ↦ if c = '-' then '/' else c) = l := by
    intro l hl
    refine (List.map_congr_left fun c hc ↦ if_neg ?_).trans (List.map_id l)
    rintro rfl
    exact absurd (hl '-' hc) (by decide)
  obtain ⟨rest, hsplit⟩ : ∃ rest, (isoText t).toList =
      (paddedDigits 4 (civilDate (t / 86400000)).year.toNat ++ ['-'] ++
        paddedDigits 2 (civilDate (t / 86400000)).month.toNat ++ ['-'] ++
        paddedDigits 2 (civilDate (t / 86400000)).day.toNat) ++ rest := by
    refine ⟨['T'] ++ paddedDigits 2 ((t % 86400000).toNat / 3600000) ++ [':'] ++
      paddedDigits 2 ((t % 86400000).toNat / 60000 % 60) ++ [':'] ++
      paddedDigits 2 ((t % 86400000).toNat / 1000 % 60) ++ ['.'] ++
      paddedDigits 3 ((t % 86400000).toNat % 1000) ++ ['Z'], ?_⟩
    simp only [isoText, isoYear, if_pos hyear, String.toList_ofList, List.append_assoc]
  have hlength : (paddedDigits 4 (civilDate (t / 86400000)).year.toNat ++ ['-'] ++
      paddedDigits 2 (civilDate (t / 86400000)).month.toNat ++ ['-'] ++
      paddedDigits 2 (civilDate (t / 86400000)).day.toNat).length = 10 := by
    simp only [List.length_append, hyears, hmonths, hdays, List.length_singleton]
  rw [sliceTo, String.toList_ofList, hsplit, List.take_left' hlength]
  apply String.toList_injective
  simp only [String.toList_ofList, String.toList_append, List.map_append, List.map_cons, List.map_nil,
    hkept _ hyear', hkept _ hmonth', hkept _ hday', if_true]
  rfl

section

variable (P : Platform) (call : UploadDocument)

/-- The clock shows a year of four digits, and the id of the file is made of hexadecimal digits and
hyphens. -/
structure DrawsKey : Prop where
  isoString : P.isoString call.now = isoText call.now
  year : 0 ≤ (civilDate (call.now / 86400000)).year ∧ (civilDate (call.now / 86400000)).year ≤ 9999
  newFileId : ∀ c ∈ call.newFileId.toList, c = '-' ∨ c ∈ hexDigits

/-- The names of a generated key. -/
def keyNames : List String :=
  let date := civilDate (call.now / 86400000)
  ["documents", String.ofList (paddedDigits 4 date.year.toNat),
    String.ofList (paddedDigits 2 date.month.toNat), String.ofList (paddedDigits 2 date.day.toNat),
    call.newFileId ++ "." ++ extensionForUpload call]

theorem extensionForUpload_mem : extensionForUpload call ∈ ["pdf", "doc", "docx", "jpg", "jpeg",
    "png", "bin"] := by
  have hallowed : ∀ e ∈ allowedExtensionsByMime call.file.mimeType,
      e ∈ ["pdf", "doc", "docx", "jpg", "jpeg", "png", "bin"] := by
    unfold allowedExtensionsByMime
    split_ifs <;> decide
  have hhead : (allowedExtensionsByMime call.file.mimeType).headD "bin" ∈
      ["pdf", "doc", "docx", "jpg", "jpeg", "png", "bin"] := by
    cases hlist : allowedExtensionsByMime call.file.mimeType with
    | nil => decide
    | cons e l => exact hallowed e (hlist ▸ List.mem_cons_self)
  dsimp only [extensionForUpload]
  cases hfind : (allowedExtensionsByMime call.file.mimeType).find?
      fun e ↦ decide (units e = getExtension call.file.fileName) with
  | some e => exact hallowed e (List.mem_of_find?_eq_some hfind)
  | none => exact hhead

variable {P call}

/-- The characters of the last name. -/
theorem mem_fileName (h : DrawsKey P call) {c : Char}
    (hc : c ∈ (call.newFileId ++ "." ++ extensionForUpload call).toList) :
    c ≠ '/' ∧ c ≠ '\x00' ∧ c ≠ '\\' := by
  have hhex : hexDigits.all fun c ↦ c ≠ '/' ∧ c ≠ '\x00' ∧ c ≠ '\\' := by decide
  have hext : ∀ e ∈ ["pdf", "doc", "docx", "jpg", "jpeg", "png", "bin"],
      e.toList.all fun c ↦ c ≠ '/' ∧ c ≠ '\x00' ∧ c ≠ '\\' := by decide
  rw [String.toList_append, String.toList_append] at hc
  rcases List.mem_append.mp hc with hc | hc
  · rcases List.mem_append.mp hc with hc | hc
    · rcases h.newFileId c hc with rfl | hc
      · decide
      · exact of_decide_eq_true (List.all_eq_true.mp hhex c hc)
    · rw [List.mem_singleton.mp hc]
      decide
  · exact of_decide_eq_true (List.all_eq_true.mp (hext _ (extensionForUpload_mem call)) c hc)

theorem isPathName_fileName (h : DrawsKey P call) :
    IsPathName (call.newFileId ++ "." ++ extensionForUpload call) := by
  have hext : ∀ e ∈ ["pdf", "doc", "docx", "jpg", "jpeg", "png", "bin"], 3 ≤ e.toList.length := by
    decide
  have hlength : 4 ≤ (call.newFileId ++ "." ++ extensionForUpload call).toList.length := by
    have hmin := hext _ (extensionForUpload_mem call)
    have hdot : ".".toList.length = 1 := rfl
    rw [String.toList_append, String.toList_append, List.length_append, List.length_append, hdot]
    omega
  refine ⟨fun h ↦ ?_, fun h ↦ ?_, fun h ↦ ?_, fun hslash ↦ (mem_fileName h hslash).1 rfl⟩ <;>
    · rw [h] at hlength
      exact absurd hlength (by decide)

theorem plainKey_generated (h : DrawsKey P call) :
    PlainKey (keyNames call) (generateDocumentFileKey P call) where
  names_ne_nil := List.cons_ne_nil _ _
  isPathName := by
    have hdocuments : IsPathName "documents" := ⟨by decide, by decide, by decide, by decide⟩
    simp only [keyNames, List.mem_cons, List.not_mem_nil, or_false]
    rintro name (rfl | rfl | rfl | rfl | rfl)
    · exact hdocuments
    · exact isPathName_of_digits (by decide)
    · exact isPathName_of_digits (by decide)
    · exact isPathName_of_digits (by decide)
    · exact isPathName_fileName h
  key_eq := by
    simp only [generateDocumentFileKey, keyNames, h.isoString, date_isoText h.year,
      String.intercalate_cons_cons, String.intercalate_singleton, String.append_assoc]
    rfl

end

/-! ## Where a key leads -/

/-- The storage accepts the absolute root. -/
structure AcceptsRoot (uploadRoot root : String) : Prop where
  isAbsolute : isAbsolute uploadRoot
  resolves : resolveUploadsRoot uploadRoot = .ok root

/-- The first check lets the key pass, and it normalises to the directory itself with a slash. -/
def LeadsToRoot (fileKey : String) : Prop :=
  (fileKey ≠ "" ∧ '\x00' ∉ fileKey.toList ∧ '\\' ∉ fileKey.toList ∧ isAbsolute fileKey = false) ∧
    posixNormalize fileKey = "./"

instance (fileKey : String) : Decidable (LeadsToRoot fileKey) :=
  inferInstanceAs (Decidable ((_ ∧ _ ∧ _ ∧ _) ∧ _))

theorem mem_intercalate {names : List String} {c : Char}
    (h : c ∈ (String.intercalate "/" names).toList) :
    c = '/' ∨ ∃ name ∈ names, c ∈ name.toList := by
  induction names with
  | nil => cases h
  | cons name names ih =>
    by_cases hnil : names = []
    · rw [hnil, String.intercalate_singleton] at h
      exact .inr ⟨name, List.mem_cons_self, h⟩
    · rw [String.intercalate_cons_of_ne_nil hnil, String.toList_append, String.toList_append] at h
      rcases List.mem_append.mp h with h | h
      · rcases List.mem_append.mp h with h | h
        · exact .inr ⟨name, List.mem_cons_self, h⟩
        · exact .inl (List.mem_singleton.mp h)
      · rcases ih h with hslash | ⟨n, hn, hc⟩
        · exact .inl hslash
        · exact .inr ⟨n, List.mem_cons_of_mem _ hn, hc⟩

theorem mem_generated {P : Platform} {call : UploadDocument} (h : DrawsKey P call) {c : Char}
    (hc : c ∈ (generateDocumentFileKey P call).toList) : c ≠ '\x00' ∧ c ≠ '\\' := by
  have hdigits : ∀ {width n : ℕ}, c ∈ (String.ofList (paddedDigits width n)).toList →
      c ≠ '\x00' ∧ c ≠ '\\' := by
    intro width n hmem
    rw [String.toList_ofList] at hmem
    have hdigit := (paddedDigits_spec width n).2 c hmem
    constructor
    · rintro rfl
      exact absurd hdigit (by decide)
    · rintro rfl
      exact absurd hdigit (by decide)
  have hdocuments : "documents".toList.all fun c ↦ c ≠ '\x00' ∧ c ≠ '\\' := by decide
  rw [(plainKey_generated h).key_eq] at hc
  rcases mem_intercalate hc with rfl | ⟨name, hname, hmem⟩
  · decide
  · simp only [keyNames, List.mem_cons, List.not_mem_nil, or_false] at hname
    rcases hname with rfl | rfl | rfl | rfl | rfl
    · exact of_decide_eq_true (List.all_eq_true.mp hdocuments c hmem)
    · exact hdigits hmem
    · exact hdigits hmem
    · exact hdigits hmem
    · exact (mem_fileName h hmem).2

/-- A generated key leads below the root, by its own names. -/
theorem generated_isBelow {P : Platform} {call : UploadDocument} {uploadRoot root : String}
    (hroot : resolveUploadsRoot uploadRoot = .ok root) (h : DrawsKey P call) :
    ∃ rootNames, root = absoluteText rootNames ∧
      (∀ name ∈ rootNames ++ keyNames call, IsPathName name) ∧
      resolvePrivateFilePath (generateDocumentFileKey P call) uploadRoot =
        .ok (absoluteText (rootNames ++ keyNames call)) := by
  have hplain := plainKey_generated h
  obtain ⟨rootNames, hrootText, hrootNames, hpath⟩ := hplain.resolvePrivateFilePath_eq hroot
    ⟨fun hc ↦ (mem_generated h hc).1 rfl, fun hc ↦ (mem_generated h hc).2 rfl⟩
  refine ⟨rootNames, hrootText, fun name hname ↦ ?_, hpath⟩
  rcases List.mem_append.mp hname with hname | hname
  · exact hrootNames name hname
  · exact hplain.isPathName name hname

/-- A key leads strictly below the root, or is refused, unless it normalises to the directory itself
with a slash: then it leads to the root.  Every generated key leads below the root, and different
ones to different paths. -/
theorem filePath_below_iff {uploadRoot root : String} (hroot : AcceptsRoot uploadRoot root) :
    (∀ fileKey, (∀ path, resolvePrivateFilePath fileKey uploadRoot = .ok path → IsBelow root path) ↔
        ¬LeadsToRoot fileKey) ∧
      (∀ P call, DrawsKey P call → ∃ path, IsBelow root path ∧
        resolvePrivateFilePath (generateDocumentFileKey P call) uploadRoot = .ok path) ∧
      ∀ P call call', DrawsKey P call → DrawsKey P call' →
        generateDocumentFileKey P call ≠ generateDocumentFileKey P call' →
        resolvePrivateFilePath (generateDocumentFileKey P call) uploadRoot ≠
          resolvePrivateFilePath (generateDocumentFileKey P call') uploadRoot := by
  refine ⟨fun fileKey ↦ ⟨?_, ?_⟩, ?_, ?_⟩
  · rintro h ⟨hkey, hnormal⟩
    exact not_isBelow_self root (h root (resolvePrivateFilePath_dot hroot.resolves hnormal hkey))
  · intro h path hpath
    refine isBelow_of_ne hroot.resolves hpath fun hnormal ↦ h ⟨?_, hnormal⟩
    obtain ⟨_, hkey, -⟩ := bind_eq_ok.mp hpath
    simpa only [throwIf_eq_ok, not_or, Bool.not_eq_true] using hkey
  · intro P call h
    obtain ⟨rootNames, hrootText, hnames, hpath⟩ := generated_isBelow hroot.resolves h
    exact ⟨_, ⟨rootNames, keyNames call, hrootText, rfl, List.cons_ne_nil _ _, hnames⟩, hpath⟩
  · intro P call call' h h' hne heq
    obtain ⟨rootNames, hrootText, hnames, hpath⟩ := generated_isBelow hroot.resolves h
    obtain ⟨rootNames', hrootText', hnames', hpath'⟩ := generated_isBelow hroot.resolves h'
    rw [hpath, hpath', Except.ok.injEq] at heq
    have hrootNames : rootNames = rootNames' :=
      absoluteText_inj (fun name hname ↦ hnames name (List.mem_append_left _ hname))
        (fun name hname ↦ hnames' name (List.mem_append_left _ hname))
        (hrootText.symm.trans hrootText')
    have hkeys := absoluteText_inj hnames hnames' heq
    rw [hrootNames] at hkeys
    apply hne
    rw [(plainKey_generated h).key_eq, (plainKey_generated h').key_eq,
      List.append_cancel_left hkeys]

theorem filePath_below_srv :
    resolvePrivateFilePath "documents/../x/" "/srv/uploads" = .ok "/srv/uploads/x" ∧
      IsBelow "/srv/uploads" "/srv/uploads/x" := by
  have hpath : resolvePrivateFilePath "documents/../x/" "/srv/uploads" = .ok "/srv/uploads/x" := by
    decide +kernel
  have hroot : AcceptsRoot "/srv/uploads" "/srv/uploads" := ⟨by decide, by decide +kernel⟩
  have hbelow := ((filePath_below_iff hroot).1 "documents/../x/").mpr (by decide +kernel)
  exact ⟨hpath, hbelow _ hpath⟩

/-- The key of the directory itself leads to the root. -/
theorem dotKey_leads_to_root :
    ¬∀ (uploadRoot root fileKey path : String), AcceptsRoot uploadRoot root →
      resolvePrivateFilePath fileKey uploadRoot = .ok path → IsBelow root path := by
  intro h
  exact not_isBelow_self _ (h "/srv/uploads" "/srv/uploads" "a/../" "/srv/uploads"
    ⟨by decide, by decide +kernel⟩ (by decide +kernel))

end KmtLegal
