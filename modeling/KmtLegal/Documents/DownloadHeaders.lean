import KmtLegal.Documents.Upload

/-!
# The headers of a download

`documentDownloadHeaders` puts the name of a document into one header twice: between quotation marks
as it is, and percent-encoded.  `new Response(…)` takes a header whose value is a byte string
without NUL, CR and LF, and throws a `TypeError` at any other.
-/

namespace KmtLegal

open Relational Js

/-! ## Headers -/

/-- `fileName.replace(/"/g, "_")`. -/
def quotedFileName (fileName : Units) : Units := replaceUnits [0x22] 0x5f fileName

/-- The value of `Content-Disposition`, of a name and its encoding. -/
def contentDisposition (fileName encoded : Units) : Units :=
  units "attachment; filename=\"" ++ quotedFileName fileName ++ units "\"; filename*=UTF-8''" ++
    encoded

/-- `documentDownloadHeaders(input)`; `none` if `encodeURIComponent` throws. -/
def documentDownloadHeaders (fileName : Units) (mimeType : String) (sizeBytes : ℕ) :
    Option (List (String × Units)) := do
  let fileName := sanitizeDownloadFileName fileName
  let encoded ← encodeURIComponent fileName
  return [("Content-Type", units mimeType),
    ("Content-Length", units (toString sizeBytes)),
    ("Content-Disposition", contentDisposition fileName encoded),
    ("Cache-Control", units "private, no-store"),
    ("X-Content-Type-Options", units "nosniff")]

/-! ## What a download needs -/

/-- A unit `new Response(…)` takes in the value of a header. -/
def isHeaderUnit (u : UInt16) : Bool := u.toNat ≤ 0xff ∧ u ∉ [0x00, 0x0d, 0x0a]

/-- The headers can be made and sent, the quoted name ends at its second quotation mark, and the
encoded name is the name. -/
def Downloadable (fileName : Units) (mimeType : String) (sizeBytes : ℕ) : Prop :=
  ∃ headers, documentDownloadHeaders fileName mimeType sizeBytes = some headers ∧
    (∀ header ∈ headers, ∀ u ∈ header.2, isHeaderUnit u) ∧
    ∃ quoted encoded, ("Content-Disposition", units "attachment; filename=\"" ++ quoted ++
        units "\"; filename*=UTF-8''" ++ encoded) ∈ headers ∧
      (0x22 : UInt16) ∉ quoted ∧ (0x5c : UInt16) ∉ quoted ∧
      (isWellFormed (sanitizeDownloadFileName fileName) →
        ∃ text, percentText encoded = some text ∧ units text = sanitizeDownloadFileName fileName)

/-! ## The names that can be downloaded -/

section

variable {fileName : Units} {mimeType : String} {sizeBytes : ℕ}

/-- What would end a header or a path is not in a sanitised name. -/
theorem sanitized_notMem {u : UInt16} (hu : u ∈ pathUnits) :
    u ∉ sanitizeDownloadFileName fileName := by
  have hdocument : ∀ u ∈ pathUnits, u ∉ units "document" := forall_mem_of_all (by decide)
  intro hmem
  simp only [sanitizeDownloadFileName] at hmem
  split_ifs at hmem with hempty
  · exact hdocument u hu hmem
  · rcases mem_replaceUnits (mem_trimUnits hmem) with rfl | ⟨-, hnot⟩
    · revert hu
      decide
    · exact hnot hu

/-- A text of visible ASCII characters may stand in a header. -/
theorem isHeaderUnit_of_range {u : UInt16} (h : 0x1f < u.toNat) (h' : u.toNat < 0x100) :
    isHeaderUnit u := by
  simp only [isHeaderUnit, decide_eq_true_eq, List.mem_cons, List.not_mem_nil, or_false, not_or]
  refine ⟨by omega, ?_, ?_, ?_⟩ <;> rintro rfl <;> revert h <;> decide

theorem isHeaderUnit_digits (n : ℕ) {u : UInt16} (hu : u ∈ units (toString n)) :
    isHeaderUnit u := by
  obtain ⟨c, hc, hu⟩ := List.mem_flatMap.mp hu
  have hdigits : (toString n).toList = Nat.toDigits 10 n := Nat.toList_repr
  rw [hdigits] at hc
  have hdigit := Nat.isDigit_of_mem_toDigits (by decide) le_rfl hc
  simp only [Char.isDigit, Bool.and_eq_true, decide_eq_true_eq, ge_iff_le,
    UInt32.le_iff_toNat_le] at hdigit
  have hlow : 48 ≤ c.toNat := hdigit.1
  have hhigh : c.toNat ≤ 57 := hdigit.2
  rw [charUnits, if_pos (by omega), List.mem_singleton] at hu
  subst hu
  apply isHeaderUnit_of_range <;> rw [toNat_toUInt16 (by omega)] <;> omega

/-- The types that are uploaded are ASCII. -/
theorem isHeaderUnit_mimeType (h : mimeType ∈ defaultAllowedUploadTypes) {u : UInt16}
    (hu : u ∈ units mimeType) : isHeaderUnit u := by
  have hall : ∀ t ∈ defaultAllowedUploadTypes, (units t).all isHeaderUnit := by decide +kernel
  exact forall_mem_of_all (by simpa using hall mimeType h) u hu

/-- A quoted name has the units of the name, but for quotation marks. -/
theorem quotedFileName_le (l : Units) :
    (∀ u ∈ quotedFileName l, u.toNat ≤ 0xff) ↔ ∀ u ∈ l, u.toNat ≤ 0xff := by
  constructor
  · intro h u hu
    by_cases hquote : u = 0x22
    · subst hquote
      decide
    · apply h
      refine List.mem_map.mpr ⟨u, hu, if_neg ?_⟩
      simpa using hquote
  · intro h u hu
    rcases mem_replaceUnits hu with rfl | ⟨hu, -⟩
    · decide
    · exact h u hu

/-- A quoted name of Latin-1 can stand in a header. -/
theorem isHeaderUnit_quotedFileName
    (h : ∀ u ∈ sanitizeDownloadFileName fileName, u.toNat ≤ 0xff) {u : UInt16}
    (hu : u ∈ quotedFileName (sanitizeDownloadFileName fileName)) : isHeaderUnit u := by
  have hpath : ∀ u ∈ ([0x00, 0x0d, 0x0a] : Units), u ∈ pathUnits := forall_mem_of_all (by decide)
  refine decide_eq_true ⟨(quotedFileName_le _).mpr h u hu, ?_⟩
  intro hbad
  rcases mem_replaceUnits hu with rfl | ⟨hu, -⟩
  · revert hbad
    decide
  · exact sanitized_notMem (hpath u hbad) hu

/-- So can the whole disposition. -/
theorem isHeaderUnit_contentDisposition
    (h : ∀ u ∈ sanitizeDownloadFileName fileName, u.toNat ≤ 0xff) {encoded : Units}
    (hencoded : encodeURIComponent (sanitizeDownloadFileName fileName) = some encoded)
    {u : UInt16}
    (hu : u ∈ contentDisposition (sanitizeDownloadFileName fileName) encoded) : isHeaderUnit u := by
  simp only [contentDisposition, List.mem_append] at hu
  rcases hu with ((hu | hu) | hu) | hu
  · exact forall_mem_of_all (p := fun u ↦ isHeaderUnit u) (by decide) u hu
  · exact isHeaderUnit_quotedFileName h hu
  · exact forall_mem_of_all (p := fun u ↦ isHeaderUnit u) (by decide) u hu
  · obtain ⟨hlow, hhigh⟩ := encodeURIComponent_ascii hencoded hu
    exact isHeaderUnit_of_range (by omega) (by omega)

/-- A document of an allowed type can be downloaded exactly if its name has no unit beyond
Latin-1. -/
theorem downloadable_iff (h : mimeType ∈ defaultAllowedUploadTypes) :
    Downloadable fileName mimeType sizeBytes ↔
      ∀ u ∈ sanitizeDownloadFileName fileName, u.toNat ≤ 0xff := by
  constructor
  · rintro ⟨headers, hheaders, hvalid, -⟩
    simp only [documentDownloadHeaders, Option.bind_eq_bind, Option.bind_eq_some_iff,
      Option.pure_def, Option.some.injEq] at hheaders
    obtain ⟨encoded, -, rfl⟩ := hheaders
    rw [← quotedFileName_le]
    intro u hu
    have hheader : isHeaderUnit u := by
      refine hvalid _ (List.mem_cons_of_mem _ (List.mem_cons_of_mem _ List.mem_cons_self)) u ?_
      simp [contentDisposition, hu]
    exact (of_decide_eq_true hheader).1
  · intro hlatin
    have hwell : isWellFormed (sanitizeDownloadFileName fileName) :=
      isWellFormed_of_lt fun u hu ↦ lt_of_le_of_lt (hlatin u hu) (by decide)
    obtain ⟨encoded, hencoded⟩ := Option.isSome_iff_exists.mp
      (encodeURIComponent_isSome.trans hwell)
    refine ⟨_, by rw [documentDownloadHeaders, hencoded]; rfl, ?_,
      quotedFileName (sanitizeDownloadFileName fileName), encoded,
      List.mem_cons_of_mem _ (List.mem_cons_of_mem _ List.mem_cons_self), ?_, ?_,
      fun _ ↦ percentText_encodeURIComponent hencoded⟩
    · intro header hheader u hu
      simp only [List.mem_cons, List.not_mem_nil, or_false] at hheader
      rcases hheader with rfl | rfl | rfl | rfl | rfl
      · exact isHeaderUnit_mimeType h hu
      · exact isHeaderUnit_digits sizeBytes hu
      · exact isHeaderUnit_contentDisposition hlatin hencoded hu
      · exact forall_mem_of_all (p := fun u ↦ isHeaderUnit u) (by decide) u hu
      · exact forall_mem_of_all (p := fun u ↦ isHeaderUnit u) (by decide) u hu
    · intro hquote
      rcases mem_replaceUnits hquote with hbad | ⟨-, hnot⟩
      · cases hbad
      · exact hnot List.mem_cons_self
    · intro hslash
      rcases mem_replaceUnits hslash with hbad | ⟨hmem, -⟩
      · cases hbad
      · exact sanitized_notMem (by decide) hmem

/-- Whatever happens between its checks and its transaction, the document an upload stores can be
downloaded exactly if its name has no unit beyond Latin-1. -/
theorem uploaded_downloadable_iff {P : Platform} {s₀ s s' : DocumentStore} {call : UploadDocument}
    {ticket : UploadTicket} {row : DocumentFile} (hcheck : checkUpload P s₀ call = .ok ticket)
    (hcreate : createUploadedDocument s call ticket = .ok s')
    (hrow : s'.documentFiles.lookup call.newDocumentId = some row) :
    Downloadable row.fileName row.fileType row.fileSize ↔
      ∀ u ∈ sanitizeDownloadFileName row.fileName, u.toNat ≤ 0xff := by
  obtain ⟨version, db, -, -, rfl⟩ := createUploadedDocument_ok hcreate
  have hfile : (s.documentFiles.insert call.newDocumentId (uploadedFile call ticket)).lookup
      call.newDocumentId = some row := hrow
  rw [AList.lookup_insert, Option.some.injEq] at hfile
  subst hfile
  exact downloadable_iff (fileType_mem_of_checkUpload hcheck)

end

/-- What an upload into an empty store leaves. -/
def storedPdf (fileName : String) : Except Failure DocumentStore :=
  uploadDocument plainPlatform { db := {} } (pdfUpload fileName {})

/-- The name and the type of the file it stored. -/
def storedName (fileName : String) : Option (Units × String) :=
  match storedPdf fileName with
  | .ok s => (s.documentFiles.lookup fileName).map fun row ↦ (row.fileName, row.fileType)
  | .error _ => none

theorem storedName_eq_some {fileName : String} {stored : Units × String}
    (h : storedName fileName = some stored) :
    ∃ s row, storedPdf fileName = .ok s ∧ s.documentFiles.lookup fileName = some row ∧
      row.fileName = stored.1 ∧ row.fileType = stored.2 := by
  unfold storedName at h
  split at h
  · rename_i s hs
    obtain ⟨row, hrow, rfl⟩ := Option.map_eq_some_iff.mp h
    exact ⟨s, row, hs, hrow, rfl, rfl⟩
  · cases h

/-- A contract with an Arabic name is stored and cannot be downloaded. -/
theorem arabic_name_not_downloadable :
    ∃ s row, storedPdf "عقد.pdf" = .ok s ∧ s.documentFiles.lookup "عقد.pdf" = some row ∧
      row.fileName = units "عقد.pdf" ∧ ¬Downloadable row.fileName row.fileType row.fileSize := by
  have hstored : storedName "عقد.pdf" = some (units "عقد.pdf", "application/pdf") := by
    decide +kernel
  obtain ⟨s, row, hs, hrow, hname, htype⟩ := storedName_eq_some hstored
  refine ⟨s, row, hs, hrow, hname, fun h ↦ ?_⟩
  have hlatin := (downloadable_iff (by rw [htype]; decide)).mp h
  rw [hname] at hlatin
  have hletter : ¬(sanitizeDownloadFileName (units "عقد.pdf")).all fun u ↦ u.toNat ≤ 0xff := by
    decide +kernel
  exact hletter (List.all_eq_true.mpr fun u hu ↦ decide_eq_true (hlatin u hu))

/-- The document of the tests is sent under both its names. -/
theorem case_notes_downloadable :
    ∃ s row, storedPdf "case notes.pdf" = .ok s ∧
      s.documentFiles.lookup "case notes.pdf" = some row ∧
      Downloadable row.fileName row.fileType row.fileSize := by
  have hstored : storedName "case notes.pdf" = some (units "case notes.pdf", "application/pdf") := by
    decide +kernel
  obtain ⟨s, row, hs, hrow, hname, -⟩ := storedName_eq_some hstored
  obtain ⟨ticket, s₁, hcheck, hcreate⟩ := uploadDocument_ok hs
  refine ⟨s, row, hs, hrow, (uploaded_downloadable_iff hcheck hcreate hrow).mpr ?_⟩
  rw [hname]
  exact forall_mem_of_all (by decide +kernel)

end KmtLegal
