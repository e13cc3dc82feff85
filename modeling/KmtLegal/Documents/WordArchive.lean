import Mathlib.Data.List.Infix
import Mathlib.Data.List.Nodup
import Mathlib.Data.List.Perm.Subperm
import KmtLegal.Js.Base64
import KmtLegal.Relational.Transaction

/-!
# Word archives

`isWordDocumentArchive` of `upload-policy.ts`: before a Word document is stored, the central
directory of the archive is read and what an office program would find in it is inspected.  The
records are counted by the end record; whether they are all the directory has is not checked.
-/

namespace KmtLegal

open Relational Js

/-! ## Reading bytes -/

/-- Why an archive is not accepted: it is found wanting, or reading it throws. -/
inductive ArchiveFault where
  | rejected | thrown
  deriving DecidableEq

/-- `bytes.subarray(begin, stop)`. -/
def subarray (bytes : List UInt8) (begin stop : ℕ) : List UInt8 :=
  (bytes.drop begin).take (stop - begin)

def littleEndian : List UInt8 → ℕ
  | [] => 0
  | b :: l => b.toNat + 256 * littleEndian l

/-- `bytes.readUInt16LE(offset)` and `bytes.readUInt32LE(offset)`, by the number of bytes. -/
def readUIntLE (bytes : List UInt8) (offset width : ℕ) : Except ArchiveFault ℕ :=
  if offset + width ≤ bytes.length then
    .ok (littleEndian (subarray bytes offset (offset + width)))
  else .error .thrown

/-- `bytes.readUInt32LE(offset) === signature`. -/
def hasSignature (bytes : List UInt8) (offset signature : ℕ) : Bool :=
  match readUIntLE bytes offset 4 with
  | .ok n => n = signature
  | .error _ => false

/-- `s.includes(t)`. -/
def includes (s t : String) : Bool := t.toList <:+: s.toList

section

variable (lossyText : List UInt8 → String)

/-- `bytes.toString("utf8")`; `lossyText` is for bytes that are not UTF-8. -/
def textOfBytes (bytes : List UInt8) : String := (utf8Text bytes).getD (lossyText bytes)

/-! ## Records -/

/-- A record of the central directory. -/
structure CentralRecord where
  flags : ℕ
  method : ℕ
  compressed : ℕ
  size : ℕ
  nameLength : ℕ
  extra : ℕ
  comment : ℕ
  localOffset : ℕ
  name : String
  deriving DecidableEq

/-- The bytes the record takes. -/
def CentralRecord.length (r : CentralRecord) : ℕ := 46 + r.nameLength + r.extra + r.comment

/-- The fields of the record at a position. -/
def centralRecord (bytes : List UInt8) (position : ℕ) : Except ArchiveFault CentralRecord := do
  let flags ← readUIntLE bytes (position + 8) 2
  let method ← readUIntLE bytes (position + 10) 2
  let compressed ← readUIntLE bytes (position + 20) 4
  let size ← readUIntLE bytes (position + 24) 4
  let nameLength ← readUIntLE bytes (position + 28) 2
  let extra ← readUIntLE bytes (position + 30) 2
  let comment ← readUIntLE bytes (position + 32) 2
  let localOffset ← readUIntLE bytes (position + 42) 4
  let name := textOfBytes lossyText (subarray bytes (position + 46) (position + 46 + nameLength))
  return { flags, method, compressed, size, nameLength, extra, comment, localOffset, name }

def maxExpandedBytes : ℕ := 50 * 1024 * 1024

def maxPartBytes : ℕ := 8 * 1024 * 1024

def contentTypesPart : String := "[Content_Types].xml"

def documentPart : String := "word/document.xml"

/-- `/vbaproject\.bin$/i.test(name)`. -/
def isMacroName (name : String) : Bool :=
  "vbaproject.bin".toList <:+ name.toList.map Char.toLower

/-- The name of a part that stays where the archive is unpacked, and is no macro. -/
def isPlainName (name : String) : Bool :=
  !startsWith name "/" ∧ !includes name "\\" ∧ ".." ∉ split name '/' ∧ !isMacroName name

/-- A record that may stand in a Word document. -/
def CentralRecord.isPlain (r : CentralRecord) : Bool :=
  r.flags % 2 = 0 ∧ r.method ∈ [0, 8] ∧ isPlainName r.name

/-- Whether a part must be read. -/
def CentralRecord.isPart (r : CentralRecord) : Bool := r.name ∈ [contentTypesPart, documentPart]

/-! ## The inspection -/

/-- `inflateRawSync(bytes, { maxOutputLength })`; `none` if it throws. -/
abbrev InflateRaw := List UInt8 → Option (List UInt8)

/-- Stored or deflated bytes as they were. -/
def expand (inflateRaw : InflateRaw) (method : ℕ) (stored : List UInt8) :
    Except ArchiveFault (List UInt8) :=
  if method = 0 then .ok stored else orThrow (inflateRaw stored) .thrown

/-- The content of a part, decoded. -/
def partContent (inflateRaw : InflateRaw) (bytes : List UInt8) (r : CentralRecord) :
    Except ArchiveFault (List UInt8) := do
  throwIf (r.size > maxPartBytes) .rejected
  throwIf (r.localOffset + 30 > bytes.length) .rejected
  let signature ← readUIntLE bytes r.localOffset 4
  throwIf (signature ≠ 0x04034b50) .rejected
  let nameLength ← readUIntLE bytes (r.localOffset + 26) 2
  let extra ← readUIntLE bytes (r.localOffset + 28) 2
  let begin := r.localOffset + 30 + nameLength + extra
  throwIf (begin + r.compressed > bytes.length) .rejected
  let content ← expand inflateRaw r.method (subarray bytes begin (begin + r.compressed))
  throwIf (content.length ≠ r.size) .rejected
  return content

/-- How far the inspection has come. -/
structure Inspection where
  position : ℕ
  total : ℕ := 0
  names : List String := []
  parts : List (String × String) := []

/-- `end`: the last end record of the file. -/
def endRecord (bytes : List UInt8) : Option ℕ :=
  let low := bytes.length - 65557
  if bytes.length < 22 then none
  else (List.range' low (bytes.length - 21 - low)).reverse.find? fun offset ↦
    hasSignature bytes offset 0x06054b50

variable (inflateRaw : InflateRaw) (bytes : List UInt8)

/-- `parts`, with the record if it must be read. -/
def readPart (r : CentralRecord) (parts : List (String × String)) :
    Except ArchiveFault (List (String × String)) :=
  if r.isPart then do
    let content ← partContent inflateRaw bytes r
    return (r.name, textOfBytes lossyText content) :: parts
  else .ok parts

/-- One turn of the loop. -/
def inspectRecord (stop : ℕ) (s : Inspection) : Except ArchiveFault Inspection := do
  throwIf (s.position + 46 > stop) .rejected
  let signature ← readUIntLE bytes s.position 4
  throwIf (signature ≠ 0x02014b50) .rejected
  let r ← centralRecord lossyText bytes s.position
  throwIf (!r.isPlain ∨ s.total + r.size > maxExpandedBytes ∨ r.name ∈ s.names) .rejected
  let parts ← readPart lossyText inflateRaw bytes r s.parts
  return {
    position := s.position + r.length
    total := s.total + r.size
    names := r.name :: s.names
    parts }

/-- The loop. -/
def inspectRecords (stop : ℕ) : ℕ → Inspection → Except ArchiveFault Inspection
  | 0, s => .ok s
  | n + 1, s => do
    let s ← inspectRecord lossyText inflateRaw bytes stop s
    inspectRecords stop n s

/-- `parts.get(name)?.includes(text)`. -/
def Inspection.hasPart (s : Inspection) (name text : String) : Bool :=
  (s.parts.lookup name).any fun content ↦ includes content text

def inspectArchive : Except ArchiveFault Bool := do
  let stop ← orThrow (endRecord bytes) .rejected
  let disk ← readUIntLE bytes (stop + 4) 2
  let directoryDisk ← readUIntLE bytes (stop + 6) 2
  throwIf (disk ≠ 0 ∨ directoryDisk ≠ 0) .rejected
  let count ← readUIntLE bytes (stop + 10) 2
  let position ← readUIntLE bytes (stop + 16) 4
  throwIf (count < 2 ∨ count > 2000 ∨ position ≥ stop) .rejected
  let s ← inspectRecords lossyText inflateRaw bytes stop count { position }
  return s.hasPart contentTypesPart
      "application/vnd.openxmlformats-officedocument.wordprocessingml.document.main+xml" &&
    s.hasPart documentPart "wordprocessingml"

/-- `isWordDocumentArchive(bytes)`. -/
def isWordDocumentArchive : Bool :=
  match inspectArchive lossyText inflateRaw bytes with
  | .ok accepted => accepted
  | .error _ => false

end

/-! ## The directory

What an office program sees: the records from the offset of the directory on, each where the one
before it ends. -/

section

variable (lossyText : List UInt8 → String) (inflateRaw : InflateRaw) (bytes : List UInt8)

/-- The record at a position, if one begins there. -/
def recordAt (position : ℕ) : Option CentralRecord :=
  match centralRecord lossyText bytes position with
  | .ok r => if hasSignature bytes position 0x02014b50 then some r else none
  | .error _ => none

/-- `n` records from a position on, and where they end. -/
def walkRecords : ℕ → ℕ → Option (List CentralRecord × ℕ)
  | 0, position => some ([], position)
  | n + 1, position => do
    let r ← recordAt lossyText bytes position
    let (rs, stop) ← walkRecords n (position + r.length)
    return (r :: rs, stop)

/-- The part lies inside the file and decodes to the size its record declares. -/
def PartDecodes (r : CentralRecord) : Prop :=
  ∃ begin stored content, begin + r.compressed ≤ bytes.length ∧
    subarray bytes begin (begin + r.compressed) = stored ∧
    (r.method = 0 ∧ content = stored ∨ r.method ≠ 0 ∧ inflateRaw stored = some content) ∧
    content.length = r.size

/-- Records as they stand in a Word document without macros. -/
structure PlainDirectory (rs : List CentralRecord) : Prop where
  plain : ∀ r ∈ rs, r.isPlain
  nodup : (rs.map CentralRecord.name).Nodup
  total : (rs.map CentralRecord.size).sum ≤ maxExpandedBytes
  contentTypes : ∃ r ∈ rs, r.name = contentTypesPart ∧ PartDecodes inflateRaw bytes r
  document : ∃ r ∈ rs, r.name = documentPart ∧ PartDecodes inflateRaw bytes r

/-- What the end record says: where it is, how many records it counts, where they begin. -/
def EndRecord (stop count offset : ℕ) : Prop :=
  endRecord bytes = some stop ∧ readUIntLE bytes (stop + 10) 2 = .ok count ∧
    readUIntLE bytes (stop + 16) 4 = .ok offset

/-- Between the offset of the directory and the end record there are records and nothing else, they
are those of a Word document, and each of them was inspected. -/
def WholeDirectoryInspected : Prop :=
  ∃ stop count offset rs s, EndRecord bytes stop count offset ∧
    walkRecords lossyText bytes rs.length offset = some (rs, stop) ∧
    PlainDirectory inflateRaw bytes rs ∧
    inspectRecords lossyText inflateRaw bytes stop count { position := offset } = .ok s ∧
    ∀ r ∈ rs, r.name ∈ s.names

/-- The records the end record counts fill the directory up to the end record. -/
def CountsDirectory : Prop :=
  ∃ stop count offset rs, EndRecord bytes stop count offset ∧
    walkRecords lossyText bytes count offset = some (rs, stop)

variable {lossyText inflateRaw bytes} {stop : ℕ} {s s' : Inspection}

/-! ## What the inspection finds -/

theorem partContent_decodes {r : CentralRecord} {content : List UInt8}
    (h : partContent inflateRaw bytes r = .ok content) : PartDecodes inflateRaw bytes r := by
  simp only [partContent, bind_eq_ok, throwIf_eq_ok, pure_eq_ok, not_lt, ne_eq, not_not,
    gt_iff_lt] at h
  obtain ⟨_, -, _, -, _, -, _, -, nameLength, -, extra, -, _, hinside, content', hcontent, _, hsize,
    rfl⟩ := h
  refine ⟨_, _, content', hinside, rfl, ?_, hsize⟩
  unfold expand at hcontent
  split_ifs at hcontent with hmethod
  · exact .inl ⟨hmethod, (Except.ok.inj hcontent).symm⟩
  · exact .inr ⟨hmethod, orThrow_eq_ok.mp hcontent⟩

/-- What one turn of the loop tells of the record it read. -/
theorem inspectRecord_ok (h : inspectRecord lossyText inflateRaw bytes stop s = .ok s') :
    ∃ r, s.position + 46 ≤ stop ∧ recordAt lossyText bytes s.position = some r ∧ r.isPlain ∧
      s.total + r.size ≤ maxExpandedBytes ∧ r.name ∉ s.names ∧
      s'.position = s.position + r.length ∧ s'.total = s.total + r.size ∧
      s'.names = r.name :: s.names ∧
      ∀ part ∈ s'.parts, part ∈ s.parts ∨ part.1 = r.name ∧ PartDecodes inflateRaw bytes r := by
  simp only [inspectRecord, bind_eq_ok, throwIf_eq_ok, pure_eq_ok, not_lt, ne_eq, not_not,
    gt_iff_lt, not_or, Bool.not_eq_true, Bool.not_eq_false'] at h
  obtain ⟨_, hfits, signature, hsignature, _, rfl, r, hr, _, ⟨hplain, htotal, hname⟩, parts, hparts,
    rfl⟩ := h
  refine ⟨r, hfits, ?_, by simpa using hplain, htotal, hname, rfl, rfl, rfl, fun part hpart ↦ ?_⟩
  · have hfound : hasSignature bytes s.position 0x02014b50 := by rw [hasSignature, hsignature]; rfl
    simp only [recordAt, hr, hfound, if_true]
  · unfold readPart at hparts
    split_ifs at hparts with hispart
    · simp only [bind_eq_ok, pure_eq_ok] at hparts
      obtain ⟨content, hcontent, rfl⟩ := hparts
      rcases List.mem_cons.mp hpart with rfl | hpart
      · exact .inr ⟨rfl, partContent_decodes hcontent⟩
      · exact .inl hpart
    · cases hparts
      exact .inl hpart

/-- What the loop tells of the records it read. -/
theorem inspectRecords_ok {n : ℕ}
    (h : inspectRecords lossyText inflateRaw bytes stop n s = .ok s') :
    ∃ rs, walkRecords lossyText bytes n s.position = some (rs, s'.position) ∧ rs.length = n ∧
      (∀ r ∈ rs, r.isPlain) ∧ s'.names = (rs.map CentralRecord.name).reverse ++ s.names ∧
      (s.names.Nodup → s'.names.Nodup) ∧
      s'.total = s.total + (rs.map CentralRecord.size).sum ∧
      (s.total ≤ maxExpandedBytes → s'.total ≤ maxExpandedBytes) ∧
      ∀ part ∈ s'.parts, part ∈ s.parts ∨
        ∃ r ∈ rs, part.1 = r.name ∧ PartDecodes inflateRaw bytes r := by
  induction n generalizing s with
  | zero =>
    cases h
    exact ⟨[], rfl, rfl, by simp, rfl, id, by simp, id, fun _ hpart ↦ .inl hpart⟩
  | succ n ih =>
    rw [inspectRecords, bind_eq_ok] at h
    obtain ⟨t, ht, h⟩ := h
    obtain ⟨r, -, hr, hplain, htotal, hname, hposition, htotal', hnames, hparts⟩ :=
      inspectRecord_ok ht
    obtain ⟨rs, hwalk, hlength, hplains, hnames', hnodup, hsum, hmax, hparts'⟩ := ih h
    refine ⟨r :: rs, ?_, by rw [List.length_cons, hlength], ?_, ?_, fun hs ↦ ?_, ?_, fun _ ↦ ?_, ?_⟩
    · rw [walkRecords, hr, Option.bind_eq_bind, Option.bind_some, ← hposition, hwalk]
      rfl
    · exact List.forall_mem_cons.mpr ⟨hplain, hplains⟩
    · rw [hnames', hnames, List.map_cons, List.reverse_cons, List.append_assoc,
        List.singleton_append]
    · exact hnodup (by rw [hnames]; exact List.nodup_cons.mpr ⟨hname, hs⟩)
    · rw [hsum, htotal', List.map_cons, List.sum_cons, Nat.add_assoc]
    · exact hmax (by rw [htotal']; exact htotal)
    · intro part hpart
      rcases hparts' part hpart with hpart | ⟨r', hr', heq, hdecodes⟩
      · rcases hparts part hpart with hpart | ⟨heq, hdecodes⟩
        · exact .inl hpart
        · exact .inr ⟨r, List.mem_cons_self, heq, hdecodes⟩
      · exact .inr ⟨r', List.mem_cons_of_mem r hr', heq, hdecodes⟩

/-- A walk that has not come to its end goes on with a record. -/
theorem walkRecords_cons {n position stop : ℕ} {rs : List CentralRecord}
    (h : walkRecords lossyText bytes n position = some (rs, stop)) (hne : position ≠ stop) :
    ∃ r rs', recordAt lossyText bytes position = some r ∧ rs = r :: rs' ∧
      walkRecords lossyText bytes (n - 1) (position + r.length) = some (rs', stop) := by
  cases n with
  | zero =>
    simp only [walkRecords, Option.some.injEq, Prod.mk.injEq] at h
    exact absurd h.2 hne
  | succ n =>
    simp only [walkRecords, Option.bind_eq_bind, Option.bind_eq_some_iff, Option.pure_def,
      Option.some.injEq, Prod.mk.injEq] at h
    obtain ⟨r, hr, ⟨rs', stop'⟩, hwalk, rfl, rfl⟩ := h
    exact ⟨r, rs', hr, rfl, hwalk⟩

/-- The same, for a record of which the length is known, and whether it is plain. -/
theorem walkRecords_next {n position stop k : ℕ} {b : Bool} {rs : List CentralRecord}
    (h : walkRecords lossyText bytes n position = some (rs, stop))
    (hr : (recordAt lossyText bytes position).map (fun r ↦ (r.length, r.isPlain)) = some (k, b))
    (hne : position ≠ stop) :
    ∃ r rs', r.isPlain = b ∧ rs = r :: rs' ∧
      walkRecords lossyText bytes (n - 1) (position + k) = some (rs', stop) := by
  obtain ⟨r, rs', hr', rfl, hwalk⟩ := walkRecords_cons h hne
  rw [hr', Option.map_some, Option.some.injEq, Prod.mk.injEq] at hr
  obtain ⟨rfl, hplain⟩ := hr
  exact ⟨r, rs', hplain, rfl, hwalk⟩

/-- The records of a walk that reaches the end record are at least those the loop reads. -/
theorem inspected_le {m n : ℕ} {rs : List CentralRecord}
    (h : inspectRecords lossyText inflateRaw bytes stop n s = .ok s')
    (hwalk : walkRecords lossyText bytes m s.position = some (rs, stop)) : n ≤ m := by
  induction n generalizing s m rs with
  | zero => exact Nat.zero_le m
  | succ n ih =>
    rw [inspectRecords, bind_eq_ok] at h
    obtain ⟨t, ht, h⟩ := h
    obtain ⟨r, hfits, hr, -, -, -, hposition, -⟩ := inspectRecord_ok ht
    cases m with
    | zero =>
      simp only [walkRecords, Option.some.injEq, Prod.mk.injEq] at hwalk
      omega
    | succ m =>
      obtain ⟨r', rs', hr', -, hwalk⟩ := walkRecords_cons hwalk (by omega)
      obtain rfl : r = r' := Option.some.inj (hr.symm.trans hr')
      rw [Nat.add_sub_cancel, ← hposition] at hwalk
      exact Nat.succ_le_succ (ih h hwalk)

/-- What is found under a name is in the list. -/
theorem mem_of_lookup {l : List (String × String)} {name content : String}
    (h : l.lookup name = some content) : (name, content) ∈ l := by
  obtain ⟨l₁, l₂, rfl, -⟩ := List.lookup_eq_some_iff.mp h
  simp

/-- A part that was found is that of a record. -/
theorem hasPart_mem {name text : String} (h : s.hasPart name text) :
    ∃ content, (name, content) ∈ s.parts := by
  obtain ⟨content, hcontent, -⟩ := (Option.any_eq_true _ _).mp h
  exact ⟨content, mem_of_lookup hcontent⟩

/-- What was found before an archive is accepted. -/
theorem accepted_inspects (h : isWordDocumentArchive lossyText inflateRaw bytes) :
    ∃ stop count offset rs s, EndRecord bytes stop count offset ∧
      inspectRecords lossyText inflateRaw bytes stop count { position := offset } = .ok s ∧
      walkRecords lossyText bytes count offset = some (rs, s.position) ∧ rs.length = count ∧
      s.names = (rs.map CentralRecord.name).reverse ∧ PlainDirectory inflateRaw bytes rs := by
  unfold isWordDocumentArchive at h
  split at h
  · rename_i accepted haccepted
    subst h
    simp only [inspectArchive, bind_eq_ok, orThrow_eq_ok, throwIf_eq_ok, pure_eq_ok,
      Bool.and_eq_true] at haccepted
    obtain ⟨stop, hstop, _, -, _, -, _, -, count, hcount, offset, hoffset, _, -, s, hs, hcontent,
      hdocument⟩ := haccepted
    obtain ⟨rs, hwalk, hlength, hplain, hnames, hnodup, hsum, htotal, hparts⟩ :=
      inspectRecords_ok hs
    have hreverse : s.names = (rs.map CentralRecord.name).reverse := by rw [hnames, List.append_nil]
    have hfound : ∀ name text, s.hasPart name text →
        ∃ r ∈ rs, r.name = name ∧ PartDecodes inflateRaw bytes r := by
      intro name text hpart
      obtain ⟨content, hcontent⟩ := hasPart_mem hpart
      rcases hparts _ hcontent with hnone | ⟨r, hr, heq, hdecodes⟩
      · cases hnone
      · exact ⟨r, hr, heq.symm, hdecodes⟩
    refine ⟨stop, count, offset, rs, s, ⟨hstop, hcount, hoffset⟩, hs, hwalk, hlength, hreverse,
      hplain, ?_, ?_, hfound _ _ hcontent, hfound _ _ hdocument⟩
    · have hs' := hnodup List.nodup_nil
      exact List.nodup_reverse.mp (hreverse ▸ hs')
    · have htotal' := htotal (Nat.zero_le _)
      rwa [hsum, Nat.zero_add] at htotal'
  · cases h

/-- Of an accepted archive the whole directory was inspected exactly if the end record counts the
records up to itself. -/
theorem wholeDirectoryInspected_iff (h : isWordDocumentArchive lossyText inflateRaw bytes) :
    WholeDirectoryInspected lossyText inflateRaw bytes ↔ CountsDirectory lossyText bytes := by
  obtain ⟨stop, count, offset, rs, s, hend, hs, hwalk, hlength, hnames, hplain⟩ :=
    accepted_inspects h
  have hsame : ∀ stop' count' offset', EndRecord bytes stop' count' offset' →
      stop' = stop ∧ count' = count ∧ offset' = offset := by
    rintro stop' count' offset' ⟨hstop, hcount, hoffset⟩
    obtain rfl : stop = stop' := Option.some.inj (hend.1.symm.trans hstop)
    exact ⟨rfl, Except.ok.inj (hcount.symm.trans hend.2.1),
      Except.ok.inj (hoffset.symm.trans hend.2.2)⟩
  constructor
  · rintro ⟨stop', count', offset', ds, s', hend', hwalk', hplain', hs', hinspected⟩
    obtain ⟨rfl, rfl, rfl⟩ := hsame stop' count' offset' hend'
    obtain rfl : s = s' := Except.ok.inj (hs.symm.trans hs')
    have hle : count' ≤ ds.length := inspected_le hs hwalk'
    -- different names, all of them inspected, are no more than were inspected
    have hge : ds.length ≤ count' := by
      have hsub : (ds.map CentralRecord.name).Subperm s.names :=
        List.Nodup.subperm hplain'.nodup fun name hname ↦ by
          obtain ⟨r, hr, rfl⟩ := List.mem_map.mp hname
          exact hinspected r hr
      have hlen := List.Subperm.length_le hsub
      rwa [hnames, List.length_reverse, List.length_map, List.length_map, hlength] at hlen
    obtain rfl : count' = ds.length := Nat.le_antisymm hle hge
    exact ⟨stop', ds.length, offset', ds, hend', hwalk'⟩
  · rintro ⟨stop', count', offset', ds, hend', hwalk'⟩
    obtain ⟨rfl, rfl, rfl⟩ := hsame stop' count' offset' hend'
    rw [hwalk, Option.some.injEq, Prod.mk.injEq] at hwalk'
    obtain ⟨-, hposition⟩ := hwalk'
    refine ⟨stop', count', offset', rs, s, hend', ?_, hplain, hs, fun r hr ↦ ?_⟩
    · rw [hlength, hwalk, hposition]
    · rw [hnames, List.mem_reverse]
      exact List.mem_map_of_mem hr

end

/-! ## An archive that hides a macro -/

def littleEndianBytes : ℕ → ℕ → List UInt8
  | 0, _ => []
  | width + 1, n => (n % 256).toUInt8 :: littleEndianBytes width (n / 256)

/-- A stored part. -/
def localPart (name content : String) : List UInt8 :=
  littleEndianBytes 4 0x04034b50 ++ List.replicate 14 0 ++
    littleEndianBytes 4 (utf8 content).length ++ littleEndianBytes 4 (utf8 content).length ++
    littleEndianBytes 2 (utf8 name).length ++ [0, 0] ++ utf8 name ++ utf8 content

/-- The record of a stored part. -/
def directoryRecord (name content : String) (offset : ℕ) : List UInt8 :=
  littleEndianBytes 4 0x02014b50 ++ List.replicate 16 0 ++
    littleEndianBytes 4 (utf8 content).length ++ littleEndianBytes 4 (utf8 content).length ++
    littleEndianBytes 2 (utf8 name).length ++ List.replicate 12 0 ++ littleEndianBytes 4 offset ++
    utf8 name

/-- A file with a directory whose end record counts `count` records. -/
def archiveOf (parts : List (String × String)) (count : ℕ) : List UInt8 :=
  let locals := parts.map fun part ↦ localPart part.1 part.2
  let offsets := (locals.map List.length).scanl (· + ·) 0
  let directory := (parts.zip offsets).flatMap fun (part, offset) ↦
    directoryRecord part.1 part.2 offset
  locals.flatten ++ directory ++ littleEndianBytes 4 0x06054b50 ++ [0, 0, 0, 0] ++
    littleEndianBytes 2 count ++ littleEndianBytes 2 count ++
    littleEndianBytes 4 directory.length ++ littleEndianBytes 4 locals.flatten.length ++ [0, 0]

def wordParts : List (String × String) :=
  [(contentTypesPart,
      "application/vnd.openxmlformats-officedocument.wordprocessingml.document.main+xml"),
    (documentPart, "wordprocessingml")]

/-- The parts of a Word document, with a macro. -/
def macroParts : List (String × String) := wordParts ++ [("word/vbaProject.bin", "x")]

def macroArchive : List UInt8 := archiveOf macroParts 2

def wordArchive : List UInt8 := archiveOf wordParts 2

/-- What is read in the archive with the macro. -/
theorem macroArchive_read :
    isWordDocumentArchive (fun _ ↦ "") (fun _ ↦ none) macroArchive = true ∧
      endRecord macroArchive = some 435 ∧ readUIntLE macroArchive (435 + 16) 4 = .ok 242 ∧
      [242, 242 + 65, 242 + 65 + 63].map (fun p ↦
        (recordAt (fun _ ↦ "") macroArchive p).map fun r ↦ (r.length, r.isPlain)) =
        [some (65, true), some (63, true), some (65, false)] := by
  decide +kernel

/-- An archive whose end record counts two of its three records is accepted, and the third is a
macro. -/
theorem hidden_macro_accepted :
    isWordDocumentArchive (fun _ ↦ "") (fun _ ↦ none) macroArchive = true ∧
      ¬∃ stop count offset rs, EndRecord macroArchive stop count offset ∧
        walkRecords (fun _ ↦ "") macroArchive rs.length offset = some (rs, stop) ∧
        PlainDirectory (fun _ ↦ none) macroArchive rs := by
  obtain ⟨haccepted, hend, hbegin, hrecords⟩ := macroArchive_read
  refine ⟨haccepted, ?_⟩
  rintro ⟨stop, count, offset, rs, ⟨hstop, -, hoffset⟩, hwalk, hplain⟩
  obtain rfl : 435 = stop := Option.some.inj (hend.symm.trans hstop)
  obtain rfl : 242 = offset := Except.ok.inj (hbegin.symm.trans hoffset)
  simp only [List.map_cons, List.cons.injEq] at hrecords
  obtain ⟨h₁, h₂, h₃, -⟩ := hrecords
  obtain ⟨r₁, rs, -, rfl, hwalk⟩ := walkRecords_next hwalk h₁ (by decide)
  obtain ⟨r₂, rs, -, rfl, hwalk⟩ := walkRecords_next hwalk h₂ (by decide)
  obtain ⟨r₃, rs, hr₃, rfl, -⟩ := walkRecords_next hwalk h₃ (by decide)
  have hplain₃ := hplain.plain r₃ (by simp)
  rw [hr₃] at hplain₃
  cases hplain₃

/-- What is read in the archive of a Word document. -/
theorem wordArchive_read :
    isWordDocumentArchive (fun _ ↦ "") (fun _ ↦ none) wordArchive = true ∧
      endRecord wordArchive = some 320 ∧ readUIntLE wordArchive (320 + 10) 2 = .ok 2 ∧
      readUIntLE wordArchive (320 + 16) 4 = .ok 192 ∧
      (walkRecords (fun _ ↦ "") wordArchive 2 192).map Prod.snd = some 320 := by
  decide +kernel

theorem wordArchive_inspected :
    WholeDirectoryInspected (fun _ ↦ "") (fun _ ↦ none) wordArchive := by
  obtain ⟨haccepted, hend, hcount, hbegin, hwalk⟩ := wordArchive_read
  obtain ⟨⟨rs, _⟩, hwalk, rfl⟩ := Option.map_eq_some_iff.mp hwalk
  exact (wholeDirectoryInspected_iff haccepted).mpr
    ⟨_, 2, 192, rs, ⟨hend, hcount, hbegin⟩, hwalk⟩

end KmtLegal
