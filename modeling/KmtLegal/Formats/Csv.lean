import Mathlib

/-!
# Comma separated values

A reader for RFC 4180 with a bare line feed between records: cells are separated by commas, a cell in
quotes may contain anything with its quotes doubled, and a cell without quotes contains no quote, comma
or line break.  Whatever way a writer chooses between the two for each cell, the reader gives back what
was written.
-/

namespace Csv

/-! ## Reading -/

/-- Where the reader is: at the start of a cell, in one, in quotes, or after a quote in quotes. -/
inductive Place where
  | start | plain | quoted | closing

/-- The rest of a table read so far, from the cell the reader is in. -/
abbrev Rest := List (List (List Char))

/-- A character of the current cell. -/
def addChar (c : Char) : Rest → Rest
  | (cell :: cells) :: rows => ((c :: cell) :: cells) :: rows
  | rest => rest

/-- A comma: the current cell is over. -/
def addCell : Rest → Rest
  | cells :: rows => ([] :: cells) :: rows
  | rest => rest

/-- A line feed: the current record is over. -/
def addRow (rest : Rest) : Rest := [[]] :: rest

/-- Reads the rest of a table; `none` if it is not well formed. -/
def read : Place → List Char → Option Rest
  | .quoted, [] => none
  | _, [] => some [[[]]]
  | .quoted, c :: l => if c = '\x22' then read .closing l else (read .quoted l).map (addChar c)
  | .start, c :: l =>
    if c = '\x22' then read .quoted l
    else if c = ',' then (read .start l).map addCell
    else if c = '\n' then (read .start l).map addRow
    else if c = '\r' then none
    else (read .plain l).map (addChar c)
  | .plain, c :: l =>
    if c = ',' then (read .start l).map addCell
    else if c = '\n' then (read .start l).map addRow
    else if c = '\r' ∨ c = '\x22' then none
    else (read .plain l).map (addChar c)
  | .closing, c :: l =>
    if c = '\x22' then (read .quoted l).map (addChar c)
    else if c = ',' then (read .start l).map addCell
    else if c = '\n' then (read .start l).map addRow
    else none

/-- The records of a text. -/
def parse (text : List Char) : Option (List (List (List Char))) := read .start text

/-! ## Writing -/

/-- A character a cell without quotes must not have. -/
def isSpecial (c : Char) : Bool := c = '\x22' ∨ c = ',' ∨ c = '\r' ∨ c = '\n'

/-- The quotes of a cell doubled. -/
def doubleQuotes (cell : List Char) : List Char :=
  cell.flatMap fun c ↦ if c = '\x22' then ['\x22', '\x22'] else [c]

/-- A text for a cell: the cell itself, or the cell in quotes. -/
inductive CellText (cell : List Char) : List Char → Prop
  | plain (h : ∀ c ∈ cell, ¬isSpecial c) : CellText cell cell
  | quoted : CellText cell ('\x22' :: (doubleQuotes cell ++ ['\x22']))

/-- A record. -/
def rowText (cellText : List Char → List Char) (cells : List (List Char)) : List Char :=
  [','].intercalate (cells.map cellText)

/-- A table. -/
def tableText (cellText : List Char → List Char) (rows : List (List (List Char))) : List Char :=
  ['\n'].intercalate (rows.map (rowText cellText))

/-! ## What is read of what is written -/

/-- What may follow a cell. -/
def EndsCell (text : List Char) : Prop := ∀ c ∈ text.head?, c = ',' ∨ c = '\n'

/-- Puts characters before the current cell. -/
def addChars (cell : List Char) (rest : Rest) : Rest := cell.foldr addChar rest

section

variable {cell text : List Char}

@[simp] theorem addChars_cons (c : Char) (cell : List Char) (rest : Rest) :
    addChars (c :: cell) rest = addChar c (addChars cell rest) := rfl

theorem addChars_eq (cell cell' : List Char) (cells : List (List Char)) (rows : Rest) :
    addChars cell ((cell' :: cells) :: rows) = ((cell ++ cell') :: cells) :: rows := by
  induction cell with
  | nil => rfl
  | cons c cell ih => rw [addChars_cons, ih, addChar, List.cons_append]

theorem read_plain_of_endsCell (h : EndsCell text) : read .plain text = read .start text := by
  cases text with
  | nil => rfl
  | cons c l => obtain rfl | rfl := h c rfl <;> rfl

theorem read_closing_of_endsCell (h : EndsCell text) : read .closing text = read .start text := by
  cases text with
  | nil => rfl
  | cons c l => obtain rfl | rfl := h c rfl <;> rfl

theorem read_plain_append (h : ∀ c ∈ cell, ¬isSpecial c) :
    read .plain (cell ++ text) = (read .plain text).map (addChars cell) := by
  induction cell with
  | nil => exact Option.map_id'.symm
  | cons c cell ih =>
    obtain ⟨hc, hcell⟩ := List.forall_mem_cons.mp h
    simp only [isSpecial, decide_eq_true_eq, not_or] at hc
    rw [List.cons_append, read, if_neg hc.2.1, if_neg hc.2.2.2,
      if_neg (not_or.mpr ⟨hc.2.2.1, hc.1⟩), ih hcell, Option.map_map]
    rfl

theorem read_start_append (h : ∀ c ∈ cell, ¬isSpecial c) (hends : EndsCell text) :
    read .start (cell ++ text) = (read .start text).map (addChars cell) := by
  cases cell with
  | nil => exact Option.map_id'.symm
  | cons c cell =>
    obtain ⟨hc, hcell⟩ := List.forall_mem_cons.mp h
    simp only [isSpecial, decide_eq_true_eq, not_or] at hc
    rw [List.cons_append, read, if_neg hc.1, if_neg hc.2.1, if_neg hc.2.2.2, if_neg hc.2.2.1,
      read_plain_append hcell, Option.map_map, read_plain_of_endsCell hends]
    rfl

theorem read_quoted_append :
    read .quoted (doubleQuotes cell ++ '\x22' :: text) =
      (read .closing text).map (addChars cell) := by
  induction cell with
  | nil => exact Option.map_id'.symm
  | cons c cell ih =>
    rw [doubleQuotes, List.flatMap_cons, ← doubleQuotes, List.append_assoc]
    by_cases hquote : c = '\x22'
    · rw [if_pos hquote, List.cons_append, List.cons_append, List.nil_append, read, if_pos rfl, read,
        if_pos rfl, ih, Option.map_map, hquote]
      rfl
    · rw [if_neg hquote, List.cons_append, List.nil_append, read, if_neg hquote, ih, Option.map_map]
      rfl

/-- A cell is read from either of its texts. -/
theorem read_cellText {written : List Char} (h : CellText cell written) (hends : EndsCell text) :
    read .start (written ++ text) = (read .start text).map (addChars cell) := by
  cases h with
  | plain h => exact read_start_append h hends
  | quoted =>
    rw [List.cons_append, read, if_pos rfl, List.append_assoc, List.cons_append, List.nil_append,
      read_quoted_append, read_closing_of_endsCell hends]

end

section

variable {cellText : List Char → List Char} (h : ∀ cell, CellText cell (cellText cell))
include h

/-- A record is read, whatever the records after it. -/
theorem read_rowText {cells : List (List Char)} (hcells : cells ≠ []) {text : List Char}
    {rows : Rest} (hends : EndsCell text) (htext : read .start text = some ([[]] :: rows)) :
    read .start (rowText cellText cells ++ text) = some (cells :: rows) := by
  induction cells with
  | nil => exact absurd rfl hcells
  | cons cell cells ih =>
    rcases cells with _ | ⟨cell', cells⟩
    · rw [rowText, List.map_singleton, List.intercalate_singleton, read_cellText (h cell) hends,
        htext, Option.map_some, addChars_eq, List.append_nil]
    · have htail := ih (List.cons_ne_nil _ _)
      rw [rowText, List.map_cons, List.map_cons, List.intercalate_cons_cons, ← List.map_cons,
        ← rowText, List.append_assoc, List.append_assoc, read_cellText (h cell)]
      · rw [List.cons_append, List.nil_append, read, if_neg (by decide), if_pos rfl, htail,
          Option.map_some, Option.map_some, addCell, addChars_eq, List.append_nil]
      · intro c hc
        rw [List.cons_append, List.head?_cons, Option.mem_some_iff] at hc
        exact .inl hc.symm

/-- What is written is read. -/
theorem parse_tableText {rows : List (List (List Char))} (hrows : rows ≠ [])
    (hcells : ∀ cells ∈ rows, cells ≠ []) : parse (tableText cellText rows) = some rows := by
  rw [parse]
  induction rows with
  | nil => exact absurd rfl hrows
  | cons cells rows ih =>
    obtain ⟨hhead, htail⟩ := List.forall_mem_cons.mp hcells
    rcases rows with _ | ⟨cells', rows⟩
    · have hlast : read .start (rowText cellText cells ++ []) = some [cells] :=
        read_rowText h hhead (fun _ h ↦ nomatch h) rfl
      rw [List.append_nil] at hlast
      rw [tableText, List.map_singleton, List.intercalate_singleton, hlast]
    · have hread := ih (List.cons_ne_nil _ _) htail
      rw [tableText, List.map_cons, List.map_cons, List.intercalate_cons_cons, ← List.map_cons,
        ← tableText, List.append_assoc]
      refine read_rowText h hhead ?_ ?_
      · intro c hc
        rw [List.cons_append, List.head?_cons, Option.mem_some_iff] at hc
        exact .inr hc.symm
      · rw [List.cons_append, List.nil_append, read, if_neg (by decide), if_neg (by decide),
          if_pos rfl, hread, Option.map_some, addRow]

end

end Csv
