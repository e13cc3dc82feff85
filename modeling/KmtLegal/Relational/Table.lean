import Mathlib

/-!
# Tables

A relational table is a finite association of primary keys with rows, so the carrier is
Mathlib's `AList`: no key occurs twice by construction.  What this file adds is the vocabulary
of a query layer — bulk updates under a predicate, ordered and limited selections, inserts that
fail on a key that is taken — together with the one lemma per operation that says what a reader
of a single key sees afterwards.

Later proofs never look at the list of entries again: an update is known by
`lookup_updateMany`, a selection by `mem_select`, an insert by `create_eq_some`.
-/

namespace Relational

/-- Rows of type `ρ` under distinct primary keys of type `κ`. -/
abbrev Table (κ ρ : Type) := AList (fun _ : κ ↦ ρ)

namespace Table

variable {κ ρ : Type}

/-! ## Bulk updates -/

/-- `UPDATE t SET f WHERE p`: rewrites every row that satisfies `p` and keeps all keys. -/
def updateMany (t : Table κ ρ) (p : κ → ρ → Bool) (f : ρ → ρ) : Table κ ρ where
  entries := t.entries.map fun e ↦ ⟨e.1, if p e.1 e.2 then f e.2 else e.2⟩
  nodupKeys := List.NodupKeys.map₂ (fun k r ↦ if p k r then f r else r) t.entries t.nodupKeys

variable [DecidableEq κ]

/-- What a reader of one key sees after a bulk update. -/
@[simp] theorem lookup_updateMany (t : Table κ ρ) (p : κ → ρ → Bool) (f : ρ → ρ) (k : κ) :
    (t.updateMany p f).lookup k = (t.lookup k).map fun r ↦ if p k r then f r else r :=
  List.dlookup_map₂ (f := fun k r ↦ if p k r then f r else r) k

/-- An update that rewrites no stored row is invisible. -/
theorem updateMany_eq_self {t : Table κ ρ} {p : κ → ρ → Bool} {f : ρ → ρ}
    (h : ∀ k r, t.lookup k = some r → p k r → f r = r) : t.updateMany p f = t := by
  apply AList.ext
  calc t.entries.map (fun e ↦ (⟨e.1, if p e.1 e.2 then f e.2 else e.2⟩ : Σ _ : κ, ρ))
      = t.entries.map id := List.map_congr_left fun e he ↦ ?_
    _ = t.entries := List.map_id _
  have hlookup : t.lookup e.1 = some e.2 := List.mem_dlookup t.nodupKeys he
  by_cases hp : p e.1 e.2
  · simp [hp, h e.1 e.2 hlookup hp]
  · simp [hp]

/-- Two updates of one table agree as soon as they agree at every stored row. -/
theorem updateMany_congr {t : Table κ ρ} {p q : κ → ρ → Bool} {f g : ρ → ρ}
    (h : ∀ k r, t.lookup k = some r →
      (if p k r then f r else r) = if q k r then g r else r) :
    t.updateMany p f = t.updateMany q g := by
  apply AList.ext
  refine List.map_congr_left fun e he ↦ ?_
  rw [h e.1 e.2 (List.mem_dlookup t.nodupKeys he)]

/-- `DELETE FROM t WHERE p`. -/
def deleteMany (t : Table κ ρ) (p : κ → ρ → Bool) : Table κ ρ where
  entries := t.entries.filter fun e ↦ ¬p e.1 e.2
  nodupKeys := t.nodupKeys.sublist List.filter_sublist

@[simp] theorem lookup_deleteMany (t : Table κ ρ) (p : κ → ρ → Bool) (k : κ) :
    (t.deleteMany p).lookup k = (t.lookup k).filter fun r ↦ ¬p k r := by
  refine Option.ext fun r ↦ ?_
  rw [← Option.mem_def, AList.mem_lookup_iff, Option.filter_eq_some_iff, ← Option.mem_def,
    AList.mem_lookup_iff]
  exact List.mem_filter

/-- `UPDATE t SET f WHERE key = k`. -/
def update (t : Table κ ρ) (k : κ) (f : ρ → ρ) : Table κ ρ :=
  t.updateMany (fun k' _ ↦ k' = k) f

/-- What a reader of key `k'` sees after the row under `k` was rewritten. -/
@[simp] theorem lookup_update (t : Table κ ρ) (k k' : κ) (f : ρ → ρ) :
    (t.update k f).lookup k' = if k' = k then (t.lookup k').map f else t.lookup k' := by
  by_cases h : k' = k <;> simp [update, h]

theorem lookup_update_self (t : Table κ ρ) (k : κ) (f : ρ → ρ) :
    (t.update k f).lookup k = (t.lookup k).map f := by simp

theorem lookup_update_of_ne (t : Table κ ρ) {k k' : κ} (f : ρ → ρ) (h : k' ≠ k) :
    (t.update k f).lookup k' = t.lookup k' := by simp [h]

/-- An update that keeps a column is not seen by a reader of the column. -/
theorem lookup_update_column {β : Type} {column : ρ → β} (t : Table κ ρ) (k k' : κ) {f : ρ → ρ}
    (hf : ∀ r, column (f r) = column r) :
    ((t.update k f).lookup k').map column = (t.lookup k').map column := by
  rw [lookup_update]
  split_ifs
  · rw [Option.map_map]
    exact congrArg (fun g ↦ (t.lookup k').map g) (funext hf)
  · rfl

/-- Two updates of one row in a row are one update. -/
theorem update_update (t : Table κ ρ) (k : κ) (f g : ρ → ρ) :
    (t.update k f).update k g = t.update k fun r ↦ g (f r) := by
  apply AList.ext
  simp only [update, updateMany, List.map_map]
  refine List.map_congr_left fun e _ ↦ ?_
  by_cases h : e.1 = k <;> simp [h]

@[simp] theorem update_id (t : Table κ ρ) (k : κ) : t.update k (fun r ↦ r) = t :=
  updateMany_eq_self fun _ _ _ _ ↦ rfl

/-- Updates a row that was looked up before, if it was found. -/
def updateFound (t : Table κ ρ) (found : Option (κ × ρ)) (f : ρ → ρ) : Table κ ρ :=
  match found with
  | some (k, _) => t.update k f
  | none => t

@[simp] theorem updateFound_some (t : Table κ ρ) (k : κ) (r : ρ) (f : ρ → ρ) :
    t.updateFound (some (k, r)) f = t.update k f := rfl

@[simp] theorem updateFound_none (t : Table κ ρ) (f : ρ → ρ) : t.updateFound none f = t := rfl

/-! ## Inserts -/

/-- `INSERT`: fails when the primary key is taken. -/
def create (t : Table κ ρ) (k : κ) (r : ρ) : Option (Table κ ρ) :=
  if k ∈ t then none else some (t.insert k r)

theorem create_eq_some {t t' : Table κ ρ} {k : κ} {r : ρ} :
    t.create k r = some t' ↔ t.lookup k = none ∧ t.insert k r = t' := by
  unfold create
  rw [AList.lookup_eq_none]
  by_cases h : k ∈ t <;> simp [h]

/-- What a reader sees after an insert. -/
@[simp] theorem lookup_insert (t : Table κ ρ) (k k' : κ) (r : ρ) :
    (AList.insert k r t).lookup k' = if k' = k then some r else t.lookup k' := by
  by_cases h : k' = k
  · subst h; simp
  · simp [h, AList.lookup_insert_ne h]

/-! ## Row by row

A write that creates and deletes nothing relates every row to its successor. -/

/-- The tables have the same keys, and `R` relates the rows under each. -/
def RowsRelated (R : ρ → ρ → Prop) (t t' : Table κ ρ) : Prop :=
  ∀ k, Option.Rel R (t.lookup k) (t'.lookup k)

namespace RowsRelated

variable {R : ρ → ρ → Prop} {t t' t'' : Table κ ρ}

theorem refl (h : ∀ r, R r r) (t : Table κ ρ) : RowsRelated R t t := fun k ↦ by
  cases t.lookup k with
  | none => exact .none
  | some r => exact .some (h r)

theorem trans (hR : ∀ r r' r'', R r r' → R r' r'' → R r r'') (h : RowsRelated R t t')
    (h' : RowsRelated R t' t'') : RowsRelated R t t'' := by
  intro k
  have hk := h k
  have hk' := h' k
  revert hk hk'
  generalize t.lookup k = o, t'.lookup k = o', t''.lookup k = o''
  rintro (hr | _) hk'
  · cases hk' with
    | some hr' => exact .some (hR _ _ _ hr hr')
  · cases hk'
    exact .none

/-- A bulk update is a step row by row if every row it rewrites steps. -/
theorem updateMany {p : κ → ρ → Bool} {f : ρ → ρ} (hrefl : ∀ r, R r r)
    (h : ∀ k r, t.lookup k = some r → p k r → R r (f r)) :
    RowsRelated R t (Table.updateMany t p f) := by
  intro k
  rw [lookup_updateMany]
  cases hk : t.lookup k with
  | none => exact .none
  | some r =>
    by_cases hp : p k r
    · exact .some (by simpa [hp] using h k r hk hp)
    · exact .some (by simpa [hp] using hrefl r)

/-- An update of one row is a step row by row if that row steps. -/
theorem update {k : κ} {f : ρ → ρ} (hrefl : ∀ r, R r r)
    (h : ∀ r, t.lookup k = some r → R r (f r)) : RowsRelated R t (Table.update t k f) :=
  updateMany hrefl fun k' r hr hk ↦ h r (by rw [← of_decide_eq_true hk]; exact hr)

/-- The successor of a stored row. -/
theorem lookup (h : RowsRelated R t t') {k : κ} {r : ρ} (hr : t.lookup k = some r) :
    ∃ r', t'.lookup k = some r' ∧ R r r' := by
  have hk := h k
  rw [hr] at hk
  cases hk' : t'.lookup k with
  | none => rw [hk'] at hk; cases hk
  | some r' =>
    rw [hk'] at hk
    cases hk with
    | some hrr' => exact ⟨r', rfl, hrr'⟩

/-- The predecessor of a row that is stored afterwards. -/
theorem lookup' (h : RowsRelated R t t') {k : κ} {r' : ρ} (hr' : t'.lookup k = some r') :
    ∃ r, t.lookup k = some r ∧ R r r' := by
  have hk := h k
  rw [hr'] at hk
  cases hk' : t.lookup k with
  | none => rw [hk'] at hk; cases hk
  | some r =>
    rw [hk'] at hk
    cases hk with
    | some hrr' => exact ⟨r, rfl, hrr'⟩

end RowsRelated

/-! ## Selections -/

omit [DecidableEq κ] in
/-- The rows with their keys, in storage order. -/
def rows (t : Table κ ρ) : List (κ × ρ) := t.entries.map fun e ↦ (e.1, e.2)

theorem mem_rows {t : Table κ ρ} {k : κ} {r : ρ} : (k, r) ∈ t.rows ↔ t.lookup k = some r := by
  rw [← Option.mem_def, AList.mem_lookup_iff]
  constructor
  · rintro h
    obtain ⟨⟨k', r'⟩, he, heq⟩ := List.mem_map.mp h
    cases heq
    exact he
  · exact fun h ↦ List.mem_map.mpr ⟨⟨k, r⟩, h, rfl⟩

/-- `SELECT … WHERE p`. -/
def select (t : Table κ ρ) (p : κ → ρ → Bool) : List (κ × ρ) :=
  t.rows.filter fun e ↦ p e.1 e.2

theorem mem_select {t : Table κ ρ} {p : κ → ρ → Bool} {k : κ} {r : ρ} :
    (k, r) ∈ t.select p ↔ t.lookup k = some r ∧ p k r := by
  simp [select, mem_rows]

/-- A new row comes first. -/
theorem select_insert {t : Table κ ρ} {p : κ → ρ → Bool} {k : κ} {r : ρ} (h : t.lookup k = none) :
    Table.select (AList.insert k r t) p = if p k r then (k, r) :: t.select p else t.select p := by
  rw [select, rows, AList.entries_insert_of_notMem (AList.lookup_eq_none.mp h), List.map_cons,
    List.filter_cons]
  rfl

/-- `SELECT … WHERE p LIMIT 1`, with no order asked for. -/
def findFirst (t : Table κ ρ) (p : κ → ρ → Bool) : Option (κ × ρ) :=
  t.rows.find? fun e ↦ p e.1 e.2

theorem findFirst_eq_some {t : Table κ ρ} {p : κ → ρ → Bool} {k : κ} {r : ρ}
    (h : t.findFirst p = some (k, r)) : t.lookup k = some r ∧ p k r :=
  ⟨mem_rows.mp (List.mem_of_find?_eq_some h), by simpa using List.find?_some h⟩

theorem findFirst_eq_none {t : Table κ ρ} {p : κ → ρ → Bool} :
    t.findFirst p = none ↔ ∀ k r, t.lookup k = some r → ¬p k r := by
  simp only [findFirst, List.find?_eq_none, Prod.forall, mem_rows]

omit [DecidableEq κ] in
/-- The rows of a table have different keys. -/
theorem pairwise_select (t : Table κ ρ) (p : κ → ρ → Bool) :
    (t.select p).Pairwise fun a b ↦ a.1 ≠ b.1 := by
  have hkeys : (t.rows.map Prod.fst).Nodup := by
    rw [rows, List.map_map]
    exact t.nodupKeys
  exact List.Pairwise.filter _ (List.pairwise_map.mp hkeys)

/-- Only the row under a key is selected. -/
theorem toList_findFirst {t : Table κ ρ} {p : κ → ρ → Bool} {k : κ}
    (hp : ∀ k' r, p k' r → k' = k) : (t.findFirst p).toList = t.select p := by
  have hpair := pairwise_select t p
  have hid : ∀ e ∈ t.select p, e.1 = k := fun e he ↦ hp _ _ (mem_select.mp he).2
  have hhead : (t.select p).head? = t.findFirst p := List.head?_filter
  rw [← hhead]
  cases hrows : t.select p with
  | nil => rfl
  | cons e l =>
    cases l with
    | nil => rfl
    | cons e' l =>
      rw [hrows] at hpair hid
      exact absurd ((hid e (by simp)).trans (hid e' (by simp)).symm)
        (List.rel_of_pairwise_cons hpair List.mem_cons_self)

/-- `EXISTS (SELECT … WHERE p)`. -/
def any (t : Table κ ρ) (p : κ → ρ → Bool) : Bool := t.rows.any fun e ↦ p e.1 e.2

theorem any_iff {t : Table κ ρ} {p : κ → ρ → Bool} :
    t.any p ↔ ∃ k r, t.lookup k = some r ∧ p k r := by
  simp only [any, List.any_eq_true, Prod.exists, mem_rows]

theorem any_eq_false {t : Table κ ρ} {p : κ → ρ → Bool} :
    t.any p = false ↔ ∀ k r, t.lookup k = some r → ¬p k r := by
  rw [← Bool.not_eq_true, any_iff]
  push Not
  rfl

/-- `SELECT … WHERE p ORDER BY le LIMIT n`. -/
def findMany (t : Table κ ρ) (p : κ → ρ → Bool) (le : κ × ρ → κ × ρ → Prop) [DecidableRel le]
    (n : ℕ) : List (κ × ρ) :=
  ((t.select p).insertionSort le).take n

/-- A limited, ordered selection only returns rows that satisfy its predicate. -/
theorem mem_findMany {t : Table κ ρ} {p : κ → ρ → Bool} {le : κ × ρ → κ × ρ → Prop}
    [DecidableRel le] {n : ℕ} {k : κ} {r : ρ} (h : (k, r) ∈ t.findMany p le n) :
    t.lookup k = some r ∧ p k r :=
  mem_select.mp ((List.mem_insertionSort le).mp (List.mem_of_mem_take h))

/-- A limited selection finds nothing only if there is nothing. -/
theorem findMany_eq_nil {t : Table κ ρ} {p : κ → ρ → Bool} {le : κ × ρ → κ × ρ → Prop}
    [DecidableRel le] {n : ℕ} (hn : n ≠ 0) :
    t.findMany p le n = [] ↔ ∀ k r, t.lookup k = some r → ¬p k r := by
  have hperm : (t.select p).insertionSort le = [] ↔ t.select p = [] := by
    rw [← List.length_eq_zero_iff, (List.perm_insertionSort le _).length_eq,
      List.length_eq_zero_iff]
  rw [findMany, List.take_eq_nil_iff, or_iff_right hn, hperm, List.eq_nil_iff_forall_not_mem]
  simp only [Prod.forall, mem_select, not_and]

/-- A selection that one row only satisfies returns it, whatever the limit. -/
theorem mem_findMany_of_unique {t : Table κ ρ} {p : κ → ρ → Bool} {le : κ × ρ → κ × ρ → Prop}
    [DecidableRel le] {n : ℕ} {k : κ} {r : ρ} (hr : t.lookup k = some r) (hp : p k r)
    (hunique : ∀ k' r', p k' r' → k' = k) (hn : n ≠ 0) : (k, r) ∈ t.findMany p le n := by
  obtain ⟨n, rfl⟩ := Nat.exists_eq_succ_of_ne_zero hn
  have hmem : (k, r) ∈ (t.select p).insertionSort le :=
    (List.mem_insertionSort le).mpr (mem_select.mpr ⟨hr, hp⟩)
  unfold findMany
  cases hrows : (t.select p).insertionSort le with
  | nil =>
    rw [hrows] at hmem
    cases hmem
  | cons e l =>
    obtain ⟨k', r'⟩ := e
    have he : (k', r') ∈ (t.select p).insertionSort le := hrows ▸ List.mem_cons_self
    obtain ⟨hr', hp'⟩ := mem_select.mp ((List.mem_insertionSort le).mp he)
    obtain rfl := hunique k' r' hp'
    rw [hr] at hr'
    cases hr'
    exact List.mem_cons_self

end Table

end Relational
