import KmtLegal.Relational.Table

/-!
# Tables whose rows are kept

A write that deletes nothing leaves every row in place, in a relation to what it was; it may add
rows.  Where it adds none either, `RowsRelated` says more.
-/

namespace Relational.Table

variable {κ ρ : Type} [DecidableEq κ] {R : ρ → ρ → Prop} {t t' t'' : Table κ ρ} {k : κ}

/-- A row that is there is not replaced by an insert. -/
theorem lookup_insert_of_some {k' : κ} {r r' : ρ} (h : t.lookup k = none)
    (h' : t.lookup k' = some r) : (AList.insert k r' t).lookup k' = some r := by
  have hne : k' ≠ k := by
    rintro rfl
    rw [h] at h'
    cases h'
  rw [lookup_insert, if_neg hne, h']

/-- Every row is there afterwards, and `R` relates it to its successor. -/
def RowsKept (R : ρ → ρ → Prop) (t t' : Table κ ρ) : Prop :=
  ∀ k r, t.lookup k = some r → ∃ r', t'.lookup k = some r' ∧ R r r'

namespace RowsKept

theorem refl (hR : ∀ r, R r r) : RowsKept R t t := fun _ r hr ↦ ⟨r, hr, hR r⟩

theorem trans (hR : ∀ r r' r'', R r r' → R r' r'' → R r r'') (h : RowsKept R t t')
    (h' : RowsKept R t' t'') : RowsKept R t t'' := by
  intro k r hr
  obtain ⟨r', hr', hrr'⟩ := h k r hr
  obtain ⟨r'', hr'', hrr''⟩ := h' k r' hr'
  exact ⟨r'', hr'', hR r r' r'' hrr' hrr''⟩

theorem insert {r : ρ} (hR : ∀ r, R r r) (hk : t.lookup k = none) :
    RowsKept R t (AList.insert k r t) := fun _ r hr ↦ ⟨r, lookup_insert_of_some hk hr, hR r⟩

theorem update {f : ρ → ρ} (hR : ∀ r, R r r) (hf : ∀ r, t.lookup k = some r → R r (f r)) :
    RowsKept R t (Table.update t k f) := by
  intro k' r hr
  rw [lookup_update]
  split_ifs with hk
  · subst hk
    exact ⟨f r, by rw [hr]; rfl, hf r hr⟩
  · exact ⟨r, hr, hR r⟩

end RowsKept

end Relational.Table
