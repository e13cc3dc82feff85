import Mathlib.Data.List.Infix
import KmtLegal.Relational.Run
import KmtLegal.Relational.Table

/-!
# Optimistic locks

A record has a version, and an edit names the version its author has seen: it is accepted only if
that version is still stored.  If every accepted edit raises the version and nothing lowers it, then
of all edits that name one version at most one is accepted, and what an accepted edit leaves was
never stored before.

Where the rows of a table have versions, and a row is only rewritten with a later one, a version tells
the row: who reads a version again reads the row again.
-/

namespace Relational

variable {σ ι τ : Type} [LinearOrder τ]

/-- Request `i` is accepted in state `s` as an edit of the version `v`. -/
structure OptimisticLock (step : σ → ι → σ) (version : σ → τ) (accepts : σ → ι → τ → Prop)
    (C : σ → ι → Prop) : Prop where
  seen : ∀ s i v, accepts s i v → v = version s
  rises : ∀ s i v, C s i → accepts s i v → version s < version (step s i)
  keeps : ∀ s i, (∀ v, ¬accepts s i v) → version s ≤ version (step s i)

namespace OptimisticLock

variable {step : σ → ι → σ} {version : σ → τ} {accepts : σ → ι → τ → Prop} {C : σ → ι → Prop}
  {s : σ}

theorem step_le (h : OptimisticLock step version accepts C) {i : ι} (hi : C s i) :
    version s ≤ version (step s i) := by
  by_cases haccepted : ∃ v, accepts s i v
  · obtain ⟨v, hv⟩ := haccepted
    exact le_of_lt (h.rises s i v hi hv)
  · exact h.keeps s i fun v hv ↦ haccepted ⟨v, hv⟩

/-- Versions do not decrease along a run. -/
theorem run_le (h : OptimisticLock step version accepts C) {l : List ι} (hl : AllSteps step C s l) :
    version s ≤ version (run step s l) :=
  run_related_of_allSteps (R := fun s s' ↦ version s ≤ version s') (fun _ ↦ le_rfl)
    (fun _ _ _ ↦ le_trans) (fun _ _ ↦ h.step_le) hl

/-- What an accepted edit leaves is above everything stored before it. -/
theorem fresh (h : OptimisticLock step version accepts C) {l₀ l₁ : List ι} {i : ι} {v : τ}
    (hl : AllSteps step C s (l₁ ++ [i])) (hi : accepts (run step s l₁) i v) (hinit : l₀ <+: l₁) :
    version (run step s l₀) < version (run step s (l₁ ++ [i])) := by
  obtain ⟨l, rfl⟩ := hinit
  obtain ⟨hbefore, hstep⟩ := allSteps_concat.mp hl
  rw [run_concat]
  refine lt_of_le_of_lt ?_ (h.rises _ i v hstep hi)
  rw [run_append]
  exact h.run_le (allSteps_append.mp hbefore).2

/-- Of two edits of one version one is refused. -/
theorem once (h : OptimisticLock step version accepts C) {l₁ l₂ : List ι} {i j : ι} {v : τ}
    (hl : AllSteps step C s (l₁ ++ i :: l₂)) (hi : accepts (run step s l₁) i v) :
    ¬accepts (run step s (l₁ ++ i :: l₂)) j v := by
  intro hj
  obtain ⟨-, hstep, hafter⟩ := allSteps_append.mp hl
  have hlt : version (run step s l₁) < version (run step s (l₁ ++ i :: l₂)) := by
    rw [run_append, run_cons]
    exact lt_of_lt_of_le (h.rises _ i v hstep hi) (h.run_le hafter)
  rw [← h.seen _ i v hi, ← h.seen _ j v hj] at hlt
  exact lt_irrefl v hlt

end OptimisticLock

/-! ## Rows with versions -/

variable {κ ρ : Type} [DecidableEq κ] {version : ρ → τ} {t t' t'' : Table κ ρ}

/-- A row stays, or is rewritten with a later version. -/
def RowsLater (version : ρ → τ) (t t' : Table κ ρ) : Prop :=
  ∀ k r, t.lookup k = some r → ∃ r', t'.lookup k = some r' ∧ (r' = r ∨ version r < version r')

namespace RowsLater

theorem refl : RowsLater version t t := fun _ r hr ↦ ⟨r, hr, .inl rfl⟩

theorem trans (h : RowsLater version t t') (h' : RowsLater version t' t'') :
    RowsLater version t t'' := by
  intro k r hr
  obtain ⟨r', hr', hlater⟩ := h k r hr
  obtain ⟨r'', hr'', hlater'⟩ := h' k r' hr'
  refine ⟨r'', hr'', ?_⟩
  rcases hlater with rfl | hlater
  · exact hlater'
  · rcases hlater' with rfl | hlater'
    · exact .inr hlater
    · exact .inr (hlater.trans hlater')

theorem insert {k : κ} {r r' : ρ} (hr : t.lookup k = some r) (hless : version r < version r') :
    RowsLater version t (AList.insert k r' t) := by
  intro k' stored hstored
  by_cases hk : k' = k
  · subst hk
    obtain rfl := Option.some.inj (hr.symm.trans hstored)
    exact ⟨r', (Table.lookup_insert ..).trans (if_pos rfl), .inr hless⟩
  · exact ⟨stored, ((Table.lookup_insert ..).trans (if_neg hk)).trans hstored, .inl rfl⟩

theorem update {k : κ} {f : ρ → ρ} (hf : ∀ r, t.lookup k = some r → version r < version (f r)) :
    RowsLater version t (t.update k f) := by
  intro k' r hr
  by_cases hk : k' = k
  · subst hk
    exact ⟨f r, (Table.lookup_update_self ..).trans (congrArg (Option.map f) hr), .inr (hf r hr)⟩
  · exact ⟨r, (Table.lookup_update_of_ne _ _ hk).trans hr, .inl rfl⟩

theorem create {k : κ} {r : ρ} (h : t.create k r = some t') : RowsLater version t t' := by
  obtain ⟨hnone, rfl⟩ := Table.create_eq_some.mp h
  intro k' stored hstored
  have hk : k' ≠ k := by
    rintro rfl
    rw [hnone] at hstored
    cases hstored
  exact ⟨stored, ((Table.lookup_insert ..).trans (if_neg hk)).trans hstored, .inl rfl⟩

/-- Two rows of one version are the same row. -/
theorem eq_of_version (h : RowsLater version t t') {k : κ} {r r' : ρ} (hr : t.lookup k = some r)
    (hr' : t'.lookup k = some r') (hversion : version r = version r') : r = r' := by
  obtain ⟨_, hrow, hlater⟩ := h k r hr
  obtain rfl := Option.some.inj (hr'.symm.trans hrow)
  rcases hlater with rfl | hlater
  · rfl
  · exact absurd hversion hlater.ne

end RowsLater

end Relational
