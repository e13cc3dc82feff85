import Mathlib

/-!
# Stable sorting

`Array.prototype.sort` is stable, as `List.mergeSort` is: elements that compare equal keep their
order.
-/

namespace KmtLegal.Js

variable {α : Type} {l : List α} {a b : α}

/-- Of two elements of a list one comes first. -/
theorem sublist_pair_or (ha : a ∈ l) (hb : b ∈ l) (hne : a ≠ b) :
    [a, b].Sublist l ∨ [b, a].Sublist l := by
  induction l with
  | nil => cases ha
  | cons c l ih =>
    rcases List.mem_cons.mp ha with rfl | hrest
    · rcases List.mem_cons.mp hb with rfl | hrest'
      · exact absurd rfl hne
      · exact .inl (.cons_cons _ (List.singleton_sublist.mpr hrest'))
    · rcases List.mem_cons.mp hb with rfl | hrest'
      · exact .inr (.cons_cons _ (List.singleton_sublist.mpr hrest))
      · exact (ih hrest hrest').imp (.cons _) (.cons _)

/-- The first element of a sorted list is least, and the first of those that compare equal to it in
the order the list had. -/
theorem head?_mergeSort {le : α → α → Bool} {R : α → α → Prop}
    (htrans : ∀ a b c, le a b → le b c → le a c) (htotal : ∀ a b, le a b || le b a)
    (hnodup : l.Nodup) (hR : l.Pairwise R) (h : (l.mergeSort le).head? = some a) :
    a ∈ l ∧ ∀ b ∈ l, le a b ∧ (le b a → b ≠ a → R a b) := by
  obtain ⟨t, ht⟩ : ∃ t, l.mergeSort le = a :: t := by
    cases hl : l.mergeSort le with
    | nil => rw [hl] at h; cases h
    | cons c t => rw [hl] at h; cases h; exact ⟨t, rfl⟩
  have ha : a ∈ l := List.mem_mergeSort.mp (ht ▸ List.mem_cons_self)
  have hsorted := List.pairwise_mergeSort htrans htotal l
  rw [ht] at hsorted
  refine ⟨ha, fun b hb ↦ ?_⟩
  have hmem : b ∈ a :: t := ht ▸ List.mem_mergeSort.mpr hb
  constructor
  · rcases List.mem_cons.mp hmem with rfl | hmem
    · simpa using htotal b b
    · exact List.rel_of_pairwise_cons hsorted hmem
  · intro hle hne
    rcases sublist_pair_or ha hb hne.symm with hfirst | hfirst
    · exact List.pairwise_iff_forall_sublist.mp hR hfirst
    · -- then `b` would stay in front
      have hpair := List.pair_sublist_mergeSort htrans htotal hle hfirst
      rw [ht] at hpair
      have hnodup' : (a :: t).Nodup := ht ▸ (List.mergeSort_perm l le).nodup_iff.mpr hnodup
      cases hpair with
      | cons _ hrest =>
        have hmem' : a ∈ t := hrest.subset (by simp)
        exact absurd hmem' (List.nodup_cons.mp hnodup').1
      | cons_cons _ _ => exact absurd rfl hne

end KmtLegal.Js
