import KmtLegal.Relational.Table
import Mathlib.Algebra.BigOperators.Group.List.Basic
import Mathlib.Data.List.Dedup
import Mathlib.Data.List.Induction

/-!
# Grouping

Rows are summed up by a key in two ways: a query groups them and sums each group, a program goes
through them and keeps a running result for each key in a map.
-/

namespace Relational

variable {α κ M : Type} [DecidableEq κ]

/-! ## Queries -/

section

variable [AddCommMonoid M]

/-- The sum of the rows under a key. -/
def sumUnder (key : α → κ) (value : α → M) (l : List α) (k : κ) : M :=
  ((l.filter fun x ↦ key x = k).map value).sum

/-- `SELECT key, SUM(value) … GROUP BY key`. -/
def groupSum (key : α → κ) (value : α → M) (l : List α) : List (κ × M) :=
  (l.map key).dedup.map fun k ↦ (k, sumUnder key value l k)

/-- The sum of a group; a group that is missing has none. -/
def groupValue (groups : List (κ × M)) (k : κ) : M :=
  ((groups.find? fun g ↦ g.1 = k).map Prod.snd).getD 0

variable {key : α → κ} {value : α → M} {l : List α} {k : κ}

theorem mem_groupSum {m : M} :
    (k, m) ∈ groupSum key value l ↔ (∃ x ∈ l, key x = k) ∧ m = sumUnder key value l k := by
  simp only [groupSum, List.mem_map, List.mem_dedup, Prod.mk.injEq]
  constructor
  · rintro ⟨_, ⟨x, hx, rfl⟩, rfl, rfl⟩
    exact ⟨⟨x, hx, rfl⟩, rfl⟩
  · rintro ⟨⟨x, hx, rfl⟩, rfl⟩
    exact ⟨_, ⟨x, hx, rfl⟩, rfl, rfl⟩

@[simp] theorem groupValue_groupSum : groupValue (groupSum key value l) k = sumUnder key value l k := by
  unfold groupValue
  cases hfind : (groupSum key value l).find? fun g ↦ g.1 = k with
  | none =>
    have hempty : (l.filter fun x ↦ key x = k) = [] := by
      rw [List.filter_eq_nil_iff]
      intro x hx hkey
      have hno := List.find?_eq_none.mp hfind _ (mem_groupSum.mpr ⟨⟨x, hx, rfl⟩, rfl⟩)
      exact hno hkey
    rw [sumUnder, hempty]
    rfl
  | some g =>
    obtain rfl : g.1 = k := by simpa using List.find?_some hfind
    exact (mem_groupSum.mp (List.mem_of_find?_eq_some hfind)).2

/-- Rows that satisfy one of two conditions that exclude each other. -/
theorem sum_filter_or (value : α → M) {p q : α → Bool} (hpq : ∀ x ∈ l, p x → ¬q x) :
    ((l.filter fun x ↦ p x || q x).map value).sum =
      ((l.filter p).map value).sum + ((l.filter q).map value).sum := by
  induction l with
  | nil => simp
  | cons x l ih =>
    have ih := ih fun y hy ↦ hpq y (List.mem_cons_of_mem _ hy)
    have hx := hpq x List.mem_cons_self
    simp only [List.filter_cons]
    cases hp : p x <;> cases hq : q x
    · simpa using ih
    · simp only [Bool.false_or, if_true, if_false, Bool.false_eq_true, List.map_cons, List.sum_cons, ih]
      rw [add_left_comm]
    · simp only [Bool.true_or, if_true, if_false, Bool.false_eq_true, List.map_cons, List.sum_cons, ih]
      rw [add_assoc]
    · exact absurd hq (hx hp)

/-- The rows that belong to the owners of a list, owner by owner. -/
theorem sum_by_owner {ι : Type} [DecidableEq ι] (value : α → M) (owner : α → ι) {owners : List ι}
    (hnodup : owners.Nodup) :
    (owners.map fun i ↦ ((l.filter fun x ↦ owner x = i).map value).sum).sum =
      ((l.filter fun x ↦ owner x ∈ owners).map value).sum := by
  induction owners with
  | nil => simp
  | cons i owners ih =>
    obtain ⟨hi, hrest⟩ := List.nodup_cons.mp hnodup
    have hsplit := sum_filter_or (l := l) value (p := fun x ↦ decide (owner x = i))
      (q := fun x ↦ decide (owner x ∈ owners)) fun x _ hx hx' ↦
        hi (of_decide_eq_true hx ▸ of_decide_eq_true hx')
    rw [List.map_cons, List.sum_cons, ih hrest, ← hsplit]
    simp only [List.mem_cons, Bool.decide_or]

/-- Rows without a value may be left out. -/
theorem sum_filter_of_zero {p : α → Bool} (h : ∀ x ∈ l, ¬p x → value x = 0) :
    (l.map value).sum = ((l.filter p).map value).sum := by
  induction l with
  | nil => rfl
  | cons x l ih =>
    have ih := ih fun y hy ↦ h y (List.mem_cons_of_mem _ hy)
    rw [List.map_cons, List.sum_cons, List.filter_cons]
    split_ifs with hp
    · rw [List.map_cons, List.sum_cons, ih]
    · rw [h x List.mem_cons_self hp, zero_add, ih]

end

/-! ## Maps -/

/-- A running result for each key. -/
def collect (key : α → κ) (f : M → α → M) (z : M) (l : List α) : Table κ M :=
  l.foldl (fun m x ↦ m.insert (key x) (f ((m.lookup (key x)).getD z) x)) ∅

/-- The result of a key is that of the rows under it. -/
theorem lookup_collect {key : α → κ} {f : M → α → M} {z : M} {l : List α} {k : κ} :
    (collect key f z l).lookup k =
      if ∃ x ∈ l, key x = k then some ((l.filter fun x ↦ key x = k).foldl f z) else none := by
  induction l using List.reverseRecOn with
  | nil => simp [collect]
  | append_singleton l x ih =>
    have hstep : collect key f z (l ++ [x]) = (collect key f z l).insert (key x)
        (f (((collect key f z l).lookup (key x)).getD z) x) := by
      simp only [collect, List.foldl_append, List.foldl_cons, List.foldl_nil]
    rw [hstep]
    by_cases hk : key x = k
    · subst hk
      have hall : ∃ y ∈ l ++ [x], key y = key x := ⟨x, by simp, rfl⟩
      have hlast : (((collect key f z l).lookup (key x)).getD z) =
          (l.filter fun y ↦ key y = key x).foldl f z := by
        rw [ih]
        split_ifs with hsome
        · rfl
        · have hnone : (l.filter fun y ↦ key y = key x) = [] := by
            rw [List.filter_eq_nil_iff]
            intro y hy hkey
            exact hsome ⟨y, hy, of_decide_eq_true hkey⟩
          rw [hnone]
          rfl
      rw [AList.lookup_insert, if_pos hall, hlast, List.filter_append, List.foldl_append]
      simp
    · have hothers : (∃ y ∈ l ++ [x], key y = k) ↔ ∃ y ∈ l, key y = k := by
        constructor
        · rintro ⟨y, hy, hkey⟩
          rcases List.mem_append.mp hy with hy | hy
          · exact ⟨y, hy, hkey⟩
          · rw [List.mem_singleton.mp hy] at hkey
            exact absurd hkey hk
        · rintro ⟨y, hy, hkey⟩
          exact ⟨y, List.mem_append_left _ hy, hkey⟩
      have hfilter : ((l ++ [x]).filter fun y ↦ key y = k) = l.filter fun y ↦ key y = k := by
        simp [List.filter_append, hk]
      rw [AList.lookup_insert_ne (Ne.symm hk), ih, hfilter]
      simp only [hothers]

end Relational
