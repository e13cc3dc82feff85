import Mathlib

/-!
# Locks

Each lock is held by one process or by nobody.  A process takes locks nobody else holds, and lets
go of all it holds at once, at the end of its transaction.
-/

namespace Relational

/-- Who holds each lock. -/
def Locks (κ ω : Type) : Type := κ → Option ω

namespace Locks

variable {κ ω : Type}

/-- Nobody holds a lock. -/
def none : Locks κ ω := fun _ ↦ Option.none

variable [DecidableEq κ] [DecidableEq ω]

/-- Nobody but `w` holds one of the locks. -/
def isFree (L : Locks κ ω) (w : ω) (ks : List κ) : Bool := ks.all fun k ↦ (L k).all (· = w)

def acquire (L : Locks κ ω) (w : ω) (ks : List κ) : Locks κ ω :=
  fun k ↦ if k ∈ ks then some w else L k

def release (L : Locks κ ω) (w : ω) : Locks κ ω := fun k ↦ if L k = some w then Option.none else L k

variable {L L' : Locks κ ω} {w : ω} {ks : List κ} {k : κ}

omit [DecidableEq ω] in
theorem acquire_of_mem (h : k ∈ ks) : L.acquire w ks k = some w := if_pos h

omit [DecidableEq ω] in
theorem acquire_of_held (h : L k = some w) : L.acquire w ks k = some w := by
  unfold acquire
  split_ifs
  · rfl
  · exact h

omit [DecidableEq κ] in
theorem holder_of_isFree (hfree : L.isFree w ks) (h : k ∈ ks) {w' : ω} (hheld : L k = some w') :
    w' = w := by
  have hk := List.all_eq_true.mp hfree k h
  rw [hheld] at hk
  exact of_decide_eq_true hk

/-! ## What a process leaves to the others -/

/-- What a process other than `w` holds, it keeps. -/
def Respects (w : ω) (L L' : Locks κ ω) : Prop :=
  ∀ k w', w' ≠ w → L k = some w' → L' k = some w'

omit [DecidableEq κ] [DecidableEq ω] in
theorem Respects.refl (w : ω) (L : Locks κ ω) : Respects w L L := fun _ _ _ h ↦ h

theorem respects_acquire (h : L.isFree w ks) : Respects w L (L.acquire w ks) := by
  intro k w' hne hheld
  unfold acquire
  split_ifs with hk
  · exact absurd (holder_of_isFree h hk hheld) hne
  · exact hheld

omit [DecidableEq κ] in
theorem respects_release : Respects w L (L.release w) := by
  intro k w' hne hheld
  unfold release
  rw [if_neg, hheld]
  rw [hheld]
  exact fun h ↦ hne (Option.some.inj h)

end Locks

end Relational
