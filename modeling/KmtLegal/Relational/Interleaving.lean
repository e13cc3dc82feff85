import Mathlib

/-!
# Interleaved processes

Any number of processes share a store.  A step of one process is one statement: it may write the
store, and it moves the process on.  An invariant of every process with the store survives a step
if the process that moves keeps its own and leaves those of the others alone.
-/

namespace Relational

variable {ω σ ρ ι : Type}

/-- The store, and where each process is. -/
structure Processes (ω σ ρ : Type) where
  store : σ
  process : ω → ρ

variable [DecidableEq ω]

/-- Process `i.1` makes the step `i.2`. -/
def interleave (step : ω → ι → σ → ρ → σ × ρ) (s : Processes ω σ ρ) (i : ω × ι) :
    Processes ω σ ρ where
  store := (step i.1 i.2 s.store (s.process i.1)).1
  process := Function.update s.process i.1 (step i.1 i.2 s.store (s.process i.1)).2

variable {step : ω → ι → σ → ρ → σ × ρ} {s : Processes ω σ ρ} {i : ω × ι}

@[simp] theorem interleave_store :
    (interleave step s i).store = (step i.1 i.2 s.store (s.process i.1)).1 := rfl

theorem interleave_process_self :
    (interleave step s i).process i.1 = (step i.1 i.2 s.store (s.process i.1)).2 :=
  Function.update_self ..

theorem interleave_process_of_ne {w : ω} (h : w ≠ i.1) :
    (interleave step s i).process w = s.process w :=
  Function.update_of_ne h ..

/-- What the process that moves has afterwards, and the others have with the new store, all have
after the step. -/
theorem forall_interleave {I : ω → σ → ρ → Prop}
    (hself : I i.1 (step i.1 i.2 s.store (s.process i.1)).1
      (step i.1 i.2 s.store (s.process i.1)).2)
    (hother : ∀ w, w ≠ i.1 → I w (step i.1 i.2 s.store (s.process i.1)).1 (s.process w)) (w : ω) :
    I w (interleave step s i).store ((interleave step s i).process w) := by
  by_cases hw : w = i.1
  · subst hw
    rw [interleave_process_self]
    exact hself
  · rw [interleave_process_of_ne hw]
    exact hother w hw

end Relational
