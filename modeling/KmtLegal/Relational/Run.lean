import Mathlib

/-!
# Runs of a step function

A system answers requests one at a time: `step s i` is the state after request `i`.  This file
has the induction over a finite sequence of requests, packaged once for each of the ways it is
used: an invariant, an invariant that needs a condition on the steps taken, an exact condition
for a run to stay inside an invariant, a relation between the first and the last state, and two
runs in lockstep.
-/

namespace Relational

variable {σ τ ι ω : Type}

/-! ## Runs -/

/-- The state after the requests `l`, in order. -/
def run (step : σ → ι → σ) (s : σ) (l : List ι) : σ := l.foldl step s

@[simp] theorem run_nil (step : σ → ι → σ) (s : σ) : run step s [] = s := rfl

@[simp] theorem run_cons (step : σ → ι → σ) (s : σ) (i : ι) (l : List ι) :
    run step s (i :: l) = run step (step s i) l := rfl

theorem run_append (step : σ → ι → σ) (s : σ) (l l' : List ι) :
    run step s (l ++ l') = run step (run step s l) l' := List.foldl_append

theorem run_concat (step : σ → ι → σ) (s : σ) (l : List ι) (i : ι) :
    run step s (l ++ [i]) = step (run step s l) i := by
  rw [run_append, run_cons, run_nil]

/-- Each request `i` of the run is served in a state `s` with `C s i`. -/
def AllSteps (step : σ → ι → σ) (C : σ → ι → Prop) : σ → List ι → Prop
  | _, [] => True
  | s, i :: l => C s i ∧ AllSteps step C (step s i) l

instance instDecidableAllSteps {step : σ → ι → σ} {C : σ → ι → Prop} [∀ s i, Decidable (C s i)] :
    (s : σ) → (l : List ι) → Decidable (AllSteps step C s l)
  | _, [] => isTrue trivial
  | s, i :: l =>
    have : Decidable (AllSteps step C (step s i) l) := instDecidableAllSteps (step s i) l
    inferInstanceAs (Decidable (C s i ∧ AllSteps step C (step s i) l))

/-- Every state of the run, the first one included, satisfies `P`. -/
def AllStates (step : σ → ι → σ) (P : σ → Prop) : σ → List ι → Prop
  | s, [] => P s
  | s, i :: l => P s ∧ AllStates step P (step s i) l

section

variable {step : σ → ι → σ} {I J : σ → Prop} {C D : σ → ι → Prop} {s : σ} {l : List ι}

@[simp] theorem allSteps_nil : AllSteps step C s [] := trivial

@[simp] theorem allSteps_cons {i : ι} :
    AllSteps step C s (i :: l) ↔ C s i ∧ AllSteps step C (step s i) l := Iff.rfl

@[simp] theorem allStates_nil : AllStates step I s [] ↔ I s := Iff.rfl

@[simp] theorem allStates_cons {i : ι} :
    AllStates step I s (i :: l) ↔ I s ∧ AllStates step I (step s i) l := Iff.rfl

theorem AllStates.head (h : AllStates step I s l) : I s := by
  cases l with
  | nil => exact h
  | cons i l => exact h.1

theorem AllStates.last (h : AllStates step I s l) : I (run step s l) := by
  induction l generalizing s with
  | nil => exact h
  | cons i l ih => exact ih h.2

theorem allStates_mono (h : ∀ s, I s → J s) (hI : AllStates step I s l) : AllStates step J s l := by
  induction l generalizing s with
  | nil => exact h s hI
  | cons i l ih => exact ⟨h s hI.1, ih hI.2⟩

/-! ## Invariants -/

/-- An invariant of the step function holds after every run. -/
theorem run_invariant (hstep : ∀ s i, I s → I (step s i)) (h : I s) (l : List ι) :
    I (run step s l) := by
  induction l generalizing s with
  | nil => exact h
  | cons i l ih => exact ih (hstep s i h)

/-- An invariant holds in every state of a run. -/
theorem allStates_of_invariant (hstep : ∀ s i, I s → I (step s i)) (h : I s) (l : List ι) :
    AllStates step I s l := by
  induction l generalizing s with
  | nil => exact h
  | cons i l ih => exact ⟨h, ih (hstep s i h)⟩

/-- An invariant that survives the steps satisfying `C` holds in every state of a run all of
whose steps satisfy `C`. -/
theorem allStates_of_allSteps (hstep : ∀ s i, I s → C s i → I (step s i)) (h : I s)
    (hC : AllSteps step C s l) : AllStates step I s l := by
  induction l generalizing s with
  | nil => exact h
  | cons i l ih => exact ⟨h, ih (hstep s i h hC.1) hC.2⟩

theorem run_invariant_of_allSteps (hstep : ∀ s i, I s → C s i → I (step s i)) (h : I s)
    (hC : AllSteps step C s l) : I (run step s l) :=
  (allStates_of_allSteps hstep h hC).last

/-- What holds of every step that satisfies `C` under an invariant of such steps holds of all steps
of the run. -/
theorem allSteps_mono (hstep : ∀ s i, I s → C s i → I (step s i))
    (h : ∀ s i, I s → C s i → D s i) (hI : I s) (hC : AllSteps step C s l) :
    AllSteps step D s l := by
  induction l generalizing s with
  | nil => trivial
  | cons i l ih => exact ⟨h s i hI hC.1, ih (hstep s i hI hC.1) hC.2⟩

theorem allSteps_and :
    AllSteps step (fun s i ↦ C s i ∧ D s i) s l ↔ AllSteps step C s l ∧ AllSteps step D s l := by
  induction l generalizing s with
  | nil => exact (and_self_iff).symm
  | cons i l ih =>
    rw [allSteps_cons, allSteps_cons, allSteps_cons, ih]
    exact and_and_and_comm

theorem allSteps_append {l' : List ι} :
    AllSteps step C s (l ++ l') ↔ AllSteps step C s l ∧ AllSteps step C (run step s l) l' := by
  induction l generalizing s with
  | nil => simp
  | cons i l ih => rw [List.cons_append, allSteps_cons, allSteps_cons, run_cons, ih, and_assoc]

theorem allSteps_concat {i : ι} :
    AllSteps step C s (l ++ [i]) ↔ AllSteps step C s l ∧ C (run step s l) i := by
  rw [allSteps_append, allSteps_cons, and_iff_left allSteps_nil]

theorem allStates_concat {i : ι} :
    AllStates step I s (l ++ [i]) ↔ AllStates step I s l ∧ I (step (run step s l) i) := by
  induction l generalizing s with
  | nil => rfl
  | cons j l ih => rw [List.cons_append, allStates_cons, allStates_cons, ih, run_cons, and_assoc]

/-- An invariant that looks back at the requests served so far. -/
theorem history_invariant {H : List ι → Prop} (hnil : H [])
    (hstep : ∀ l i, H l → C (run step s l) i → H (l ++ [i])) (h : AllSteps step C s l) : H l := by
  induction l using List.reverseRecOn with
  | nil => exact hnil
  | append_singleton l i ih =>
    obtain ⟨hl, hi⟩ := allSteps_concat.mp h
    exact hstep l i (ih hl) hi

/-- If, under an invariant `J`, a step stays inside `I` exactly when it satisfies `C`, then a
run stays inside `I` exactly when all its steps satisfy `C`. -/
theorem allStates_iff_allSteps (hJstep : ∀ s i, J s → J (step s i))
    (hstep : ∀ s i, J s → I s → (I (step s i) ↔ C s i)) (hJ : J s) (h : I s) :
    AllStates step I s l ↔ AllSteps step C s l := by
  induction l generalizing s with
  | nil => exact ⟨fun _ ↦ trivial, fun _ ↦ h⟩
  | cons i l ih =>
    constructor
    · intro hl
      have hI : I (step s i) := hl.2.head
      exact ⟨(hstep s i hJ h).mp hI, (ih (hJstep s i hJ) hI).mp hl.2⟩
    · intro hl
      have hI : I (step s i) := (hstep s i hJ h).mpr hl.1
      exact ⟨h, (ih (hJstep s i hJ) hI).mpr hl.2⟩

/-- Two step conditions that agree under an invariant agree along every run. -/
theorem allSteps_congr (hJstep : ∀ s i, J s → J (step s i))
    (h : ∀ s i, J s → (C s i ↔ D s i)) (hJ : J s) :
    AllSteps step C s l ↔ AllSteps step D s l := by
  induction l generalizing s with
  | nil => exact Iff.rfl
  | cons i l ih => exact and_congr (h s i hJ) (ih (hJstep s i hJ))

/-- A condition that every step meets under an invariant is met along every run. -/
theorem allSteps_of_invariant (hJstep : ∀ s i, J s → J (step s i))
    (h : ∀ s i, J s → C s i) (hJ : J s) (l : List ι) : AllSteps step C s l := by
  induction l generalizing s with
  | nil => trivial
  | cons i l ih => exact ⟨h s i hJ, ih (hJstep s i hJ)⟩

end

/-! ## Relations along a run -/

/-- A reflexive and transitive relation that every step respects relates the first state of a
run to the last. -/
theorem run_related {step : σ → ι → σ} {R : σ → σ → Prop} (hrefl : ∀ s, R s s)
    (htrans : ∀ s t u, R s t → R t u → R s u) (hstep : ∀ s i, R s (step s i)) (s : σ)
    (l : List ι) : R s (run step s l) := by
  induction l generalizing s with
  | nil => exact hrefl s
  | cons i l ih => exact htrans _ _ _ (hstep s i) (ih (step s i))

/-- The same, if the steps of this run respect the relation. -/
theorem run_related_of_allSteps {step : σ → ι → σ} {C : σ → ι → Prop} {R : σ → σ → Prop}
    (hrefl : ∀ s, R s s) (htrans : ∀ s t u, R s t → R t u → R s u)
    (hstep : ∀ s i, C s i → R s (step s i)) {s : σ} {l : List ι} (h : AllSteps step C s l) :
    R s (run step s l) := by
  induction l generalizing s with
  | nil => exact hrefl s
  | cons i l ih => exact htrans _ _ _ (hstep s i h.1) (ih h.2)

/-- How many requests of the run are served in a state where `C` holds. -/
def stepCount (step : σ → ι → σ) (C : σ → ι → Bool) : σ → List ι → ℕ
  | _, [] => 0
  | s, i :: l => (C s i).toNat + stepCount step C (step s i) l

/-- What the steps with `C` increase by one and the others leave alone counts them. -/
theorem run_measure {step : σ → ι → σ} {C : σ → ι → Bool} {m : σ → ℕ}
    (h : ∀ s i, m (step s i) = m s + (C s i).toNat) (s : σ) (l : List ι) :
    m (run step s l) = m s + stepCount step C s l := by
  induction l generalizing s with
  | nil => rfl
  | cons i l ih => rw [run_cons, ih, h, stepCount, Nat.add_assoc]

section

variable {step : σ → ι → σ} {C D E : σ → ι → Bool}

theorem stepCount_concat (s : σ) (l : List ι) (i : ι) :
    stepCount step C s (l ++ [i]) = stepCount step C s l + (C (run step s l) i).toNat := by
  induction l generalizing s with
  | nil => exact Nat.add_comm _ _
  | cons j l ih => rw [List.cons_append, stepCount, stepCount, run_cons, ih, Nat.add_assoc]

/-- Steps of which each is counted by one of two conditions. -/
theorem stepCount_le_add (h : ∀ s i, C s i → D s i ∨ E s i) (s : σ) (l : List ι) :
    stepCount step C s l ≤ stepCount step D s l + stepCount step E s l := by
  induction l generalizing s with
  | nil => exact Nat.zero_le _
  | cons i l ih =>
    have hi : (C s i).toNat ≤ (D s i).toNat + (E s i).toNat := by
      cases hC : C s i with
      | false => exact Nat.zero_le _
      | true =>
        rcases h s i hC with hD | hE
        · rw [hD]
          exact Nat.le_add_right _ _
        · rw [hE]
          exact Nat.le_add_left _ _
    have hl := ih (step s i)
    simp only [stepCount]
    omega

end

/-- A run whose steps are matched by steps of an abstract machine, as long as an invariant holds,
is matched by a run of the machine. -/
theorem run_simulates {step : σ → ι → σ} {v : σ → τ} {Step : τ → τ → Prop} {I : σ → Prop}
    (hI : ∀ s i, I s → I (step s i))
    (hstep : ∀ s i, I s → Relation.ReflTransGen Step (v s) (v (step s i))) {s : σ} (h : I s)
    (l : List ι) : Relation.ReflTransGen Step (v s) (v (run step s l)) := by
  induction l generalizing s with
  | nil => exact .refl
  | cons i l ih => exact (hstep s i h).trans (ih (hI s i h))

/-- The answers along a run. -/
def responses (step : σ → ι → σ) (respond : σ → ι → ω) : σ → List ι → List ω
  | _, [] => []
  | s, i :: l => respond s i :: responses step respond (step s i) l

/-- Two systems that stay related step by step, and answer related states alike, end related
and give the same answers. -/
theorem lockstep {step : σ → ι → σ} {step' : τ → ι → τ} {respond : σ → ι → ω}
    {respond' : τ → ι → ω} {R : σ → τ → Prop} {A : ι → Prop}
    (hstep : ∀ s t i, A i → R s t → R (step s i) (step' t i))
    (hrespond : ∀ s t i, A i → R s t → respond s i = respond' t i) {s : σ} {t : τ}
    (h : R s t) {l : List ι} (hA : ∀ i ∈ l, A i) :
    R (run step s l) (run step' t l) ∧
      responses step respond s l = responses step' respond' t l := by
  induction l generalizing s t with
  | nil => exact ⟨h, rfl⟩
  | cons i l ih =>
    have hi : A i := hA i List.mem_cons_self
    obtain ⟨hrun, hresp⟩ := ih (hstep s t i hi h) fun j hj ↦ hA j (List.mem_cons_of_mem _ hj)
    exact ⟨hrun, by rw [responses, responses, hrespond s t i hi h, hresp]⟩

end Relational
