import Mathlib

/-!
# Transactions that may be rolled back

The body of a transaction computes in `Except ε`: it throws, or returns the new state with a
result.  `commit` is the database's side of the contract: a body that throws leaves the state
alone.

The rest is the bookkeeping for reading a body backwards.  A body is a `do` block of guards,
lookups and calls; knowing that it succeeded is knowing that no guard threw, that every lookup
found its row and that every call succeeded, and `bind_eq_ok` with the simp lemmas below turns
the one statement into the others.
-/

namespace Relational

variable {ε σ α β : Type}

/-! ## Guards -/

/-- `if (c) throw e`. -/
def throwIf (c : Prop) [Decidable c] (e : ε) : Except ε Unit :=
  if c then .error e else .ok ()

@[simp] theorem throwIf_eq_ok {c : Prop} [Decidable c] {e : ε} {u : Unit} :
    throwIf c e = .ok u ↔ ¬c := by
  by_cases h : c <;> simp [throwIf, h]

theorem throwIf_of_not {c : Prop} [Decidable c] {e : ε} (h : ¬c) : throwIf c e = .ok () :=
  if_neg h

/-- A lookup that throws `e` when there is no such row. -/
def orThrow : Option α → ε → Except ε α
  | some a, _ => .ok a
  | none, e => .error e

@[simp] theorem orThrow_some (a : α) (e : ε) : orThrow (some a) e = .ok a := rfl

@[simp] theorem orThrow_none (e : ε) : orThrow (none : Option α) e = .error e := rfl

@[simp] theorem orThrow_eq_ok {o : Option α} {e : ε} {a : α} :
    orThrow o e = .ok a ↔ o = some a := by
  cases o <;> simp [orThrow]

/-! ## Sequencing -/

theorem bind_eq_ok {x : Except ε α} {f : α → Except ε β} {b : β} :
    (x >>= f) = .ok b ↔ ∃ a, x = .ok a ∧ f a = .ok b := by
  cases x with
  | error e => exact ⟨nofun, fun ⟨_, h, _⟩ ↦ by cases h⟩
  | ok a =>
    constructor
    · exact fun h ↦ ⟨a, rfl, h⟩
    · rintro ⟨_, h, hf⟩
      cases h
      exact hf

@[simp] theorem ok_bind (a : α) (f : α → Except ε β) : (.ok a >>= f) = f a := rfl

@[simp] theorem error_bind (e : ε) (f : α → Except ε β) : (.error e >>= f) = .error e := rfl

theorem map_eq_ok {x : Except ε α} {f : α → β} {b : β} :
    x.map f = .ok b ↔ ∃ a, x = .ok a ∧ f a = b := by
  cases x with
  | error e => exact ⟨nofun, nofun⟩
  | ok a =>
    constructor
    · exact fun h ↦ ⟨a, rfl, Except.ok.inj h⟩
    · rintro ⟨_, h, rfl⟩
      cases h
      rfl

@[simp] theorem pure_eq_ok {a b : α} : (pure a : Except ε α) = .ok b ↔ a = b := by
  constructor
  · intro h
    cases h
    rfl
  · exact fun h ↦ h ▸ rfl

/-! ## Errors a computation ends with -/

/-- Whatever error ends `x` satisfies `Q`. -/
def Raises {ε α : Type} (Q : ε → Prop) (x : Except ε α) : Prop := ∀ e, x = .error e → Q e

namespace Raises

variable {ε α β : Type} {Q : ε → Prop}

theorem ok (a : α) : Raises Q (.ok a) := nofun

theorem error {e : ε} (h : Q e) : Raises Q (.error e : Except ε α) := by
  rintro _ ⟨⟩
  exact h

theorem throwIf {c : Prop} [Decidable c] {e : ε} (h : Q e) : Raises Q (throwIf c e) := by
  unfold Relational.throwIf
  by_cases hc : c
  · rw [if_pos hc]
    exact error h
  · rw [if_neg hc]
    exact ok ()

theorem orThrow {o : Option α} {e : ε} (h : Q e) : Raises Q (orThrow o e) := by
  cases o with
  | none => exact error h
  | some a => exact ok a

theorem bind {x : Except ε α} {f : α → Except ε β} (hx : Raises Q x)
    (hf : ∀ a, x = .ok a → Raises Q (f a)) : Raises Q (x >>= f) := by
  cases x with
  | error e => exact error (hx e rfl)
  | ok a => exact hf a rfl

end Raises

/-! ## Transactions in sequence -/

section

variable {ι : Type} {step : σ → ι → Except ε σ} {s s' : σ} {l : List ι}

/-- A reflexive and transitive relation between the states of every transaction relates the states
of a sequence of them. -/
theorem foldlM_related {R : σ → σ → Prop} (hrefl : ∀ s, R s s)
    (htrans : ∀ s t u, R s t → R t u → R s u)
    (hstep : ∀ s i s', step s i = .ok s' → R s s') (h : l.foldlM step s = .ok s') : R s s' := by
  induction l generalizing s with
  | nil =>
    cases h
    exact hrefl _
  | cons i l ih =>
    obtain ⟨t, ht, h⟩ := bind_eq_ok.mp h
    exact htrans s t s' (hstep s i t ht) (ih h)

/-- If every transaction keeps `I` exactly when it satisfies `C`, and nothing brings `I` about, then
a sequence keeps it exactly when all its transactions satisfy `C`. -/
theorem foldlM_keeps_iff {I : σ → Prop} {C : ι → Prop}
    (hstep : ∀ s i s', step s i = .ok s' → (I s' ↔ I s ∧ C i)) (h : l.foldlM step s = .ok s') :
    I s' ↔ I s ∧ ∀ i ∈ l, C i := by
  induction l generalizing s with
  | nil =>
    cases h
    simp
  | cons i l ih =>
    obtain ⟨t, ht, h⟩ := bind_eq_ok.mp h
    rw [ih h, hstep s i t ht, List.forall_mem_cons, and_assoc]

end

/-! ## Two computations side by side -/

/-- Both throw the same, or both return and the results are related. -/
inductive Related (R : α → β → Prop) : Except ε α → Except ε β → Prop
  | error (e : ε) : Related R (.error e) (.error e)
  | ok {a : α} {b : β} (h : R a b) : Related R (.ok a) (.ok b)

namespace Related

variable {γ δ : Type} {R : α → β → Prop} {S : γ → δ → Prop}

theorem bind {x : Except ε α} {y : Except ε β} {f : α → Except ε γ} {g : β → Except ε δ}
    (h : Related R x y) (hf : ∀ a b, R a b → Related S (f a) (g b)) :
    Related S (x >>= f) (y >>= g) := by
  cases h with
  | error e => exact .error e
  | ok hab => exact hf _ _ hab

/-- A common first computation. -/
theorem bind_same (x : Except ε α) {f : α → Except ε γ} {g : α → Except ε δ}
    (hf : ∀ a, Related S (f a) (g a)) : Related S (x >>= f) (x >>= g) := by
  cases x with
  | error e => exact .error e
  | ok a => exact hf a

end Related

/-! ## Committing -/

/-- The state after a transaction: what its body returned, or the old one if the body threw. -/
def commit (body : Except ε σ) (s : σ) : σ :=
  match body with
  | .ok s' => s'
  | .error _ => s

@[simp] theorem commit_ok (s s' : σ) : commit (.ok s' : Except ε σ) s = s' := rfl

@[simp] theorem commit_error (e : ε) (s : σ) : commit (.error e) s = s := rfl

/-- What the old state has and every returned state has survives a commit. -/
theorem commit_of {P : σ → Prop} {body : Except ε σ} {s : σ} (hs : P s)
    (h : ∀ s', body = .ok s' → P s') : P (commit body s) := by
  cases body with
  | error e => exact hs
  | ok s' => exact h s' rfl

end Relational
