import Mathlib

/-!
# Programs that ask

A program may ask questions of the type `Q`, with answers that depend on the question, and it
returns a value or throws.  It is a finite tree, so that it ends whatever is answered; an
environment answers each question in view of everything that was asked before.  A bound that holds
of every run holds against every environment.
-/

namespace Relational

variable {Q : Type} {A : Q → Type} {ε α β : Type}

inductive Interaction (Q : Type) (A : Q → Type) (ε α : Type) where
  | done (a : α)
  | throw (e : ε)
  | ask (q : Q) (next : A q → Interaction Q A ε α)

namespace Interaction

def bind (k : α → Interaction Q A ε β) : Interaction Q A ε α → Interaction Q A ε β
  | done a => k a
  | throw e => throw e
  | ask q next => ask q fun y ↦ bind k (next y)

instance : Monad (Interaction Q A ε) where
  pure := done
  bind p k := bind k p

/-- A question and its answer. -/
abbrev Event (Q : Type) (A : Q → Type) := (q : Q) × A q

/-- A value that may be an error, which is thrown. -/
def lift : Except ε α → Interaction Q A ε α
  | .ok a => done a
  | .error e => throw e

/-! ## Runs -/

/-- The program asks the questions of the log, gets their answers, and ends. -/
inductive Runs : Interaction Q A ε α → List (Event Q A) → Except ε α → Prop
  | done (a : α) : Runs (.done a) [] (.ok a)
  | throw (e : ε) : Runs (.throw e) [] (.error e)
  | ask (q : Q) (next : A q → Interaction Q A ε α) (y : A q) {log : List (Event Q A)}
      {r : Except ε α} (h : Runs (next y) log r) : Runs (.ask q next) (⟨q, y⟩ :: log) r

/-- The run against an environment, which sees all that came before. -/
def play (environment : List (Event Q A) → (q : Q) → A q) :
    List (Event Q A) → Interaction Q A ε α → List (Event Q A) × Except ε α
  | _, done a => ([], .ok a)
  | _, throw e => ([], .error e)
  | history, ask q next =>
    let event : Event Q A := ⟨q, environment history q⟩
    let (log, r) := play environment (history ++ [event]) (next (environment history q))
    (event :: log, r)

theorem runs_play (environment : List (Event Q A) → (q : Q) → A q) (history : List (Event Q A))
    (p : Interaction Q A ε α) :
    Runs p (play environment history p).1 (play environment history p).2 := by
  induction p generalizing history with
  | done a => exact .done a
  | throw e => exact .throw e
  | ask q next ih => exact .ask q next _ (ih _ _)

variable {p : Interaction Q A ε α} {k : α → Interaction Q A ε β} {log : List (Event Q A)}

@[simp] theorem runs_done {a : α} {r : Except ε α} :
    Runs (.done a : Interaction Q A ε α) log r ↔ log = [] ∧ r = .ok a := by
  constructor
  · rintro ⟨⟩
    exact ⟨rfl, rfl⟩
  · rintro ⟨rfl, rfl⟩
    exact .done a

@[simp] theorem runs_pure {a : α} {r : Except ε α} :
    Runs (pure a : Interaction Q A ε α) log r ↔ log = [] ∧ r = .ok a := runs_done

@[simp] theorem runs_throw {e : ε} {r : Except ε α} :
    Runs (.throw e : Interaction Q A ε α) log r ↔ log = [] ∧ r = .error e := by
  constructor
  · rintro ⟨⟩
    exact ⟨rfl, rfl⟩
  · rintro ⟨rfl, rfl⟩
    exact .throw e

theorem runs_ask {q : Q} {next : A q → Interaction Q A ε α} {r : Except ε α} :
    Runs (.ask q next) log r ↔ ∃ y log', log = ⟨q, y⟩ :: log' ∧ Runs (next y) log' r := by
  constructor
  · rintro ⟨⟩
    exact ⟨_, _, rfl, ‹_›⟩
  · rintro ⟨y, log', rfl, h⟩
    exact .ask q next y h

@[simp] theorem runs_lift {x : Except ε α} {r : Except ε α} :
    Runs (lift x : Interaction Q A ε α) log r ↔ log = [] ∧ r = x := by
  cases x with
  | ok a => exact runs_done
  | error e => exact runs_throw

/-- A run of two programs one after the other: the first throws, or the second goes on from its
value. -/
theorem runs_bind {r : Except ε β} :
    Runs (p >>= k) log r ↔
      (∃ e, Runs p log (.error e) ∧ r = .error e) ∨
        ∃ a before after, log = before ++ after ∧ Runs p before (.ok a) ∧ Runs (k a) after r := by
  induction p generalizing log with
  | done a =>
    constructor
    · intro h
      exact .inr ⟨a, [], log, rfl, .done a, h⟩
    · rintro (⟨e, h, -⟩ | ⟨a', before, after, rfl, h, hk⟩)
      · cases h
      · cases h
        exact hk
  | throw e =>
    constructor
    · intro h
      obtain ⟨rfl, rfl⟩ := runs_throw.mp h
      exact .inl ⟨e, .throw e, rfl⟩
    · rintro (⟨e', h, rfl⟩ | ⟨a', before, after, rfl, h, -⟩)
      · cases h
        exact .throw e
      · cases h
  | ask q next ih =>
    have hbind : (ask q next >>= k) = ask q fun y ↦ next y >>= k := rfl
    rw [hbind, runs_ask]
    constructor
    · rintro ⟨y, log', rfl, h⟩
      rcases (ih y).mp h with ⟨e, hp, rfl⟩ | ⟨a, before, after, rfl, hp, hk⟩
      · exact .inl ⟨e, .ask q next y hp, rfl⟩
      · exact .inr ⟨a, _ :: before, after, rfl, .ask q next y hp, hk⟩
    · rintro (⟨e, h, rfl⟩ | ⟨a, before, after, rfl, h, hk⟩)
      · obtain ⟨y, log', rfl, hp⟩ := runs_ask.mp h
        exact ⟨y, log', rfl, (ih y).mpr (.inl ⟨e, hp, rfl⟩)⟩
      · obtain ⟨y, log', rfl, hp⟩ := runs_ask.mp h
        exact ⟨y, log' ++ after, rfl, (ih y).mpr (.inr ⟨a, log', after, rfl, hp, hk⟩)⟩

/-- A value that may be an error comes first. -/
theorem runs_lift_bind {x : Except ε α} {r : Except ε β} :
    Runs (lift x >>= k) log r ↔
      (∃ e, x = .error e ∧ log = [] ∧ r = .error e) ∨ ∃ a, x = .ok a ∧ Runs (k a) log r := by
  cases x with
  | ok a =>
    constructor
    · intro h
      exact .inr ⟨a, rfl, h⟩
    · rintro (⟨e, h, -⟩ | ⟨a', h, hk⟩)
      · cases h
      · cases h
        exact hk
  | error e =>
    constructor
    · intro h
      obtain ⟨rfl, rfl⟩ := runs_throw.mp h
      exact .inl ⟨e, rfl, rfl, rfl⟩
    · rintro (⟨e', h, rfl, rfl⟩ | ⟨a', h, -⟩)
      · cases h
        exact .throw e
      · cases h

end Interaction

end Relational
