import Mathlib

/-!
# Ledgers that are only added to

A sheet is a set of lines that are never changed or removed, and their running balance.  What is
wrong is corrected by a further line that takes back an earlier one.  A line may be posted if the
balance stays between zero and a limit, and if what it takes back is there, is no correction itself
and was not taken back before.  Nothing more is needed for a sheet to stay sound.

The lines are a function of their keys, and the balance is a field of its own, so that a sheet can
be read off any store that knows how to add up what it holds.
-/

namespace Accounting

variable {κ α : Type}

/-- One line: its amount, and the line it takes back. -/
structure Line (κ α : Type) where
  amount : α
  reverses : Option κ

structure Sheet (κ α : Type) where
  lines : κ → Option (Line κ α)
  balance : α

namespace Sheet

/-- A sheet without lines. -/
def blank [Zero α] : Sheet κ α := ⟨fun _ ↦ none, 0⟩

/-- The sheet with one more line. -/
def post [DecidableEq κ] [Add α] (s : Sheet κ α) (k : κ) (l : Line κ α) : Sheet κ α :=
  ⟨Function.update s.lines k (some l), s.balance + l.amount⟩

@[simp] theorem post_lines_self [DecidableEq κ] [Add α] (s : Sheet κ α) (k : κ) (l : Line κ α) :
    (s.post k l).lines k = some l := Function.update_self ..

theorem post_lines_of_ne [DecidableEq κ] [Add α] (s : Sheet κ α) {k k' : κ} (l : Line κ α)
    (h : k' ≠ k) : (s.post k l).lines k' = s.lines k' := Function.update_of_ne h ..

variable [AddCommGroup α] {s : Sheet κ α} {limit : α}

/-- The line takes back a line of the sheet that is no correction itself. -/
def Reverses (s : Sheet κ α) (l : Line κ α) (k₀ : κ) : Prop :=
  ∃ l₀, s.lines k₀ = some l₀ ∧ l₀.reverses = none ∧ l.amount = -l₀.amount

/-- What a line takes back stays taken back when another line is posted. -/
theorem Reverses.post [DecidableEq κ] {l l' : Line κ α} {k k₀ : κ} (h : s.Reverses l k₀)
    (hfresh : s.lines k = none) :
    (s.post k l').Reverses l k₀ := by
  obtain ⟨l₀, hl₀, hnone, hamount⟩ := h
  have hne : k₀ ≠ k := by
    rintro rfl
    rw [hfresh] at hl₀
    cases hl₀
  exact ⟨l₀, (s.post_lines_of_ne l' hne).trans hl₀, hnone, hamount⟩

variable [LinearOrder α]

/-- What is asked of a line before it is posted. -/
structure Admits (s : Sheet κ α) (limit : α) (k : κ) (l : Line κ α) : Prop where
  fresh : s.lines k = none
  lower : 0 ≤ s.balance + l.amount
  upper : s.balance + l.amount ≤ limit
  reverses : ∀ k₀, l.reverses = some k₀ → s.Reverses l k₀
  once : ∀ k₀, l.reverses = some k₀ → ∀ k' l', s.lines k' = some l' → l'.reverses ≠ some k₀

/-- The balance is within its bounds, and every correction takes back one line for good. -/
structure Sound (s : Sheet κ α) (limit : α) : Prop where
  lower : 0 ≤ s.balance
  upper : s.balance ≤ limit
  reverses : ∀ k l k₀, s.lines k = some l → l.reverses = some k₀ → s.Reverses l k₀
  once : ∀ k l k' l' k₀, s.lines k = some l → s.lines k' = some l' → l.reverses = some k₀ →
    l'.reverses = some k₀ → k = k'

theorem sound_blank (h : 0 ≤ limit) : (blank : Sheet κ α).Sound limit :=
  ⟨le_rfl, h, nofun, nofun⟩

/-- Posting a line that may be posted keeps the sheet sound. -/
theorem Sound.post [DecidableEq κ] {k : κ} {l : Line κ α} (h : s.Sound limit) (hl : s.Admits limit k l) :
    (s.post k l).Sound limit := by
  refine ⟨hl.lower, hl.upper, fun k' l' k₀ hk' hr ↦ ?_, fun k₁ l₁ k₂ l₂ k₀ h₁ h₂ hr₁ hr₂ ↦ ?_⟩
  · by_cases hk : k' = k
    · subst hk
      rw [post_lines_self] at hk'
      cases hk'
      exact (hl.reverses k₀ hr).post hl.fresh
    · rw [s.post_lines_of_ne l hk] at hk'
      exact (h.reverses k' l' k₀ hk' hr).post hl.fresh
  · by_cases hk₁ : k₁ = k <;> by_cases hk₂ : k₂ = k
    · rw [hk₁, hk₂]
    · rw [s.post_lines_of_ne l hk₂] at h₂
      rw [hk₁, post_lines_self] at h₁
      cases h₁
      exact absurd hr₂ (hl.once k₀ hr₁ k₂ l₂ h₂)
    · rw [s.post_lines_of_ne l hk₁] at h₁
      rw [hk₂, post_lines_self] at h₂
      cases h₂
      exact absurd hr₁ (hl.once k₀ hr₂ k₁ l₁ h₁)
    · rw [s.post_lines_of_ne l hk₁] at h₁
      rw [s.post_lines_of_ne l hk₂] at h₂
      exact h.once k₁ l₁ k₂ l₂ k₀ h₁ h₂ hr₁ hr₂

/-- The first line of a sheet, within the limit. -/
theorem sound_post_blank [DecidableEq κ] {k : κ} {amount : α} (h : 0 ≤ amount) (hlimit : amount ≤ limit) :
    ((blank : Sheet κ α).post k ⟨amount, none⟩).Sound limit :=
  (sound_blank (h.trans hlimit)).post
    ⟨rfl, by simpa [blank] using h, by simpa [blank] using hlimit, nofun, nofun⟩

end Sheet

end Accounting
