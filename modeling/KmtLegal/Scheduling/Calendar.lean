import Mathlib

/-!
# Calendars of shared resources

Bookings are half-open stretches of time, and a booking may name the resource it uses or leave it
open.  A calendar is a partial function from keys to bookings; it is exclusive if no resource is
used twice at any time.

A revision of a calendar lets bookings go, or writes the booking under one key after comparing it
with all the others.  `Exclusive.revision` is the one rule: whatever a system does to its calendar,
if every step is a revision the calendar stays exclusive.
-/

namespace Scheduling

variable {κ ρ τ : Type} [LinearOrder τ]

/-! ## Bookings -/

/-- The use of a resource, if it is known which one, from `start` until just before `stop`. -/
structure Booking (ρ τ : Type) where
  resource : Option ρ
  start : τ
  stop : τ

namespace Booking

variable {a b : Booking ρ τ}

/-- The moments at which the resource is used. -/
def times (b : Booking ρ τ) : Set τ := Set.Ico b.start b.stop

/-- The comparison programs make: each begins before the other ends. -/
def Overlaps (a b : Booking ρ τ) : Prop := a.start < b.stop ∧ b.start < a.stop

theorem Overlaps.symm (h : a.Overlaps b) : b.Overlaps a := ⟨h.2, h.1⟩

theorem disjoint_times (h : ¬a.Overlaps b) : Disjoint a.times b.times := by
  rw [times, times, Set.Ico_disjoint_Ico]
  rcases not_and_or.mp h with h | h
  · exact (min_le_right _ _).trans ((not_lt.mp h).trans (le_max_left _ _))
  · exact (min_le_left _ _).trans ((not_lt.mp h).trans (le_max_right _ _))

end Booking

/-! ## Calendars -/

/-- What is booked under which key. -/
abbrev Calendar (κ ρ τ : Type) := κ → Option (Booking ρ τ)

namespace Calendar

variable {c c' : Calendar κ ρ τ} {k : κ}

/-- No resource is used twice at any time. -/
def Exclusive (c : Calendar κ ρ τ) : Prop :=
  ∀ ⦃i j a b⦄, i ≠ j → c i = some a → c j = some b →
    ∀ r, a.resource = some r → b.resource = some r → Disjoint a.times b.times

/-- Booking `b` does not collide with what is booked under other keys than `k`. -/
def Fits (c : Calendar κ ρ τ) (k : κ) (b : Booking ρ τ) : Prop :=
  ∀ ⦃j a⦄, j ≠ k → c j = some a →
    ∀ r, b.resource = some r → a.resource = some r → Disjoint b.times a.times

/-- A booking that names no resource collides with nothing. -/
theorem fits_of_resource_eq_none {b : Booking ρ τ} (h : b.resource = none) : c.Fits k b := by
  intro j a _ _ r hr _
  rw [h] at hr
  cases hr

/-- What a step may do to a calendar. -/
inductive Revision (c c' : Calendar κ ρ τ) : Prop
  /-- Bookings are let go. -/
  | dropped (h : ∀ k b, c' k = some b → c k = some b)
  /-- What is booked under `k` is new or changed, and fits. -/
  | booked (k : κ) (hothers : ∀ j b, j ≠ k → c' j = some b → c j = some b)
      (hfits : ∀ b, c' k = some b → c.Fits k b)

theorem Revision.refl (c : Calendar κ ρ τ) : Revision c c := .dropped fun _ _ h ↦ h

/-- Revisions keep a calendar exclusive. -/
theorem Exclusive.revision (h : Exclusive c) (hstep : Revision c c') : Exclusive c' := by
  intro i j a b hij ha hb r hra hrb
  cases hstep with
  | dropped hsub => exact h hij (hsub i a ha) (hsub j b hb) r hra hrb
  | booked k hothers hfits =>
    by_cases hi : i = k
    · subst hi
      exact hfits a ha hij.symm (hothers j b hij.symm hb) r hra hrb
    · by_cases hj : j = k
      · subst hj
        exact (hfits b hb hij (hothers i a hij ha) r hrb hra).symm
      · exact h hij (hothers i a hi ha) (hothers j b hj hb) r hra hrb

end Calendar

end Scheduling
