import Mathlib

/-!
# Time zones

A zone says for every instant how far its clocks are ahead of universal time, in milliseconds.
Days are counted from the epoch, and a day of the zone is what its clocks call one: clocks may be
set forward or back, so it need not last 24 hours.
-/

namespace Scheduling

/-- Milliseconds of a day. -/
def dayLength : ℤ := 86400000

/-- Milliseconds of a minute. -/
def minuteLength : ℤ := 60000

structure Zone where
  offset : ℤ → ℤ

namespace Zone

variable (Z : Zone) {t t' d d' m m' : ℤ}

/-- What the clocks show at an instant. -/
def clock (t : ℤ) : ℤ := t + Z.offset t

/-- The day the clocks show. -/
def date (t : ℤ) : ℤ := Z.clock t / dayLength

/-- The minute of the day the clocks show. -/
def minute (t : ℤ) : ℤ := Z.clock t % dayLength / minuteLength

/-- The clocks show minute `m` of day `d`. -/
def Shows (t d m : ℤ) : Prop :=
  Z.clock t / minuteLength * minuteLength = d * dayLength + m * minuteLength

/-- The clocks stay between `lo` and `hi` ahead of universal time. -/
def Between (lo hi : ℤ) : Prop := ∀ t, lo ≤ Z.offset t ∧ Z.offset t ≤ hi

variable {Z}

theorem Shows.date_eq (h : Z.Shows t d m) (hm : 0 ≤ m) (hm' : m < 1440) : Z.date t = d := by
  simp only [Shows, date, dayLength, minuteLength] at *
  omega

theorem Shows.minute_eq (h : Z.Shows t d m) (hm : 0 ≤ m) (hm' : m < 1440) : Z.minute t = m := by
  simp only [Shows, minute, dayLength, minuteLength] at *
  omega

/-- A time of the day that every offset leaves within the day shows the day. -/
theorem Between.date_eq {lo hi s : ℤ} (h : Z.Between lo hi) (hlo : 0 ≤ s + lo)
    (hhi : s + hi < dayLength) (d : ℤ) : Z.date (d * dayLength + s) = d := by
  have hoffset := h (d * dayLength + s)
  simp only [date, clock, dayLength] at *
  omega

/-- Clocks that are ahead by less than a day show a date within a day of its midnight. -/
theorem Between.of_shows {hi : ℤ} (h : Z.Between 0 hi) (hhi : hi ≤ dayLength)
    (hshows : Z.Shows t d m) (hm : 0 ≤ m) (hm' : m < 1440) :
    d * dayLength - dayLength ≤ t ∧ t < d * dayLength + dayLength := by
  have hoffset := h t
  simp only [Shows, clock, dayLength, minuteLength] at *
  omega

theorem Between.mono {lo lo' hi hi' : ℤ} (h : Z.Between lo hi) (hlo : lo' ≤ lo) (hhi : hi ≤ hi') :
    Z.Between lo' hi' :=
  fun t ↦ ⟨hlo.trans (h t).1, (h t).2.trans hhi⟩

end Zone

end Scheduling
