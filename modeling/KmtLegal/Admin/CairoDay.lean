import KmtLegal.Admin.Dashboard

/-!
# The day of the dashboard

`cairoDayRange` finds the first instant of today and of tomorrow by a binary search over the local
date, within 18 hours of midnight in universal time.  `Date.UTC` reads years of one or two digits as
those of the twentieth century, so the search is lost before the year 100.
-/

namespace KmtLegal

open Relational Scheduling Js

/-! ## Clocks that change at midnight -/

/-- Clocks two or three hours ahead: they are set forward when they would show midnight, and set back
when they would show the midnight after. -/
structure MidnightClocks (Z : Zone) : Prop where
  twoOrThree : TwoOrThree Z
  spring : ∀ t, Z.offset (t - 1) = 7200000 → Z.offset t = 10800000 → (t + 7200000) % dayLength = 0
  autumn : ∀ t, Z.offset (t - 1) = 10800000 → Z.offset t = 7200000 → (t + 10800000) % dayLength = 0

theorem cairoRule_midnightClocks (summer : ℤ → Bool) : MidnightClocks (cairoRule summer) where
  twoOrThree := cairoRule_twoOrThree
  spring t hbefore hafter := by
    by_contra hne
    have hday : (t - 1 + 7200000) / dayLength = (t + 7200000) / dayLength := by
      simp only [dayLength] at *
      omega
    simp only [cairoRule, hday] at hbefore hafter
    generalize (t + 7200000) / dayLength = day at *
    -- nothing changes within a day before its last hour, and summer time does not begin in it
    grind
  autumn t hbefore hafter := by
    by_cases hmidnight : (t + 7200000) % dayLength = 0
    · have hday : (t - 1 + 7200000) / dayLength = (t + 7200000) / dayLength - 1 := by
        simp only [dayLength] at *
        omega
      have hmain : t < ((t + 7200000) / dayLength + 1) * dayLength - 10800000 := by
        simp only [dayLength] at *
        omega
      have hlast : ¬t - 1 < ((t + 7200000) / dayLength - 1 + 1) * dayLength - 10800000 := by
        simp only [dayLength] at *
        omega
      simp only [cairoRule, hday, if_pos hmain, sub_add_cancel] at hbefore hafter
      generalize (t + 7200000) / dayLength = day at *
      grind
    · have hday : (t - 1 + 7200000) / dayLength = (t + 7200000) / dayLength := by
        simp only [dayLength] at *
        omega
      have hlast : t - 1 < ((t + 7200000) / dayLength + 1) * dayLength - 10800000 ∧
          ¬t < ((t + 7200000) / dayLength + 1) * dayLength - 10800000 := by
        simp only [cairoRule, hday] at hbefore hafter
        generalize (t + 7200000) / dayLength = day at *
        grind
      simp only [dayLength] at *
      omega

/-- The first instant of a day. -/
def firstInstant (Z : Zone) (day : ℤ) : ℤ :=
  day * dayLength - Z.offset (day * dayLength - 10800000)

namespace MidnightClocks

variable {Z : Zone} (h : MidnightClocks Z)

include h

/-- The local date never decreases. -/
theorem monotone_date : Monotone Z.date := by
  refine monotone_int_of_le_succ fun t ↦ ?_
  have hspring := h.spring (t + 1)
  have hautumn := h.autumn (t + 1)
  rw [add_sub_cancel_right] at hspring hautumn
  simp only [Zone.date, Zone.clock, dayLength] at *
  rcases h.twoOrThree t with hbefore | hbefore <;>
    rcases h.twoOrThree (t + 1) with hafter | hafter <;> rw [hbefore, hafter] <;> omega

theorem firstInstant_bounds (day : ℤ) : day * dayLength - 10800000 ≤ firstInstant Z day ∧
    firstInstant Z day ≤ day * dayLength - 7200000 := by
  simp only [firstInstant]
  rcases h.twoOrThree (day * dayLength - 10800000) with hoff | hoff <;> rw [hoff] <;> omega

/-- In the hour before midnight of the winter the clocks are not set forward. -/
theorem offset_lastHour {day t : ℤ} (hoff : Z.offset (day * dayLength - 10800000) = 7200000)
    (hlow : day * dayLength - 10800000 ≤ t) (hhigh : t < day * dayLength - 7200000) :
    Z.offset t = 7200000 := by
  induction t, hlow using Int.leInduction with
  | base => exact hoff
  | succ t hlow ih =>
    have hbefore := ih (by omega)
    rcases h.twoOrThree (t + 1) with hafter | hafter
    · exact hafter
    · have hmod := h.spring (t + 1) (by rwa [add_sub_cancel_right]) hafter
      simp only [dayLength] at *
      omega

theorem isLeast_firstInstant (day : ℤ) : IsLeast {t | day ≤ Z.date t} (firstInstant Z day) := by
  rcases h.twoOrThree (day * dayLength - 10800000) with hoff | hoff
  · have hfirst : firstInstant Z day = day * dayLength - 7200000 := by rw [firstInstant, hoff]
    rw [hfirst]
    constructor
    · show day ≤ Z.date (day * dayLength - 7200000)
      simp only [Zone.date, Zone.clock]
      rcases h.twoOrThree (day * dayLength - 7200000) with hnow | hnow <;> rw [hnow] <;>
        simp only [dayLength] <;> omega
    · intro t (ht : day ≤ Z.date t)
      by_contra hlt
      have hwinter := h.offset_lastHour (t := t) hoff
      simp only [Zone.date, Zone.clock] at ht
      rcases h.twoOrThree t with hnow | hnow <;> rw [hnow] at ht hwinter <;>
        simp only [dayLength] at * <;> omega
  · have hfirst : firstInstant Z day = day * dayLength - 10800000 := by rw [firstInstant, hoff]
    rw [hfirst]
    constructor
    · show day ≤ Z.date (day * dayLength - 10800000)
      simp only [Zone.date, Zone.clock]
      rw [hoff]
      simp only [dayLength]
      omega
    · intro t (ht : day ≤ Z.date t)
      simp only [Zone.date, Zone.clock] at ht
      rcases h.twoOrThree t with hnow | hnow <;> rw [hnow] at ht <;> simp only [dayLength] at * <;>
        omega

/-- A day lasts from its first instant to that of the next. -/
theorem date_eq_iff {day t : ℤ} :
    Z.date t = day ↔ firstInstant Z day ≤ t ∧ t < firstInstant Z (day + 1) := by
  obtain ⟨hmem, hlow⟩ := h.isLeast_firstInstant day
  obtain ⟨hmem', hlow'⟩ := h.isLeast_firstInstant (day + 1)
  constructor
  · rintro rfl
    refine ⟨hlow (le_refl (Z.date t)), not_le.mp fun hle ↦ ?_⟩
    have hmono : Z.date t + 1 ≤ Z.date t := le_trans hmem' (h.monotone_date hle)
    omega
  · rintro ⟨hfirst, hnext⟩
    have hle : day ≤ Z.date t := le_trans hmem (h.monotone_date hfirst)
    have hlt : Z.date t < day + 1 := not_le.mp fun hge ↦ absurd (hlow' hge) (not_le.mpr hnext)
    omega

/-- A day lasts 23, 24 or 25 hours. -/
theorem length_day (day : ℤ) : firstInstant Z (day + 1) - firstInstant Z day ∈
    ([82800000, 86400000, 90000000] : List ℤ) := by
  simp only [firstInstant, List.mem_cons, List.not_mem_nil, or_false]
  rcases h.twoOrThree (day * dayLength - 10800000) with hoff | hoff <;>
    rcases h.twoOrThree ((day + 1) * dayLength - 10800000) with hoff' | hoff' <;>
    rw [hoff, hoff'] <;> simp only [dayLength] <;> omega

/-- An instant at which the clocks show midnight is the first of its day. -/
theorem eq_firstInstant_of_clock {day t : ℤ} (ht : Z.clock t = day * dayLength) :
    t = firstInstant Z day := by
  simp only [Zone.clock] at ht
  rcases h.twoOrThree t with hoff | hoff <;> rw [hoff] at ht
  · have htime : t = day * dayLength - 7200000 := by omega
    rcases h.twoOrThree (day * dayLength - 10800000) with hstart | hstart
    · rw [firstInstant, hstart, htime]
    · -- summer time does not end between the two candidates
      exfalso
      have hsummer : ∀ u, day * dayLength - 10800000 ≤ u → u ≤ day * dayLength - 7200000 →
          Z.offset u = 10800000 := by
        intro u hlow
        induction u, hlow using Int.leInduction with
        | base => exact fun _ ↦ hstart
        | succ u hlow ih =>
          intro hhigh
          have hbefore := ih (by omega)
          rcases h.twoOrThree (u + 1) with hafter | hafter
          · have hmod := h.autumn (u + 1) (by rwa [add_sub_cancel_right]) hafter
            simp only [dayLength] at *
            omega
          · exact hafter
      have hnow := hsummer t (by omega) (by omega)
      omega
  · have htime : t = day * dayLength - 10800000 := by omega
    rw [htime] at hoff
    rw [firstInstant, hoff, htime]

end MidnightClocks

/-! ## The search -/

section

variable {Z : Zone} {ordinal low high s t : ℤ}

/-- The search ends where the dates before the one it looks for end. -/
theorem searchCairoInstant_eq (hlow : low ≤ s) (hhigh : s ≤ high)
    (hbefore : ∀ t, low ≤ t → t < s → cairoDateOrdinal Z t < ordinal)
    (hafter : ∀ t, s ≤ t → t ≤ high → ordinal ≤ cairoDateOrdinal Z t) :
    searchCairoInstant Z ordinal low high = s := by
  fun_induction searchCairoInstant Z ordinal low high with
  | case1 low high hlt midpoint hmid ih =>
    refine ih ?_ hhigh (fun t hle ↦ hbefore t (by omega)) hafter
    by_contra hle
    have hge := hafter midpoint (by omega) (by omega)
    omega
  | case2 low high hlt midpoint hmid ih =>
    refine ih hlow ?_ hbefore fun t hs hle ↦ hafter t hs (by omega)
    by_contra hle
    exact hmid (hbefore midpoint (by omega) (by omega))
  | case3 low high hge => omega

theorem le_cairoDateOrdinal (Z : Zone) (t : ℤ) :
    daysBeforeYear 100 * dayLength ≤ cairoDateOrdinal Z t := by
  obtain ⟨hm, hm', hd, -⟩ := valid_civilDate (Z.date t)
  refine le_dateUTC hm hm' hd ?_ le_rfl le_rfl
  simp only [WallTime.formatToParts]
  split_ifs <;> omega

/-- From the year 100 on the local date is read as it is. -/
theorem cairoDateOrdinal_eq (hdate : daysBeforeYear 100 ≤ Z.date t) :
    cairoDateOrdinal Z t = Z.date t * dayLength := by
  have hyear : 100 ≤ (civilDate (Z.date t)).year := by
    show 100 ≤ yearOf (Z.date t)
    by_contra hlt
    have hmono := daysBeforeYear_strictMono.monotone (show yearOf (Z.date t) + 1 ≤ 100 by omega)
    have hspec := (yearOf_spec (Z.date t)).2
    omega
  have hparts : (WallTime.formatToParts Z t).date = civilDate (Z.date t) := by
    simp only [WallTime.formatToParts]
    rw [if_neg (by omega)]
  rw [cairoDateOrdinal, hparts, dateUTC_midnight (valid_civilDate _) hyear, dayNumber_civilDate]

/-- The search finds the first instant of a day after 1 January of the year 100. -/
theorem firstCairoInstant_eq (h : MidnightClocks Z) {day : ℤ} (hday : daysBeforeYear 100 < day) :
    firstCairoInstant Z (day * dayLength) = firstInstant Z day := by
  obtain ⟨hlow, hhigh⟩ := h.firstInstant_bounds day
  have hdate : ∀ t, day * dayLength - 18 * 60 * 60 * 1000 ≤ t → daysBeforeYear 100 ≤ Z.date t := by
    intro t ht
    simp only [Zone.date, Zone.clock, dayLength] at *
    rcases h.twoOrThree t with hoff | hoff <;> rw [hoff] <;> omega
  refine searchCairoInstant_eq (by omega) (by omega) (fun t hle hlt ↦ ?_) fun t hs _ ↦ ?_
  · rw [cairoDateOrdinal_eq (hdate t hle)]
    have hearlier : Z.date t < day :=
      not_le.mp fun hge ↦ absurd ((h.isLeast_firstInstant day).2 hge) (not_le.mpr hlt)
    simp only [dayLength]
    omega
  · rw [cairoDateOrdinal_eq (hdate t (by omega))]
    have hlater : day ≤ Z.date t :=
      le_trans (h.isLeast_firstInstant day).1 (h.monotone_date hs)
    simp only [dayLength]
    omega

/-- The search never goes back further than 18 hours. -/
theorem le_firstCairoInstant (Z : Zone) (ordinal : ℤ) :
    ordinal - 18 * 60 * 60 * 1000 ≤ firstCairoInstant Z ordinal := by
  have hsearch : ∀ low high, low ≤ high → low ≤ searchCairoInstant Z ordinal low high := by
    intro low high hle
    fun_induction searchCairoInstant Z ordinal low high with
    | case1 low high hlt midpoint hmid ih => exact le_trans (by omega) (ih (by omega))
    | case2 low high hlt midpoint hmid ih => exact ih (by omega)
    | case3 low high hge => exact le_rfl
  exact hsearch _ _ (by omega)

/-- Before the first day the search looks for, it finds no date that is too early. -/
theorem firstCairoInstant_early (Z : Zone) : firstCairoInstant Z (daysBeforeYear 100 * dayLength) =
    daysBeforeYear 100 * dayLength - 18 * 60 * 60 * 1000 :=
  searchCairoInstant_eq le_rfl (by omega) (fun t hle hlt ↦ by omega)
    fun t _ _ ↦ le_cairoDateOrdinal Z t

end

/-! ## The range -/

/-- The range of the reference is the day the clocks show, and the calendar begins and ends that day
at the same instants, where it accepts it. -/
structure RangeIsDay (Z : Zone) (reference : ℤ) : Prop where
  start : IsLeast {t | Z.date reference ≤ Z.date t} (cairoDayRange Z reference).1
  stop : IsLeast {t | Z.date reference + 1 ≤ Z.date t} (cairoDayRange Z reference).2
  contains : (cairoDayRange Z reference).1 ≤ reference ∧ reference < (cairoDayRange Z reference).2
  date : ∀ t, (cairoDayRange Z reference).1 ≤ t ∧ t < (cairoDayRange Z reference).2 ↔
    Z.date t = Z.date reference
  length : (cairoDayRange Z reference).2 - (cairoDayRange Z reference).1 ∈
    ([82800000, 86400000, 90000000] : List ℤ)
  calendarStart : ∀ field t,
    cairoCalendarBoundary Z (some (civilDate (Z.date reference))) field = .ok t →
      t = (cairoDayRange Z reference).1
  calendarStop : ∀ field t,
    cairoCalendarBoundary Z (some (civilDate (Z.date reference + 1))) field = .ok t →
      t = (cairoDayRange Z reference).2

section

variable {Z : Zone} (h : MidnightClocks Z)

include h

/-- Where the calendar accepts a date it begins with its first instant. -/
theorem boundary_eq {day t : ℤ} {field : String} (hday : daysBeforeYear 100 < day)
    (ht : cairoCalendarBoundary Z (some (civilDate day)) field = .ok t) :
    t = firstInstant Z day := by
  have hvalid := valid_civilDate day
  have hdate : daysBeforeYear 100 < (civilDate day).dayNumber := by rwa [dayNumber_civilDate]
  have hyear : 100 ≤ (civilDate day).year := by
    by_contra hlt
    have hmono := daysBeforeYear_strictMono.monotone (show (civilDate day).year + 1 ≤ 100 by omega)
    have hin := hvalid.in_year.2
    omega
  have htarget : WallTime.target (civilDate day) 0 = day * dayLength := by
    simp [WallTime.target]
  have hdesired : dateUTC ⟨civilDate day, 0, 0⟩ = WallTime.target (civilDate day) 0 := by
    rw [dateUTC_midnight hvalid hyear, dayNumber_civilDate, htarget]
  have hiso : WallTime.cairoLocalDateTimeToIso Z ⟨civilDate day, 0, 0⟩ = some t := orThrow_eq_ok.mp ht
  simp only [WallTime.cairoLocalDateTimeToIso, hdesired] at hiso
  split_ifs at hiso with hfound
  obtain rfl := Option.some.inj hiso
  -- the corrections end two or three hours before midnight, where the clocks are read as they are
  have hnear : ∀ t, t = WallTime.target (civilDate day) 0 - 10800000 ∨
      t = WallTime.target (civilDate day) 0 - 7200000 → WallTime.cairoLocalOrdinal Z t = Z.clock t := by
    intro t ht
    have hmod := WallTime.target_mod (civilDate day) 0
    have hminute : t % minuteLength = 0 := by
      simp only [dayLength, minuteLength] at *
      omega
    have hback : WallTime.target (civilDate day) 0 - dayLength ≤ t := by
      simp only [dayLength] at *
      omega
    exact WallTime.dateUTC_near h.twoOrThree hdate hminute hback
  have hcandidate : WallTime.correct Z (WallTime.target (civilDate day) 0) 4
        (WallTime.target (civilDate day) 0) = WallTime.target (civilDate day) 0 - 10800000 ∨
      WallTime.correct Z (WallTime.target (civilDate day) 0) 4
        (WallTime.target (civilDate day) 0) = WallTime.target (civilDate day) 0 - 7200000 := by
    rw [WallTime.correct_eq h.twoOrThree hdate]
    split_ifs
    · exact .inl rfl
    · exact .inr rfl
    · exact .inr rfl
    · exact .inl rfl
  apply h.eq_firstInstant_of_clock
  rw [← hnear _ hcandidate, hfound.2.2, htarget]

theorem cairoDayRange_eq {reference : ℤ} (hdate : daysBeforeYear 100 < Z.date reference) :
    cairoDayRange Z reference =
      (firstInstant Z (Z.date reference), firstInstant Z (Z.date reference + 1)) := by
  have hnext : Z.date reference * dayLength + dayLength = (Z.date reference + 1) * dayLength := by
    simp only [dayLength]
    omega
  simp only [cairoDayRange, cairoDateOrdinal_eq hdate.le, hnext, firstCairoInstant_eq h hdate,
    firstCairoInstant_eq h (show daysBeforeYear 100 < Z.date reference + 1 by omega)]

theorem rangeIsDay_of_lt {reference : ℤ} (hdate : daysBeforeYear 100 < Z.date reference) :
    RangeIsDay Z reference := by
  have hrange := cairoDayRange_eq h hdate
  have hstart := h.isLeast_firstInstant (Z.date reference)
  have hstop := h.isLeast_firstInstant (Z.date reference + 1)
  refine ⟨?_, ?_, ?_, ?_, ?_, ?_, ?_⟩ <;> rw [hrange]
  · exact hstart
  · exact hstop
  · exact h.date_eq_iff.mp rfl
  · exact fun t ↦ h.date_eq_iff.symm
  · exact h.length_day _
  · exact fun field t ht ↦ boundary_eq h hdate ht
  · exact fun field t ht ↦ boundary_eq h (by omega) ht

/-- Until 1 January of the year 100 the search is led astray. -/
theorem not_rangeIsDay {reference : ℤ} (hdate : Z.date reference ≤ daysBeforeYear 100) :
    ¬RangeIsDay Z reference := by
  intro hrange
  have hfirst := hrange.start.unique (h.isLeast_firstInstant _)
  obtain ⟨hlow, hhigh⟩ := h.firstInstant_bounds (Z.date reference)
  have hordinal := le_cairoDateOrdinal Z reference
  have hback := le_firstCairoInstant Z (cairoDateOrdinal Z reference)
  simp only [cairoDayRange] at hfirst
  rcases hdate.lt_or_eq with hlt | heq
  · simp only [dayLength] at *
    omega
  · have hsame : cairoDateOrdinal Z reference = daysBeforeYear 100 * dayLength := by
      rw [cairoDateOrdinal_eq heq.ge, heq]
    rw [hsame, firstCairoInstant_early] at hfirst
    rw [heq] at hlow hfirst
    omega

end

/-- The range of an instant is its day exactly if the clocks show a date after 1 January of the year
100; such ranges of different days are disjoint, and those of consecutive days meet. -/
theorem rangeIsDay_iff {Z : Zone} (h : MidnightClocks Z) :
    (∀ reference, RangeIsDay Z reference ↔ daysBeforeYear 100 < Z.date reference) ∧
      ∀ r r', daysBeforeYear 100 < Z.date r → daysBeforeYear 100 < Z.date r' →
        (Z.date r ≠ Z.date r' → Disjoint (Set.Ico (cairoDayRange Z r).1 (cairoDayRange Z r).2)
          (Set.Ico (cairoDayRange Z r').1 (cairoDayRange Z r').2)) ∧
        (Z.date r' = Z.date r + 1 → (cairoDayRange Z r).2 = (cairoDayRange Z r').1) := by
  refine ⟨fun reference ↦ ⟨fun hrange ↦ ?_, rangeIsDay_of_lt h⟩, fun r r' hr hr' ↦ ⟨?_, ?_⟩⟩
  · by_contra hle
    exact not_rangeIsDay h (not_lt.mp hle) hrange
  · intro hne
    refine Set.disjoint_left.mpr fun t ht ht' ↦ hne ?_
    rw [← ((rangeIsDay_of_lt h hr).date t).mp ht, ← ((rangeIsDay_of_lt h hr').date t).mp ht']
  · intro hnext
    rw [cairoDayRange_eq h hr, cairoDayRange_eq h hr', hnext]

theorem rangeIsDay_summer : RangeIsDay (cairoRule summerOf2026) 1784715600000 :=
  ((rangeIsDay_iff (cairoRule_midnightClocks summerOf2026)).1 1784715600000).mpr (by decide +kernel)

/-- At noon on the first day of the year 50 today is looked for in 1950. -/
theorem not_rangeIsDay_year_fifty :
    ¬∀ (Z : Zone) (reference : ℤ), MidnightClocks Z → RangeIsDay Z reference := by
  intro h
  exact not_rangeIsDay (cairoRule_midnightClocks summerOf2026) (by decide +kernel)
    (h _ (-60589252800000) (cairoRule_midnightClocks summerOf2026))

end KmtLegal
