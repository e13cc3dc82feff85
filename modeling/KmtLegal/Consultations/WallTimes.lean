import KmtLegal.Consultations.OpeningHours

/-!
# Wall times of Cairo

Two functions look for the instant at which the clocks of Cairo show a date and a minute:
`cairoDateTime` of the slots tries the offsets of the days around it, `cairoLocalDateTimeToIso` of
the staff forms corrects a first guess up to four times.  Both read the clocks through
`Date.UTC`.
-/

namespace KmtLegal

open Relational Scheduling Js

/-! ## Clocks two or three hours ahead -/

/-- The clocks are two or three hours ahead. -/
def TwoOrThree (Z : Zone) : Prop := ∀ t, Z.offset t = 7200000 ∨ Z.offset t = 10800000

/-- The clocks change at most once in a stretch of `gap`. -/
def Spaced (gap : ℤ) (Z : Zone) : Prop :=
  ∀ t u v, t ≤ u → u ≤ v → v - t ≤ gap → Z.offset t = Z.offset u ∨ Z.offset u = Z.offset v

namespace WallTime

variable (Z : Zone)

/-- `formatToParts(date)` for the time zone; the years before the first count backwards. -/
def formatToParts (t : ℤ) : DateParts :=
  let date := civilDate (Z.date t)
  ⟨{ date with year := if date.year ≤ 0 then 1 - date.year else date.year },
    Z.minute t / 60, Z.minute t % 60⟩

/-- `wallTimeAt(instant)` in `cairoDateTime`. -/
def wallTimeAt (instant : ℤ) : ℤ := dateUTC (formatToParts Z instant)

/-- `cairoLocalOrdinal(value)`. -/
def cairoLocalOrdinal (value : ℤ) : ℤ := dateUTC (formatToParts Z value)

/-- `Date.parse` of a date with a minute of the day, in universal time. -/
def target (date : CivilDate) (minutes : ℕ) : ℤ :=
  date.dayNumber * dayLength + minutes * minuteLength

/-- `cairoDateTime(date, minutes)`. -/
def cairoDateTime (date : CivilDate) (minutes : ℕ) : Option ℤ :=
  let offsets := [-1, 0, 1].map fun day ↦
    let probe := target date minutes + day * dayLength
    wallTimeAt Z probe - probe
  ((offsets.map (target date minutes - ·)).filter fun instant ↦
    wallTimeAt Z instant = target date minutes).min?

/-- The corrections of a candidate. -/
def correct (desired : ℤ) : ℕ → ℤ → ℤ
  | 0, candidate => candidate
  | attempts + 1, candidate =>
    let difference := desired - cairoLocalOrdinal Z candidate
    if difference = 0 then candidate + difference
    else correct desired attempts (candidate + difference)

@[simp] theorem correct_zero (desired candidate : ℤ) :
    correct Z desired 0 candidate = candidate := rfl

/-- `cairoLocalDateTimeToIso(value)`, from the numbers of its pattern. -/
def cairoLocalDateTimeToIso (value : DateParts) : Option ℤ :=
  let desired := dateUTC value
  let candidate := correct Z desired 4 desired
  if (0 ≤ value.date.year ∧ value.date.year ≤ 9999) ∧ utcParts desired = value ∧
      cairoLocalOrdinal Z candidate = desired then some candidate
  else none

/-- The value of a form for a date and a minute of the day. -/
def formValue (date : CivilDate) (minutes : ℕ) : DateParts := ⟨date, minutes / 60, minutes % 60⟩

/-! ## Reading the clocks -/

variable {Z} {date : CivilDate} {minutes : ℕ}

theorem formatToParts_le (t : ℤ) : daysBeforeYear 100 * dayLength ≤ dateUTC (formatToParts Z t) := by
  obtain ⟨hm, hm', hd, -⟩ := valid_civilDate (Z.date t)
  have hminute : 0 ≤ Z.minute t := by
    simp only [Zone.minute, dayLength, minuteLength]
    omega
  refine le_dateUTC hm hm' hd ?_ ?_ ?_
  · simp only [formatToParts]
    split_ifs <;> omega
  · simp only [formatToParts]
    omega
  · simp only [formatToParts]
    omega

/-- The clocks are read as they are, to the minute, from the year 100 on. -/
theorem dateUTC_formatToParts {t : ℤ} (hdate : daysBeforeYear 100 ≤ Z.date t) :
    dateUTC (formatToParts Z t) = Z.clock t / minuteLength * minuteLength := by
  have hyear : 100 ≤ (civilDate (Z.date t)).year := by
    show 100 ≤ yearOf (Z.date t)
    by_contra hlt
    have hmono := daysBeforeYear_strictMono.monotone (show yearOf (Z.date t) + 1 ≤ 100 by omega)
    have hspec := (yearOf_spec (Z.date t)).2
    omega
  have hparts : formatToParts Z t =
      ⟨civilDate (Z.date t), Z.minute t / 60, Z.minute t % 60⟩ := by
    simp only [formatToParts]
    rw [if_neg (by omega)]
  rw [hparts, dateUTC_of_valid (valid_civilDate _) hyear]
  simp only [dayNumber_civilDate, Zone.date, Zone.minute, dayLength, minuteLength] at *
  omega

/-- The clocks are ahead by whole hours. -/
theorem clock_mod (h : TwoOrThree Z) {t : ℤ} (ht : t % minuteLength = 0) :
    Z.clock t % minuteLength = 0 := by
  simp only [Zone.clock, minuteLength] at *
  rcases h t with h | h <;> omega

theorem target_mod (date : CivilDate) (minutes : ℕ) : target date minutes % minuteLength = 0 := by
  simp only [target, dayLength, minuteLength]
  omega

/-- An instant at which the clocks show a time is two or three hours before it. -/
theorem clock_eq_iff (h : TwoOrThree Z) {t D : ℤ} :
    Z.clock t = D ↔ (t = D - 10800000 ∧ Z.offset t = 10800000) ∨
      (t = D - 7200000 ∧ Z.offset t = 7200000) := by
  simp only [Zone.clock]
  rcases h t with h | h <;> rw [h] <;> constructor <;> intro <;> omega

/-- The wall time comes twice. -/
def Repeated (Z : Zone) (date : CivilDate) (minutes : ℕ) : Prop :=
  ∃ t t', t ≠ t' ∧ Z.clock t = target date minutes ∧ Z.clock t' = target date minutes

theorem repeated_iff (h : TwoOrThree Z) :
    Repeated Z date minutes ↔ Z.offset (target date minutes - 10800000) = 10800000 ∧
      Z.offset (target date minutes - 7200000) = 7200000 := by
  constructor
  · rintro ⟨t, t', hne, ht, ht'⟩
    rcases (clock_eq_iff h).mp ht with ⟨rfl, hoff⟩ | ⟨rfl, hoff⟩ <;>
      rcases (clock_eq_iff h).mp ht' with ⟨rfl, hoff'⟩ | ⟨rfl, hoff'⟩
    · exact absurd rfl hne
    · exact ⟨hoff, hoff'⟩
    · exact ⟨hoff', hoff⟩
    · exact absurd rfl hne
  · rintro ⟨hoff, hoff'⟩
    exact ⟨_, _, by omega, (clock_eq_iff h).mpr (.inl ⟨rfl, hoff⟩),
      (clock_eq_iff h).mpr (.inr ⟨rfl, hoff'⟩)⟩

/-! ## After the first days of the year 100 -/

section

variable (hoffset : TwoOrThree Z) (hdate : daysBeforeYear 100 < date.dayNumber)

include hoffset hdate

/-- Within a day of the time asked for the clocks are read as they are. -/
theorem dateUTC_near {t : ℤ} (ht : t % minuteLength = 0)
    (hnear : target date minutes - dayLength ≤ t) : dateUTC (formatToParts Z t) = Z.clock t := by
  have hmod := clock_mod hoffset ht
  rw [dateUTC_formatToParts, Int.ediv_mul_cancel (Int.dvd_of_emod_eq_zero hmod)]
  simp only [Zone.date, Zone.clock, target, dayLength, minuteLength] at *
  rcases hoffset t with h | h <;> rw [h] <;> omega

/-- Four corrections end at the later of the two candidates, unless the clocks show it is wrong. -/
theorem correct_eq :
    correct Z (target date minutes) 4 (target date minutes) =
      if Z.offset (target date minutes) = 10800000 then
        if Z.offset (target date minutes - 10800000) = 10800000 then target date minutes - 10800000
        else target date minutes - 7200000
      else if Z.offset (target date minutes - 7200000) = 7200000 then target date minutes - 7200000
        else target date minutes - 10800000 := by
  have hmod := target_mod date minutes
  have hnear := @dateUTC_near Z date minutes hoffset hdate
  have hstart := hnear (t := target date minutes) hmod (by simp only [dayLength]; omega)
  have hthree := hnear (t := target date minutes - 10800000)
    (by simp only [minuteLength] at *; omega) (by simp only [dayLength]; omega)
  have htwo := hnear (t := target date minutes - 7200000)
    (by simp only [minuteLength] at *; omega) (by simp only [dayLength]; omega)
  generalize target date minutes = D at *
  have hstep : ∀ n c, dateUTC (formatToParts Z c) = Z.clock c →
      correct Z D (n + 1) c =
        if Z.offset c = D - c then c else correct Z D n (D - Z.offset c) := by
    intro n c hc
    have hnext : c + (D - (c + Z.offset c)) = D - Z.offset c := by omega
    simp only [correct, cairoLocalOrdinal, hc, Zone.clock, hnext]
    split_ifs with h h' h'
    · omega
    · omega
    · omega
    · rfl
  rcases hoffset D with hD | hD <;> rcases hoffset (D - 10800000) with ha | ha <;>
    rcases hoffset (D - 7200000) with hb | hb <;>
    simp only [hstep 3 _ hstart, hstep _ _ hthree, hstep _ _ htwo, hD, ha, hb, correct_zero,
      sub_sub_cancel, sub_self] <;> norm_num

/-- The form takes the later instant of a repeated time. -/
theorem cairoLocalDateTimeToIso_eq (hvalid : date.Valid) (hyear : date.year ≤ 9999)
    (hminutes : minutes < 1440) (hspaced : Spaced (7 * dayLength) Z) :
    cairoLocalDateTimeToIso Z (formValue date minutes) =
      if Z.offset (target date minutes - 7200000) = 7200000 then some (target date minutes - 7200000)
      else if Z.offset (target date minutes - 10800000) = 10800000 then
        some (target date minutes - 10800000)
      else none := by
  have hcentury : 100 ≤ date.year := by
    by_contra hlt
    have hmono := daysBeforeYear_strictMono.monotone (show date.year + 1 ≤ 100 by omega)
    have hin := hvalid.in_year.2
    omega
  have hdesired : dateUTC (formValue date minutes) = target date minutes := by
    rw [dateUTC_of_valid hvalid hcentury]
    simp only [formValue, target, dayLength, minuteLength]
    omega
  have hparts : utcParts (target date minutes) = formValue date minutes := by
    have hday : target date minutes / 86400000 = date.dayNumber := by
      simp only [target, dayLength, minuteLength]
      omega
    simp only [utcParts, hday, civilDate_dayNumber hvalid, formValue, DateParts.mk.injEq, true_and]
    simp only [target, dayLength, minuteLength]
    omega
  have hpattern : 0 ≤ (formValue date minutes).date.year ∧ (formValue date minutes).date.year ≤ 9999 :=
    ⟨by show 0 ≤ date.year; omega, hyear⟩
  simp only [cairoLocalDateTimeToIso, hdesired, hparts, hpattern, true_and,
    correct_eq hoffset hdate, cairoLocalOrdinal]
  have hmod := target_mod date minutes
  have hnear := @dateUTC_near Z date minutes hoffset hdate
  have hthree := hnear (t := target date minutes - 10800000)
    (by simp only [minuteLength] at *; omega) (by simp only [dayLength]; omega)
  have htwo := hnear (t := target date minutes - 7200000)
    (by simp only [minuteLength] at *; omega) (by simp only [dayLength]; omega)
  have hlate := hspaced (target date minutes - 10800000) (target date minutes - 7200000)
    (target date minutes) (by omega) (by omega) (by simp only [dayLength]; omega)
  generalize target date minutes = D at *
  simp only [Zone.clock] at hthree htwo
  revert hlate
  rcases hoffset D with hD | hD <;> rcases hoffset (D - 10800000) with ha | ha <;>
    rcases hoffset (D - 7200000) with hb | hb <;>
    simp only [hD, ha, hb] at hthree htwo ⊢ <;> norm_num [hthree, htwo]
  intro hwrong
  omega

/-- What the slots try: the offsets of the day before, the time itself and the day after. -/
theorem mem_tried {t : ℤ} :
    (t ∈ ([-1, 0, 1].map fun day ↦ wallTimeAt Z (target date minutes + day * dayLength) -
        (target date minutes + day * dayLength)).map (target date minutes - ·)) ↔
      ∃ day ∈ [-1, 0, 1], t = target date minutes - Z.offset (target date minutes + day * dayLength) := by
  have hmod := target_mod date minutes
  have hnear := @dateUTC_near Z date minutes hoffset hdate
  have hread : ∀ day ∈ ([-1, 0, 1] : List ℤ),
      wallTimeAt Z (target date minutes + day * dayLength) -
        (target date minutes + day * dayLength) =
      Z.offset (target date minutes + day * dayLength) := by
    intro day hday
    have hbounds : -1 ≤ day := by
      simp only [List.mem_cons, List.not_mem_nil, or_false] at hday
      omega
    rw [wallTimeAt, hnear]
    · simp only [Zone.clock]
      omega
    · simp only [dayLength, minuteLength] at *
      omega
    · simp only [dayLength]
      omega
  simp only [List.mem_map, exists_exists_and_eq_and]
  refine exists_congr fun day ↦ and_congr_right fun hday ↦ ?_
  rw [hread day hday]
  exact eq_comm

/-- The slots take the earlier one. -/
theorem cairoDateTime_eq (hspaced : Spaced (7 * dayLength) Z) :
    cairoDateTime Z date minutes =
      if Z.offset (target date minutes - 10800000) = 10800000 then
        some (target date minutes - 10800000)
      else if Z.offset (target date minutes - 7200000) = 7200000 then
        some (target date minutes - 7200000)
      else none := by
  have hmod := target_mod date minutes
  have hnear := @dateUTC_near Z date minutes hoffset hdate
  -- what is tried and kept
  have hmem : ∀ t, t ∈ ((([-1, 0, 1].map fun day ↦
        wallTimeAt Z (target date minutes + day * dayLength) -
          (target date minutes + day * dayLength)).map (target date minutes - ·)).filter fun instant ↦
        wallTimeAt Z instant = target date minutes) ↔
      (t = target date minutes - 10800000 ∧ Z.offset t = 10800000) ∨
        (t = target date minutes - 7200000 ∧ Z.offset t = 7200000) := by
    intro t
    rw [List.mem_filter, mem_tried hoffset hdate, decide_eq_true_eq]
    constructor
    · rintro ⟨⟨day, -, rfl⟩, hshown⟩
      rw [wallTimeAt, hnear] at hshown
      · exact (clock_eq_iff hoffset).mp hshown
      · simp only [minuteLength] at *
        rcases hoffset (target date minutes + day * dayLength) with h | h <;> rw [h] <;> omega
      · rcases hoffset (target date minutes + day * dayLength) with h | h <;> rw [h] <;>
          simp only [dayLength] <;> omega
    · intro ht
      have hclock := (clock_eq_iff hoffset).mpr ht
      refine ⟨?_, ?_⟩
      · have hback := hspaced (target date minutes - dayLength) t (target date minutes)
          (by simp only [dayLength]; omega) (by omega) (by simp only [dayLength]; omega)
        have hsum : t = target date minutes - Z.offset t := by
          simp only [Zone.clock] at hclock
          omega
        rcases hback with hback | hback
        · refine ⟨-1, by simp, ?_⟩
          rw [neg_one_mul, ← sub_eq_add_neg, hback]
          exact hsum
        · refine ⟨0, by simp, ?_⟩
          rw [zero_mul, add_zero, ← hback]
          exact hsum
      · rw [wallTimeAt, hnear]
        · exact hclock
        · simp only [minuteLength] at *
          omega
        · simp only [dayLength]
          omega
  rw [cairoDateTime]
  split_ifs with ha hb
  · refine List.min?_eq_some_iff.mpr ⟨(hmem _).mpr (.inl ⟨rfl, ha⟩), fun t ht ↦ ?_⟩
    rcases (hmem t).mp ht with ⟨rfl, -⟩ | ⟨rfl, -⟩ <;> omega
  · refine List.min?_eq_some_iff.mpr ⟨(hmem _).mpr (.inr ⟨rfl, hb⟩), fun t ht ↦ ?_⟩
    rcases (hmem t).mp ht with ⟨rfl, h⟩ | ⟨rfl, -⟩
    · exact absurd h ha
    · exact le_rfl
  · refine List.min?_eq_none_iff.mpr (List.eq_nil_iff_forall_not_mem.mpr fun t ht ↦ ?_)
    rcases (hmem t).mp ht with ⟨rfl, h⟩ | ⟨rfl, h⟩
    · exact ha h
    · exact hb h

end

/-- The slots of `OpeningHours` are found by this conversion. -/
theorem cairoDateTime_eq_slots (C : CairoClock) (hdate : daysBeforeYear 100 < date.dayNumber) :
    C.cairoDateTime date.dayNumber minutes = cairoDateTime C.toZone date minutes := by
  have hread : ∀ t, target date minutes - dayLength ≤ t →
      wallTimeAt C.toZone t = C.wallTimeAt t := by
    intro t ht
    refine dateUTC_formatToParts ?_
    have hoffset := C.between t
    simp only [Zone.date, Zone.clock, target, dayLength, minuteLength] at *
    omega
  have hprobes : [-1, 0, 1].map (fun day ↦ wallTimeAt C.toZone (target date minutes + day * dayLength) -
        (target date minutes + day * dayLength)) =
      [-1, 0, 1].map fun day ↦ C.wallTimeAt (target date minutes + day * dayLength) -
        (target date minutes + day * dayLength) := by
    refine List.map_congr_left fun day hday ↦ ?_
    rw [hread]
    simp only [List.mem_cons, List.not_mem_nil, or_false] at hday
    simp only [dayLength]
    omega
  show _ = (List.filter _ (List.map _ ([-1, 0, 1].map _))).min?
  rw [hprobes]
  refine congrArg List.min? (List.filter_congr fun t ht ↦ ?_)
  rw [hread]
  · rfl
  obtain ⟨offset, hoffset, rfl⟩ := List.mem_map.mp ht
  obtain ⟨day, -, rfl⟩ := List.mem_map.mp hoffset
  have hahead := C.between (target date minutes + day * dayLength)
  show target date minutes - dayLength ≤ target date minutes -
    (C.clock (target date minutes + day * dayLength) / minuteLength * minuteLength -
      (target date minutes + day * dayLength))
  simp only [Zone.clock, dayLength, minuteLength] at *
  omega

/-! ## Before the year 100 -/

/-- No date before the year 100 is ever read off the clocks. -/
theorem cairoDateTime_early (hvalid : date.Valid) (hyear : date.year < 100) (hminutes : minutes < 1440) :
    cairoDateTime Z date minutes = none := by
  have hmono := daysBeforeYear_strictMono.monotone (show date.year + 1 ≤ 100 by omega)
  have hin := hvalid.in_year.2
  refine List.min?_eq_none_iff.mpr (List.filter_eq_nil_iff.mpr fun t _ ht ↦ ?_)
  have hread := formatToParts_le (Z := Z) t
  have hshown : wallTimeAt Z t = target date minutes := of_decide_eq_true ht
  rw [wallTimeAt] at hshown
  simp only [target, dayLength, minuteLength] at *
  omega

theorem cairoLocalDateTimeToIso_early (hvalid : date.Valid) (hyear : 0 ≤ date.year)
    (hyear' : date.year < 100) : cairoLocalDateTimeToIso Z (formValue date minutes) = none := by
  refine if_neg fun h ↦ ?_
  obtain ⟨-, hparts, -⟩ := h
  have hlow : daysBeforeYear 100 * 86400000 ≤ dateUTC (formValue date minutes) :=
    le_dateUTC hvalid.1 hvalid.2.1 hvalid.2.2.1 hyear (by simp only [formValue]; omega)
      (by simp only [formValue]; omega)
  have hread : yearOf (dateUTC (formValue date minutes) / 86400000) = date.year := by
    have hdate := congrArg (fun p ↦ p.date.year) hparts
    exact hdate
  have hmono := daysBeforeYear_strictMono.monotone (show date.year + 1 ≤ 100 by omega)
  have hspec := (yearOf_spec (dateUTC (formValue date minutes) / 86400000)).2
  rw [hread] at hspec
  omega

/-! ## Agreement -/

/-- The two conversions agree on a wall time, and find an instant that has it if there is one. -/
structure ConversionsAgree (Z : Zone) (date : CivilDate) (minutes : ℕ) : Prop where
  both : cairoDateTime Z date minutes = cairoLocalDateTimeToIso Z (formValue date minutes)
  null : cairoDateTime Z date minutes = none ↔ ∀ t, Z.clock t ≠ target date minutes
  shown : ∀ t ∈ cairoDateTime Z date minutes, Z.clock t = target date minutes

/-- They agree exactly on the wall times that do not come twice, as long as the year has three
digits; before, they agree where there is nothing to find. -/
theorem conversions_agree_iff {Z : Zone} (hoffset : TwoOrThree Z)
    (hspaced : Spaced (7 * dayLength) Z) {date : CivilDate} (hvalid : date.Valid)
    (hyear : 0 ≤ date.year) (hyear' : date.year ≤ 9999) (hdate : date ≠ ⟨100, 1, 1⟩) {minutes : ℕ}
    (hminutes : minutes < 1440) :
    ConversionsAgree Z date minutes ↔ ¬Repeated Z date minutes ∧
      (100 ≤ date.year ∨ ∀ t, Z.clock t ≠ target date minutes) := by
  by_cases hcentury : 100 ≤ date.year
  · have hlate : daysBeforeYear 100 < date.dayNumber := by
      have hfirst : daysBeforeYear 100 = (CivilDate.mk 100 1 1).dayNumber := by decide
      have hmono := daysBeforeYear_strictMono.monotone hcentury
      refine lt_of_le_of_ne (hmono.trans hvalid.in_year.1) fun heq ↦ hdate ?_
      exact hvalid.eq_of_dayNumber (by decide) (heq.symm.trans hfirst)
    have hslot := @cairoDateTime_eq Z date minutes hoffset hlate hspaced
    have hform := cairoLocalDateTimeToIso_eq hoffset hlate hvalid hyear' hminutes hspaced
    simp only [hcentury, true_or, and_true, repeated_iff hoffset]
    constructor
    · rintro h ⟨ha, hb⟩
      have hboth := h.both
      rw [hslot, hform, if_pos ha, if_pos hb] at hboth
      have := Option.some.inj hboth
      omega
    · intro hnot
      refine ⟨?_, ?_, ?_⟩
      · rw [hslot, hform]
        split_ifs with ha hb hb
        · exact absurd ⟨ha, hb⟩ hnot
        · rfl
        · rfl
        · rfl
      · rw [hslot]
        split_ifs with ha hb
        · refine ⟨nofun, fun h ↦ absurd ?_ (h (target date minutes - 10800000))⟩
          exact (clock_eq_iff hoffset).mpr (.inl ⟨rfl, ha⟩)
        · refine ⟨nofun, fun h ↦ absurd ?_ (h (target date minutes - 7200000))⟩
          exact (clock_eq_iff hoffset).mpr (.inr ⟨rfl, hb⟩)
        · refine ⟨fun _ t ht ↦ ?_, fun _ ↦ rfl⟩
          rcases (clock_eq_iff hoffset).mp ht with ⟨rfl, h⟩ | ⟨rfl, h⟩
          · exact ha h
          · exact hb h
      · rw [hslot]
        intro t ht
        split_ifs at ht with ha hb
        · cases ht
          exact (clock_eq_iff hoffset).mpr (.inl ⟨rfl, ha⟩)
        · cases ht
          exact (clock_eq_iff hoffset).mpr (.inr ⟨rfl, hb⟩)
        · cases ht
  · rw [not_le] at hcentury
    have hslot := cairoDateTime_early (Z := Z) hvalid hcentury hminutes
    have hform := @cairoLocalDateTimeToIso_early Z date minutes hvalid hyear hcentury
    simp only [not_le.mpr hcentury, false_or]
    constructor
    · intro h
      have hnone := h.null.mp hslot
      exact ⟨fun ⟨t, _, _, ht, _⟩ ↦ hnone t ht, hnone⟩
    · rintro ⟨-, hnone⟩
      refine ⟨hslot.trans hform.symm, ⟨fun _ ↦ hnone, fun _ ↦ hslot⟩, ?_⟩
      rw [hslot]
      exact fun _ h ↦ by cases h

/-- Clocks that are set back for good at midnight after 29 October 2026. -/
def autumnClock : Zone where
  offset t := if t < 1793307600000 then 10800000 else 7200000

theorem autumnClock_twoOrThree : TwoOrThree autumnClock := by
  intro t
  simp only [autumnClock]
  split_ifs
  · exact .inr rfl
  · exact .inl rfl

theorem autumnClock_spaced : Spaced (7 * dayLength) autumnClock := by
  intro t u v htu huv _
  simp only [autumnClock]
  split_ifs <;> first | exact .inl rfl | exact .inr rfl | omega

/-- Half past eleven that night: the slots take the first, the forms the second. -/
theorem half_past_eleven_twice :
    cairoDateTime autumnClock ⟨2026, 10, 29⟩ 1410 = some 1793305800000 ∧
      cairoLocalDateTimeToIso autumnClock (formValue ⟨2026, 10, 29⟩ 1410) = some 1793309400000 ∧
      ¬ConversionsAgree autumnClock ⟨2026, 10, 29⟩ 1410 := by
  have hslot : cairoDateTime autumnClock ⟨2026, 10, 29⟩ 1410 = some 1793305800000 := by
    decide +kernel
  have hform : cairoLocalDateTimeToIso autumnClock (formValue ⟨2026, 10, 29⟩ 1410) =
      some 1793309400000 := by
    decide +kernel
  refine ⟨hslot, hform, fun h ↦ ?_⟩
  have hboth := h.both
  rw [hslot, hform] at hboth
  cases hboth

/-- An hour earlier there is one such instant. -/
theorem conversions_agree_iff_autumn :
    ConversionsAgree autumnClock ⟨2026, 10, 29⟩ 1350 := by
  refine (conversions_agree_iff autumnClock_twoOrThree autumnClock_spaced (by decide) (by decide)
    (by decide) (by decide) (by decide)).mpr ⟨?_, .inl (by decide)⟩
  rw [repeated_iff autumnClock_twoOrThree]
  decide

end WallTime

end KmtLegal
