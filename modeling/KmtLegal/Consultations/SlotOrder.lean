import KmtLegal.Admin.CalendarWindow
import KmtLegal.Consultations.PublishedSlots

/-!
# The order of slots

`generateConsultationSlots` goes through the days and through the minutes of each, and stops when it
has enough.  With the clocks of Cairo the slots it finds follow one another without overlap, so that a
limit cuts the list off and the first slot from a time on tells whether the time is offered.
-/

namespace KmtLegal

open Relational Scheduling

/-! ## The clocks -/

theorem cairoRule_date_mono (summer : ℤ → Bool) : Monotone (cairoRule summer).date := by
  intro t t' hle
  have hlow := (dayStart_date summer t).1
  have hhigh := (dayStart_date summer t').2
  exact Int.lt_add_one_iff.mp (dayStart_strictMono.lt_iff_lt.mp ((hlow.trans hle).trans_lt hhigh))

/-- Cairo with the summer times `summer`. -/
def cairoClock (summer : ℤ → Bool) : CairoClock where
  toZone := cairoRule summer
  between t := by
    rcases @cairoRule_twoOrThree summer t with h | h <;> rw [h] <;> decide
  date_mono := cairoRule_date_mono summer

section

variable {summer : ℤ → Bool} {date t target : ℤ} {minute : ℕ}

/-- The instant of a minute of a day, by the time that is kept on it. -/
def wallInstant (summer : ℤ → Bool) (date : CairoDate) (minute : ℕ) : Time :=
  date * dayLength + minute * minuteLength - if summer date then 10800000 else 7200000

/-- At a whole minute the clocks show a whole minute. -/
theorem wallTimeAt_of_minute (ht : t % minuteLength = 0) :
    (cairoClock summer).wallTimeAt t = t + (cairoRule summer).offset t := by
  have hclock : (cairoRule summer).clock t % minuteLength = 0 :=
    WallTime.clock_mod cairoRule_twoOrThree ht
  exact Int.ediv_mul_cancel (Int.dvd_of_emod_eq_zero hclock)

/-- A time that is found is shown by the clocks, and one that is shown and tried with the offset of
the day before is not before it. -/
theorem cairoDateTime_eq_some (h : (cairoClock summer).cairoDateTime date minute = some t)
    (htarget : target = date * dayLength + minute * minuteLength) :
    t + (cairoRule summer).offset t = target ∧
      ∀ t', t' + (cairoRule summer).offset (target - dayLength) = target →
        t' + (cairoRule summer).offset t' = target → t ≤ t' := by
  have hwhole : target % minuteLength = 0 := by
    simp only [htarget, dayLength, minuteLength]
    omega
  have hread (probe : ℤ) (hprobe : probe % minuteLength = 0) :
      (cairoClock summer).wallTimeAt probe - probe = (cairoRule summer).offset probe := by
    rw [wallTimeAt_of_minute hprobe, add_sub_cancel_left]
  have hshift (probe : ℤ) : (target - (cairoRule summer).offset probe) % minuteLength = 0 := by
    rcases @cairoRule_twoOrThree summer probe with h | h <;> rw [h] <;>
      simp only [minuteLength] at * <;> omega
  simp only [CairoClock.cairoDateTime, ← htarget] at h
  obtain ⟨hmem, hleast⟩ := List.min?_eq_some_iff.mp h
  constructor
  · obtain ⟨htried, hshown⟩ := List.mem_filter.mp hmem
    obtain ⟨offset, hoffset, rfl⟩ := List.mem_map.mp htried
    obtain ⟨day, -, rfl⟩ := List.mem_map.mp hoffset
    have hday : (target + day * dayLength) % minuteLength = 0 := by
      simp only [dayLength, minuteLength] at *
      omega
    have hshown := of_decide_eq_true hshown
    rw [hread _ hday] at hshown ⊢
    rwa [wallTimeAt_of_minute (hshift _)] at hshown
  · intro t' hprobe hshown
    have hday : (target + -1 * dayLength) % minuteLength = 0 := by
      simp only [dayLength, minuteLength] at *
      omega
    refine hleast t' (List.mem_filter.mpr ⟨List.mem_map.mpr ⟨target - t', List.mem_map.mpr
      ⟨-1, by simp, ?_⟩, sub_sub_cancel _ _⟩, decide_eq_true ?_⟩)
    · rw [hread _ hday, neg_one_mul, ← sub_eq_add_neg]
      exact (sub_eq_of_eq_add' hprobe.symm).symm
    · have hwhole' := hshift t'
      rw [← eq_sub_of_add_eq hshown] at hwhole'
      rw [wallTimeAt_of_minute hwhole', hshown]

/-- A minute of a day is found at the offset of the day. -/
theorem eq_wallInstant (h : (cairoClock summer).cairoDateTime date minute = some t)
    (hminute : minute < 1440) : t = wallInstant summer date minute := by
  obtain ⟨target, htarget⟩ : ∃ target, target = date * dayLength + minute * minuteLength := ⟨_, rfl⟩
  obtain ⟨hshown, hleast⟩ := cairoDateTime_eq_some h htarget
  rw [wallInstant, ← htarget]
  simp only [dayLength, minuteLength] at htarget
  by_cases hsummer : summer date
  · rw [if_pos hsummer]
    have hday (t : ℤ) (h : date * 86400000 - 7200000 ≤ t)
        (h' : t < (date + 1) * 86400000 - 10800000) : (cairoRule summer).offset t = 10800000 := by
      rw [@offset_day summer date t h h', if_pos hsummer]
    rcases @cairoRule_twoOrThree summer t with htwo | hthree
    · by_cases hlate : t < (date + 1) * 86400000 - 10800000
      · have hoffset := hday t (by omega) hlate
        omega
      · -- the hour comes twice, and three hours ahead it comes first
        have hbefore := hday (target - dayLength) (by simp only [dayLength]; omega)
          (by simp only [dayLength]; omega)
        have hfirst := hday (target - 10800000) (by omega) (by omega)
        have hle := hleast (target - 10800000) (by rw [hbefore]; omega) (by rw [hfirst]; omega)
        omega
    · omega
  · rw [if_neg hsummer]
    rcases @cairoRule_twoOrThree summer t with htwo | hthree
    · omega
    · by_cases hearly : t < date * 86400000 - 7200000
      · have hoffset := @offset_lastHour summer (date - 1) t (by simp only [dayLength]; omega)
          (by simp only [dayLength]; omega)
        rw [sub_add_cancel, if_neg fun h ↦ hsummer h.2] at hoffset
        omega
      · have hoffset := @offset_day summer date t (by simp only [dayLength]; omega)
          (by simp only [dayLength]; omega)
        rw [if_neg hsummer] at hoffset
        omega

end

/-! ## The order -/

/-- Successive slots of a day do not overlap. -/
theorem pairwise_slotMinutes (start stop duration : ℕ) :
    (slotMinutes start stop duration).Pairwise fun minute minute' ↦ minute + duration ≤ minute' := by
  refine List.pairwise_iff_getElem.mpr fun i j hi hj hlt ↦ ?_
  simp only [slotMinutes, List.getElem_range']
  have hle : duration * (i + 1) ≤ duration * j := Nat.mul_le_mul_left duration hlt
  rw [Nat.mul_succ] at hle
  omega

namespace SlotQuery

variable {P : Platform} {C : CairoClock} {q : SlotQuery} {summer : ℤ → Bool} {date : CairoDate}
  {slot : PublicConsultationSlot} {minute : ℕ}

theorem slotAt_times (h : q.slotAt P (cairoClock summer) date minute = some slot)
    (hminute : minute < 1440) :
    slot.startsAt = wallInstant summer date minute ∧
      slot.endsAt = wallInstant summer date (minute + q.availability.slotDurationMinutes) := by
  obtain ⟨startsAt, rfl, -, -, hstartsAt, -⟩ := slotAt_eq_some.mp h
  have hstarts := eq_wallInstant hstartsAt hminute
  refine ⟨hstarts, ?_⟩
  simp only [slotOf, endOf, hstarts, wallInstant, Nat.cast_add, minuteLength]
  ring

/-- The slots of a day lie within it. -/
theorem daySlots_bounds (h : slot ∈ q.daySlots P (cairoClock summer) date) :
    dayStart summer date ≤ slot.startsAt ∧ slot.endsAt ≤ dayStart summer (date + 1) := by
  have hfinds := mem_daySlots.mp h
  obtain ⟨day, -, minute, hminute, hslot⟩ := finds_iff.mp hfinds
  obtain ⟨startsAt, hopen, rfl⟩ := hfinds
  have hdate : (cairoRule summer).date startsAt = date := hopen.1.date_eq
  refine ⟨(date_eq_iff.mp hdate).1, ?_⟩
  rw [(slotAt_times (Option.mem_toList.mp hslot) (minute_lt hminute)).2]
  have hfits := (mem_slotMinutes hminute).2
  have hstop := day.stop_le
  have hle : ((minute + q.availability.slotDurationMinutes : ℕ) : ℤ) ≤ 1440 := by
    exact_mod_cast hfits.trans hstop
  simp only [wallInstant, dayStart, add_sub_cancel_right, dayLength, minuteLength]
  split_ifs with h3 hboth hboth <;> first | linarith | exact absurd hboth.1 h3

theorem pairwise_daySlots (date : CairoDate) :
    (q.daySlots P (cairoClock summer) date).Pairwise fun a b ↦ a.endsAt ≤ b.startsAt := by
  unfold daySlots
  cases q.hours (cairoClock summer) date with
  | none => exact .nil
  | some day =>
    refine List.pairwise_flatMap.mpr ⟨fun minute _ ↦ ?_, ?_⟩
    · cases q.slotAt P (cairoClock summer) date minute with
      | none => exact .nil
      | some _ => exact List.pairwise_singleton _ _
    · refine (pairwise_slotMinutes _ _ _).imp_of_mem fun {minute minute'} hm hm' hle a ha b hb ↦ ?_
      rw [(slotAt_times (Option.mem_toList.mp ha) (minute_lt hm)).2,
        (slotAt_times (Option.mem_toList.mp hb) (minute_lt hm')).1]
      have hle' : ((minute + q.availability.slotDurationMinutes : ℕ) : ℤ) ≤ minute' := by
        exact_mod_cast hle
      simp only [wallInstant, minuteLength]
      linarith

/-- Slots follow one another. -/
theorem pairwise_allSlots :
    (q.allSlots P (cairoClock summer)).Pairwise fun a b ↦ a.endsAt ≤ b.startsAt := by
  refine List.pairwise_flatMap.mpr ⟨fun offset _ ↦ pairwise_daySlots _, ?_⟩
  refine List.pairwise_lt_range.imp fun {offset offset'} hlt a ha b hb ↦ ?_
  refine (daySlots_bounds ha).2.trans (le_trans ?_ (daySlots_bounds hb).1)
  exact dayStart_strictMono.monotone (by omega)

theorem startsAt_lt_endsAt (h : slot ∈ q.allSlots P C) : slot.startsAt < slot.endsAt := by
  obtain ⟨date, -, startsAt, -, rfl⟩ := mem_allSlots.mp h
  exact q.lt_endOf startsAt

theorem increasing_allSlots :
    (q.allSlots P (cairoClock summer)).Pairwise fun a b ↦ a.startsAt < b.startsAt :=
  pairwise_allSlots.imp_of_mem fun ha _ hle ↦ (startsAt_lt_endsAt ha).trans_le hle

/-- A slot keeps the hours of its day, the filters and the window, and takes nobody's time. -/
structure IsLegal (C : CairoClock) (q : SlotQuery) (slot : PublicConsultationSlot)
    (day : ConsultationAvailabilityDay) (minute : ℕ) : Prop where
  weekday : q.availability.days.find? (·.weekday = C.cairoWeekday (C.cairoDateString slot.startsAt)) =
    some day
  enabled : day.enabled
  offers : q.mode ∈ day.modes
  date : ∀ date ∈ q.date, C.cairoDateString slot.startsAt = date
  shows : C.Shows slot.startsAt (C.cairoDateString slot.startsAt) minute
  opening : day.start ≤ minute
  closing : minute + q.availability.slotDurationMinutes ≤ day.stop
  fromTime : ∀ fromMinutes ∈ q.fromTime, fromMinutes ≤ minute
  toTime : ∀ toMinutes ∈ q.toTime, minute + q.availability.slotDurationMinutes ≤ toMinutes
  lead : q.now + q.availability.minLeadHours * 3600000 ≤ slot.startsAt
  window : slot.startsAt <
    q.now + q.availability.minLeadHours * 3600000 + q.availability.bookingWindowDays * 86400000
  duration : slot.endsAt = slot.startsAt + q.availability.slotDurationMinutes * 60000
  mode : slot.mode = q.mode
  free : ∀ a ∈ q.appointments,
    ¬appointmentsOverlap slot.startsAt slot.endsAt a.startsAt a.endsAt

theorem exists_isLegal (h : slot ∈ q.allSlots P C) : ∃ day minute, q.IsLegal C slot day minute := by
  obtain ⟨date, hdate, startsAt, hopen, rfl⟩ := mem_allSlots.mp h
  obtain ⟨hopens, hlead, hwindow, hfree⟩ := hopen
  have hsame := hopens.date_eq
  obtain ⟨day, minute, hhours, hminute, hfrom, hto, hstartsAt⟩ := hopens
  obtain ⟨hday, hoffered⟩ := Option.filter_eq_some_iff.mp hhours
  obtain ⟨henabled, hmode⟩ := of_decide_eq_true hoffered
  obtain ⟨hopening, hclosing⟩ := mem_slotMinutes hminute
  refine ⟨day, minute,
    { weekday := by rw [← hsame] at hday; exact hday
      enabled := henabled
      offers := hmode
      date := ?_
      shows := by rw [← hsame] at hstartsAt; exact CairoClock.shows_of_cairoDateTime hstartsAt
      opening := hopening
      closing := hclosing
      fromTime := hfrom
      toTime := hto
      lead := ?_
      window := ?_
      duration := rfl
      mode := rfl
      free := hfree }⟩
  · intro date' hdate'
    rw [Option.mem_def] at hdate'
    rw [scannedDates, hdate'] at hdate
    exact hsame.trans hdate
  · simp only [availableFrom, consultationSlotWindow] at hlead
    show q.now + _ ≤ startsAt
    linarith
  · simp only [availableUntil, consultationSlotWindow] at hwindow
    show startsAt < q.now + _ + _
    linarith

end SlotQuery

/-! ## The check of one slot -/

/-- The input of `assertPublicConsultationSlotAvailable`. -/
structure AssertPublicConsultationSlotAvailable where
  startsAt : Time
  mode : ConsultationMode
  now : Time

namespace AssertPublicConsultationSlotAvailable

variable (P : Platform) (C : CairoClock) (call : AssertPublicConsultationSlotAvailable)

/-- `filter`: the first slot of the day from the time of the clocks on. -/
def filter : ListPublicConsultationSlots where
  mode := call.mode
  now := call.now
  limit := some 1
  date := some (C.cairoDateString call.startsAt)
  fromTime := some (C.minute call.startsAt).toNat

/-- What is asked in a transaction, over the consultations of the day that follows. -/
def transactionQuery (db : Database) : SlotQuery where
  availability := getConsultationAvailability db
  appointments := consultationsBetween db call.startsAt (call.startsAt + 86400000)
  mode := call.mode
  now := call.now
  limit := some 1
  date := some (C.cairoDateString call.startsAt)
  fromTime := some (C.minute call.startsAt).toNat

/-- `match`. -/
def matching (slots : List PublicConsultationSlot) : Except Failure PublicConsultationSlot :=
  orThrow (slots.find? (·.startsAt = call.startsAt))
    (.conflict "This consultation slot is no longer available. Please choose another time.")

/-- `assertPublicConsultationSlotAvailable(input)`, with the database it leaves. -/
def run (db : Database) (inTransaction : Bool) : Database × Except Failure PublicConsultationSlot :=
  if inTransaction then
    (db, call.matching (generateConsultationSlots P C (call.transactionQuery C db)))
  else
    let listed := listPublicConsultationSlots P C db (call.filter C)
    (listed.1, call.matching listed.2)

end AssertPublicConsultationSlotAvailable

/-- All consultations that take time. -/
def activeConsultations (db : Database) : List ExistingAppointment :=
  (db.appointments.select fun _ p ↦ p.type = .consultation ∧ p.status.isActive).map
    fun e ↦ ⟨e.2.startsAt, e.2.endsAt⟩

namespace SlotQuery

variable {P : Platform} {C : CairoClock} {q : SlotQuery} {summer : ℤ → Bool} {date : CairoDate}
  {slot : PublicConsultationSlot} {t : Time}

theorem exists_startsAt_iff (hdate : q.date = some date) :
    (∃ slot ∈ q.allSlots P C, slot.startsAt = t) ↔ t ∈ q.openTimes C date := by
  simp only [mem_allSlots, scannedDates, hdate, Set.mem_singleton_iff, exists_eq_left]
  constructor
  · rintro ⟨_, ⟨startsAt, hopen, rfl⟩, rfl⟩
    exact hopen
  · exact fun hopen ↦ ⟨_, ⟨t, hopen, rfl⟩, rfl⟩

/-- The minute of a slot. -/
theorem exists_minute (hdate : q.date = some date) (h : slot ∈ q.allSlots P (cairoClock summer)) :
    ∃ minute : ℕ, slot.startsAt = wallInstant summer date minute ∧
      (cairoClock summer).minute slot.startsAt = minute ∧
      ∀ fromMinutes ∈ q.fromTime, fromMinutes ≤ minute := by
  obtain ⟨date', hscanned, hfinds⟩ := mem_allSlots.mp h
  obtain rfl : date' = date := by
    rwa [scannedDates, hdate] at hscanned
  obtain ⟨day, -, minute, hminute, hslot⟩ := finds_iff.mp hfinds
  have hbound := minute_lt hminute
  have hstarts := (slotAt_times (Option.mem_toList.mp hslot) hbound).1
  obtain ⟨startsAt, rfl, hfrom, -, hstartsAt, -⟩ := slotAt_eq_some.mp (Option.mem_toList.mp hslot)
  exact ⟨minute, hstarts, (CairoClock.shows_of_cairoDateTime hstartsAt).minute_eq
    (Int.natCast_nonneg minute) (by exact_mod_cast hbound), hfrom⟩

/-- From its own time on the first slot of the day is the one that is asked for, if it is open. -/
theorem exists_first_iff (hdate : q.date = some date)
    (hfrom : q.fromTime = some ((cairoClock summer).minute t).toNat) :
    (∃ slot ∈ (q.allSlots P (cairoClock summer)).take 1, slot.startsAt = t) ↔
      t ∈ q.openTimes (cairoClock summer) date := by
  rw [← exists_startsAt_iff (P := P) hdate]
  refine ⟨fun ⟨slot, hslot, hstarts⟩ ↦ ⟨slot, List.mem_of_mem_take hslot, hstarts⟩, ?_⟩
  rintro ⟨slot, hslot, rfl⟩
  obtain ⟨minute, hstarts, hminute, -⟩ := exists_minute hdate hslot
  have hincreasing : (q.allSlots P (cairoClock summer)).Pairwise _ := increasing_allSlots
  cases hslots : q.allSlots P (cairoClock summer) with
  | nil => rw [hslots] at hslot; cases hslot
  | cons first rest =>
    obtain ⟨minute', hstarts', -, hlate⟩ := exists_minute (P := P) hdate
      (hslots ▸ List.mem_cons_self : first ∈ q.allSlots P (cairoClock summer))
    refine ⟨first, by simp, le_antisymm ?_ ?_⟩
    · rw [hslots] at hslot hincreasing
      rcases List.mem_cons.mp hslot with rfl | hrest
      · exact le_rfl
      · exact (List.rel_of_pairwise_cons hincreasing hrest).le
    · have hle : (minute : ℤ) ≤ minute' := by
        have hle := hlate _ hfrom
        rw [hminute] at hle
        exact_mod_cast hle
      rw [hstarts, hstarts']
      simp only [wallInstant, minuteLength]
      linarith

/-- A time is open whatever the time from which slots are asked for, if that is not after it. -/
theorem mem_openTimes_fromTime (C : CairoClock) (q : SlotQuery) (date : CairoDate) (t : Time) :
    t ∈ { q with fromTime := some (C.minute t).toNat }.openTimes C date ↔
      t ∈ { q with fromTime := none }.openTimes C date := by
  refine and_congr_left fun _ ↦ ?_
  refine exists_congr fun day ↦ exists_congr fun minute ↦ and_congr_right fun _ ↦
    and_congr_right fun hminute ↦ ?_
  constructor
  · rintro ⟨-, hto, hstartsAt⟩
    exact ⟨nofun, hto, hstartsAt⟩
  · rintro ⟨-, hto, hstartsAt⟩
    refine ⟨?_, hto, hstartsAt⟩
    rintro _ ⟨⟩
    rw [(CairoClock.shows_of_cairoDateTime hstartsAt).minute_eq (Int.natCast_nonneg minute)
      (by exact_mod_cast minute_lt hminute), Int.toNat_natCast]

end SlotQuery

namespace AssertPublicConsultationSlotAvailable

variable {P : Platform} {summer : ℤ → Bool} {call : AssertPublicConsultationSlotAvailable}
  {db : Database}

theorem exists_matching_iff {slots : List PublicConsultationSlot} :
    (∃ slot, call.matching slots = .ok slot) ↔ ∃ slot ∈ slots, slot.startsAt = call.startsAt := by
  simp only [matching, orThrow_eq_ok]
  rw [← Option.isSome_iff_exists, List.find?_isSome]
  simp

/-- A query from the time of the slot on, and one for the whole day, with more appointments that do
not touch the slot. -/
theorem exists_matching_first {q all : SlotQuery} {C : CairoClock} (hC : C = cairoClock summer)
    (hlimit : q.limit = some 1) (hdate : q.date = some (C.cairoDateString call.startsAt))
    (hfrom : q.fromTime = some (C.minute call.startsAt).toNat)
    (hopen : call.startsAt ∈ q.openTimes C (C.cairoDateString call.startsAt) ↔
      call.startsAt ∈ all.openTimes C (C.cairoDateString call.startsAt))
    (hall : all.limit = none) (hdate' : all.date = some (C.cairoDateString call.startsAt)) :
    (∃ slot, call.matching (generateConsultationSlots P C q) = .ok slot) ↔
      ∃ slot ∈ generateConsultationSlots P C all, slot.startsAt = call.startsAt := by
  subst hC
  rw [exists_matching_iff, SlotQuery.generateConsultationSlots_some hlimit,
    SlotQuery.exists_first_iff hdate hfrom, hopen, SlotQuery.generateConsultationSlots_none hall,
    SlotQuery.exists_startsAt_iff hdate']

/-- Only the consultations of the next day can take the time of a slot. -/
theorem free_iff {duration : ℕ} {t : Time} (hduration : duration ≤ 240) :
    (∀ a ∈ consultationsBetween db t (t + 86400000),
      ¬appointmentsOverlap t (t + duration * 60000) a.startsAt a.endsAt) ↔
      ∀ a ∈ activeConsultations db,
        ¬appointmentsOverlap t (t + duration * 60000) a.startsAt a.endsAt := by
  have hend : t + duration * 60000 ≤ t + 86400000 := by
    have hle : (duration : ℤ) ≤ 240 := by exact_mod_cast hduration
    linarith
  simp only [consultationsBetween, activeConsultations, List.forall_mem_map, Prod.forall,
    Table.mem_select, decide_eq_true_eq]
  constructor
  · rintro h id p ⟨hp, htype, hactive⟩ hoverlap
    obtain ⟨hstarts, hends⟩ := of_decide_eq_true hoverlap
    exact h id p ⟨hp, htype, hactive, hends.trans_le hend, hstarts⟩ hoverlap
  · rintro h id p ⟨hp, htype, hactive, -⟩
    exact h id p ⟨hp, htype, hactive⟩

end AssertPublicConsultationSlotAvailable

/-- The slots are in the order of their times and do not overlap; they keep the hours, the window and
the appointments, a limit cuts the list off, and a single slot is available exactly if the list of its
day has it.  In a transaction that is the list over all consultations. -/
theorem slots_in_order (P : Platform) (summer : ℤ → Bool) (q : SlotQuery) :
    let C := cairoClock summer
    let slots := generateConsultationSlots P C q
    slots.Pairwise (fun a b ↦ a.startsAt < b.startsAt) ∧
    slots.Pairwise (fun a b ↦ a.endsAt ≤ b.startsAt) ∧
    (∀ slot ∈ slots, ∃ day minute, q.IsLegal C slot day minute) ∧
    (∀ k, generateConsultationSlots P C { q with limit := some k } =
      (generateConsultationSlots P C { q with limit := none }).take k) ∧
    ∀ (db : Database) (call : AssertPublicConsultationSlotAvailable),
      ((∃ slot, (call.run P C db false).2 = .ok slot) ↔
        ∃ slot ∈ (listPublicConsultationSlots P C db
          { mode := call.mode, now := call.now, limit := none
            date := some (C.cairoDateString call.startsAt) }).2, slot.startsAt = call.startsAt) ∧
      ((∃ slot, (call.run P C db true).2 = .ok slot) ↔
        ∃ slot ∈ generateConsultationSlots P C
          { availability := getConsultationAvailability db, appointments := activeConsultations db
            mode := call.mode, now := call.now, limit := none
            date := some (C.cairoDateString call.startsAt) }, slot.startsAt = call.startsAt) := by
  intro C slots
  refine ⟨SlotQuery.increasing_allSlots.sublist SlotQuery.sublist_allSlots,
    SlotQuery.pairwise_allSlots.sublist SlotQuery.sublist_allSlots,
    fun slot hslot ↦ SlotQuery.exists_isLegal (SlotQuery.sublist_allSlots.subset hslot), fun k ↦ ?_,
    fun db call ↦ ⟨?_, ?_⟩⟩
  · rw [SlotQuery.generateConsultationSlots_some rfl, SlotQuery.generateConsultationSlots_none rfl]
    rfl
  · let listed := (call.run P C db false).1
    exact AssertPublicConsultationSlotAvailable.exists_matching_first rfl rfl rfl rfl
      (SlotQuery.mem_openTimes_fromTime C (publicQuery listed (call.filter C)) _ _) rfl rfl
  · refine AssertPublicConsultationSlotAvailable.exists_matching_first rfl rfl rfl rfl ?_ rfl rfl
    refine (SlotQuery.mem_openTimes_fromTime C (call.transactionQuery C db) _ _).trans
      (and_congr_right fun _ ↦ and_congr_right fun _ ↦ and_congr_right fun _ ↦ ?_)
    exact AssertPublicConsultationSlotAvailable.free_iff
      (getConsultationAvailability db).slotDuration_mem.2

end KmtLegal
