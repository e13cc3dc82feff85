import KmtLegal.Consultations.SlotOrder
import KmtLegal.Js.Sort

/-!
# What the booking page offers

`buildBookingAvailability` of `direct-booking-availability.ts` asks `directBookingDay` for every day of
the window and picks the slots to suggest.  A day offers exactly the telephone slots that can be
booked, each with the lawyer who would take it, and the days follow one another.
-/

namespace KmtLegal

open Relational Scheduling

/-! ## Building the answer -/

/-- `PublicConsultationSlotFilter`. -/
structure BookingQuery extends BookingFilter where
  date : Option CairoDate := none
  deriving DecidableEq

structure WeeklyHours where
  weekday : ℕ
  enabled : Bool
  hours : Option BookingHours
  deriving DecidableEq

/-- `BookingAvailability`; the time zone is always that of Cairo. -/
structure BookingAvailability where
  published : Bool
  now : Time
  slotDurationMinutes : ℕ
  weeklyHours : List WeeklyHours
  days : List BookingDay
  selectedDay : BookingDay
  startsOn : CairoDate
  endsOn : CairoDate
  slots : List PublicConsultationSlot
  nearestSlot : Option PublicConsultationSlot
  suggestedSlots : List PublicConsultationSlot
  hasAvailability : Bool
  deriving DecidableEq

/-- The telephone hours of a weekday. -/
def ConsultationAvailabilityDay.weeklyHours (day : ConsultationAvailabilityDay) : WeeklyHours :=
  let enabled : Bool := day.enabled ∧ .phone ∈ day.modes
  ⟨day.weekday, enabled, if enabled then some ⟨day.start, day.stop⟩ else none⟩

/-- `publicSlot(candidate)`. -/
def publicSlot (c : BookingCandidate) : PublicConsultationSlot := c.toPublicConsultationSlot

namespace BookingAvailabilitySnapshot

variable (P : Platform) (C : CairoClock) (s : BookingAvailabilitySnapshot)

/-- The dates of the window. -/
def bookingDates : List CairoDate :=
  let today := C.cairoDateString s.now
  let lastDate := C.cairoDateString ((consultationSlotWindow s.availability s.now).2 - 1)
  (List.range (lastDate - today + 1).toNat).map fun (offset : ℕ) ↦ C.addCairoDays today offset

/-- `all`. -/
def allCandidates : List BookingCandidate :=
  ((s.bookingDates C).flatMap fun date ↦ (s.directBookingDay P C date).2).insertionSort
    fun a b ↦ a.startsAt ≤ b.startsAt

/-- `buildBookingAvailability(snapshot, query)`. -/
def buildBookingAvailability (query : BookingQuery := {}) : Except Failure BookingAvailability := do
  throwIf (∃ fromMinutes ∈ query.fromTime, ∃ toMinutes ∈ query.toTime, toMinutes ≤ fromMinutes)
    (.validation "البيانات المرسلة غير مكتملة أو غير صحيحة.")
  let today := C.cairoDateString s.now
  let all := s.allCandidates P C
  let requestedDate := query.date.or
    (if query.fromTime.isSome ∨ query.toTime.isSome then some today else none)
  let selectedDate := requestedDate.getD
    ((all.head?.map fun slot ↦ C.cairoDateString slot.startsAt).getD today)
  let selected := s.directBookingDay P C selectedDate query.toBookingFilter
  let afterTime := query.toTime.or query.fromTime
  let nearest := selected.2.head?.or (all.find? fun slot ↦ ∀ requested ∈ requestedDate,
    requested < C.cairoDateString slot.startsAt ∨ (C.cairoDateString slot.startsAt = requested ∧
      ∀ minutes ∈ afterTime, (minutes : ℤ) ≤ C.minute slot.startsAt))
  return {
    published := s.availability.directBooking.published
    now := s.now
    slotDurationMinutes := s.availability.slotDurationMinutes
    weeklyHours := ((if s.availability.directBooking.published then s.availability.days
      else []).insertionSort fun a b ↦ a.weekday ≤ b.weekday).map
        ConsultationAvailabilityDay.weeklyHours
    days := (s.bookingDates C).map fun date ↦ (s.directBookingDay P C date).1
    selectedDay := selected.1
    startsOn := today
    endsOn := C.cairoDateString ((consultationSlotWindow s.availability s.now).2 - 1)
    slots := (if requestedDate.isSome then selected.2.take 100 else all.take 3).map publicSlot
    nearestSlot := nearest.map publicSlot
    suggestedSlots := match nearest with
      | none => []
      | some nearest => ((all.filter fun slot ↦ nearest.startsAt ≤ slot.startsAt).take 3).map publicSlot
    hasAvailability := all.length > 0 }

/-! ## What can be booked -/

/-- A slot is one of those the telephone hours of the date are divided into; it begins in the window,
and no consultation takes it. -/
structure IsPhoneSlot (date : CairoDate) (filter : BookingFilter) (slot : PublicConsultationSlot)
    (day : ConsultationAvailabilityDay) (minute : ℕ) : Prop where
  weekday : s.availability.days.find? (·.weekday = C.cairoWeekday date) = some day
  enabled : day.enabled
  phone : .phone ∈ day.modes
  consecutive : ∃ i, minute = day.start + s.availability.slotDurationMinutes * i
  closing : minute + s.availability.slotDurationMinutes ≤ day.stop
  fromTime : ∀ fromMinutes ∈ filter.fromTime, fromMinutes ≤ minute
  toTime : ∀ toMinutes ∈ filter.toTime, minute + s.availability.slotDurationMinutes ≤ toMinutes
  startsAt : C.cairoDateTime date minute = some slot.startsAt
  endsAt : slot.endsAt = slot.startsAt + s.availability.slotDurationMinutes * 60000
  id : slot.id = "slot-" ++ P.isoString slot.startsAt
  mode : slot.mode = .phone
  lead : s.now + s.availability.minLeadHours * 3600000 ≤ slot.startsAt
  window : slot.startsAt <
    s.now + s.availability.minLeadHours * 3600000 + s.availability.bookingWindowDays * 86400000
  free : ∀ a ∈ s.appointments, a.type = .consultation → ¬slot.overlaps a

/-- A lawyer of the roster who is there and free for the slot. -/
structure CanTake (date : CairoDate) (slot : PublicConsultationSlot) (l : Uuid) : Prop where
  active : l ∈ s.lawyers
  rostered : ∃ r ∈ s.availability.directBooking.roster, r.weekday = C.cairoWeekday date ∧
    l ∈ r.lawyerIds
  isThere : ∀ c ∈ s.availability.directBooking.closures, c.date = date →
    (∀ l' ∈ c.lawyerId, l' = l) → ¬(C.minute slot.startsAt < c.stop ∧
      c.start < C.minute slot.startsAt + s.availability.slotDurationMinutes)
  free : ∀ a ∈ s.appointments, a.lawyerId = some l → ¬slot.overlaps a

variable {P : Platform} {C s} {date : CairoDate} {filter : BookingFilter}
  {slot : PublicConsultationSlot} {l : Uuid} {c : BookingCandidate}

theorem mem_slotMinutes_iff {start stop duration minute : ℕ} (hduration : 0 < duration) :
    minute ∈ slotMinutes start stop duration ↔
      (∃ i, minute = start + duration * i) ∧ minute + duration ≤ stop := by
  constructor
  · intro h
    obtain ⟨i, -, rfl⟩ := List.mem_range'.mp h
    exact ⟨⟨i, rfl⟩, (mem_slotMinutes h).2⟩
  · rintro ⟨⟨i, rfl⟩, hfits⟩
    refine List.mem_range'.mpr ⟨i, ?_, rfl⟩
    refine Nat.lt_of_succ_le ((Nat.le_div_iff_mul_le hduration).mpr ?_)
    rw [Nat.succ_mul, mul_comm]
    omega

/-- The open times of the telephone hours are the slots. -/
theorem exists_openTimes_iff :
    (∃ startsAt ∈ (s.phoneQuery filter).openTimes C date,
      slot = (s.phoneQuery filter).slotOf P startsAt) ↔
      ∃ day minute, s.IsPhoneSlot P C date filter slot day minute := by
  have hduration : 0 < s.availability.slotDurationMinutes := by
    have h := s.availability.slotDuration_mem
    omega
  constructor
  · rintro ⟨startsAt, ⟨⟨day, minute, hhours, hminute, hfrom, hto, hstartsAt⟩, hlead, hwindow, hfree⟩,
      rfl⟩
    obtain ⟨hday, henabled, hphone⟩ := dayOf_eq_some.mp hhours
    obtain ⟨hconsecutive, hclosing⟩ := (mem_slotMinutes_iff hduration).mp hminute
    simp only [SlotQuery.availableFrom, SlotQuery.availableUntil, consultationSlotWindow,
      phoneQuery] at hlead hwindow
    refine ⟨day, minute,
      { weekday := hday
        enabled := henabled
        phone := hphone
        consecutive := hconsecutive
        closing := hclosing
        fromTime := hfrom
        toTime := hto
        startsAt := hstartsAt
        endsAt := rfl
        id := rfl
        mode := rfl
        lead := ?_
        window := ?_
        free := forall_mem_phoneQuery.mp hfree }⟩
    · show s.now + _ ≤ startsAt
      linarith
    · show startsAt < s.now + _ + _
      linarith
  · rintro ⟨day, minute, h⟩
    have hslot : slot = (s.phoneQuery filter).slotOf P slot.startsAt := by
      cases slot
      rw [SlotQuery.slotOf, PublicConsultationSlot.mk.injEq]
      exact ⟨h.id, rfl, h.endsAt, h.mode⟩
    refine ⟨slot.startsAt, ⟨⟨day, minute, dayOf_eq_some.mpr ⟨h.weekday, h.enabled, h.phone⟩,
      (mem_slotMinutes_iff hduration).mpr ⟨h.consecutive, h.closing⟩, h.fromTime, h.toTime,
      h.startsAt⟩, ?_, ?_, forall_mem_phoneQuery.mpr (hslot ▸ h.free)⟩, hslot⟩
    · have hlead := h.lead
      simp only [SlotQuery.availableFrom, consultationSlotWindow, phoneQuery]
      linarith
    · have hwindow := h.window
      simp only [SlotQuery.availableUntil, consultationSlotWindow, phoneQuery]
      linarith

theorem mem_rosterOf {weekday : ℕ} :
    l ∈ s.rosterOf weekday ↔ l ∈ s.lawyers ∧
      ∃ r ∈ s.availability.directBooking.roster, r.weekday = weekday ∧ l ∈ r.lawyerIds := by
  rw [rosterOf, List.mem_filter, decide_eq_true_eq]
  refine and_congr_right fun _ ↦ ?_
  have hnodup := s.availability.directBooking.roster_nodup
  cases hfind : s.availability.directBooking.roster.find? (·.weekday = weekday) with
  | none =>
    have hnone := List.find?_eq_none.mp hfind
    simp only [Option.map_none, Option.getD_none, List.not_mem_nil, false_iff]
    rintro ⟨r, hr, hweekday, -⟩
    exact hnone r hr (decide_eq_true hweekday)
  | some r =>
    have hr := List.mem_of_find?_eq_some hfind
    have hp := List.find?_some hfind
    have hweekday : r.weekday = weekday := of_decide_eq_true hp
    simp only [Option.map_some, Option.getD_some]
    refine ⟨fun hl ↦ ⟨r, hr, hweekday, hl⟩, ?_⟩
    rintro ⟨r', hr', hweekday', hl⟩
    rwa [List.inj_on_of_nodup_map hnodup hr hr' (hweekday.trans hweekday'.symm)]

theorem mem_eligibleLawyers :
    l ∈ s.eligibleLawyers C date slot (s.rosterOf (C.cairoWeekday date)) ↔
      s.CanTake C date slot l := by
  simp only [eligibleLawyers, openLawyers, List.mem_filter, mem_rosterOf, decide_eq_true_eq,
    closedFor, List.any_eq_true, not_exists, not_and]
  constructor
  · rintro ⟨⟨⟨hactive, hrostered⟩, hopen⟩, hfree⟩
    exact ⟨hactive, hrostered, fun c hc hdate hl hclosed ↦
      hopen c hc hdate hl hclosed.1 hclosed.2, hfree⟩
  · intro h
    exact ⟨⟨⟨h.active, h.rostered⟩, fun c hc hdate hl hstart hstop ↦
      h.isThere c hc hdate hl ⟨hstart, hstop⟩⟩, h.free⟩

/-- Somebody is chosen as soon as somebody can take the slot. -/
theorem exists_chooses {roster : List Uuid} (h : l ∈ s.eligibleLawyers C date slot roster) :
    ∃ l, s.Chooses C date roster slot l := by
  have hne : s.winner C date slot roster ≠ none := by
    intro hnone
    have hperm : (_ : List Uuid).Perm _ := List.mergeSort_perm (s.eligibleLawyers C date slot roster)
      fun a b ↦ toLex (s.dailyCount C date a, a) ≤ toLex (s.dailyCount C date b, b)
    rw [winner, List.head?_eq_none_iff] at hnone
    rw [hnone] at hperm
    exact List.ne_nil_of_mem h hperm.nil_eq.symm
  obtain ⟨l, hl⟩ := Option.ne_none_iff_exists'.mp hne
  exact ⟨l, winner_eq_some.mp hl⟩

/-- A slot is offered exactly if it can be booked. -/
theorem exists_candidate_iff (hpublished : s.availability.directBooking.published) :
    (∃ l, ⟨slot, l⟩ ∈ (s.directBookingDay P C date filter).2) ↔
      (∃ day minute, s.IsPhoneSlot P C date filter slot day minute) ∧ ∃ l, s.CanTake C date slot l := by
  simp only [mem_directBookingDay, hpublished, true_and, ← exists_openTimes_iff,
    ← mem_eligibleLawyers]
  constructor
  · rintro ⟨l, startsAt, hopen, hslot, hchooses⟩
    exact ⟨⟨startsAt, hopen, hslot⟩, l, hchooses.1⟩
  · rintro ⟨⟨startsAt, hopen, hslot⟩, l, hl⟩
    obtain ⟨l', hchooses⟩ := exists_chooses hl
    exact ⟨l', startsAt, hopen, hslot, hchooses⟩

/-- The lawyer who is chosen can take the slot and has the fewest appointments of all who can. -/
theorem chosen (h : c ∈ (s.directBookingDay P C date filter).2) :
    s.CanTake C date (publicSlot c) c.lawyerId ∧ ∀ l, s.CanTake C date (publicSlot c) l →
      s.dailyCount C date c.lawyerId < s.dailyCount C date l ∨
        (s.dailyCount C date c.lawyerId = s.dailyCount C date l ∧ c.lawyerId ≤ l) := by
  obtain ⟨-, startsAt, -, -, hl, hleast⟩ := mem_directBookingDay.mp h
  exact ⟨mem_eligibleLawyers.mp hl, fun l hl' ↦
    Prod.Lex.toLex_le_toLex.mp (hleast l (mem_eligibleLawyers.mpr hl'))⟩

/-! ### The status of a day -/

theorem refusal_ne_available {roster : List Uuid} {reason : BookingAvailabilityStatus}
    (h : reason ∈ s.refusals C date slot roster) : reason ≠ .available := by
  simp only [refusals, List.mem_dedup, List.mem_map, List.mem_filter] at h
  obtain ⟨refusal, ⟨hmem, -⟩, rfl⟩ := h
  simp only [List.mem_cons, List.not_mem_nil, or_false] at hmem
  rcases hmem with rfl | rfl | rfl | rfl | rfl
  · rintro ⟨⟩
  · rintro ⟨⟩
  · rintro ⟨⟩
  · rintro ⟨⟩
  · dsimp only
    split_ifs <;> rintro ⟨⟩

theorem candidateFor_ne_available {roster : List Uuid} {reason : BookingAvailabilityStatus}
    (h : s.candidateFor C date roster slot = .error reason) : reason ≠ .available := by
  unfold candidateFor at h
  split at h
  · split at h
    · cases h
    · cases h
      decide
  · next hrefusals =>
    cases h
    exact refusal_ne_available (hrefusals ▸ List.mem_singleton_self _)
  · cases h
    decide

/-- The status of a day without a slot is a refusal. -/
theorem reason_ne_available {roster : List Uuid} {slots : List PublicConsultationSlot}
    {reason : BookingAvailabilityStatus}
    (h : ((slots.map (s.candidateFor C date roster)).filterMap fun
      | .ok _ => none
      | .error reason => some reason).dedup = [reason]) : reason ≠ .available := by
  have hmem : reason ∈ [reason] := List.mem_singleton_self _
  rw [← h, List.mem_dedup, List.mem_filterMap] at hmem
  obtain ⟨candidate, hcandidate, hreason⟩ := hmem
  obtain ⟨slot, -, rfl⟩ := List.mem_map.mp hcandidate
  cases hslot : s.candidateFor C date roster slot with
  | ok c => rw [hslot] at hreason; cases hreason
  | error reason' =>
    rw [hslot] at hreason
    cases hreason
    exact candidateFor_ne_available hslot

variable (P C s date filter) in
/-- Either the day is refused as a whole, or its slots are evaluated one by one. -/
theorem directBookingDay_cases :
    ((s.directBookingDay P C date filter).2 = [] ∧
        (s.directBookingDay P C date filter).1.status ≠ .available) ∨
      ∃ roster, (s.directBookingDay P C date filter).2 =
          ((s.requested P C date filter).map (s.candidateFor C date roster)).filterMap
            Except.toOption ∧
        ((s.directBookingDay P C date filter).1.status = .available ↔
          (s.directBookingDay P C date filter).2 ≠ []) := by
  unfold directBookingDay
  dsimp only
  split
  · exact .inl ⟨rfl, nofun⟩
  split
  · exact .inl ⟨rfl, nofun⟩
  split
  · exact .inl ⟨rfl, nofun⟩
  next day _ =>
  split
  · exact .inl ⟨rfl, nofun⟩
  split
  · exact .inl ⟨rfl, nofun⟩
  split
  · exact .inl ⟨rfl, nofun⟩
  split
  · refine .inl ⟨rfl, ?_⟩
    dsimp only
    split_ifs <;> exact nofun
  · refine .inr ⟨s.rosterOf day.weekday, rfl, ?_⟩
    dsimp only
    split_ifs with hslots
    · exact iff_of_true rfl hslots
    · refine iff_of_false ?_ hslots
      split
      · next hreasons => exact reason_ne_available hreasons
      · exact nofun

theorem status_eq_available_iff :
    (s.directBookingDay P C date filter).1.status = .available ↔
      (s.directBookingDay P C date filter).2 ≠ [] := by
  rcases directBookingDay_cases C s P date filter with ⟨hslots, hstatus⟩ | ⟨-, -, h⟩
  · exact iff_of_false hstatus (not_not.mpr hslots)
  · exact h

/-! ### The order of the slots -/

theorem publicSlot_candidates_sublist {roster : List Uuid} {slots : List PublicConsultationSlot} :
    (((slots.map (s.candidateFor C date roster)).filterMap Except.toOption).map publicSlot).Sublist
      slots := by
  induction slots with
  | nil => exact .slnil
  | cons slot slots ih =>
    rw [List.map_cons]
    cases hc : s.candidateFor C date roster slot with
    | error reason => exact ih.cons _
    | ok c =>
      have hslot : publicSlot c = slot := (candidateFor_eq_ok.mp hc).1
      show (publicSlot c :: List.map publicSlot _).Sublist _
      rw [hslot]
      exact ih.cons_cons _

variable {summer : ℤ → Bool}

/-- The slots of a day follow one another. -/
theorem increasing_directBookingDay :
    (s.directBookingDay P (cairoClock summer) date filter).2.Pairwise
      fun a b ↦ a.startsAt < b.startsAt := by
  rcases directBookingDay_cases (cairoClock summer) s P date filter with
    ⟨hslots, -⟩ | ⟨roster, hslots, -⟩
  · rw [hslots]
    exact .nil
  · have hnominal : (s.nominal P (cairoClock summer) date).Pairwise
        fun a b ↦ a.startsAt < b.startsAt :=
      SlotQuery.increasing_allSlots.sublist SlotQuery.sublist_allSlots
    rw [hslots]
    refine (List.pairwise_map (f := publicSlot) (R := fun a b ↦ a.startsAt < b.startsAt)).mp ?_
    exact hnominal.sublist (publicSlot_candidates_sublist.trans List.filter_sublist)

theorem mem_dates {first last date : ℤ} :
    date ∈ (List.range (last - first + 1).toNat).map (fun offset : ℕ ↦ first + (offset : ℤ)) ↔
      first ≤ date ∧ date ≤ last := by
  simp only [List.mem_map, List.mem_range]
  constructor
  · rintro ⟨offset, hoffset, rfl⟩
    omega
  · rintro ⟨hfirst, hlast⟩
    exact ⟨(date - first).toNat, by omega, by omega⟩

theorem mem_bookingDates : date ∈ s.bookingDates C ↔ C.cairoDateString s.now ≤ date ∧
    date ≤ C.cairoDateString ((consultationSlotWindow s.availability s.now).2 - 1) := by
  simp only [bookingDates, CairoClock.addCairoDays_eq]
  exact mem_dates

/-- The time of a candidate is on its day, and its day is in the window. -/
theorem dates_of_mem (h : c ∈ (s.directBookingDay P C date filter).2) :
    C.cairoDateString c.startsAt = date ∧ date ∈ s.bookingDates C := by
  obtain ⟨-, startsAt, hopen, hslot, -⟩ := mem_directBookingDay.mp h
  obtain ⟨hnow, hlast, hdate⟩ := SlotQuery.mem_openTimes hopen
  have hstarts : c.startsAt = startsAt := congrArg PublicConsultationSlot.startsAt hslot
  rw [hstarts, mem_bookingDates]
  exact ⟨hdate, hdate ▸ C.date_mono hnow, hdate ▸ C.date_mono hlast⟩

/-- The slots of all days follow one another. -/
theorem increasing_days :
    ((s.bookingDates (cairoClock summer)).flatMap fun date ↦
      (s.directBookingDay P (cairoClock summer) date).2).Pairwise
        fun a b ↦ a.startsAt < b.startsAt := by
  refine List.pairwise_flatMap.mpr ⟨fun date _ ↦ increasing_directBookingDay, ?_⟩
  simp only [bookingDates, CairoClock.addCairoDays_eq]
  refine List.pairwise_map.mpr (List.pairwise_lt_range.imp fun {offset offset'} hlt a ha b hb ↦ ?_)
  have hday := (date_eq_iff.mp (dates_of_mem ha).1).2
  have hday' := (date_eq_iff.mp (dates_of_mem hb).1).1
  exact hday.trans_le (le_trans (dayStart_strictMono.monotone (by omega)) hday')

/-- Sorting leaves them as they are. -/
theorem allCandidates_eq :
    s.allCandidates P (cairoClock summer) = (s.bookingDates (cairoClock summer)).flatMap
      fun date ↦ (s.directBookingDay P (cairoClock summer) date).2 :=
  (increasing_days.imp le_of_lt).insertionSort_eq

theorem increasing_allCandidates :
    (s.allCandidates P (cairoClock summer)).Pairwise fun a b ↦ a.startsAt < b.startsAt := by
  rw [allCandidates_eq]
  exact increasing_days

theorem mem_allCandidates :
    c ∈ s.allCandidates P C ↔ ∃ date, c ∈ (s.directBookingDay P C date).2 := by
  rw [allCandidates, List.mem_insertionSort, List.mem_flatMap]
  exact ⟨fun ⟨date, _, hc⟩ ↦ ⟨date, hc⟩, fun ⟨date, hc⟩ ↦ ⟨date, (dates_of_mem hc).2, hc⟩⟩

/-- The first slot of the first day with slots is the first of all. -/
theorem head?_selected (C : CairoClock) (hC : C = cairoClock summer) (today : CairoDate) :
    (s.directBookingDay P C (((s.allCandidates P C).head?.map
      fun slot ↦ C.cairoDateString slot.startsAt).getD today)).2.head? =
      (s.allCandidates P C).head? := by
  have hincreasing : (s.allCandidates P C).Pairwise fun a b ↦ a.startsAt < b.startsAt :=
    hC ▸ increasing_allCandidates
  cases hall : s.allCandidates P C with
  | nil =>
    refine List.head?_eq_none_iff.mpr (List.eq_nil_iff_forall_not_mem.mpr fun c hc ↦ ?_)
    have hmem := mem_allCandidates.mpr ⟨_, hc⟩
    rw [hall] at hmem
    cases hmem
  | cons first rest =>
    simp only [List.head?_cons, Option.map_some, Option.getD_some]
    have hfirst : first ∈ s.allCandidates P C := hall ▸ List.mem_cons_self
    obtain ⟨date, hdate⟩ := mem_allCandidates.mp hfirst
    rw [(dates_of_mem hdate).1]
    cases hday : (s.directBookingDay P C date).2 with
    | nil => rw [hday] at hdate; cases hdate
    | cons c l =>
      have hc : c ∈ s.allCandidates P C := mem_allCandidates.mpr ⟨date, hday ▸ List.mem_cons_self⟩
      have hincreasing' : (c :: l).Pairwise fun a b ↦ a.startsAt < b.startsAt := by
        subst hC
        exact hday ▸ increasing_directBookingDay
      rw [List.head?_cons, Option.some.injEq]
      rw [hday] at hdate
      rw [hall] at hc hincreasing
      rcases List.mem_cons.mp hc with rfl | hc
      · rfl
      · rcases List.mem_cons.mp hdate with rfl | hdate
        · rfl
        · exact absurd (List.rel_of_pairwise_cons hincreasing hc)
            (List.rel_of_pairwise_cons hincreasing' hdate).asymm

/-- Without a filter the nearest slot is the first of all, and the suggestions are the first three. -/
theorem buildBookingAvailability_eq (C : CairoClock) (hC : C = cairoClock summer) :
    ∃ b, s.buildBookingAvailability P C = .ok b ∧
      b.days = (s.bookingDates C).map (fun date ↦ (s.directBookingDay P C date).1) ∧
      b.nearestSlot = (s.allCandidates P C).head?.map publicSlot ∧
      b.suggestedSlots = ((s.allCandidates P C).take 3).map publicSlot ∧
      (b.hasAvailability = true ↔ s.allCandidates P C ≠ []) := by
  have hnearest : ((s.directBookingDay P C (((s.allCandidates P C).head?.map
        fun slot ↦ C.cairoDateString slot.startsAt).getD (C.cairoDateString s.now))).2.head?.or
      ((s.allCandidates P C).find? fun _ ↦ true)) = (s.allCandidates P C).head? := by
    rw [head?_selected C hC]
    cases s.allCandidates P C <;> rfl
  have hincreasing : (s.allCandidates P C).Pairwise fun a b ↦ a.startsAt < b.startsAt :=
    hC ▸ increasing_allCandidates
  refine ⟨_, rfl, rfl, ?_, ?_, ?_⟩
  · simp only [Option.isSome_none, Bool.false_eq_true, or_self, if_false, Option.or_none,
      Option.getD_none, Option.mem_def, reduceCtorEq, IsEmpty.forall_iff, implies_true, decide_true,
      hnearest]
  · simp only [Option.isSome_none, Bool.false_eq_true, or_self, if_false, Option.or_none,
      Option.getD_none, Option.mem_def, reduceCtorEq, IsEmpty.forall_iff, implies_true, decide_true,
      hnearest]
    cases hall : s.allCandidates P C with
    | nil => rfl
    | cons first rest =>
      rw [hall] at hincreasing
      refine congrArg (fun l ↦ (List.take 3 l).map publicSlot) (List.filter_eq_self.mpr ?_)
      intro c hc
      rcases List.mem_cons.mp hc with rfl | hc
      · exact decide_eq_true le_rfl
      · exact decide_eq_true (List.rel_of_pairwise_cons hincreasing hc).le
  · rw [decide_eq_true_eq, gt_iff_lt, List.length_pos_iff]

end BookingAvailabilitySnapshot

open BookingAvailabilitySnapshot in
/-- A day offers the telephone slots that can be booked, each with the lawyer who has the fewest
appointments of those who can take it, and is available exactly if it offers one.  Over all days there
is availability exactly if one of them is available, the nearest slot is the earliest that is offered,
and the suggestions begin with it. -/
theorem bookable_slots_offered (P : Platform) (summer : ℤ → Bool) (s : BookingAvailabilitySnapshot) :
    let C := cairoClock summer
    (s.availability.directBooking.published → ∀ date filter,
      (∀ slot, (∃ l, ⟨slot, l⟩ ∈ (s.directBookingDay P C date filter).2) ↔
        (∃ day minute, s.IsPhoneSlot P C date filter slot day minute) ∧
          ∃ l, s.CanTake C date slot l) ∧
      (∀ c ∈ (s.directBookingDay P C date filter).2, s.CanTake C date (publicSlot c) c.lawyerId ∧
        ∀ l, s.CanTake C date (publicSlot c) l →
          s.dailyCount C date c.lawyerId < s.dailyCount C date l ∨
            (s.dailyCount C date c.lawyerId = s.dailyCount C date l ∧ c.lawyerId ≤ l)) ∧
      ((s.directBookingDay P C date filter).1.status = .available ↔
        (s.directBookingDay P C date filter).2 ≠ [])) ∧
    ∃ b, s.buildBookingAvailability P C = .ok b ∧
      (b.hasAvailability = true ↔ ∃ day ∈ b.days, day.status = .available) ∧
      (∀ slot, b.nearestSlot = some slot ↔
        (∃ date, ∃ c ∈ (s.directBookingDay P C date).2, publicSlot c = slot) ∧
          ∀ date, ∀ c ∈ (s.directBookingDay P C date).2, slot.startsAt ≤ c.startsAt) ∧
      b.suggestedSlots.head? = b.nearestSlot ∧
      b.suggestedSlots.Pairwise (fun a b ↦ a.startsAt < b.startsAt) := by
  intro C
  refine ⟨fun hpublished date filter ↦ ⟨fun slot ↦ exists_candidate_iff hpublished,
    fun c hc ↦ chosen hc, status_eq_available_iff⟩, ?_⟩
  obtain ⟨b, hb, hdays, hnearest, hsuggested, hhas⟩ :=
    buildBookingAvailability_eq (P := P) (s := s) C rfl
  have hincreasing : (s.allCandidates P C).Pairwise fun a b ↦ a.startsAt < b.startsAt :=
    increasing_allCandidates
  refine ⟨b, hb, ?_, fun slot ↦ ?_, ?_, ?_⟩
  · rw [hhas, hdays]
    constructor
    · intro hne
      obtain ⟨c, hc⟩ := List.exists_mem_of_ne_nil _ hne
      obtain ⟨date, hdate⟩ := mem_allCandidates.mp hc
      exact ⟨_, List.mem_map.mpr ⟨date, (dates_of_mem hdate).2, rfl⟩,
        status_eq_available_iff.mpr (List.ne_nil_of_mem hdate)⟩
    · rintro ⟨day, hday, hstatus⟩
      obtain ⟨date, -, rfl⟩ := List.mem_map.mp hday
      obtain ⟨c, hc⟩ := List.exists_mem_of_ne_nil _ (status_eq_available_iff.mp hstatus)
      exact List.ne_nil_of_mem (mem_allCandidates.mpr ⟨date, hc⟩)
  · rw [hnearest, Option.map_eq_some_iff]
    constructor
    · rintro ⟨first, hfirst, rfl⟩
      obtain ⟨rest, hall⟩ := List.head?_eq_some_iff.mp hfirst
      refine ⟨?_, fun date c hc ↦ ?_⟩
      · obtain ⟨date, hdate⟩ := mem_allCandidates.mp (hall ▸ List.mem_cons_self)
        exact ⟨date, first, hdate, rfl⟩
      · have hmem := mem_allCandidates.mpr ⟨date, hc⟩
        rw [hall] at hmem hincreasing
        rcases List.mem_cons.mp hmem with rfl | hmem
        · exact le_rfl
        · exact (List.rel_of_pairwise_cons hincreasing hmem).le
    · rintro ⟨⟨date, c, hc, rfl⟩, hleast⟩
      have hmem := mem_allCandidates.mpr ⟨date, hc⟩
      cases hall : s.allCandidates P C with
      | nil => rw [hall] at hmem; cases hmem
      | cons first rest =>
        obtain ⟨date', hfirst⟩ := mem_allCandidates.mp (hall ▸ List.mem_cons_self)
        rw [hall] at hmem hincreasing
        rcases List.mem_cons.mp hmem with rfl | hmem
        · exact ⟨c, rfl, rfl⟩
        · exact absurd (hleast date' first hfirst)
            (not_le.mpr (List.rel_of_pairwise_cons hincreasing hmem))
  · rw [hsuggested, hnearest]
    cases s.allCandidates P C <;> rfl
  · rw [hsuggested]
    exact List.pairwise_map.mpr (hincreasing.sublist (List.take_sublist 3 _))

end KmtLegal
