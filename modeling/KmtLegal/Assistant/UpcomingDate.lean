import KmtLegal.Consultations.OpeningHours
import KmtLegal.Scheduling.Civil

/-!
# Dates in chat texts

`availabilityDateFromMessage` of the assistant looks for a date in what a client wrote: words such
as tomorrow, a date with its year first, a day and a month with or without a year, a weekday.  A day
and a month without a year stand for the next such date, which the code looks for in this year and
takes from the next one unseen.
-/

namespace KmtLegal

open Relational Scheduling Js

/-! ## Texts -/

/-- `normalizedAssistantText(message)`. -/
def normalizedAssistantText (message : String) : String :=
  String.ofList <| (toLowerCase (trim message)).toList.map fun c ↦
    if c ∈ ['أ', 'إ', 'آ'] then 'ا' else if c = 'ى' then 'ي' else if c = 'ة' then 'ه' else c

/-- `containsAny(text, needles)`. -/
def containsAny (text : String) (needles : List String) : Bool :=
  needles.any fun needle ↦ (normalizedAssistantText needle).toList <:+: text.toList

/-- `toAsciiDigits(value)`: Arabic and Persian digits. -/
def toAsciiDigits (value : String) : String :=
  String.ofList <| value.toList.map fun c ↦
    if 0x660 ≤ c.toNat ∧ c.toNat ≤ 0x669 then Char.ofNat (c.toNat - 0x660 + 48)
    else if 0x6f0 ≤ c.toNat ∧ c.toNat ≤ 0x6f9 then Char.ofNat (c.toNat - 0x6f0 + 48)
    else c

/-! ## Patterns -/

/-- `\d{n}` at the beginning of a text. -/
def digitsAt (n : ℕ) (l : List Char) : Option (ℕ × List Char) :=
  if (l.take n).length = n ∧ (l.take n).all isDigit then some (digitsValue (l.take n), l.drop n)
  else none

/-- `20\d{2}`. -/
def yearAt (l : List Char) : Option (ℕ × List Char) :=
  (digitsAt 4 l).filter fun m ↦ 2000 ≤ m.1 ∧ m.1 ≤ 2099

def charAt (accepted : List Char) : List Char → Option (List Char)
  | c :: l => if c ∈ accepted then some l else none
  | [] => none

/-- `\b` after a digit. -/
def endsWord (l : List Char) : Bool := ¬l.head?.any isWordChar

/-- The first match of a pattern that begins with `\b` and a digit; `before` is whether a character
of a word precedes the text. -/
def firstMatch {α : Type} (pattern : List Char → Option α) (before : Bool) :
    List Char → Option α
  | [] => none
  | c :: l =>
    (if before then none else pattern (c :: l)).or (firstMatch pattern (isWordChar c) l)

/-- `/\b(20\d{2}-\d{2}-\d{2})\b/` at the beginning of a text. -/
def isoDateAt (l : List Char) : Option CivilDate := do
  let (year, l) ← yearAt l
  let l ← charAt ['-'] l
  let (month, l) ← digitsAt 2 l
  let l ← charAt ['-'] l
  let (day, l) ← digitsAt 2 l
  if endsWord l then some ⟨year, month, day⟩ else none

/-- The groups of the pattern of numeric dates. -/
structure NumericDate where
  day : ℕ
  month : ℕ
  year : Option ℕ
  deriving DecidableEq

/-- `(?:[\/.-](20\d{2}))?\b`: a year if there is one. -/
def maybeYearAt (l : List Char) : Option (Option ℕ) :=
  (((charAt ['/', '.', '-'] l).bind yearAt).bind fun m ↦
    if endsWord m.2 then some (some m.1) else none).or
  (if endsWord l then some none else none)

/-- `/\b(\d{1,2})[\/.-](\d{1,2})(?:[\/.-](20\d{2}))?\b/` at the beginning of a text: each number
takes two digits if the rest then matches. -/
def numericDateAt (l : List Char) : Option NumericDate :=
  [2, 1].findSome? fun n ↦ (digitsAt n l).bind fun day ↦
    (charAt ['/', '.', '-'] day.2).bind fun l ↦
      [2, 1].findSome? fun n ↦ (digitsAt n l).bind fun month ↦
        (maybeYearAt month.2).map fun year ↦ ⟨day.1, month.1, year⟩

/-! ## Dates

A text of the form `YYYY-MM-DD` is kept as its three numbers, and `none` stands for the empty
text. -/

/-- `consultationSlotDateSchema`: four digits of a year, and a date that exists. -/
def consultationSlotDateSchema (date : CivilDate) : Bool :=
  0 ≤ date.year ∧ date.year ≤ 9999 ∧ date.Valid

/-- The order of the texts of two dates. -/
def DateBefore (c c' : CivilDate) : Prop :=
  c.year < c'.year ∨ (c.year = c'.year ∧
    (c.month < c'.month ∨ (c.month = c'.month ∧ c.day < c'.day)))

instance : DecidableRel DateBefore := fun c c' ↦
  inferInstanceAs (Decidable (c.year < c'.year ∨ (c.year = c'.year ∧
    (c.month < c'.month ∨ (c.month = c'.month ∧ c.day < c'.day)))))

section

variable (C : CairoClock)

/-- `cairoDateString(new Date(candidate + "T12:00:00+03:00"))`: days up to 31 are counted on from
the first of the month, and nothing else is a date. -/
def probedDate (candidate : CivilDate) : Option CivilDate :=
  if 1 ≤ candidate.month ∧ candidate.month ≤ 12 ∧ 1 ≤ candidate.day ∧ candidate.day ≤ 31 then
    some (civilDate (C.cairoDateString (candidate.dayNumber * dayLength + 32400000)))
  else none

/-- `numericDateFromMessage(text, today)`. -/
def numericDateFromMessage (text : String) (today : CivilDate) : Option CivilDate :=
  (firstMatch numericDateAt false text.toList).bind fun m ↦
    let candidate : CivilDate := ⟨(m.year.map Int.ofNat).getD today.year, m.month, m.day⟩
    if probedDate C candidate ≠ some candidate then none
    else if m.year = none ∧ DateBefore candidate today then
      some { candidate with year := candidate.year + 1 }
    else some candidate

/-- `weekdayFromMessage(text)`. -/
def weekdayFromMessage (text : String) : Option ℕ :=
  [["sunday", "sun", "الاحد", "الأحد"], ["monday", "mon", "الاثنين", "الإثنين", "الاثنين"],
    ["tuesday", "tue", "الثلاثاء"], ["wednesday", "wed", "الاربعاء", "الأربعاء"],
    ["thursday", "thu", "الخميس"], ["friday", "fri", "الجمعه", "الجمعة"],
    ["saturday", "sat", "السبت"]].findIdx? (containsAny text)

/-- `explicitNextWeekAvailabilityMessage(text)`. -/
def explicitNextWeekAvailabilityMessage (text : String) : Bool :=
  containsAny text ["next week", "coming week", "الاسبوع الجاي", "الأسبوع الجاي", "الاسبوع القادم",
    "الأسبوع القادم"]

/-- `addCairoDays(date, offset)`. -/
def addCivilDays (date : CivilDate) (offset : ℤ) : CivilDate :=
  civilDate (C.addCairoDays date.dayNumber offset)

/-- The date of the weekday a text names. -/
def weekdayDate (text : String) (today : CivilDate) : Option CivilDate :=
  (weekdayFromMessage text).map fun weekday ↦
    let nearestOffset := (weekday + 7 - C.cairoWeekday today.dayNumber) % 7
    addCivilDays C today
      (if explicitNextWeekAvailabilityMessage text then nearestOffset + 7 else nearestOffset : ℕ)

/-- Today in Cairo. -/
def cairoToday (now : Time) : CivilDate := civilDate (C.cairoDateString now)

/-- The words for the day after tomorrow, today and tomorrow. -/
def afterTomorrowWords : List String :=
  ["day after tomorrow", "after tomorrow", "بعد بكره", "بعد بكرة", "بعد غد", "بعد غدا", "بعد غدًا"]

def todayWords : List String := ["today", "النهارده", "اليوم", "النهاردة"]

def tomorrowWords : List String := ["tomorrow", "بكره", "بكرة", "غدا", "غدًا"]

/-- `availabilityDateFromMessage(text, now).date`. -/
def availabilityDateFromMessage (text : String) (now : Time) : Option CivilDate :=
  let today := cairoToday C now
  let digitText := toAsciiDigits text
  if containsAny text afterTomorrowWords then some (addCivilDays C today 2)
  else if containsAny text todayWords then some today
  else if containsAny text tomorrowWords then some (addCivilDays C today 1)
  else
    match firstMatch isoDateAt false digitText.toList with
    | some isoDate => if consultationSlotDateSchema isoDate then some isoDate else none
    | none => (numericDateFromMessage C digitText today).or (weekdayDate C text today)

end

/-! ## What is promised -/

/-- The text names a day and a month and nothing that comes first: no year, no word for a day and
no date with its year in front. -/
structure NamesDayMonth (text : String) (day month : ℕ) : Prop where
  words : ¬containsAny text (afterTomorrowWords ++ todayWords ++ tomorrowWords)
  iso : firstMatch isoDateAt false (toAsciiDigits text).toList = none
  numeric : firstMatch numericDateAt false (toAsciiDigits text).toList = some ⟨day, month, none⟩

/-- The first date that exists, from today on, among those of this year and of the next. -/
def firstUpcoming (today : CivilDate) (day month : ℕ) : Option CivilDate :=
  [CivilDate.mk today.year month day, CivilDate.mk (today.year + 1) month day].find? fun c ↦
    c.Valid ∧ ¬DateBefore c today

/-- What a client may rely on: a date that is understood exists, and a day and a month stand for
the next such date. -/
structure Understood (C : CairoClock) (text : String) (now : Time) : Prop where
  accepted : ∀ date ∈ availabilityDateFromMessage C text now, consultationSlotDateSchema date
  upcoming : ∀ day month, NamesDayMonth text day month →
    ∀ first ∈ firstUpcoming (cairoToday C now) day month,
      availabilityDateFromMessage C text now = some first

/-- The text names the 29 February, and it has passed this year, or the next one has it. -/
def LeapDayAsked (text : String) (today : CivilDate) : Prop :=
  NamesDayMonth text 29 2 ∧
    ((isLeapYear today.year ∧ DateBefore ⟨today.year, 2, 29⟩ today) ∨
      isLeapYear (today.year + 1))

/-! ## Lemmas on dates -/

theorem valid_otherYear {y m d : ℤ} (h : (CivilDate.mk y m d).Valid)
    (hleap : ¬(m = 2 ∧ d = 29)) (y' : ℤ) : (CivilDate.mk y' m d).Valid := by
  obtain ⟨hm, hm', hd, hd'⟩ := h
  refine ⟨hm, hm', hd, ?_⟩
  simp only [monthLength] at hd' ⊢
  split_ifs at hd' ⊢ <;> omega

theorem valid_leapDay (y : ℤ) : (CivilDate.mk y 2 29).Valid ↔ isLeapYear y := by
  cases hleap : isLeapYear y <;> simp [CivilDate.Valid, monthLength, hleap]

section

variable {C : CairoClock}

/-- The probe finds the dates that exist. -/
theorem probedDate_eq (c : CivilDate) : probedDate C c = some c ↔ c.Valid := by
  have hday := C.between.date_eq (s := 32400000) (by decide) (by decide) c.dayNumber
  simp only [probedDate, CairoClock.cairoDateString, hday]
  constructor
  · intro h
    split_ifs at h with hrange
    rw [← Option.some.inj h]
    exact valid_civilDate _
  · intro h
    rw [if_pos ⟨h.1, h.2.1, h.2.2.1, h.day_le⟩, civilDate_dayNumber h]

theorem addCivilDays_eq (date : CivilDate) (offset : ℤ) :
    addCivilDays C date offset = civilDate (date.dayNumber + offset) := by
  rw [addCivilDays, CairoClock.addCairoDays_eq]

/-- A date some days from one is in its year or the next. -/
theorem year_addDays {date : CivilDate} (h : date.Valid) {k : ℤ} (hk : 0 ≤ k) (hk' : k ≤ 13) :
    date.year ≤ (civilDate (date.dayNumber + k)).year ∧
      (civilDate (date.dayNumber + k)).year ≤ date.year + 1 := by
  obtain ⟨hlow, hhigh⟩ := h.in_year
  obtain ⟨hlow', hhigh'⟩ := (valid_civilDate (date.dayNumber + k)).in_year
  rw [dayNumber_civilDate] at hlow' hhigh'
  have hnext := daysBeforeYear_succ (date.year + 1)
  have hlt := daysBeforeYear_strictMono.lt_iff_lt.mp
    (show daysBeforeYear date.year < daysBeforeYear ((civilDate (date.dayNumber + k)).year + 1) by
      omega)
  have hlt' := daysBeforeYear_strictMono.lt_iff_lt.mp
    (show daysBeforeYear (civilDate (date.dayNumber + k)).year < daysBeforeYear (date.year + 1 + 1) by
      split_ifs at hnext <;> omega)
  exact ⟨by omega, by omega⟩

/-- A weekday is one of the next fourteen days. -/
theorem weekdayDate_eq_some {text : String} {today date : CivilDate}
    (h : weekdayDate C text today = some date) :
    ∃ k : ℤ, 0 ≤ k ∧ k ≤ 13 ∧ date = civilDate (today.dayNumber + k) := by
  obtain ⟨weekday, -, rfl⟩ := Option.map_eq_some_iff.mp h
  refine ⟨_, Int.natCast_nonneg _, ?_, addCivilDays_eq _ _⟩
  split_ifs <;> omega

section

variable {today : CivilDate} (htoday : today.Valid) (hyear : 1000 ≤ today.year)
  (hyear' : today.year ≤ 9998)

include htoday hyear hyear'

theorem accepted_addDays {k : ℤ} (hk : 0 ≤ k) (hk' : k ≤ 13) :
    consultationSlotDateSchema (civilDate (today.dayNumber + k)) := by
  obtain ⟨hlow, hhigh⟩ := year_addDays htoday hk hk'
  exact decide_eq_true ⟨by omega, by omega, valid_civilDate _⟩

end

/-- The 29 February of the next year is more than a fortnight away. -/
theorem weekdayDate_ne_leapDay {text : String} {today : CivilDate} (htoday : today.Valid) :
    weekdayDate C text today ≠ some ⟨today.year + 1, 2, 29⟩ := by
  intro h
  obtain ⟨k, hk, hk', hdate⟩ := weekdayDate_eq_some h
  have hday := congrArg CivilDate.dayNumber hdate
  rw [dayNumber_civilDate] at hday
  have hin := htoday.in_year.2
  simp only [CivilDate.dayNumber] at hday hin
  have hmonth : daysBeforeMonth (today.year + 1) 2 = 31 := rfl
  omega

/-! ## Numeric dates -/

/-- What a day and a month without a year come to. -/
theorem numericDate_without_year {text : String} {today : CivilDate} {day month : ℕ}
    (h : firstMatch numericDateAt false text.toList = some ⟨day, month, none⟩) :
    numericDateFromMessage C text today =
      if (CivilDate.mk today.year month day).Valid then
        if DateBefore ⟨today.year, month, day⟩ today then some ⟨today.year + 1, month, day⟩
        else some ⟨today.year, month, day⟩
      else none := by
  simp only [numericDateFromMessage, h, Option.bind_some, Option.map_none, Option.getD_none, ne_eq,
    probedDate_eq, true_and, ite_not]

/-- A numeric date that is understood is a date as it is written, or the next year's. -/
theorem numericDate_eq_some {text : String} {today date : CivilDate}
    (h : numericDateFromMessage C text today = some date) :
    ∃ m, firstMatch numericDateAt false text.toList = some m ∧
      (date.Valid ∧ date.year = (m.year.map Int.ofNat).getD today.year ∨
        m.year = none ∧ (CivilDate.mk today.year m.month m.day).Valid ∧
          DateBefore ⟨today.year, m.month, m.day⟩ today ∧
          date = ⟨today.year + 1, m.month, m.day⟩) := by
  obtain ⟨m, hm, h⟩ := Option.bind_eq_some_iff.mp h
  refine ⟨m, hm, ?_⟩
  simp only [ne_eq, probedDate_eq] at h
  split_ifs at h with hvalid hnext
  · obtain ⟨hnone, hbefore⟩ := hnext
    rw [hnone] at hvalid hbefore h
    cases h
    exact .inr ⟨hnone, hvalid, hbefore, rfl⟩
  · cases h
    exact .inl ⟨hvalid, rfl⟩

/-- The pattern has years of four digits only. -/
theorem numericDateAt_year {l : List Char} {m : NumericDate} (h : numericDateAt l = some m) :
    ∀ year ∈ m.year, year ≤ 2099 := by
  obtain ⟨n, -, h⟩ := List.exists_of_findSome?_eq_some h
  obtain ⟨day, -, h⟩ := Option.bind_eq_some_iff.mp h
  obtain ⟨l₁, -, h⟩ := Option.bind_eq_some_iff.mp h
  obtain ⟨n', -, h⟩ := List.exists_of_findSome?_eq_some h
  obtain ⟨month, -, h⟩ := Option.bind_eq_some_iff.mp h
  obtain ⟨year, hyear, rfl⟩ := Option.map_eq_some_iff.mp h
  rintro year' rfl
  rw [maybeYearAt, Option.or_eq_some_iff] at hyear
  rcases hyear with hyear | ⟨-, hyear⟩
  · obtain ⟨found, hfound, hword⟩ := Option.bind_eq_some_iff.mp hyear
    split_ifs at hword
    cases hword
    obtain ⟨l₂, -, hyearAt⟩ := Option.bind_eq_some_iff.mp hfound
    have hbounds := (Option.filter_eq_some_iff.mp hyearAt).2
    exact (of_decide_eq_true hbounds).2
  · split_ifs at hyear
    cases hyear

theorem firstMatch_eq_some {α : Type} {pattern : List Char → Option α} {before : Bool}
    {l : List Char} {m : α} (h : firstMatch pattern before l = some m) :
    ∃ l', pattern l' = some m := by
  induction l generalizing before with
  | nil => cases h
  | cons c l ih =>
    rw [firstMatch, Option.or_eq_some_iff] at h
    rcases h with h | ⟨-, h⟩
    · split_ifs at h
      exact ⟨_, h⟩
    · exact ih h

end

/-! ## The promise -/

theorem not_leap_succ {y : ℤ} (h : isLeapYear y) : ¬isLeapYear (y + 1) := by
  simp only [isLeapYear, decide_eq_true_eq] at h ⊢
  omega

theorem valid_cairoToday (C : CairoClock) (now : Time) : (cairoToday C now).Valid :=
  valid_civilDate _

theorem containsAny_append {text : String} {l l' : List String} :
    containsAny text (l ++ l') = (containsAny text l || containsAny text l') :=
  List.any_append

section

variable {C : CairoClock} {text : String} {now : Time}

/-- Without a word for a day and an ISO date the numeric date and the weekday decide. -/
theorem NamesDayMonth.date (C : CairoClock) (now : Time) {day month : ℕ} (h : NamesDayMonth text day month) :
    availabilityDateFromMessage C text now =
      (numericDateFromMessage C (toAsciiDigits text) (cairoToday C now)).or
        (weekdayDate C text (cairoToday C now)) := by
  have hwords := h.words
  rw [containsAny_append, containsAny_append, Bool.or_eq_true, Bool.or_eq_true, not_or, not_or] at hwords
  obtain ⟨⟨hafter, htoday⟩, htomorrow⟩ := hwords
  simp only [availabilityDateFromMessage, if_neg hafter, if_neg htoday, if_neg htomorrow, h.iso]

/-- A date that is understood was counted from today, written with its year in front, or comes from
the numeric date and the weekday. -/
theorem availability_cases {date : CivilDate} (h : availabilityDateFromMessage C text now = some date) :
    (∃ k : ℤ, 0 ≤ k ∧ k ≤ 13 ∧ date = civilDate ((cairoToday C now).dayNumber + k)) ∨
      consultationSlotDateSchema date ∨
      ∃ m, firstMatch numericDateAt false (toAsciiDigits text).toList = some m ∧
        (date.Valid ∧ date.year = (m.year.map Int.ofNat).getD (cairoToday C now).year ∨
          NamesDayMonth text m.day m.month ∧
          (CivilDate.mk (cairoToday C now).year m.month m.day).Valid ∧
          DateBefore ⟨(cairoToday C now).year, m.month, m.day⟩ (cairoToday C now) ∧
          date = ⟨(cairoToday C now).year + 1, m.month, m.day⟩) := by
  simp only [availabilityDateFromMessage] at h
  split_ifs at h with hafter htoday htomorrow
  · exact .inl ⟨2, by decide, by decide, by rw [← addCivilDays_eq (C := C)]; exact (Option.some.inj h).symm⟩
  · refine .inl ⟨0, le_rfl, by decide, ?_⟩
    rw [add_zero, civilDate_dayNumber (valid_cairoToday C now)]
    exact (Option.some.inj h).symm
  · exact .inl ⟨1, by decide, by decide, by rw [← addCivilDays_eq (C := C)]; exact (Option.some.inj h).symm⟩
  · split at h
    · split_ifs at h with haccepted
      cases h
      exact .inr (.inl haccepted)
    · rename_i hiso
      rw [Option.or_eq_some_iff] at h
      rcases h with hnumeric | ⟨-, hweekday⟩
      · obtain ⟨m, hm, hcases⟩ := numericDate_eq_some hnumeric
        refine .inr (.inr ⟨m, hm, ?_⟩)
        rcases hcases with hplain | ⟨hnone, hvalid, hbefore, hdate⟩
        · exact .inl hplain
        · refine .inr ⟨⟨?_, hiso, ?_⟩, hvalid, hbefore, hdate⟩
          · rw [containsAny_append, containsAny_append, Bool.or_eq_true, Bool.or_eq_true, not_or,
              not_or]
            exact ⟨⟨hafter, htoday⟩, htomorrow⟩
          · rw [hm, ← hnone]
      · exact .inl (weekdayDate_eq_some hweekday)

/-- What a client writes is understood as promised exactly if it does not ask for a 29 February
that this year has had or the next one has, while the year has four digits. -/
theorem understood_iff (hyear : 1000 ≤ (cairoToday C now).year)
    (hyear' : (cairoToday C now).year ≤ 9998) :
    Understood C text now ↔ ¬LeapDayAsked text (cairoToday C now) := by
  have htoday := valid_cairoToday C now
  constructor
  · rintro hunderstood ⟨hnames, ⟨hleap, hbefore⟩ | hleap⟩
    · have hdate := hnames.date C now
      rw [numericDate_without_year hnames.numeric] at hdate
      simp only [Nat.cast_ofNat] at hdate
      rw [if_pos ((valid_leapDay _).mpr hleap), if_pos hbefore, Option.some_or] at hdate
      have haccepted := of_decide_eq_true (hunderstood.accepted _ hdate)
      exact not_leap_succ hleap ((valid_leapDay _).mp haccepted.2.2)
    · have hnot : ¬isLeapYear (cairoToday C now).year := fun h ↦ not_leap_succ h hleap
      have hdate := hnames.date C now
      rw [numericDate_without_year hnames.numeric] at hdate
      simp only [Nat.cast_ofNat] at hdate
      rw [if_neg (mt (valid_leapDay _).mp hnot), Option.none_or] at hdate
      have hfirst : firstUpcoming (cairoToday C now) 29 2 =
          some ⟨(cairoToday C now).year + 1, 2, 29⟩ := by
        have hlate : ¬DateBefore ⟨(cairoToday C now).year + 1, 2, 29⟩ (cairoToday C now) := by
          simp only [DateBefore]
          omega
        simp only [firstUpcoming, Nat.cast_ofNat]
        rw [List.find?_cons_of_neg, List.find?_cons_of_pos]
        · exact decide_eq_true ⟨(valid_leapDay _).mpr hleap, hlate⟩
        · exact fun h ↦ hnot ((valid_leapDay _).mp (of_decide_eq_true h).1)
      have hresult := hunderstood.upcoming 29 2 hnames _ hfirst
      exact weekdayDate_ne_leapDay htoday (hdate.symm.trans hresult)
  · intro hasked
    constructor
    · intro date hdate
      rcases availability_cases hdate with ⟨k, hk, hk', rfl⟩ | haccepted | ⟨m, hm, hcases⟩
      · exact accepted_addDays htoday hyear hyear' hk hk'
      · exact haccepted
      rcases hcases with ⟨hvalid, hdateYear⟩ | ⟨hnames, hvalid, hbefore, rfl⟩
      · refine decide_eq_true ⟨?_, ?_, hvalid⟩ <;> rw [hdateYear]
        · cases hmyear : m.year with
          | none => exact (show (0 : ℤ) ≤ 1000 by decide).trans hyear
          | some year => exact Int.natCast_nonneg year
        · cases hmyear : m.year with
          | none => exact hyear'.trans (by decide)
          | some year =>
            obtain ⟨l, hl⟩ := firstMatch_eq_some hm
            have hle := numericDateAt_year hl year hmyear
            show (year : ℤ) ≤ 9999
            omega
      · refine decide_eq_true ⟨?_, ?_, valid_otherYear hvalid ?_ _⟩
        · show 0 ≤ (cairoToday C now).year + 1
          omega
        · show (cairoToday C now).year + 1 ≤ 9999
          omega
        · rintro ⟨hmonth, hday⟩
          have hmonth' : m.month = 2 := by exact_mod_cast hmonth
          have hday' : m.day = 29 := by exact_mod_cast hday
          rw [hmonth', hday'] at hnames hvalid hbefore
          exact hasked ⟨hnames, .inl ⟨(valid_leapDay _).mp hvalid, hbefore⟩⟩
    · intro day month hnames first hfirst
      rw [hnames.date C now, numericDate_without_year hnames.numeric]
      by_cases hvalid : (CivilDate.mk (cairoToday C now).year month day).Valid
      · rw [if_pos hvalid]
        split_ifs with hbefore
        · rw [firstUpcoming, List.find?_cons_of_neg fun h ↦ (of_decide_eq_true h).2 hbefore] at hfirst
          have hmem := List.mem_of_find?_eq_some hfirst
          rw [List.mem_singleton.mp hmem, Option.some_or]
        · rw [firstUpcoming, List.find?_cons_of_pos] at hfirst
          · rw [Option.some_or]
            exact hfirst
          · exact decide_eq_true ⟨hvalid, hbefore⟩
      · rw [firstUpcoming, List.find?_cons_of_neg fun h ↦ hvalid (of_decide_eq_true h).1] at hfirst
        have hfound := List.find?_some (Option.mem_def.mp hfirst)
        simp only [decide_eq_true_eq] at hfound
        have hmem := List.mem_singleton.mp (List.mem_of_find?_eq_some hfirst)
        rw [hmem] at hfound
        have hleapDay : (month : ℤ) = 2 ∧ (day : ℤ) = 29 := by
          by_contra hother
          exact hvalid (valid_otherYear hfound.1 hother _)
        obtain ⟨hmonth, hday⟩ := hleapDay
        have hmonth' : month = 2 := by exact_mod_cast hmonth
        have hday' : day = 29 := by exact_mod_cast hday
        subst hmonth' hday'
        exact absurd ⟨hnames, .inr ((valid_leapDay _).mp hfound.1)⟩ hasked

end

/-- On 1 March 2024 the text is taken for a 29 February of 2025; in June 2027 for nothing, although
there is one in 2028. -/
theorem leap_day_misunderstood :
    availabilityDateFromMessage winterCairo "29/2" 1709287200000 = some ⟨2025, 2, 29⟩ ∧
      availabilityDateFromMessage winterCairo "29/2" 1811808000000 = none ∧
      ¬Understood winterCairo "29/2" 1709287200000 ∧
      ¬Understood winterCairo "29/2" 1811808000000 := by
  have hnames : NamesDayMonth "29/2" 29 2 :=
    ⟨by decide +kernel, by decide +kernel, by decide +kernel⟩
  have hpast : availabilityDateFromMessage winterCairo "29/2" 1709287200000 =
      some ⟨2025, 2, 29⟩ := by
    rw [hnames.date winterCairo, numericDate_without_year hnames.numeric, if_pos (by decide +kernel),
      if_pos (by decide +kernel), Option.some_or]
    decide +kernel
  have hnext : availabilityDateFromMessage winterCairo "29/2" 1811808000000 = none := by
    rw [hnames.date winterCairo, numericDate_without_year hnames.numeric, if_neg (by decide +kernel),
      Option.none_or]
    decide +kernel
  refine ⟨hpast, hnext, fun h ↦ ?_, fun h ↦ ?_⟩
  · exact absurd (h.accepted _ hpast) (by decide)
  · have hfirst : firstUpcoming (cairoToday winterCairo 1811808000000) 29 2 =
        some ⟨2028, 2, 29⟩ := by
      decide +kernel
    cases hnext.symm.trans (h.upcoming 29 2 hnames _ hfirst)

theorem understood_iff_march : Understood winterCairo "5/3" 1709287200000 := by
  refine (understood_iff (by decide +kernel) (by decide +kernel)).mpr fun h ↦ ?_
  have hnumeric := h.1.numeric
  rw [show firstMatch numericDateAt false (toAsciiDigits "5/3").toList = some ⟨5, 3, none⟩ by
    decide +kernel] at hnumeric
  cases hnumeric

end KmtLegal
