import KmtLegal.Js.Base64

/-!
# Strings as units of sixteen bits

A JavaScript string is a sequence of code units, and a surrogate may stand in it alone.  Where that
matters a string is the list of its units; `units` embeds the strings without lone surrogates.
The rest is `encodeURIComponent` and what reads its result back.
-/

namespace KmtLegal.Js

/-- A string, as its units. -/
abbrev Units := List UInt16

instance : LawfulBEq Units := inferInstance

def isHighSurrogate (u : UInt16) : Bool := 0xd800 ≤ u.toNat ∧ u.toNat < 0xdc00

def isLowSurrogate (u : UInt16) : Bool := 0xdc00 ≤ u.toNat ∧ u.toNat < 0xe000

/-- The units of one character. -/
def charUnits (c : Char) : Units :=
  if c.toNat < 0x10000 then [c.toNat.toUInt16]
  else [(0xd800 + (c.toNat - 0x10000) / 0x400).toUInt16,
    (0xdc00 + (c.toNat - 0x10000) % 0x400).toUInt16]

/-- The units of a text. -/
def units (s : String) : Units := s.toList.flatMap charUnits

/-- The characters of a string, unless a surrogate stands in it alone. -/
def unitsChars : Units → Option (List Char)
  | [] => some []
  | u :: l =>
    if isHighSurrogate u then
      match l with
      | [] => none
      | v :: l =>
        if isLowSurrogate v then
          (unitsChars l).map
            (Char.ofNat (0x10000 + (u.toNat - 0xd800) * 0x400 + (v.toNat - 0xdc00)) :: ·)
        else none
    else if isLowSurrogate u then none
    else (unitsChars l).map (Char.ofNat u.toNat :: ·)

/-- `s.isWellFormed()`. -/
def isWellFormed (l : Units) : Bool := (unitsChars l).isSome

/-! ## Operations

What the units of a lower-case string are compared with is ASCII, as in `toLowerCase`. -/

/-- Whether `trim` removes the unit. -/
def isSpaceUnit (u : UInt16) : Bool := isSpace (Char.ofNat u.toNat)

/-- `\d`. -/
def isDigitUnit (u : UInt16) : Bool := 0x30 ≤ u.toNat ∧ u.toNat ≤ 0x39

/-- `s.trim()`. -/
def trimUnits (l : Units) : Units := (l.dropWhile isSpaceUnit).rdropWhile isSpaceUnit

def lowerUnit (u : UInt16) : Units :=
  if isHighSurrogate u ∨ isLowSurrogate u then [u]
  else (lowerChar (Char.ofNat u.toNat)).flatMap charUnits

/-- `s.toLowerCase()`. -/
def lowerUnits (l : Units) : Units := l.flatMap lowerUnit

/-- `s.replace(/[set]/g, by)`. -/
def replaceUnits (set : Units) (by' : UInt16) (l : Units) : Units :=
  l.map fun u ↦ if u ∈ set then by' else u

theorem mem_trimUnits {l : Units} {u : UInt16} (h : u ∈ trimUnits l) : u ∈ l :=
  (List.dropWhile_suffix _).subset ((List.rdropWhile_prefix _ _).subset h)

theorem mem_replaceUnits {set : Units} {v u : UInt16} {l : Units} (h : u ∈ replaceUnits set v l) :
    u = v ∨ u ∈ l ∧ u ∉ set := by
  obtain ⟨w, hw, rfl⟩ := List.mem_map.mp h
  split_ifs with hset
  · exact .inl rfl
  · exact .inr ⟨hw, hset⟩

/-! ## Texts and their units -/

theorem unitsChars_single {u : UInt16} (hhigh : isHighSurrogate u = false)
    (hlow : isLowSurrogate u = false) (l : Units) :
    unitsChars (u :: l) = (unitsChars l).map (Char.ofNat u.toNat :: ·) := by
  rw [unitsChars.eq_def]
  simp only [hhigh, hlow, Bool.false_eq_true, if_false]

theorem unitsChars_pair {u v : UInt16} (hhigh : isHighSurrogate u) (hlow : isLowSurrogate v)
    (l : Units) : unitsChars (u :: v :: l) = (unitsChars l).map
      (Char.ofNat (0x10000 + (u.toNat - 0xd800) * 0x400 + (v.toNat - 0xdc00)) :: ·) := by
  rw [unitsChars.eq_def]
  simp only [hhigh, hlow, if_true]

theorem toNat_toUInt16 {n : ℕ} (h : n < 0x10000) : n.toUInt16.toNat = n := by
  rw [Nat.toUInt16_eq, UInt16.toNat_ofNat_of_lt' h]

/-- No character is a surrogate. -/
theorem char_not_surrogate (c : Char) : c.toNat < 0xd800 ∨ 0xdfff < c.toNat ∧ c.toNat < 0x110000 :=
  c.valid

theorem unitsChars_charUnits_append (c : Char) (l : Units) :
    unitsChars (charUnits c ++ l) = (unitsChars l).map (c :: ·) := by
  have hvalid := char_not_surrogate c
  unfold charUnits
  split_ifs with h
  · have hnat : c.toNat.toUInt16.toNat = c.toNat := toNat_toUInt16 h
    have hhigh : isHighSurrogate c.toNat.toUInt16 = false := by
      simp only [isHighSurrogate, hnat, decide_eq_false_iff_not]
      omega
    have hlow : isLowSurrogate c.toNat.toUInt16 = false := by
      simp only [isLowSurrogate, hnat, decide_eq_false_iff_not]
      omega
    rw [List.singleton_append, unitsChars_single hhigh hlow, hnat, Char.ofNat_toNat]
  · have hu := toNat_toUInt16 (n := 0xd800 + (c.toNat - 0x10000) / 0x400) (by omega)
    have hv := toNat_toUInt16 (n := 0xdc00 + (c.toNat - 0x10000) % 0x400) (by omega)
    have hhigh : isHighSurrogate (0xd800 + (c.toNat - 0x10000) / 0x400).toUInt16 = true := by
      simp only [isHighSurrogate, hu, decide_eq_true_eq]
      omega
    have hlow : isLowSurrogate (0xdc00 + (c.toNat - 0x10000) % 0x400).toUInt16 = true := by
      simp only [isLowSurrogate, hv, decide_eq_true_eq]
      omega
    have hnat : 0x10000 + (0xd800 + (c.toNat - 0x10000) / 0x400 - 0xd800) * 0x400 +
        (0xdc00 + (c.toNat - 0x10000) % 0x400 - 0xdc00) = c.toNat := by omega
    rw [List.cons_append, List.singleton_append, unitsChars_pair hhigh hlow, hu, hv, hnat,
      Char.ofNat_toNat]

theorem unitsChars_flatMap (l : List Char) : unitsChars (l.flatMap charUnits) = some l := by
  induction l with
  | nil => rfl
  | cons c l ih => rw [List.flatMap_cons, unitsChars_charUnits_append, ih]; rfl

/-- A text is known by its units. -/
theorem units_injective : Function.Injective units := by
  intro s t h
  have hchars : some s.toList = some t.toList := by
    rw [← unitsChars_flatMap, ← unitsChars_flatMap]
    exact congrArg unitsChars h
  exact String.toList_injective (Option.some.inj hchars)

theorem charUnits_ofNat {n : ℕ} (h : n < 0xd800 ∨ 0xdfff < n ∧ n < 0x110000) :
    (Char.ofNat n).toNat = n := by
  have hvalid : n.isValidChar := h
  rw [Char.ofNat, dif_pos hvalid]
  rfl

/-- The characters of a well-formed string have its units. -/
theorem flatMap_charUnits {l : Units} {cs : List Char} (h : unitsChars l = some cs) :
    cs.flatMap charUnits = l := by
  induction l using unitsChars.induct generalizing cs with
  | case1 =>
    cases h
    rfl
  | case2 u hhigh => simp [unitsChars, hhigh] at h
  | case3 u hhigh v l hlow ih =>
    simp only [unitsChars, hhigh, hlow, if_true, Option.map_eq_some_iff] at h
    obtain ⟨cs', hcs, rfl⟩ := h
    simp only [isHighSurrogate, isLowSurrogate, decide_eq_true_eq] at hhigh hlow
    have hnat := charUnits_ofNat
      (n := 0x10000 + (u.toNat - 0xd800) * 0x400 + (v.toNat - 0xdc00)) (by omega)
    have hu : 0xd800 + (0x10000 + (u.toNat - 0xd800) * 0x400 + (v.toNat - 0xdc00) - 0x10000) / 0x400
        = u.toNat := by omega
    have hv : 0xdc00 + (0x10000 + (u.toNat - 0xd800) * 0x400 + (v.toNat - 0xdc00) - 0x10000) % 0x400
        = v.toNat := by omega
    rw [List.flatMap_cons, ih hcs, charUnits, hnat, if_neg (by omega), hu, hv, Nat.toUInt16_eq,
      Nat.toUInt16_eq, UInt16.ofNat_toNat, UInt16.ofNat_toNat]
    rfl
  | case4 u hhigh v l hlow => simp [unitsChars, hhigh, hlow] at h
  | case5 u l hhigh hlow =>
    rw [unitsChars.eq_def] at h
    simp [hhigh, hlow] at h
  | case6 u l hhigh hlow ih =>
    rw [unitsChars_single (Bool.not_eq_true _ ▸ hhigh) (Bool.not_eq_true _ ▸ hlow),
      Option.map_eq_some_iff] at h
    obtain ⟨cs', hcs, rfl⟩ := h
    simp only [isHighSurrogate, isLowSurrogate, decide_eq_true_eq] at hhigh hlow
    have hlt := u.toNat_lt
    rw [List.flatMap_cons, ih hcs, charUnits, charUnits_ofNat (by omega), if_pos hlt,
      Nat.toUInt16_eq, UInt16.ofNat_toNat]
    rfl

/-- The well-formed strings are the texts. -/
theorem isWellFormed_iff {l : Units} : isWellFormed l ↔ ∃ s, units s = l := by
  rw [isWellFormed, Option.isSome_iff_exists]
  constructor
  · rintro ⟨cs, hcs⟩
    exact ⟨String.ofList cs, by rw [units, String.toList_ofList, flatMap_charUnits hcs]⟩
  · rintro ⟨s, rfl⟩
    exact ⟨s.toList, unitsChars_flatMap s.toList⟩

/-- A property of the units of a text is decided along the text, not over all units. -/
theorem forall_mem_of_all {p : UInt16 → Prop} [DecidablePred p] {l : Units}
    (h : l.all fun u ↦ decide (p u)) : ∀ u ∈ l, p u :=
  fun u hu ↦ of_decide_eq_true (List.all_eq_true.mp h u hu)

/-- Units below the surrogates stand alone. -/
theorem isWellFormed_of_lt {l : Units} (h : ∀ u ∈ l, u.toNat < 0xd800) : isWellFormed l := by
  induction l with
  | nil => rfl
  | cons u l ih =>
    have hu := h u List.mem_cons_self
    have hhigh : isHighSurrogate u = false := by
      simp only [isHighSurrogate, decide_eq_false_iff_not]
      omega
    have hlow : isLowSurrogate u = false := by
      simp only [isLowSurrogate, decide_eq_false_iff_not]
      omega
    have hl := ih fun v hv ↦ h v (List.mem_cons_of_mem u hv)
    rw [isWellFormed, unitsChars_single hhigh hlow, Option.isSome_map]
    exact hl

/-! ## Parts of a well-formed string -/

/-- The first unit is the second half of a pair. -/
def beginsInPair (l : Units) : Bool := l.head?.any isLowSurrogate

/-- The last unit is the first half of a pair. -/
def endsInPair (l : Units) : Bool := l.getLast?.any isHighSurrogate

theorem isHighSurrogate_of_isLowSurrogate {u : UInt16} (h : isLowSurrogate u) :
    isHighSurrogate u = false := by
  simp only [isLowSurrogate, isHighSurrogate, decide_eq_true_eq, decide_eq_false_iff_not] at h ⊢
  omega

theorem isWellFormed_pair {u v : UInt16} (hhigh : isHighSurrogate u) (hlow : isLowSurrogate v)
    (l : Units) : isWellFormed (u :: v :: l) = isWellFormed l := by
  rw [isWellFormed, unitsChars_pair hhigh hlow, Option.isSome_map]
  rfl

theorem isWellFormed_single {u : UInt16} (hhigh : isHighSurrogate u = false)
    (hlow : isLowSurrogate u = false) (l : Units) :
    isWellFormed (u :: l) = isWellFormed l := by
  rw [isWellFormed, unitsChars_single hhigh hlow, Option.isSome_map]
  rfl

theorem isWellFormed_cons_low {u : UInt16} (hlow : isLowSurrogate u) (l : Units) :
    isWellFormed (u :: l) = false := by
  rw [isWellFormed, unitsChars.eq_def]
  simp [isHighSurrogate_of_isLowSurrogate hlow, hlow]

theorem isWellFormed_high_alone {u : UInt16} (hhigh : isHighSurrogate u) :
    isWellFormed [u] = false := by
  rw [isWellFormed, unitsChars.eq_def]
  simp [hhigh]

theorem isWellFormed_high_cons {u v : UInt16} (hhigh : isHighSurrogate u)
    (hlow : isLowSurrogate v = false) (l : Units) : isWellFormed (u :: v :: l) = false := by
  rw [isWellFormed, unitsChars.eq_def]
  simp [hhigh, hlow]

/-- What follows a well-formed string is well-formed by itself. -/
theorem isWellFormed_append {a : Units} (h : isWellFormed a) (b : Units) :
    isWellFormed (a ++ b) = isWellFormed b := by
  induction a using unitsChars.induct with
  | case1 => rfl
  | case2 u hhigh => simp [isWellFormed_high_alone hhigh] at h
  | case3 u hhigh v a hlow ih =>
    rw [isWellFormed_pair hhigh hlow] at h
    exact (isWellFormed_pair hhigh hlow _).trans (ih h)
  | case4 u hhigh v a hlow =>
    simp [isWellFormed_high_cons hhigh (Bool.not_eq_true _ ▸ hlow)] at h
  | case5 u a hhigh hlow => simp [isWellFormed_cons_low hlow] at h
  | case6 u a hhigh hlow ih =>
    rw [Bool.not_eq_true] at hhigh hlow
    rw [isWellFormed_single hhigh hlow] at h
    exact (isWellFormed_single hhigh hlow _).trans (ih h)

/-- The start of a well-formed string is well-formed if it does not end in a pair. -/
theorem isWellFormed_take {a b : Units} (h : isWellFormed (a ++ b)) :
    isWellFormed a = !endsInPair a := by
  induction a using unitsChars.induct with
  | case1 => rfl
  | case2 u hhigh => simp [isWellFormed_high_alone hhigh, endsInPair, hhigh]
  | case3 u hhigh v a hlow ih =>
    have hends : endsInPair (u :: v :: a) = endsInPair a := by
      cases a with
      | nil => simp [endsInPair, isHighSurrogate_of_isLowSurrogate hlow]
      | cons w a => simp [endsInPair, List.getLast?_cons_cons]
    rw [isWellFormed_pair hhigh hlow, hends]
    apply ih
    rw [← isWellFormed_pair hhigh hlow]
    exact h
  | case4 u hhigh v a hlow =>
    rw [List.cons_append, List.cons_append,
      isWellFormed_high_cons hhigh (Bool.not_eq_true _ ▸ hlow)] at h
    cases h
  | case5 u a hhigh hlow =>
    rw [List.cons_append, isWellFormed_cons_low hlow] at h
    cases h
  | case6 u a hhigh hlow ih =>
    rw [Bool.not_eq_true] at hhigh hlow
    have hends : endsInPair (u :: a) = endsInPair a := by
      cases a with
      | nil => simp [endsInPair, hhigh]
      | cons w a => simp [endsInPair, List.getLast?_cons_cons]
    rw [isWellFormed_single hhigh hlow, hends]
    apply ih
    rw [← isWellFormed_single hhigh hlow]
    exact h

/-- The rest of a well-formed string is well-formed if it does not begin in a pair. -/
theorem isWellFormed_suffix {a b : Units} (h : isWellFormed (a ++ b)) :
    isWellFormed b = !beginsInPair b := by
  induction a using unitsChars.induct with
  | case1 =>
    cases b with
    | nil => rfl
    | cons u b =>
      cases hlow : isLowSurrogate u with
      | false => simpa [beginsInPair, hlow] using h
      | true => simp [beginsInPair, hlow, isWellFormed_cons_low hlow]
  | case2 u hhigh =>
    cases b with
    | nil => rfl
    | cons v b =>
      cases hlow : isLowSurrogate v with
      | false =>
        rw [List.singleton_append, isWellFormed_high_cons hhigh hlow] at h
        cases h
      | true => simp [beginsInPair, hlow, isWellFormed_cons_low hlow]
  | case3 u hhigh v a hlow ih =>
    apply ih
    rw [← isWellFormed_pair hhigh hlow]
    exact h
  | case4 u hhigh v a hlow =>
    rw [List.cons_append, List.cons_append,
      isWellFormed_high_cons hhigh (Bool.not_eq_true _ ▸ hlow)] at h
    cases h
  | case5 u a hhigh hlow =>
    rw [List.cons_append, isWellFormed_cons_low hlow] at h
    cases h
  | case6 u a hhigh hlow ih =>
    rw [Bool.not_eq_true] at hhigh hlow
    apply ih
    rw [← isWellFormed_single hhigh hlow]
    exact h

/-- A part of a well-formed string is well-formed exactly if it splits no pair. -/
theorem isWellFormed_infix {l m : Units} (hm : isWellFormed m) (h : l <:+: m) :
    isWellFormed l ↔ beginsInPair l = false ∧ endsInPair l = false := by
  obtain ⟨a, b, rfl⟩ := h
  cases l with
  | nil => exact ⟨fun _ ↦ ⟨rfl, rfl⟩, fun _ ↦ rfl⟩
  | cons u l =>
    rw [List.append_assoc] at hm
    have hrest := isWellFormed_suffix hm
    cases hbegins : beginsInPair (u :: l) with
    | true =>
      have hlow : isLowSurrogate u := hbegins
      simp [isWellFormed_cons_low hlow]
    | false =>
      have hwf : isWellFormed ((u :: l) ++ b) := by
        rw [hrest]
        exact (Bool.not_eq_true' _).mpr hbegins
      rw [isWellFormed_take hwf]
      simp

/-! ## `encodeURIComponent` -/

/-- The characters `encodeURIComponent` leaves alone. -/
def isUriUnreserved (c : Char) : Bool :=
  ('A' ≤ c ∧ c ≤ 'Z') ∨ ('a' ≤ c ∧ c ≤ 'z') ∨ isDigit c ∨
    c ∈ ['-', '_', '.', '!', '~', '*', '\'', '(', ')']

def hexUnit (n : ℕ) : UInt16 := if n < 10 then (48 + n).toUInt16 else (55 + n).toUInt16

/-- `%` and two hexadecimal digits. -/
def percentByte (b : UInt8) : Units := [0x25, hexUnit (b.toNat / 16), hexUnit (b.toNat % 16)]

def encodeUriChar (c : Char) : Units :=
  if isUriUnreserved c then charUnits c else (String.utf8EncodeChar c).flatMap percentByte

/-- `encodeURIComponent(s)`; `none` if it throws. -/
def encodeURIComponent (l : Units) : Option Units :=
  (unitsChars l).map fun cs ↦ cs.flatMap encodeUriChar

/-! ## Reading it back -/

def unitHex (u : UInt16) : Option ℕ :=
  if 48 ≤ u.toNat ∧ u.toNat < 58 then some (u.toNat - 48)
  else if 65 ≤ u.toNat ∧ u.toNat < 71 then some (u.toNat - 55)
  else if 97 ≤ u.toNat ∧ u.toNat < 103 then some (u.toNat - 87)
  else none

/-- The bytes of a percent-encoded value. -/
def percentDecode : Units → Option (List UInt8)
  | [] => some []
  | u :: l =>
    if u = 0x25 then
      match l with
      | a :: b :: l => do
        let high ← unitHex a
        let low ← unitHex b
        let bytes ← percentDecode l
        return (16 * high + low).toUInt8 :: bytes
      | _ => none
    else if u.toNat < 0x80 then (percentDecode l).map (u.toUInt8 :: ·)
    else none

/-- The text of a percent-encoded value in UTF-8. -/
def percentText (l : Units) : Option String := (percentDecode l).bind utf8Text

theorem percentDecode_single {u : UInt16} (hne : u ≠ 0x25) (hlt : u.toNat < 0x80) (l : Units) :
    percentDecode (u :: l) = (percentDecode l).map (u.toUInt8 :: ·) := by
  rw [percentDecode.eq_def]
  simp only [hne, hlt, if_false, if_true]

theorem unitHex_hexUnit {n : ℕ} (h : n < 16) : unitHex (hexUnit n) = some n := by
  have hall : ∀ n : Fin 16, unitHex (hexUnit n) = some n.val := by decide
  exact hall ⟨n, h⟩

theorem percentDecode_percentByte (b : UInt8) (l : Units) :
    percentDecode (percentByte b ++ l) = (percentDecode l).map (b :: ·) := by
  have hb : b.toNat < 256 := b.toNat_lt
  have hbyte : (16 * (b.toNat / 16) + b.toNat % 16).toUInt8 = b := by
    rw [Nat.div_add_mod, Nat.toUInt8_eq, UInt8.ofNat_toNat]
  simp only [percentByte, List.cons_append, List.nil_append, percentDecode, if_true,
    unitHex_hexUnit (show b.toNat / 16 < 16 by omega),
    unitHex_hexUnit (show b.toNat % 16 < 16 by omega), Option.bind_eq_bind, Option.bind_some, hbyte]
  cases percentDecode l <;> rfl

theorem percentDecode_flatMap (bytes : List UInt8) (l : Units) :
    percentDecode (bytes.flatMap percentByte ++ l) = (percentDecode l).map (bytes ++ ·) := by
  induction bytes with
  | nil => simp
  | cons b bytes ih =>
    rw [List.flatMap_cons, List.append_assoc, percentDecode_percentByte, ih, Option.map_map]
    rfl

/-- What is left alone is ASCII, and no percent sign. -/
theorem unreserved_toNat {c : Char} (h : isUriUnreserved c) :
    c.toNat < 0x80 ∧ c.toNat ≠ 0x25 ∧ 0x20 < c.toNat ∧ c.toNat ≠ 0x22 := by
  have hchar : ∀ a : Char, c = a → c.toNat = a.toNat := fun a ha ↦ congrArg Char.toNat ha
  simp only [isUriUnreserved, isDigit, Bool.decide_or, Bool.decide_and, Bool.or_eq_true,
    Bool.and_eq_true, decide_eq_true_eq, List.mem_cons, List.not_mem_nil, or_false,
    Char.le_def, UInt32.le_iff_toNat_le] at h
  rcases h with h | h | h | h | h | h | h | h | h | h | h | h
  · have h1 : 65 ≤ c.toNat := h.1
    have h2 : c.toNat ≤ 90 := h.2
    omega
  · have h1 : 97 ≤ c.toNat := h.1
    have h2 : c.toNat ≤ 122 := h.2
    omega
  · have h1 : 48 ≤ c.toNat := h.1
    have h2 : c.toNat ≤ 57 := h.2
    omega
  all_goals
    subst h
    decide

theorem utf8EncodeChar_ascii {c : Char} (h : c.toNat < 0x80) :
    String.utf8EncodeChar c = [c.toNat.toUInt8] := by
  have hv : c.val.toNat ≤ 0x7f := by
    have hc : c.val.toNat < 0x80 := h
    omega
  unfold String.utf8EncodeChar
  rw [if_pos hv]
  rfl

theorem percentDecode_encodeUriChar (c : Char) (l : Units) :
    percentDecode (encodeUriChar c ++ l) =
      (percentDecode l).map (String.utf8EncodeChar c ++ ·) := by
  unfold encodeUriChar
  split_ifs with h
  · obtain ⟨hlt, hne, -, -⟩ := unreserved_toNat h
    have hnat : c.toNat.toUInt16.toNat = c.toNat := toNat_toUInt16 (by omega)
    have hpercent : c.toNat.toUInt16 ≠ 0x25 := by
      intro heq
      apply hne
      rw [← hnat, heq]
      rfl
    have hbyte : c.toNat.toUInt16.toUInt8 = c.toNat.toUInt8 := by
      apply UInt8.toNat_inj.mp
      rw [UInt16.toNat_toUInt8, hnat, Nat.toUInt8_eq, UInt8.toNat_ofNat']
    rw [charUnits, if_pos (by omega), List.singleton_append,
      percentDecode_single hpercent (by rw [hnat]; exact hlt), utf8EncodeChar_ascii hlt, hbyte]
    rfl
  · exact percentDecode_flatMap _ _

/-- What was encoded is read back. -/
theorem percentText_encodeURIComponent {l e : Units} (h : encodeURIComponent l = some e) :
    ∃ s, percentText e = some s ∧ units s = l := by
  obtain ⟨cs, hcs, rfl⟩ := Option.map_eq_some_iff.mp h
  have hdecode : percentDecode (cs.flatMap encodeUriChar) = some (utf8 (String.ofList cs)) := by
    rw [utf8, String.toList_ofList]
    clear hcs h
    induction cs with
    | nil => rfl
    | cons c cs ih => rw [List.flatMap_cons, percentDecode_encodeUriChar, ih]; rfl
  refine ⟨String.ofList cs, ?_, ?_⟩
  · rw [percentText, hdecode, Option.bind_some, utf8Text_utf8]
  · rw [units, String.toList_ofList, flatMap_charUnits hcs]

theorem hexUnit_range {n : ℕ} (h : n < 16) : 0x2f < (hexUnit n).toNat ∧ (hexUnit n).toNat < 0x80 := by
  have hall : ∀ n : Fin 16, 0x2f < (hexUnit n).toNat ∧ (hexUnit n).toNat < 0x80 := by decide
  exact hall ⟨n, h⟩

/-- An encoded value is made of visible ASCII characters. -/
theorem encodeURIComponent_ascii {l e : Units} (h : encodeURIComponent l = some e) {u : UInt16}
    (hu : u ∈ e) : 0x20 < u.toNat ∧ u.toNat < 0x80 := by
  obtain ⟨cs, -, rfl⟩ := Option.map_eq_some_iff.mp h
  obtain ⟨c, -, hu⟩ := List.mem_flatMap.mp hu
  unfold encodeUriChar at hu
  split_ifs at hu with hc
  · obtain ⟨hlt, -, hgt, -⟩ := unreserved_toNat hc
    rw [charUnits, if_pos (by omega), List.mem_singleton] at hu
    rw [hu, toNat_toUInt16 (by omega)]
    exact ⟨hgt, hlt⟩
  · obtain ⟨b, -, hu⟩ := List.mem_flatMap.mp hu
    have hb : b.toNat < 256 := b.toNat_lt
    rcases List.mem_cons.mp hu with rfl | hu
    · decide
    · rcases List.mem_cons.mp hu with rfl | hu
      · have hrange := hexUnit_range (show b.toNat / 16 < 16 by omega)
        omega
      · rw [List.mem_singleton] at hu
        subst hu
        have hrange := hexUnit_range (show b.toNat % 16 < 16 by omega)
        omega

theorem encodeURIComponent_isSome {l : Units} : (encodeURIComponent l).isSome = isWellFormed l :=
  Option.isSome_map

end KmtLegal.Js
