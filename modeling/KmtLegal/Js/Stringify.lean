import KmtLegal.Js.Json

/-!
# `JSON.stringify`

The text of a JSON value, without white space, as `JSON.stringify` writes it.  The text determines
the value, so that two values with one text, or with one collision-free hash of it, are the same.

The proof reads the text from the left.  A number ends where its characters end, a string at the
first quotation mark that is not escaped, and everything else at a bracket of its own.
-/

namespace KmtLegal.Js

/-! ## Numbers -/

def isNumberChar (c : Char) : Bool := isDigit c ∨ c ∈ ['+', '-', '.', 'e', 'E']

/-- A text of the form `String(number)` has for a finite number. -/
def isNumberText (s : String) : Bool := s ≠ "" ∧ s.toList.all isNumberChar

theorem isNumberText_nat (n : ℕ) : isNumberText (toString n) := by
  have hdigits : isDigits (toString n).toList := Nat.toList_repr ▸ isDigits_toDigits n
  obtain ⟨hne, hall⟩ := of_decide_eq_true hdigits
  refine decide_eq_true ⟨fun h ↦ hne (by rw [h]; rfl), List.all_eq_true.mpr fun c hc ↦ ?_⟩
  exact decide_eq_true (.inl (List.all_eq_true.mp hall c hc))

/-- A finite number, as `String` writes it. -/
structure Number where
  text : String
  isNumber : isNumberText text
  deriving DecidableEq

/-- No character of a number comes next. -/
def Ends (s : List Char) : Prop := ∀ c ∈ s.head?, ¬isNumberChar c

theorem ends_cons {c : Char} {s : List Char} (h : isNumberChar c = false) : Ends (c :: s) := by
  intro d hd
  obtain rfl := Option.some.inj hd
  rw [h]
  decide

theorem takeWhile_append_of_ends {l s : List Char} (hl : l.all isNumberChar) (hs : Ends s) :
    (l ++ s).takeWhile isNumberChar = l := by
  rw [List.takeWhile_append_of_pos (List.all_eq_true.mp hl)]
  cases s with
  | nil => rw [List.takeWhile_nil, List.append_nil]
  | cons c s => rw [List.takeWhile_cons_of_neg (hs c rfl), List.append_nil]

theorem number_append_inj {l m s t : List Char} (hl : l.all isNumberChar) (hm : m.all isNumberChar)
    (hs : Ends s) (ht : Ends t) (h : l ++ s = m ++ t) : l = m ∧ s = t := by
  have hlm : l = m := by
    rw [← takeWhile_append_of_ends hl hs, h, takeWhile_append_of_ends hm ht]
  subst hlm
  exact ⟨rfl, List.append_cancel_left h⟩

/-! ## Strings -/

def hexDigit (n : ℕ) : Char := if n < 10 then Char.ofNat (48 + n) else Char.ofNat (87 + n)

def hexValue (c : Char) : ℕ := if isDigit c then c.toNat - 48 else c.toNat - 87

theorem hexValue_hexDigit {n : ℕ} (h : n < 16) : hexValue (hexDigit n) = n := by
  have hall : ∀ n : Fin 16, hexValue (hexDigit n) = n := by decide
  exact hall ⟨n, h⟩

/-- What stands for one character between quotation marks. -/
def escapeChar (c : Char) : List Char :=
  if c = '\x22' then ['\x5c', '\x22']
  else if c = '\x5c' then ['\x5c', '\x5c']
  else if c = '\x08' then ['\x5c', 'b']
  else if c = '\x0c' then ['\x5c', 'f']
  else if c = '\n' then ['\x5c', 'n']
  else if c = '\r' then ['\x5c', 'r']
  else if c = '\t' then ['\x5c', 't']
  else if c.toNat < 32 then
    ['\x5c', 'u', '0', '0', hexDigit (c.toNat / 16), hexDigit (c.toNat % 16)]
  else [c]

/-- The character an escape sequence of one character stands for. -/
def unescapeChar (c : Char) : Char :=
  if c = 'b' then '\x08'
  else if c = 'f' then '\x0c'
  else if c = 'n' then '\n'
  else if c = 'r' then '\r'
  else if c = 't' then '\t'
  else c

/-- Reads one character between quotation marks. -/
def unescape : List Char → Option (Char × List Char)
  | [] => none
  | c :: s =>
    if c = '\x5c' then
      match s with
      | 'u' :: _ :: _ :: hi :: lo :: s => some (Char.ofNat (16 * hexValue hi + hexValue lo), s)
      | c :: s => some (unescapeChar c, s)
      | [] => none
    else some (c, s)

theorem unescape_escapeChar (c : Char) (s : List Char) :
    unescape (escapeChar c ++ s) = some (c, s) := by
  unfold escapeChar
  split_ifs with hquote hback hb hf hn hr ht hcontrol
  · rw [hquote]
    rfl
  · rw [hback]
    rfl
  · rw [hb]
    rfl
  · rw [hf]
    rfl
  · rw [hn]
    rfl
  · rw [hr]
    rfl
  · rw [ht]
    rfl
  · have hvalue : 16 * hexValue (hexDigit (c.toNat / 16)) + hexValue (hexDigit (c.toNat % 16)) =
        c.toNat := by
      rw [hexValue_hexDigit (by omega), hexValue_hexDigit (by omega), Nat.div_add_mod]
    simp only [List.cons_append, List.nil_append, unescape, if_true, hvalue, Char.ofNat_toNat]
  · simp only [List.cons_append, List.nil_append, unescape, if_neg hback]

theorem escapeChar_append_inj {c d : Char} {s t : List Char}
    (h : escapeChar c ++ s = escapeChar d ++ t) : c = d ∧ s = t := by
  have hread := congrArg unescape h
  rw [unescape_escapeChar, unescape_escapeChar] at hread
  exact Prod.mk.inj (Option.some.inj hread)

/-- An escaped character does not begin with a quotation mark. -/
theorem escapeChar_append_ne (c : Char) (s t : List Char) : escapeChar c ++ s ≠ '\x22' :: t := by
  intro h
  unfold escapeChar at h
  split_ifs at h with hquote <;> simp_all

/-- `JSON.stringify(s)` of a string. -/
def quoteChars (s : String) : List Char := '\x22' :: (s.toList.flatMap escapeChar ++ ['\x22'])

theorem escaped_append_inj {l m s t : List Char}
    (h : l.flatMap escapeChar ++ '\x22' :: s = m.flatMap escapeChar ++ '\x22' :: t) :
    l = m ∧ s = t := by
  induction l generalizing m with
  | nil =>
    cases m with
    | nil => exact ⟨rfl, (List.cons.inj h).2⟩
    | cons d m =>
      rw [List.flatMap_nil, List.nil_append, List.flatMap_cons, List.append_assoc] at h
      exact absurd h.symm (escapeChar_append_ne d _ s)
  | cons c l ih =>
    cases m with
    | nil =>
      rw [List.flatMap_nil, List.nil_append, List.flatMap_cons, List.append_assoc] at h
      exact absurd h (escapeChar_append_ne c _ t)
    | cons d m =>
      rw [List.flatMap_cons, List.flatMap_cons, List.append_assoc, List.append_assoc] at h
      obtain ⟨rfl, hrest⟩ := escapeChar_append_inj h
      obtain ⟨rfl, rfl⟩ := ih hrest
      exact ⟨rfl, rfl⟩

theorem quoteChars_append_inj {a b : String} {s t : List Char}
    (h : quoteChars a ++ s = quoteChars b ++ t) : a = b ∧ s = t := by
  simp only [quoteChars, List.cons_append, List.append_assoc, List.nil_append, List.cons.injEq,
    true_and] at h
  obtain ⟨hab, hst⟩ := escaped_append_inj h
  exact ⟨String.toList_inj.mp hab, hst⟩

/-! ## Values -/

namespace Json

mutual

/-- The characters of `JSON.stringify(value)`. -/
def chars : Json → List Char
  | null => ['n', 'u', 'l', 'l']
  | bool b => if b then ['t', 'r', 'u', 'e'] else ['f', 'a', 'l', 's', 'e']
  | num text => text.toList
  | str s => quoteChars s
  | arr [] => ['[', ']']
  | arr (item :: items) => '[' :: (chars item ++ itemChars items)
  | obj [] => ['\x7b', '\x7d']
  | obj ((key, value) :: fields) =>
    '\x7b' :: (quoteChars key ++ ':' :: (chars value ++ fieldChars fields))

/-- The items after the first one. -/
def itemChars : List Json → List Char
  | [] => [']']
  | item :: items => ',' :: (chars item ++ itemChars items)

/-- The fields after the first one. -/
def fieldChars : List (String × Json) → List Char
  | [] => ['\x7d']
  | (key, value) :: fields => ',' :: (quoteChars key ++ ':' :: (chars value ++ fieldChars fields))

end

/-- `JSON.stringify(value)`. -/
def stringify (value : Json) : String := String.ofList (chars value)

mutual

/-- All numbers in the value are finite numbers. -/
def numeric : Json → Bool
  | null | bool _ | str _ => true
  | num text => isNumberText text
  | arr items => itemsNumeric items
  | obj fields => fieldsNumeric fields

def itemsNumeric : List Json → Bool
  | [] => true
  | item :: items => numeric item && itemsNumeric items

def fieldsNumeric : List (String × Json) → Bool
  | [] => true
  | (_, value) :: fields => numeric value && fieldsNumeric fields

end

/-- What kind of value a text begins, by its first character. -/
def kindOfChar (c : Char) : ℕ :=
  if c = 'n' then 0 else if c = 't' then 1 else if c = 'f' then 2 else if isNumberChar c then 3
  else if c = '\x22' then 4 else if c = '[' then 5 else if c = '\x7b' then 6 else 7

def kind : Json → ℕ
  | null => 0
  | bool b => if b then 1 else 2
  | num _ => 3
  | str _ => 4
  | arr _ => 5
  | obj _ => 6

theorem kindOfChar_of_isNumberChar {c : Char} (h : isNumberChar c) : kindOfChar c = 3 := by
  have hne : ∀ d, isNumberChar d = false → c ≠ d := by
    rintro d hd rfl
    rw [h] at hd
    cases hd
  unfold kindOfChar
  rw [if_neg (hne 'n' (by decide)), if_neg (hne 't' (by decide)), if_neg (hne 'f' (by decide)),
    if_pos h]

/-- The first character of a value's text says what kind of value it is. -/
theorem chars_eq_cons {a : Json} (h : a.numeric) :
    ∃ c l, chars a = c :: l ∧ kindOfChar c = a.kind := by
  match a with
  | null => exact ⟨_, _, rfl, by decide⟩
  | bool true => exact ⟨_, _, rfl, by decide⟩
  | bool false => exact ⟨_, _, rfl, by decide⟩
  | num text =>
    have hnumber : text ≠ "" ∧ text.toList.all isNumberChar := of_decide_eq_true h
    cases htext : text.toList with
    | nil => exact absurd (String.toList_eq_nil_iff.mp htext) hnumber.1
    | cons c l =>
      have hall := hnumber.2
      rw [htext, List.all_cons, Bool.and_eq_true] at hall
      exact ⟨c, l, htext, kindOfChar_of_isNumberChar hall.1⟩
  | str s => exact ⟨_, _, rfl, show kindOfChar '\x22' = 4 by decide⟩
  | arr [] => exact ⟨_, _, rfl, by decide⟩
  | arr (_ :: _) => exact ⟨_, _, by rw [chars], show kindOfChar '[' = 5 by decide⟩
  | obj [] => exact ⟨_, _, rfl, by decide⟩
  | obj ((_, _) :: _) => exact ⟨_, _, by rw [chars], show kindOfChar '\x7b' = 6 by decide⟩

theorem kind_eq_of_append_eq {a b : Json} (ha : a.numeric) (hb : b.numeric) {s t : List Char}
    (h : chars a ++ s = chars b ++ t) : a.kind = b.kind := by
  obtain ⟨c, l, hl, hc⟩ := chars_eq_cons ha
  obtain ⟨d, m, hm, hd⟩ := chars_eq_cons hb
  rw [hl, hm] at h
  rw [← hc, ← hd, (List.cons.inj h).1]

/-- A text that closes a bracket begins no value. -/
theorem chars_append_ne {a : Json} (h : a.numeric) {c : Char} (hc : kindOfChar c = 7)
    (s t : List Char) : chars a ++ s ≠ c :: t := by
  intro heq
  obtain ⟨d, l, hl, hd⟩ := chars_eq_cons h
  rw [hl] at heq
  rw [(List.cons.inj heq).1, hc] at hd
  cases a with
  | bool b => cases b <;> cases hd
  | _ => cases hd

theorem ends_itemChars (items : List Json) (s : List Char) : Ends (itemChars items ++ s) := by
  cases items with
  | nil => exact ends_cons (by decide)
  | cons _ _ =>
    rw [itemChars]
    exact ends_cons (by decide)

theorem ends_fieldChars (fields : List (String × Json)) (s : List Char) :
    Ends (fieldChars fields ++ s) := by
  cases fields with
  | nil => exact ends_cons (by decide)
  | cons _ _ =>
    rw [fieldChars]
    exact ends_cons (by decide)

mutual

/-- The text of a value ends where it ends. -/
theorem chars_append_inj : ∀ (a b : Json), a.numeric → b.numeric → ∀ s t, Ends s → Ends t →
    chars a ++ s = chars b ++ t → a = b ∧ s = t
  | null, b, ha, hb, s, t, hs, ht, h => by
    have hkind := kind_eq_of_append_eq ha hb h
    cases b with
    | null => exact ⟨rfl, List.append_cancel_left h⟩
    | bool b => cases b <;> cases hkind
    | _ => cases hkind
  | bool b', b, ha, hb, s, t, hs, ht, h => by
    have hkind := kind_eq_of_append_eq ha hb h
    cases b with
    | bool b => cases b' <;> cases b <;>
        first | exact ⟨rfl, List.append_cancel_left h⟩ | cases hkind
    | _ => cases b' <;> cases hkind
  | num text, b, ha, hb, s, t, hs, ht, h => by
    have hkind := kind_eq_of_append_eq ha hb h
    cases b with
    | num text' =>
      have hall : text ≠ "" ∧ text.toList.all isNumberChar := of_decide_eq_true ha
      have hall' : text' ≠ "" ∧ text'.toList.all isNumberChar := of_decide_eq_true hb
      obtain ⟨htext, hst⟩ := number_append_inj hall.2 hall'.2 hs ht h
      exact ⟨congrArg _ (String.toList_inj.mp htext), hst⟩
    | bool b => cases b <;> cases hkind
    | _ => cases hkind
  | str x, b, ha, hb, s, t, hs, ht, h => by
    have hkind := kind_eq_of_append_eq ha hb h
    cases b with
    | str y =>
      obtain ⟨hxy, hst⟩ := quoteChars_append_inj h
      exact ⟨congrArg _ hxy, hst⟩
    | bool b => cases b <;> cases hkind
    | _ => cases hkind
  | arr [], b, ha, hb, s, t, hs, ht, h => by
    have hkind := kind_eq_of_append_eq ha hb h
    match b with
    | arr [] => exact ⟨rfl, List.append_cancel_left h⟩
    | arr (y :: ys) =>
      rw [chars, chars] at h
      simp only [List.cons_append, List.append_assoc, List.nil_append, List.cons.injEq,
        true_and] at h
      rw [numeric, itemsNumeric, Bool.and_eq_true] at hb
      exact absurd h.symm (chars_append_ne hb.1 (by decide) _ _)
    | bool b => cases b <;> cases hkind
    | null | num _ | str _ | obj _ => cases hkind
  | arr (x :: xs), b, ha, hb, s, t, hs, ht, h => by
    have hkind := kind_eq_of_append_eq ha hb h
    rw [numeric, itemsNumeric, Bool.and_eq_true] at ha
    match b with
    | arr [] =>
      rw [chars, chars] at h
      simp only [List.cons_append, List.append_assoc, List.nil_append, List.cons.injEq,
        true_and] at h
      exact absurd h (chars_append_ne ha.1 (by decide) _ _)
    | arr (y :: ys) =>
      rw [numeric, itemsNumeric, Bool.and_eq_true] at hb
      rw [chars, chars] at h
      simp only [List.cons_append, List.append_assoc, List.cons.injEq, true_and] at h
      obtain ⟨rfl, hrest⟩ := chars_append_inj x y ha.1 hb.1 _ _ (ends_itemChars xs s)
        (ends_itemChars ys t) h
      obtain ⟨rfl, hst⟩ := itemChars_append_inj xs ys ha.2 hb.2 s t hrest
      exact ⟨rfl, hst⟩
    | bool b => cases b <;> cases hkind
    | null | num _ | str _ | obj _ => cases hkind
  | obj [], b, ha, hb, s, t, hs, ht, h => by
    have hkind := kind_eq_of_append_eq ha hb h
    match b with
    | obj [] => exact ⟨rfl, List.append_cancel_left h⟩
    | obj ((_, _) :: _) =>
      rw [chars, chars] at h
      simp [quoteChars] at h
    | bool b => cases b <;> cases hkind
    | null | num _ | str _ | arr _ => cases hkind
  | obj ((key, value) :: fields), b, ha, hb, s, t, hs, ht, h => by
    have hkind := kind_eq_of_append_eq ha hb h
    match b with
    | obj [] =>
      rw [chars, chars] at h
      simp [quoteChars] at h
    | obj ((key', value') :: fields') =>
      rw [numeric, fieldsNumeric, Bool.and_eq_true] at ha hb
      rw [chars, chars] at h
      simp only [List.cons_append, List.append_assoc, List.cons.injEq, true_and] at h
      obtain ⟨rfl, hvalue⟩ := quoteChars_append_inj h
      obtain ⟨rfl, hrest⟩ := chars_append_inj value value' ha.1 hb.1 _ _
        (ends_fieldChars fields s) (ends_fieldChars fields' t) (List.cons.inj hvalue).2
      obtain ⟨rfl, hst⟩ := fieldChars_append_inj fields fields' ha.2 hb.2 s t hrest
      exact ⟨rfl, hst⟩
    | bool b => cases b <;> cases hkind
    | null | num _ | str _ | arr _ => cases hkind

theorem itemChars_append_inj : ∀ (xs ys : List Json), itemsNumeric xs → itemsNumeric ys →
    ∀ s t, itemChars xs ++ s = itemChars ys ++ t → xs = ys ∧ s = t
  | [], [], _, _, s, t, h => ⟨rfl, List.append_cancel_left h⟩
  | [], _ :: _, _, _, s, t, h => by simp [itemChars] at h
  | _ :: _, [], _, _, s, t, h => by simp [itemChars] at h
  | x :: xs, y :: ys, hx, hy, s, t, h => by
    rw [itemsNumeric, Bool.and_eq_true] at hx hy
    rw [itemChars, itemChars] at h
    simp only [List.cons_append, List.append_assoc, List.cons.injEq, true_and] at h
    obtain ⟨rfl, hrest⟩ := chars_append_inj x y hx.1 hy.1 _ _ (ends_itemChars xs s)
      (ends_itemChars ys t) h
    obtain ⟨rfl, hst⟩ := itemChars_append_inj xs ys hx.2 hy.2 s t hrest
    exact ⟨rfl, hst⟩

theorem fieldChars_append_inj : ∀ (xs ys : List (String × Json)), fieldsNumeric xs →
    fieldsNumeric ys → ∀ s t, fieldChars xs ++ s = fieldChars ys ++ t → xs = ys ∧ s = t
  | [], [], _, _, s, t, h => ⟨rfl, List.append_cancel_left h⟩
  | [], (_, _) :: _, _, _, s, t, h => by simp [fieldChars] at h
  | (_, _) :: _, [], _, _, s, t, h => by simp [fieldChars] at h
  | (key, x) :: xs, (key', y) :: ys, hx, hy, s, t, h => by
    rw [fieldsNumeric, Bool.and_eq_true] at hx hy
    rw [fieldChars, fieldChars] at h
    simp only [List.cons_append, List.append_assoc, List.cons.injEq, true_and] at h
    obtain ⟨rfl, hvalue⟩ := quoteChars_append_inj h
    obtain ⟨rfl, hrest⟩ := chars_append_inj x y hx.1 hy.1 _ _ (ends_fieldChars xs s)
      (ends_fieldChars ys t) (List.cons.inj hvalue).2
    obtain ⟨rfl, hst⟩ := fieldChars_append_inj xs ys hx.2 hy.2 s t hrest
    exact ⟨rfl, hst⟩

end

/-- The text determines the value. -/
theorem stringify_inj {a b : Json} (ha : a.numeric) (hb : b.numeric)
    (h : a.stringify = b.stringify) : a = b := by
  have hchars : chars a ++ [] = chars b ++ [] := by
    rw [List.append_nil, List.append_nil]
    exact String.ofList_inj.mp h
  exact (chars_append_inj a b ha hb [] [] nofun nofun hchars).1

end Json

end KmtLegal.Js
