import Mathlib

/-!
# JavaScript strings

The string operations the server code uses, on lists of characters.  Comparisons are the only
use made of a converted string, and every string compared against is ASCII, so the case
conversions spell out exactly the characters whose conversion produces an ASCII letter; any
other character outside ASCII stays outside ASCII and is left alone.
-/

namespace KmtLegal.Js

/-- White space and line terminators, as `String.prototype.trim` removes them. -/
def isSpace (c : Char) : Bool :=
  c.toNat ∈ [0x09, 0x0a, 0x0b, 0x0c, 0x0d, 0x20, 0xa0, 0x1680, 0x2000, 0x2001, 0x2002, 0x2003,
    0x2004, 0x2005, 0x2006, 0x2007, 0x2008, 0x2009, 0x200a, 0x2028, 0x2029, 0x202f, 0x205f,
    0x3000, 0xfeff]

/-- `s.trim()`. -/
def trim (s : String) : String :=
  String.ofList ((s.toList.dropWhile isSpace).rdropWhile isSpace)

/-- The upper-case form of one character; ligatures expand to several. -/
def upperChar (c : Char) : List Char :=
  match c.toNat with
  | 0xdf => ['S', 'S']
  | 0x131 => ['I']
  | 0x17f => ['S']
  | 0xfb00 => ['F', 'F']
  | 0xfb01 => ['F', 'I']
  | 0xfb02 => ['F', 'L']
  | 0xfb03 => ['F', 'F', 'I']
  | 0xfb04 => ['F', 'F', 'L']
  | 0xfb05 => ['S', 'T']
  | 0xfb06 => ['S', 'T']
  | _ => [c.toUpper]

/-- `s.toUpperCase()`. -/
def toUpperCase (s : String) : String := String.ofList (s.toList.flatMap upperChar)

/-- The lower-case form of one character; the dotted capital I becomes two. -/
def lowerChar (c : Char) : List Char :=
  match c.toNat with
  | 0x130 => ['i', Char.ofNat 0x307]
  | 0x212a => ['k']
  | _ => [c.toLower]

/-- `s.toLowerCase()`. -/
def toLowerCase (s : String) : String := String.ofList (s.toList.flatMap lowerChar)

def isDigit (c : Char) : Bool := '0' ≤ c ∧ c ≤ '9'

/-- `/^\d+$/`. -/
def isDigits (l : List Char) : Bool := l ≠ [] ∧ l.all isDigit

/-- `/^\d+(\.\d{1,2})?$/`. -/
def isMoneyText (s : String) : Bool :=
  let whole := s.toList.takeWhile isDigit
  match s.toList.dropWhile isDigit with
  | [] => isDigits whole
  | c :: fraction => isDigits whole ∧ c = '.' ∧ isDigits fraction ∧ fraction.length ≤ 2

/-- A character of a word, as `\b` of a regular expression sees it. -/
def isWordChar (c : Char) : Bool := isDigit c ∨ ('a' ≤ c ∧ c ≤ 'z') ∨ ('A' ≤ c ∧ c ≤ 'Z') ∨ c = '_'

/-- `word`, which begins and ends with characters of a word, occurs in `l` between word boundaries;
`before` is whether the character before `l` is one of a word. -/
def hasWordFrom (word : List Char) (before : Bool) : List Char → Bool
  | [] => false
  | c :: l =>
    (!before && word.isPrefixOf (c :: l) && !((c :: l).drop word.length).head?.any isWordChar) ||
      hasWordFrom word (isWordChar c) l

/-- `/\bword\b/.test(s)`. -/
def hasWord (word s : String) : Bool := hasWordFrom word.toList false s.toList

/-- `s.padStart(n, "0")`. -/
def padStart (s : String) (n : ℕ) : String := String.ofList (s.toList.leftpad n '0')

/-- `Number.parseInt(s, 10)` of a string of digits. -/
def digitsValue (l : List Char) : ℕ := l.foldl (fun n c ↦ 10 * n + (c.toNat - '0'.toNat)) 0

theorem digitsValue_toDigits (n : ℕ) : digitsValue (Nat.toDigits 10 n) = n := by
  have h := Nat.ofDigitChars_toDigits (b := 10) (n := n) (by decide) le_rfl
  rwa [Nat.ofDigitChars_eq_foldl] at h

theorem isDigits_toDigits (n : ℕ) : isDigits (Nat.toDigits 10 n) := by
  have hall : ∀ c ∈ Nat.toDigits 10 n, isDigit c = true := by
    intro c hc
    have hdigit := Nat.isDigit_of_mem_toDigits (by decide) le_rfl hc
    simp only [Char.isDigit, Bool.and_eq_true, decide_eq_true_eq] at hdigit
    exact decide_eq_true hdigit
  exact decide_eq_true ⟨Nat.toDigits_ne_nil, List.all_eq_true.mpr hall⟩

/-- A whole number has a text of its own. -/
theorem natText_injective : Function.Injective (toString : ℕ → String) := by
  intro m n h
  have hdigits : Nat.toDigits 10 m = Nat.toDigits 10 n := by
    rw [← Nat.toList_repr, ← Nat.toList_repr]
    exact congrArg String.toList h
  rw [← digitsValue_toDigits m, hdigits, digitsValue_toDigits]

/-- `Number.parseInt(s, 10)`; `none` is `NaN`. -/
def parseInt (s : String) : Option ℤ :=
  let (sign, l) : ℤ × List Char :=
    match s.toList.dropWhile isSpace with
    | '-' :: l => (-1, l)
    | '+' :: l => (1, l)
    | l => (1, l)
  let digits := l.takeWhile isDigit
  if digits = [] then none else some (sign * digitsValue digits)

/-- `s.split(c)` at a character. -/
def split (s : String) (c : Char) : List String := (s.toList.splitOn c).map String.ofList

/-- `s.length`, in units of sixteen bits. -/
def length (s : String) : ℕ := (s.toList.map fun c ↦ if c.toNat < 65536 then 1 else 2).sum

/-- `s.startsWith(p)`. -/
def startsWith (s p : String) : Bool := p.toList.isPrefixOf s.toList

/-- `s.slice(0, n)`. -/
def sliceTo (s : String) (n : ℕ) : String := String.ofList (s.toList.take n)

/-- `a || b`, where the empty string is falsy. -/
def orElse (a b : String) : String := if a = "" then b else a

@[simp] theorem orElse_empty (b : String) : orElse "" b = b := rfl

theorem length_of_lt {s : String} (h : ∀ c ∈ s.toList, c.toNat < 65536) :
    length s = s.toList.length := by
  have hmap : s.toList.map (fun c ↦ if c.toNat < 65536 then 1 else 2) = s.toList.map fun _ ↦ 1 :=
    List.map_congr_left fun c hc ↦ if_pos (h c hc)
  rw [length, hmap, List.map_const', List.sum_replicate_nat, Nat.mul_one]

theorem startsWith_append (p s : String) : startsWith (p ++ s) p := by
  simp [startsWith, List.isPrefixOf_iff_prefix]

/-- `a || null`. -/
def orNull (a : Option String) : Option String := a.filter (· ≠ "")

example : toUpperCase (trim " egp ") = "EGP" := by decide

example : [" 90s", "-7", "s"].map parseInt = [some 90, some (-7), none] := by decide

example : hasWord "gateway" "the gateway." ∧ ¬hasWord "gateway" "gateways" := by decide

end KmtLegal.Js
