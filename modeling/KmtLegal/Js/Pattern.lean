import KmtLegal.Js.Text
import Mathlib.Computability.RegularExpressions

/-!
# JavaScript patterns

The building blocks of the regular expressions the server code uses, and the search of one in a
text.
-/

namespace KmtLegal.Js

open RegularExpression

/-- The text itself. -/
def literally (s : String) : RegularExpression Char :=
  s.toList.foldr (fun c r ↦ char c * r) 1

/-- `(?:a|b|…)`. -/
def oneOf (l : List String) : RegularExpression Char :=
  l.foldr (fun s r ↦ literally s + r) 0

/-- `[…]`. -/
def anyOf (l : List Char) : RegularExpression Char := l.foldr (fun c r ↦ char c + r) 0

/-- `(?:…)?`. -/
def maybe (r : RegularExpression Char) : RegularExpression Char := 1 + r

/-- `(?:…){n,}`. -/
def atLeast (n : ℕ) (r : RegularExpression Char) : RegularExpression Char := r ^ n * star r

/-- `\s`. -/
def spaceChars : List Char :=
  [0x09, 0x0a, 0x0b, 0x0c, 0x0d, 0x20, 0xa0, 0x1680, 0x2000, 0x2001, 0x2002, 0x2003, 0x2004, 0x2005,
    0x2006, 0x2007, 0x2008, 0x2009, 0x200a, 0x2028, 0x2029, 0x202f, 0x205f, 0x3000, 0xfeff].map
    Char.ofNat

/-- `\b` between the texts. -/
def isWordBoundary (before after : List Char) : Bool :=
  before.getLast?.any isWordChar ≠ after.head?.any isWordChar

/-- `/…/.test(text)`; with `words` it is `/\b…\b/`. -/
def searches (r : RegularExpression Char) (words : Bool) (text : List Char) : Bool :=
  (List.range (text.length + 1)).any fun i ↦
    (List.range (text.length - i + 1)).any fun n ↦
      r.rmatch ((text.drop i).take n) ∧ (words → isWordBoundary (text.take i) (text.drop i) ∧
        isWordBoundary (text.take (i + n)) (text.drop (i + n)))

end KmtLegal.Js
