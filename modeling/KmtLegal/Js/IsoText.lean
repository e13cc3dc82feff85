import KmtLegal.Js.Date
import KmtLegal.Js.Text

/-!
# The text of a date

`date.toISOString()` of an instant.  It is no date of a form: it ends in `Z`.
-/

namespace KmtLegal.Js

open Scheduling

/-- The last `width` decimal digits of a number. -/
def paddedDigits : (width n : ℕ) → List Char
  | 0, _ => []
  | width + 1, n => paddedDigits width (n / 10) ++ [Char.ofNat (48 + n % 10)]

/-- The year of `toISOString`, with a sign and six digits outside of the years 0 to 9999. -/
def isoYear (year : ℤ) : List Char :=
  if 0 ≤ year ∧ year ≤ 9999 then paddedDigits 4 year.toNat
  else (if year < 0 then '-' else '+') :: paddedDigits 6 year.natAbs

/-- `new Date(t).toISOString()`. -/
def isoText (t : ℤ) : String :=
  let date := civilDate (t / 86400000)
  let millisecond := (t % 86400000).toNat
  String.ofList (isoYear date.year ++ ['-'] ++ paddedDigits 2 date.month.toNat ++ ['-'] ++
    paddedDigits 2 date.day.toNat ++ ['T'] ++ paddedDigits 2 (millisecond / 3600000) ++ [':'] ++
    paddedDigits 2 (millisecond / 60000 % 60) ++ [':'] ++
    paddedDigits 2 (millisecond / 1000 % 60) ++ ['.'] ++ paddedDigits 3 (millisecond % 1000) ++
    ['Z'])

example : isoText 1784667600000 = "2026-07-21T21:00:00.000Z" ∧
    isoText (-62198755200000) = "-000001-01-01T00:00:00.000Z" := by
  decide

/-- The digits of a text of the form `YYYY-MM-DD`. -/
def dateFields (value : String) : Option CivilDate :=
  match value.toList with
  | [a, b, c, d, '-', e, f, '-', g, h] =>
    if [a, b, c, d, e, f, g, h].all isDigit then
      some ⟨digitsValue [a, b, c, d], digitsValue [e, f], digitsValue [g, h]⟩
    else none
  | _ => none

example : dateFields "2026-07-21" = some ⟨2026, 7, 21⟩ ∧ dateFields "2026-7-21" = none := by
  decide

/-- A date is made of digits and hyphens. -/
theorem dateFields_eq_none {value : String} {c : Char} (hc : c ∈ value.toList)
    (hdigit : isDigit c = false) (hhyphen : c ≠ '-') : dateFields value = none := by
  unfold dateFields
  split
  · rename_i hvalue
    rw [if_neg]
    intro hall
    rw [hvalue] at hc
    rw [List.all_eq_true] at hall
    have hdigits : ∀ d ∈ value.toList, d = '-' ∨ isDigit d := by
      intro d hd
      rw [hvalue] at hd
      simp only [List.mem_cons, List.not_mem_nil, or_false] at hd hall
      rcases hd with rfl | rfl | rfl | rfl | rfl | rfl | rfl | rfl | rfl | rfl <;> simp [hall]
    rw [← hvalue] at hc
    rcases hdigits c hc with h | h
    · exact hhyphen h
    · rw [hdigit] at h
      cases h
  · rfl

/-- `trim` keeps what is at the end, unless it is a space. -/
theorem mem_trim_concat {l : List Char} {c : Char} (hc : isSpace c = false) :
    c ∈ (trim (String.ofList (l ++ [c]))).toList := by
  have hdrop : (l ++ [c]).dropWhile isSpace = l.dropWhile isSpace ++ [c] := by
    rw [List.dropWhile_append]
    split_ifs with hempty
    · rw [List.isEmpty_iff.mp hempty, List.nil_append, List.dropWhile_cons_of_neg]
      simp [hc]
    · rfl
  have hkept : (l.dropWhile isSpace ++ [c]).rdropWhile isSpace = l.dropWhile isSpace ++ [c] := by
    rw [List.rdropWhile_concat_neg]
    simp [hc]
  rw [trim, String.toList_ofList, String.toList_ofList, hdrop, hkept]
  exact List.mem_append_right _ List.mem_cons_self

/-- An instant is no date. -/
theorem dateFields_trim_isoText (t : ℤ) : dateFields (trim (isoText t)) = none :=
  dateFields_eq_none (mem_trim_concat rfl) (by decide) (by decide)

end KmtLegal.Js
