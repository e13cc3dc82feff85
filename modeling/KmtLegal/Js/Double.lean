import KmtLegal.Js.Text
import Mathlib.Data.Nat.Log
import Mathlib.Tactic.NormNum

/-!
# Whole numbers in double precision

A JavaScript number has 53 significant bits.  Of the natural numbers, those up to `2 ^ 53` are all
there; further on a result is rounded to the nearest that is there, and of two equally near ones to
the even one.
-/

namespace KmtLegal.Js

/-- The double nearest to a natural number, below the largest double. -/
def roundDouble (n : ℕ) : ℕ :=
  if n < 2 ^ 53 then n
  else
    let ulp := 2 ^ (Nat.log 2 n - 52)
    let q := n / ulp
    let r := n % ulp
    (if 2 * r < ulp ∨ (2 * r = ulp ∧ q % 2 = 0) then q else q + 1) * ulp

/-- `Number(text)` for a string of digits; `none` is `Infinity`, which is no integer. -/
def digitsNumber (digits : List Char) : Option ℕ :=
  let value := roundDouble (digitsValue digits)
  if Nat.log 2 value < 1024 then some value else none

/-- The decimal with the fewest digits that determines a double, and of those the nearest: `u` is
the unit of the last digit that is kept. -/
def shortestDecimal (x : ℕ) : ℕ :=
  let candidates := (List.range 17).filterMap fun k ↦
    let u := 10 ^ ((toString x).length - (k + 1))
    let below := x / u * u
    let above := below + u
    let fitting := [below, above].filter fun v ↦ roundDouble v = x
    if fitting = [] then none
    else if fitting = [above] ∨ (fitting ≠ [below] ∧ above - x < x - below) then some above
    else some below
  candidates.headD x

/-- `String(number)` for a whole number.  Up to `2 ^ 54` it is written in full, and further on by
its shortest decimal, from `10 ^ 21` on with an exponent. -/
def wholeText (x : ℕ) : String :=
  if x ≤ 2 ^ 54 then toString x
  else
    let digits := (toString (shortestDecimal x)).toList
    if shortestDecimal x < 10 ^ 21 then String.ofList digits
    else
      let fraction := (digits.drop 1).rdropWhile (· = '0')
      String.ofList (digits.take 1 ++ (if fraction = [] then [] else '.' :: fraction) ++ ['e', '+']) ++
        toString (digits.length - 1)

theorem roundDouble_of_lt {n : ℕ} (h : n < 2 ^ 53) : roundDouble n = n := if_pos h

/-- Between `2 ^ 53` and `2 ^ 54` every other number is a double. -/
theorem roundDouble_of_le {n : ℕ} (h : 2 ^ 53 ≤ n) (h' : n < 2 ^ 54) :
    roundDouble n = if n % 4 = 1 then n - 1 else if n % 4 = 3 then n + 1 else n := by
  have hlog : Nat.log 2 n = 53 := (Nat.log_eq_iff (.inl (by decide))).mpr ⟨h, h'⟩
  rw [roundDouble, if_neg (not_lt.mpr h), hlog]
  norm_num
  split_ifs <;> omega

theorem roundDouble_mono {m n : ℕ} (h : m ≤ n) (hn : n < 2 ^ 54) : roundDouble m ≤ roundDouble n := by
  by_cases hm' : m < 2 ^ 53
  · rw [roundDouble_of_lt hm']
    by_cases hn' : n < 2 ^ 53
    · rw [roundDouble_of_lt hn']
      exact h
    · rw [roundDouble_of_le (not_lt.mp hn') hn]
      split_ifs <;> omega
  · rw [roundDouble_of_le (not_lt.mp hm') (by omega), roundDouble_of_le (by omega) hn]
    split_ifs <;> omega

theorem roundDouble_le {n : ℕ} (h : n < 2 ^ 54) : roundDouble n ≤ 2 ^ 54 := by
  by_cases hn : n < 2 ^ 53
  · rw [roundDouble_of_lt hn]
    omega
  · rw [roundDouble_of_le (not_lt.mp hn) h]
    split_ifs <;> omega

theorem log_roundDouble {n : ℕ} (h : n < 2 ^ 54) : Nat.log 2 (roundDouble n) < 1024 :=
  (Nat.log_mono_right (roundDouble_le h)).trans_lt (by rw [Nat.log_pow (by decide)]; decide)

theorem one_le_roundDouble {n : ℕ} (h : 1 ≤ n) : 1 ≤ roundDouble n := by
  by_cases hn : n < 2 ^ 53
  · rwa [roundDouble_of_lt hn]
  · have hulp : 2 ^ (Nat.log 2 n - 52) ≤ n :=
      (Nat.pow_le_pow_right (by decide) (Nat.sub_le _ _)).trans (Nat.pow_log_le_self 2 (by omega))
    have hq : 1 ≤ n / 2 ^ (Nat.log 2 n - 52) :=
      (Nat.one_le_div_iff (Nat.pow_pos (by decide))).mpr hulp
    rw [roundDouble, if_neg hn]
    refine Nat.mul_pos ?_ (Nat.pow_pos (by decide))
    split_ifs <;> omega

/-- What adding one comes to. -/
theorem lt_add_one_rounded_iff {n : ℕ} (h : n < 2 ^ 54) :
    n < roundDouble (roundDouble n + 1) ↔ n < 2 ^ 53 ∨ n % 4 = 2 ∨ n % 4 = 3 := by
  by_cases hn : n < 2 ^ 53
  · rw [roundDouble_of_lt hn]
    refine ⟨fun _ ↦ .inl hn, fun _ ↦ ?_⟩
    by_cases hnext : n + 1 < 2 ^ 53
    · rw [roundDouble_of_lt hnext]
      exact Nat.lt_succ_self n
    · rw [roundDouble_of_le (not_lt.mp hnext) (by omega)]
      split_ifs <;> omega
  · by_cases hlast : n = 2 ^ 54 - 1
    · subst hlast
      decide +kernel
    · have hnear := roundDouble_of_le (not_lt.mp hn) h
      have hbound : roundDouble n + 1 < 2 ^ 54 := by
        rw [hnear]
        split_ifs <;> omega
      rw [roundDouble_of_le (by rw [hnear]; split_ifs <;> omega) hbound, hnear]
      split_ifs <;> omega

theorem roundDouble_add_one_le {n : ℕ} (h : n ≤ 2 ^ 54) : roundDouble (n + 1) ≤ 2 ^ 54 := by
  by_cases hn : n + 1 < 2 ^ 54
  · exact roundDouble_le hn
  · by_cases hlast : n + 1 = 2 ^ 54
    · rw [hlast]
      decide +kernel
    · obtain rfl : n = 2 ^ 54 := by omega
      decide +kernel

example : [2 ^ 53 + 1, 2 ^ 53 + 3, 2 ^ 60].map roundDouble = [2 ^ 53, 2 ^ 53 + 4, 2 ^ 60] ∧
    [2 ^ 60, 10 ^ 21, 12 * 10 ^ 22].map (fun n ↦ wholeText (roundDouble n)) =
      ["1152921504606847000", "1e+21", "1.2e+23"] := by
  decide +kernel

end KmtLegal.Js
