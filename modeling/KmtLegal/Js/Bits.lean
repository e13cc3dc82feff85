import Mathlib

/-!
# Bits

Numbers as bits, the highest first, and bits in groups: what is left of a text of bits when it is cut
into groups that are filled up with zeros, or into groups of which only full ones count.
-/

namespace KmtLegal.Js

/-! ## Digits -/

/-- `n.toString(2).padStart(width, "0")` of a number below `2 ^ width`. -/
def binary : (width n : ℕ) → List Bool
  | 0, _ => []
  | width + 1, n => binary width (n / 2) ++ [decide (n % 2 = 1)]

/-- `Number.parseInt(bits, 2)`. -/
def binaryValue (bits : List Bool) : ℕ := bits.foldl (fun n bit ↦ 2 * n + bit.toNat) 0

@[simp] theorem binaryValue_nil : binaryValue [] = 0 := rfl

@[simp] theorem binaryValue_concat (bits : List Bool) (bit : Bool) :
    binaryValue (bits ++ [bit]) = 2 * binaryValue bits + bit.toNat := by
  simp [binaryValue]

@[simp] theorem length_binary (width n : ℕ) : (binary width n).length = width := by
  induction width generalizing n with
  | zero => rfl
  | succ width ih => rw [binary, List.length_append, ih, List.length_singleton]

/-- Bits that are written and read. -/
theorem binaryValue_binary (width n : ℕ) : binaryValue (binary width n) = n % 2 ^ width := by
  induction width generalizing n with
  | zero => simp [binary, Nat.mod_one]
  | succ width ih =>
    have hbit : (decide (n % 2 = 1)).toNat = n % 2 := by
      rcases Nat.mod_two_eq_zero_or_one n with h | h <;> simp [h]
    rw [binary, binaryValue_concat, ih, hbit, pow_succ', Nat.mod_mul, add_comm]

/-- Bits that are read and written. -/
theorem binary_binaryValue (bits : List Bool) : binary bits.length (binaryValue bits) = bits := by
  induction bits using List.reverseRecOn with
  | nil => rfl
  | append_singleton bits bit ih =>
    have hhalf : (2 * binaryValue bits + bit.toNat) / 2 = binaryValue bits := by
      cases bit <;> simp only [Bool.toNat_false, Bool.toNat_true] <;> omega
    have hbit : decide ((2 * binaryValue bits + bit.toNat) % 2 = 1) = bit := by
      cases bit <;> simp only [Bool.toNat_false, Bool.toNat_true, decide_eq_true_eq,
        decide_eq_false_iff_not] <;> omega
    rw [List.length_append, List.length_singleton, binaryValue_concat, binary, hhalf, hbit, ih]

theorem binaryValue_lt (bits : List Bool) : binaryValue bits < 2 ^ bits.length := by
  have hmod := binaryValue_binary bits.length (binaryValue bits)
  rw [binary_binaryValue] at hmod
  rw [hmod]
  exact Nat.mod_lt _ (Nat.two_pow_pos _)

/-! ## Groups -/

/-- Groups of five; the last is filled up with zeros. -/
def quintets : List Bool → List ℕ
  | a :: b :: c :: d :: e :: bits => binaryValue [a, b, c, d, e] :: quintets bits
  | [] => []
  | bits => [binaryValue (bits.rightpad 5 false)]

/-- Groups of eight; bits that do not fill one are dropped. -/
def octets : List Bool → List ℕ
  | a :: b :: c :: d :: e :: f :: g :: h :: bits =>
    binaryValue [a, b, c, d, e, f, g, h] :: octets bits
  | _ => []

/-- A text that does not begin with a group is filled up to one. -/
theorem length_lt_of_not_full {bits : List Bool}
    (h : ∀ a b c d e rest, bits ≠ a :: b :: c :: d :: e :: rest) : bits.length < 5 := by
  by_contra hlong
  match bits, hlong with
  | a :: b :: c :: d :: e :: rest, _ => exact h a b c d e rest rfl
  | [], hlong | [_], hlong | [_, _], hlong | [_, _, _], hlong | [_, _, _, _], hlong =>
    simp at hlong

theorem quintets_rest {bits : List Bool}
    (h : ∀ a b c d e rest, bits ≠ a :: b :: c :: d :: e :: rest) (hne : bits ≠ []) :
    quintets bits = [binaryValue (bits ++ List.replicate (5 - bits.length) false)] := by
  rw [quintets, List.rightpad]
  · exact h
  · exact hne

theorem quintets_lt (bits : List Bool) : ∀ n ∈ quintets bits, n < 32 := by
  induction bits using quintets.induct with
  | case1 a b c d e bits ih =>
    intro n hn
    rcases List.mem_cons.mp hn with rfl | hn
    · exact binaryValue_lt [a, b, c, d, e]
    · exact ih n hn
  | case2 => exact nofun
  | case3 bits hfull hnil =>
    intro n hn
    rw [quintets_rest hfull hnil] at hn
    obtain rfl := List.mem_singleton.mp hn
    have hlength := length_lt_of_not_full hfull
    have hlt := binaryValue_lt (bits ++ List.replicate (5 - bits.length) false)
    rw [List.length_append, List.length_replicate, Nat.add_sub_cancel' hlength.le] at hlt
    exact hlt

/-- The bits of the groups are the bits, and up to four zeros. -/
theorem exists_flatMap_quintets (bits : List Bool) :
    ∃ k < 5, (quintets bits).flatMap (binary 5) = bits ++ List.replicate k false := by
  induction bits using quintets.induct with
  | case1 a b c d e bits ih =>
    obtain ⟨k, hk, hbits⟩ := ih
    refine ⟨k, hk, ?_⟩
    rw [quintets, List.flatMap_cons, hbits]
    exact congrArg (· ++ (bits ++ List.replicate k false)) (binary_binaryValue [a, b, c, d, e])
  | case2 => exact ⟨0, by decide, rfl⟩
  | case3 bits hfull hnil =>
    have hlength := length_lt_of_not_full hfull
    have hpos := List.length_pos_iff.mpr hnil
    have hbits := binary_binaryValue (bits ++ List.replicate (5 - bits.length) false)
    rw [List.length_append, List.length_replicate, Nat.add_sub_cancel' hlength.le] at hbits
    refine ⟨5 - bits.length, by omega, ?_⟩
    rw [quintets_rest hfull hnil, List.flatMap_singleton, hbits]

/-- Groups of eight are read off, whatever follows. -/
theorem octets_append {n : ℕ} (hn : n < 256) (bits : List Bool) :
    octets (binary 8 n ++ bits) = n :: octets bits := by
  have hvalue := binaryValue_binary 8 n
  rw [Nat.mod_eq_of_lt (show n < 2 ^ 8 from hn)] at hvalue
  show binaryValue (binary 8 n) :: octets bits = _
  rw [hvalue]

theorem octets_of_lt {bits : List Bool} (h : bits.length < 8) : octets bits = [] := by
  unfold octets
  split
  · simp only [List.length_cons] at h
    omega
  · rfl

end KmtLegal.Js
