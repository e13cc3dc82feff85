import KmtLegal.Js.Stringify

/-!
# Buffers as text

`Buffer.from(text, "utf8")`, `buffer.toString("base64url")` and the way back, and digests in
hexadecimal.  Both alphabets of base 64 are read; padding ends a text, and characters of neither
alphabet are skipped.
-/

namespace KmtLegal.Js

/-! ## UTF-8 -/

def utf8 (s : String) : List UInt8 := s.toList.flatMap String.utf8EncodeChar

/-- The text of some bytes, if they are UTF-8. -/
def utf8Text (bytes : List UInt8) : Option String := String.fromUTF8? bytes.toByteArray

@[simp] theorem utf8Text_utf8 (s : String) : utf8Text (utf8 s) = some s := by
  have hbytes : (utf8 s).toByteArray = s.toByteArray := String.utf8Encode_toList
  unfold utf8Text String.fromUTF8?
  rw [hbytes, dif_pos s.isValidUTF8]
  rfl

/-! ## Base 64 -/

def sextetChar (n : ℕ) : Char :=
  if n < 26 then Char.ofNat (65 + n)
  else if n < 52 then Char.ofNat (71 + n)
  else if n < 62 then Char.ofNat (n - 4)
  else if n = 62 then '-'
  else '_'

def charSextet (c : Char) : Option ℕ :=
  if 'A' ≤ c ∧ c ≤ 'Z' then some (c.toNat - 65)
  else if 'a' ≤ c ∧ c ≤ 'z' then some (c.toNat - 71)
  else if isDigit c then some (c.toNat + 4)
  else if c = '-' ∨ c = '+' then some 62
  else if c = '_' ∨ c = '/' then some 63
  else none

/-- Every sextet has a character of its own, and none of them is a dot or padding. -/
theorem charSextet_sextetChar {n : ℕ} (h : n < 64) :
    charSextet (sextetChar n) = some n ∧ sextetChar n ≠ '.' ∧ sextetChar n ≠ '=' := by
  have hall : ∀ n : Fin 64, charSextet (sextetChar n) = some n.val ∧ sextetChar n ≠ '.' ∧
      sextetChar n ≠ '=' := by decide
  exact hall ⟨n, h⟩

/-- The bytes in groups of six bits. -/
def sextets : List UInt8 → List ℕ
  | [] => []
  | [a] => [a.toNat / 4, a.toNat % 4 * 16]
  | [a, b] => [a.toNat / 4, a.toNat % 4 * 16 + b.toNat / 16, b.toNat % 16 * 4]
  | a :: b :: c :: l =>
    a.toNat / 4 :: (a.toNat % 4 * 16 + b.toNat / 16) :: (b.toNat % 16 * 4 + c.toNat / 64) ::
      c.toNat % 64 :: sextets l

/-- The bytes of groups of six bits; bits that do not fill a byte are dropped. -/
def sextetBytes : List ℕ → List UInt8
  | w :: x :: y :: z :: l =>
    .ofNat (w * 4 + x / 16) :: .ofNat (x % 16 * 16 + y / 4) :: .ofNat (y % 4 * 64 + z) ::
      sextetBytes l
  | [w, x, y] => [.ofNat (w * 4 + x / 16), .ofNat (x % 16 * 16 + y / 4)]
  | [w, x] => [.ofNat (w * 4 + x / 16)]
  | _ => []

theorem sextets_lt (bytes : List UInt8) : ∀ n ∈ sextets bytes, n < 64 := by
  induction bytes using sextets.induct with
  | case1 => exact nofun
  | case2 a =>
    have ha := a.toNat_lt
    simp only [sextets, List.mem_cons, List.not_mem_nil, or_false]
    omega
  | case3 a b =>
    have ha := a.toNat_lt
    have hb := b.toNat_lt
    simp only [sextets, List.mem_cons, List.not_mem_nil, or_false]
    omega
  | case4 a b c l ih =>
    have ha := a.toNat_lt
    have hb := b.toNat_lt
    have hc := c.toNat_lt
    simp only [sextets, List.mem_cons]
    rintro n (rfl | rfl | rfl | rfl | hn)
    · omega
    · omega
    · omega
    · omega
    · exact ih n hn

theorem length_sextets (bytes : List UInt8) : (sextets bytes).length = (4 * bytes.length + 2) / 3 := by
  induction bytes using sextets.induct with
  | case1 | case2 _ | case3 _ _ => simp [sextets]
  | case4 a b c l ih =>
    simp only [sextets, List.length_cons, ih]
    omega

theorem sextetBytes_sextets (bytes : List UInt8) : sextetBytes (sextets bytes) = bytes := by
  have hofNat : ∀ (n : ℕ) (a : UInt8), n = a.toNat → UInt8.ofNat n = a := by
    rintro _ a rfl
    exact UInt8.ofNat_toNat
  induction bytes using sextets.induct with
  | case1 => rfl
  | case2 a =>
    have ha := a.toNat_lt
    rw [sextets, sextetBytes, hofNat _ a (by omega)]
  | case3 a b =>
    have ha := a.toNat_lt
    have hb := b.toNat_lt
    rw [sextets, sextetBytes, hofNat _ a (by omega), hofNat _ b (by omega)]
  | case4 a b c l ih =>
    have ha := a.toNat_lt
    have hb := b.toNat_lt
    have hc := c.toNat_lt
    rw [sextets, sextetBytes, hofNat _ a (by omega), hofNat _ b (by omega), hofNat _ c (by omega), ih]

/-- `buffer.toString("base64url")`. -/
def base64url (bytes : List UInt8) : String := String.ofList ((sextets bytes).map sextetChar)

/-- `Buffer.from(text, "base64url")`. -/
def base64urlBytes (text : String) : List UInt8 :=
  sextetBytes ((text.toList.takeWhile (· ≠ '=')).filterMap charSextet)

theorem mem_base64url {bytes : List UInt8} {c : Char} (h : c ∈ (base64url bytes).toList) :
    c ≠ '.' ∧ c ≠ '=' := by
  rw [base64url, String.toList_ofList, List.mem_map] at h
  obtain ⟨n, hn, rfl⟩ := h
  exact (charSextet_sextetChar (sextets_lt bytes n hn)).2

theorem lt_of_mem_base64url {bytes : List UInt8} {c : Char} (h : c ∈ (base64url bytes).toList) :
    c.toNat < 65536 := by
  have hall : ∀ n : Fin 64, (sextetChar n).toNat < 65536 := by decide
  rw [base64url, String.toList_ofList, List.mem_map] at h
  obtain ⟨n, hn, rfl⟩ := h
  exact hall ⟨n, sextets_lt bytes n hn⟩

@[simp] theorem base64urlBytes_base64url (bytes : List UInt8) :
    base64urlBytes (base64url bytes) = bytes := by
  have hnone : (base64url bytes).toList.takeWhile (· ≠ '=') = (base64url bytes).toList :=
    List.takeWhile_eq_self_iff.mpr fun c hc ↦ decide_eq_true (mem_base64url hc).2
  have hmap : ∀ l : List ℕ, (∀ n ∈ l, n < 64) → (l.map sextetChar).filterMap charSextet = l := by
    intro l hl
    rw [List.filterMap_map, List.filterMap_congr (g := some), List.filterMap_some]
    exact fun n hn ↦ (charSextet_sextetChar (hl n hn)).1
  rw [base64urlBytes, hnone, base64url, String.toList_ofList, hmap _ (sextets_lt bytes),
    sextetBytes_sextets]

theorem base64url_injective : Function.Injective base64url := fun a b h ↦ by
  rw [← base64urlBytes_base64url a, h, base64urlBytes_base64url]

theorem length_base64url (bytes : List UInt8) :
    (base64url bytes).toList.length = (4 * bytes.length + 2) / 3 := by
  rw [base64url, String.toList_ofList, List.length_map, length_sextets]

/-! ## Digests -/

def hexDigits : List Char :=
  ['0', '1', '2', '3', '4', '5', '6', '7', '8', '9', 'a', 'b', 'c', 'd', 'e', 'f']

/-- The bytes of a hexadecimal text. -/
def hexBytes : List Char → List UInt8
  | hi :: lo :: l => .ofNat (16 * hexValue hi + hexValue lo) :: hexBytes l
  | _ => []

/-- A digest of 32 bytes, in hexadecimal. -/
def isDigest (s : String) : Bool := s.toList.length = 64 ∧ s.toList.all (· ∈ hexDigits)

theorem hexValue_lt {c : Char} (h : c ∈ hexDigits) : hexValue c < 16 ∧ hexDigit (hexValue c) = c := by
  have hall : hexDigits.all fun c ↦ hexValue c < 16 ∧ hexDigit (hexValue c) = c := by decide +kernel
  exact of_decide_eq_true (List.all_eq_true.mp hall c h)

theorem length_hexBytes (l : List Char) : (hexBytes l).length = l.length / 2 := by
  induction l using hexBytes.induct with
  | case1 hi lo l ih =>
    simp only [hexBytes, List.length_cons, ih]
    omega
  | case2 l hl =>
    rcases l with _ | ⟨c, _ | ⟨d, l⟩⟩
    · rfl
    · simp [hexBytes]
    · exact (hl c d l rfl).elim

/-- Two texts of the same length with the same bytes are the same. -/
theorem hexBytes_inj : ∀ {l m : List Char}, (∀ c ∈ l, c ∈ hexDigits) → (∀ c ∈ m, c ∈ hexDigits) →
    l.length = m.length → l.length % 2 = 0 → hexBytes l = hexBytes m → l = m
  | [], [], _, _, _, _, _ => rfl
  | [], _ :: _, _, _, hlength, _, _ => by cases hlength
  | [c], _, _, _, _, heven, _ => by cases heven
  | _ :: _ :: _, [], _, _, hlength, _, _ => by cases hlength
  | _ :: _ :: _, [_], _, _, hlength, _, _ => by cases hlength
  | hi :: lo :: l, hi' :: lo' :: m, hl, hm, hlength, heven, h => by
    simp only [List.forall_mem_cons] at hl hm
    obtain ⟨hhi, hlo, hl⟩ := hl
    obtain ⟨hhi', hlo', hm⟩ := hm
    simp only [hexBytes, List.cons.injEq] at h
    obtain ⟨hbyte, hrest⟩ := h
    have hvalue := congrArg UInt8.toNat hbyte
    obtain ⟨h₁, e₁⟩ := hexValue_lt hhi
    obtain ⟨h₂, e₂⟩ := hexValue_lt hlo
    obtain ⟨h₃, e₃⟩ := hexValue_lt hhi'
    obtain ⟨h₄, e₄⟩ := hexValue_lt hlo'
    rw [UInt8.toNat_ofNat', UInt8.toNat_ofNat'] at hvalue
    have hhigh : hexValue hi = hexValue hi' := by omega
    have hlow : hexValue lo = hexValue lo' := by omega
    have heven' : l.length % 2 = 0 := by
      simp only [List.length_cons] at heven
      omega
    rw [← e₁, ← e₂, ← e₃, ← e₄, hhigh, hlow,
      hexBytes_inj hl hm (by simpa using hlength) heven' hrest]

example : base64url (utf8 "\x7b\x22v\x22:1\x7d") = "eyJ2IjoxfQ" := by decide +kernel

end KmtLegal.Js
