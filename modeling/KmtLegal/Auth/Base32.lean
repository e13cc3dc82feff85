import KmtLegal.Js.Bits
import KmtLegal.Js.Text

/-!
# Secrets in Base32

`encodeBase32Secret` of `totp-enrollment-service.ts` writes the secret a user copies into an app,
`decodeBase32` of `totp.ts` reads it back before a code is checked.  One cuts the bits into groups of
five and fills the last one up, the other cuts them into groups of eight and drops the rest.
-/

namespace KmtLegal

open Js

/-- `BASE32_ALPHABET`. -/
def base32Alphabet : List Char := "ABCDEFGHIJKLMNOPQRSTUVWXYZ234567".toList

/-- `BASE32_ALPHABET[n]` of a group of five bits. -/
def base32Char (n : ℕ) : Char := base32Alphabet.getD n 'A'

/-- `BASE32_ALPHABET.indexOf(char)`; `none` is `-1`. -/
def base32Value (c : Char) : Option ℕ := base32Alphabet.idxOf? c

/-- `encodeBase32Secret(bytes)`. -/
def encodeBase32Secret (bytes : List UInt8) : String :=
  let bits := bytes.flatMap fun byte ↦ binary 8 byte.toNat
  String.ofList ((quintets bits).map base32Char)

/-- `.replace(/=+$/g, "").replace(/\s+/g, "").toUpperCase()`. -/
def normalizeBase32 (secret : String) : String :=
  toUpperCase (String.ofList ((secret.toList.rdropWhile (· = '=')).filter (!isSpace ·)))

/-- `decodeBase32(secret)`; `none` if it throws. -/
def decodeBase32 (secret : String) : Option (List UInt8) := do
  let values ← (normalizeBase32 secret).toList.mapM base32Value
  let bits := values.flatMap (binary 5)
  return (octets bits).map UInt8.ofNat

/-! ## Characters -/

theorem base32Char_spec {n : ℕ} (h : n < 32) :
    base32Value (base32Char n) = some n ∧ upperChar (base32Char n) = [base32Char n] ∧
      (lowerChar (base32Char n)).flatMap upperChar = [base32Char n] ∧
      isSpace (base32Char n) = false ∧ base32Char n ≠ '=' ∧
      ∀ c ∈ lowerChar (base32Char n), isSpace c = false ∧ c ≠ '=' := by
  have hall : ∀ n : Fin 32, base32Value (base32Char n) = some n.val ∧
      upperChar (base32Char n) = [base32Char n] ∧
      (lowerChar (base32Char n)).flatMap upperChar = [base32Char n] ∧
      isSpace (base32Char n) = false ∧ base32Char n ≠ '=' ∧
      (lowerChar (base32Char n)).all (fun c ↦ isSpace c = false ∧ c ≠ '=') := by decide
  obtain ⟨hvalue, hupper, hlower, hspace, hpadding, hletters⟩ := hall ⟨n, h⟩
  exact ⟨hvalue, hupper, hlower, hspace, hpadding,
    fun c hc ↦ of_decide_eq_true (List.all_eq_true.mp hletters c hc)⟩

/-- The characters of an encoded text come from groups of five bits. -/
theorem mem_encodeBase32Secret {bytes : List UInt8} {c : Char}
    (h : c ∈ (encodeBase32Secret bytes).toList) : ∃ n < 32, c = base32Char n := by
  rw [encodeBase32Secret, String.toList_ofList] at h
  obtain ⟨n, hn, rfl⟩ := List.mem_map.mp h
  exact ⟨n, quintets_lt _ n hn, rfl⟩

theorem mapM_base32Value {values : List ℕ} (h : ∀ n ∈ values, n < 32) :
    (values.map base32Char).mapM base32Value = some values := by
  induction values with
  | nil => rfl
  | cons n values ih =>
    rw [List.map_cons, List.mapM_cons, (base32Char_spec (h n List.mem_cons_self)).1,
      ih fun m hm ↦ h m (List.mem_cons_of_mem _ hm)]
    rfl

/-! ## Bytes -/

/-- The bytes of the bits, and of up to seven bits more. -/
theorem octets_flatMap_binary (bytes : List UInt8) {rest : List Bool} (h : rest.length < 8) :
    octets (bytes.flatMap (fun byte ↦ binary 8 byte.toNat) ++ rest) = bytes.map UInt8.toNat := by
  induction bytes with
  | nil => exact octets_of_lt h
  | cons byte bytes ih =>
    rw [List.flatMap_cons, List.append_assoc, octets_append byte.toNat_lt, ih, List.map_cons]

/-- The zeros that fill the last group up never make a byte. -/
theorem decodeBase32_of_normalize {secret : String} {bytes : List UInt8}
    (h : normalizeBase32 secret = encodeBase32Secret bytes) : decodeBase32 secret = some bytes := by
  obtain ⟨k, hk, hbits⟩ :=
    exists_flatMap_quintets (bytes.flatMap fun byte ↦ binary 8 byte.toNat)
  have hvalues := mapM_base32Value
    (quintets_lt (bytes.flatMap fun byte ↦ binary 8 byte.toNat))
  have hbytes : (bytes.map UInt8.toNat).map UInt8.ofNat = bytes := by
    rw [List.map_map]
    exact List.map_id'' (fun byte ↦ UInt8.ofNat_toNat) bytes
  simp only [decodeBase32, h, encodeBase32Secret, String.toList_ofList, hvalues, Option.bind_eq_bind,
    Option.bind_some, hbits]
  rw [octets_flatMap_binary bytes (by rw [List.length_replicate]; omega), hbytes]
  rfl

/-! ## Spellings -/

/-- The text is the secret in any case, with white space in it and `=` behind it. -/
def Spells (text secret : String) : Prop :=
  ∃ (body : String) (k : ℕ), text = body ++ String.ofList (List.replicate k '=') ∧
    toUpperCase (String.ofList (body.toList.filter (!isSpace ·))) = secret

section

variable {bytes : List UInt8}

theorem filter_encodeBase32Secret :
    (encodeBase32Secret bytes).toList.filter (!isSpace ·) = (encodeBase32Secret bytes).toList := by
  refine List.filter_eq_self.mpr fun c hc ↦ ?_
  obtain ⟨n, hn, rfl⟩ := mem_encodeBase32Secret hc
  rw [(base32Char_spec hn).2.2.2.1]
  rfl

theorem flatMap_encodeBase32Secret {f : Char → List Char}
    (h : ∀ n < 32, f (base32Char n) = [base32Char n]) :
    (encodeBase32Secret bytes).toList.flatMap f = (encodeBase32Secret bytes).toList := by
  have hsingle : ∀ c ∈ (encodeBase32Secret bytes).toList, f c = [c] := by
    intro c hc
    obtain ⟨n, hn, rfl⟩ := mem_encodeBase32Secret hc
    exact h n hn
  rw [List.flatMap_congr hsingle, List.flatMap_singleton']

theorem spells_self (bytes : List UInt8) : Spells (encodeBase32Secret bytes) (encodeBase32Secret bytes) := by
  refine ⟨encodeBase32Secret bytes, 0, String.append_empty.symm, ?_⟩
  rw [toUpperCase, String.toList_ofList, filter_encodeBase32Secret,
    flatMap_encodeBase32Secret fun n hn ↦ (base32Char_spec hn).2.1, String.ofList_toList]

theorem spells_toLowerCase :
    Spells (toLowerCase (encodeBase32Secret bytes)) (encodeBase32Secret bytes) := by
  refine ⟨toLowerCase (encodeBase32Secret bytes), 0, String.append_empty.symm, ?_⟩
  have hspace : (toLowerCase (encodeBase32Secret bytes)).toList.filter (!isSpace ·) =
      (toLowerCase (encodeBase32Secret bytes)).toList := by
    refine List.filter_eq_self.mpr fun c hc ↦ ?_
    rw [toLowerCase, String.toList_ofList] at hc
    obtain ⟨d, hd, hc⟩ := List.mem_flatMap.mp hc
    obtain ⟨n, hn, rfl⟩ := mem_encodeBase32Secret hd
    rw [((base32Char_spec hn).2.2.2.2.2 c hc).1]
    rfl
  rw [hspace, toUpperCase, String.toList_ofList, toLowerCase, String.toList_ofList,
    List.flatMap_assoc, flatMap_encodeBase32Secret fun n hn ↦ (base32Char_spec hn).2.2.1,
    String.ofList_toList]

/-- No padding is left inside a spelling. -/
theorem padding_not_mem {body : String}
    (h : toUpperCase (String.ofList (body.toList.filter (!isSpace ·))) = encodeBase32Secret bytes) :
    '=' ∉ body.toList := by
  intro hmem
  have hfilter : '=' ∈ body.toList.filter (!isSpace ·) := List.mem_filter.mpr ⟨hmem, by decide⟩
  have hupper : '=' ∈ (encodeBase32Secret bytes).toList := by
    rw [← h, toUpperCase, String.toList_ofList, String.toList_ofList]
    exact List.mem_flatMap.mpr ⟨'=', hfilter, by decide⟩
  obtain ⟨n, hn, heq⟩ := mem_encodeBase32Secret hupper
  exact (base32Char_spec hn).2.2.2.2.1 heq.symm

theorem rdropWhile_padding {l : List Char} (h : '=' ∉ l) (k : ℕ) :
    (l ++ List.replicate k '=').rdropWhile (· = '=') = l := by
  have hbody : l.rdropWhile (· = '=') = l := by
    refine List.rdropWhile_eq_self_iff.mpr fun hne hlast ↦ h ?_
    rw [← of_decide_eq_true hlast]
    exact List.getLast_mem hne
  induction k with
  | zero => rw [List.replicate_zero, List.append_nil, hbody]
  | succ k ih =>
    rw [List.replicate_succ', ← List.append_assoc, List.rdropWhile_concat_pos _ _ _ (by decide), ih]

theorem normalizeBase32_of_spells {text : String} (h : Spells text (encodeBase32Secret bytes)) :
    normalizeBase32 text = encodeBase32Secret bytes := by
  obtain ⟨body, k, rfl, hbody⟩ := h
  rw [normalizeBase32, String.toList_append, String.toList_ofList,
    rdropWhile_padding (padding_not_mem hbody), hbody]

theorem encodeBase32Secret_injective : Function.Injective encodeBase32Secret := by
  intro a b h
  have ha := decodeBase32_of_normalize (normalizeBase32_of_spells (spells_self a))
  rw [h, decodeBase32_of_normalize (normalizeBase32_of_spells (spells_self b))] at ha
  exact (Option.some.inj ha).symm

end

/-- However the secret is spelled, it is the key that was encoded, and no other key is spelled so. -/
theorem base32_round_trip :
    (∀ bytes : List UInt8, decodeBase32 (encodeBase32Secret bytes) = some bytes ∧
      decodeBase32 (toLowerCase (encodeBase32Secret bytes)) = some bytes ∧
      ∀ text, Spells text (encodeBase32Secret bytes) → decodeBase32 text = some bytes) ∧
      Function.Injective encodeBase32Secret := by
  have hspells : ∀ (bytes : List UInt8) (text : String), Spells text (encodeBase32Secret bytes) →
      decodeBase32 text = some bytes :=
    fun bytes text h ↦ decodeBase32_of_normalize (normalizeBase32_of_spells h)
  exact ⟨fun bytes ↦ ⟨hspells bytes _ (spells_self bytes), hspells bytes _ spells_toLowerCase,
    hspells bytes⟩, encodeBase32Secret_injective⟩

end KmtLegal
