import KmtLegal.Clients

/-!
# Phone numbers as keys

Duplicates are found, bookings locked and clients matched by `canonicalPhone`.  It sees the digits of
a number only; one international prefix is taken off, and what is a local mobile number then gets the
country code.  A number that still begins with a prefix afterwards is not its own key.
-/

namespace KmtLegal

open Js

/-! ## The two rewrites -/

/-- The digits of the number, in any of the three scripts. -/
def phoneDigits (value : String) : List Char := value.toList.filterMap asciiDigit

/-- The digits without the international prefix. -/
def withoutInternationalPrefix (digits : List Char) : List Char :=
  if ['0', '0'].isPrefixOf digits then digits.drop 2 else digits

/-- A local mobile number gets the country code. -/
def withCountryCode (number : List Char) : List Char :=
  if ['0', '1'].isPrefixOf number ∧ number.length = 11 then '2' :: '0' :: number.drop 1 else number

/-- The key is the two rewrites of the digits, if there are any. -/
theorem canonicalPhone_eq (value : String) :
    canonicalPhone value =
      if phoneDigits value = [] then none
      else some (String.ofList (withCountryCode (withoutInternationalPrefix (phoneDigits value)))) := by
  unfold canonicalPhone withCountryCode withoutInternationalPrefix
  rw [← phoneDigits]
  dsimp only
  split_ifs <;> rfl

theorem asciiDigit_of_isDigit {c : Char} (h : isDigit c) : asciiDigit c = some c := by
  have hbound := of_decide_eq_true h
  have hle : c.toNat ≤ 57 := hbound.2
  unfold asciiDigit
  rw [if_neg (by omega), if_neg (by omega), if_pos h]

theorem isDigit_of_asciiDigit {c d : Char} (h : asciiDigit c = some d) : isDigit d := by
  have hoffset : ∀ k, k < 10 → isDigit (Char.ofNat (k + '0'.toNat)) := by decide
  unfold asciiDigit at h
  split_ifs at h with harabic hpersian hdigit
  · rw [← Option.some.inj h]
    exact hoffset (c.toNat - 0x660) (by omega)
  · rw [← Option.some.inj h]
    exact hoffset (c.toNat - 0x6f0) (by omega)
  · rwa [← Option.some.inj h]

theorem isDigit_of_mem_phoneDigits {value : String} {c : Char} (h : c ∈ phoneDigits value) :
    isDigit c := by
  obtain ⟨c', -, hc'⟩ := List.mem_filterMap.mp h
  exact isDigit_of_asciiDigit hc'

theorem phoneDigits_ofList {l : List Char} (h : ∀ c ∈ l, isDigit c) :
    phoneDigits (String.ofList l) = l := by
  rw [phoneDigits, String.toList_ofList, List.filterMap_congr fun c hc ↦
    asciiDigit_of_isDigit (h c hc)]
  exact List.filterMap_some

section

variable {digits number : List Char}

theorem withoutInternationalPrefix_of_not (h : ¬['0', '0'] <+: digits) :
    withoutInternationalPrefix digits = digits := by
  rw [withoutInternationalPrefix, if_neg (by rwa [ List.isPrefixOf_iff_prefix])]

@[simp] theorem withoutInternationalPrefix_cons (digits : List Char) :
    withoutInternationalPrefix ('0' :: '0' :: digits) = digits := by
  rw [withoutInternationalPrefix, if_pos (by simp [List.isPrefixOf])]
  rfl

theorem withCountryCode_of_not (h : ¬(['0', '1'] <+: number ∧ number.length = 11)) :
    withCountryCode number = number := by
  rw [withCountryCode, if_neg (by rwa [ List.isPrefixOf_iff_prefix])]

theorem length_withCountryCode_le : (withCountryCode number).length ≤ number.length + 1 := by
  unfold withCountryCode
  split
  · simp only [List.length_cons, List.length_drop]
    omega
  · omega

/-- A number with a prefix is no local one. -/
theorem withCountryCode_of_zeros (h : ['0', '0'] <+: number) : withCountryCode number = number := by
  obtain ⟨rest, rfl⟩ := h
  exact withCountryCode_of_not fun hlocal ↦ by
    simp [List.cons_prefix_cons] at hlocal

theorem withCountryCode_idem : withCountryCode (withCountryCode number) = withCountryCode number := by
  by_cases h : ['0', '1'] <+: number ∧ number.length = 11
  · have hcode : withCountryCode number = '2' :: '0' :: number.drop 1 := by
      rw [withCountryCode, if_pos (by rwa [ List.isPrefixOf_iff_prefix])]
    rw [hcode]
    exact withCountryCode_of_not fun hlocal ↦ by
      simp [List.cons_prefix_cons] at hlocal
  · rw [withCountryCode_of_not h, withCountryCode_of_not h]

/-- The country code is put before a number without a prefix only. -/
theorem prefix_withCountryCode_iff :
    ['0', '0'] <+: withCountryCode number ↔ ['0', '0'] <+: number := by
  by_cases h : ['0', '1'] <+: number ∧ number.length = 11
  · obtain ⟨⟨rest, rfl⟩, -⟩ := h
    unfold withCountryCode
    split <;> simp [List.cons_prefix_cons]
  · rw [withCountryCode_of_not h]

theorem withCountryCode_eq_nil : withCountryCode number = [] ↔ number = [] := by
  unfold withCountryCode
  split
  · next h =>
    constructor
    · intro hnil
      cases hnil
    · rintro rfl
      simp at h
  · rfl

/-- Both rewrites leave what has no prefix, and shorten what has one. -/
theorem withCountryCode_withoutInternationalPrefix_eq_iff :
    withCountryCode (withoutInternationalPrefix (withCountryCode number)) = withCountryCode number ↔
      ¬['0', '0'] <+: number := by
  rw [← prefix_withCountryCode_iff]
  constructor
  · rintro heq ⟨rest, hrest⟩
    have hlength := congrArg List.length heq
    rw [← hrest, List.cons_append, List.cons_append, withoutInternationalPrefix_cons] at hlength
    have hle : (withCountryCode rest).length ≤ rest.length + 1 := length_withCountryCode_le
    simp only [List.nil_append, List.length_cons] at hlength hle
    omega
  · intro hzeros
    rw [withoutInternationalPrefix_of_not hzeros, withCountryCode_idem]

end

/-! ## Keys -/

theorem isDigit_of_mem_key {digits : List Char} (h : ∀ c ∈ digits, isDigit c) :
    ∀ c ∈ withCountryCode (withoutInternationalPrefix digits), isDigit c := by
  have hnumber : ∀ c ∈ withoutInternationalPrefix digits, isDigit c := by
    unfold withoutInternationalPrefix
    split
    · exact fun c hc ↦ h c (List.mem_of_mem_drop hc)
    · exact h
  unfold withCountryCode
  split
  · intro c hc
    rcases List.mem_cons.mp hc with rfl | hc
    · decide
    rcases List.mem_cons.mp hc with rfl | hc
    · decide
    · exact hnumber c (List.mem_of_mem_drop hc)
  · exact hnumber

/-- The digits of a key come to a key of their own unless they begin with a prefix again, or are
left out altogether. -/
theorem canonicalPhone_key_iff {value key : String} (h : canonicalPhone value = some key) :
    canonicalPhone key = some key ↔
      ¬(phoneDigits value = ['0', '0'] ∨ ['0', '0', '0', '0'] <+: phoneDigits value) := by
  rw [canonicalPhone_eq] at h
  split_ifs at h with hnil
  have hphone : ∀ c ∈ phoneDigits value, isDigit c := fun _ ↦ isDigit_of_mem_phoneDigits
  have hdigits := isDigit_of_mem_key hphone
  rw [← Option.some.inj h, canonicalPhone_eq, phoneDigits_ofList hdigits]
  generalize phoneDigits value = digits at hnil
  simp only [withCountryCode_eq_nil]
  by_cases hzeros : ['0', '0'] <+: digits
  · obtain ⟨rest, rfl⟩ := hzeros
    simp only [List.cons_append, List.nil_append, withoutInternationalPrefix_cons,
      List.cons.injEq, true_and, List.cons_prefix_cons]
    split
    · next hrest => simp [hrest]
    · next hrest =>
      rw [Option.some.injEq, String.ofList_inj, withCountryCode_withoutInternationalPrefix_eq_iff]
      simp [hrest]
  · have hlong : ¬['0', '0', '0', '0'] <+: digits := fun hlong ↦
      hzeros (((['0', '0'] : List Char).prefix_append ['0', '0']).trans hlong)
    have hshort : digits ≠ ['0', '0'] := by
      rintro rfl
      exact hzeros (List.prefix_refl _)
    rw [withoutInternationalPrefix_of_not hzeros, if_neg hnil, Option.some.injEq, String.ofList_inj,
      withCountryCode_withoutInternationalPrefix_eq_iff]
    simp [hzeros, hlong, hshort]

theorem canonicalPhone_congr {value value' : String} (h : phoneDigits value = phoneDigits value') :
    canonicalPhone value = canonicalPhone value' := by
  rw [canonicalPhone_eq, canonicalPhone_eq, h]

theorem phoneDigits_append (s s' : String) :
    phoneDigits (s ++ s') = phoneDigits s ++ phoneDigits s' := by
  rw [phoneDigits, String.toList_append, List.filterMap_append]
  rfl

theorem canonicalPhone_plus (number : String) :
    canonicalPhone ("+" ++ number) = canonicalPhone number :=
  canonicalPhone_congr (by rw [phoneDigits_append]; rfl)

/-- A prefix makes no difference to a number that has none. -/
theorem canonicalPhone_prefix_iff {number : String} (h : phoneDigits number ≠ []) :
    canonicalPhone ("00" ++ number) = canonicalPhone number ↔
      ¬['0', '0'] <+: phoneDigits number := by
  have hzeros : phoneDigits ("00" ++ number) = '0' :: '0' :: phoneDigits number := by
    rw [phoneDigits_append]
    rfl
  rw [canonicalPhone_eq, canonicalPhone_eq, hzeros, if_neg (by simp), if_neg h,
    withoutInternationalPrefix_cons, Option.some.injEq, String.ofList_inj]
  generalize phoneDigits number = digits
  constructor
  · rintro heq ⟨rest, rfl⟩
    have hlength := congrArg List.length heq
    rw [withCountryCode_of_zeros ⟨rest, rfl⟩, List.cons_append, List.cons_append,
      withoutInternationalPrefix_cons] at hlength
    have hle : (withCountryCode rest).length ≤ rest.length + 1 := length_withCountryCode_le
    simp only [List.nil_append, List.length_cons] at hlength hle
    omega
  · intro hnot
    rw [withoutInternationalPrefix_of_not hnot]

/-! ## Egyptian mobile numbers -/

/-- A mobile number `1xxxxxxxxx`, as it follows `0` or the country code. -/
structure EgyptianMobile where
  rest : List Char
  rest_length : rest.length = 9
  isDigit_rest : ∀ c ∈ rest, isDigit c

namespace EgyptianMobile

def number (mobile : EgyptianMobile) : List Char := '1' :: mobile.rest

/-- The digits of its spellings: local, with the country code, and with the prefix before it. -/
def spellings (mobile : EgyptianMobile) : List (List Char) :=
  ['0' :: mobile.number, '2' :: '0' :: mobile.number, '0' :: '0' :: '2' :: '0' :: mobile.number]

def key (mobile : EgyptianMobile) : String := String.ofList ('2' :: '0' :: mobile.number)

theorem key_injective : Function.Injective key := by
  rintro ⟨rest, _, _⟩ ⟨rest', _, _⟩ h
  simp only [key, number, String.ofList_inj, List.cons.injEq, true_and] at h
  subst h
  rfl

theorem canonicalPhone_eq_key {mobile : EgyptianMobile} {value : String}
    (h : phoneDigits value ∈ mobile.spellings) : canonicalPhone value = some mobile.key := by
  have hcode : withCountryCode ('2' :: '0' :: mobile.number) = '2' :: '0' :: mobile.number :=
    withCountryCode_of_not fun hlocal ↦ by simp [List.cons_prefix_cons] at hlocal
  have hlocal : withCountryCode ('0' :: mobile.number) = '2' :: '0' :: mobile.number := by
    rw [withCountryCode,
      if_pos ⟨by simp [number, List.isPrefixOf], by simp [number, mobile.rest_length]⟩]
    rfl
  rw [canonicalPhone_eq]
  simp only [spellings, List.mem_cons, List.not_mem_nil, or_false] at h
  obtain h | h | h := h
  · rw [h, if_neg (by simp),
      withoutInternationalPrefix_of_not (by simp [number, List.cons_prefix_cons]), hlocal, key]
  · rw [h, if_neg (by simp),
      withoutInternationalPrefix_of_not (by simp [List.cons_prefix_cons]), hcode, key]
  · rw [h, if_neg (by simp), withoutInternationalPrefix_cons, hcode, key]

end EgyptianMobile

/-! ## A proper key -/

/-- `phoneSchema`. -/
def acceptsPhone (value : String) : Bool :=
  let value := trim value
  length value ≤ 24 ∧ value ≠ "" ∧
    value.toList.all (fun c ↦ c ∈ ['+', ' ', '(', ')', '-'] ∨ (asciiDigit c).isSome) ∧
    (canonicalPhone value).any fun key ↦
      isDigits key.toList ∧ 8 ≤ key.toList.length ∧ key.toList.length ≤ 15

/-- The key of a number is its own key exactly if no prefix is left in it, and a prefix can be added
exactly if there is none.  The key depends on the digits only, and is one for each mobile number. -/
theorem phone_key_iff (value : String) :
    (∀ key, canonicalPhone value = some key → (canonicalPhone key = some key ↔
      ¬(phoneDigits value = ['0', '0'] ∨ ['0', '0', '0', '0'] <+: phoneDigits value))) ∧
    (∀ value', phoneDigits value = phoneDigits value' →
      canonicalPhone value = canonicalPhone value') ∧
    canonicalPhone ("+" ++ value) = canonicalPhone value ∧
    (phoneDigits value ≠ [] → (canonicalPhone ("00" ++ value) = canonicalPhone value ↔
      ¬['0', '0'] <+: phoneDigits value)) ∧
    (∀ mobile : EgyptianMobile, phoneDigits value ∈ mobile.spellings →
      canonicalPhone value = some mobile.key) ∧
    Function.Injective EgyptianMobile.key :=
  ⟨fun _ ↦ canonicalPhone_key_iff, fun _ ↦ canonicalPhone_congr, canonicalPhone_plus value,
    canonicalPhone_prefix_iff, fun _ ↦ EgyptianMobile.canonicalPhone_eq_key,
    EgyptianMobile.key_injective⟩

/-- With the prefix twice a number is accepted and has a key that is not its own. -/
theorem prefix_twice :
    ¬((∀ value key, canonicalPhone value = some key → canonicalPhone key = some key) ∧
      ∀ number, phoneDigits number ≠ [] → canonicalPhone ("00" ++ number) = canonicalPhone number) ∧
    acceptsPhone "00001000000001" := by
  refine ⟨fun h ↦ ?_, by decide +kernel⟩
  have hkey := h.1 "00001000000001" "001000000001" (by decide +kernel)
  revert hkey
  decide +kernel

end KmtLegal
