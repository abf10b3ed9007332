import Mathlib.Data.List.Basic

/-! # Base64

Three bytes are four digits of six bits. An encoder pads the last group, and the decoder of
browsers forgives white space and a missing padding. What is encoded decodes to itself.
-/

namespace Foundation.Base64

/-! ## Digits -/

/-- The digits of six bits; a last group of one or two bytes is filled with zero bits. -/
def toDigits : List UInt8 → List Nat
  | a :: b :: c :: rest =>
      a.toNat / 4 :: (a.toNat % 4 * 16 + b.toNat / 16) :: (b.toNat % 16 * 4 + c.toNat / 64) ::
        c.toNat % 64 :: toDigits rest
  | [a, b] => [a.toNat / 4, a.toNat % 4 * 16 + b.toNat / 16, b.toNat % 16 * 4]
  | [a] => [a.toNat / 4, a.toNat % 4 * 16]
  | [] => []

/-- The bytes of digits; the bits that fill no byte are discarded. -/
def ofDigits : List Nat → List UInt8
  | p :: q :: r :: s :: rest =>
      UInt8.ofNat (p * 4 + q / 16) :: UInt8.ofNat (q % 16 * 16 + r / 4) ::
        UInt8.ofNat (r % 4 * 64 + s) :: ofDigits rest
  | [p, q, r] => [UInt8.ofNat (p * 4 + q / 16), UInt8.ofNat (q % 16 * 16 + r / 4)]
  | [p, q] => [UInt8.ofNat (p * 4 + q / 16)]
  | _ => []

theorem ofNat_eq {n : Nat} {a : UInt8} (h : n = a.toNat) : UInt8.ofNat n = a := by
  rw [h, UInt8.ofNat_toNat]

theorem ofDigits_toDigits (bytes : List UInt8) : ofDigits (toDigits bytes) = bytes := by
  induction bytes using toDigits.induct with
  | case1 a b c rest ih =>
      have ha := a.toNat_lt
      have hb := b.toNat_lt
      have hc := c.toNat_lt
      rw [toDigits, ofDigits, ih, ofNat_eq (a := a) (by omega), ofNat_eq (a := b) (by omega),
        ofNat_eq (a := c) (by omega)]
  | case2 a b =>
      have hb := b.toNat_lt
      rw [toDigits, ofDigits, ofNat_eq (a := a) (by omega), ofNat_eq (a := b) (by omega)]
  | case3 a => rw [toDigits, ofDigits, ofNat_eq (a := a) (by omega)]
  | case4 => rfl

theorem toDigits_lt (bytes : List UInt8) : ∀ digit ∈ toDigits bytes, digit < 64 := by
  induction bytes using toDigits.induct with
  | case1 a b c rest ih =>
      have ha := a.toNat_lt
      have hb := b.toNat_lt
      have hc := c.toNat_lt
      intro digit hdigit
      simp only [toDigits, List.mem_cons] at hdigit
      rcases hdigit with rfl | rfl | rfl | rfl | hdigit
      · omega
      · omega
      · omega
      · omega
      · exact ih digit hdigit
  | case2 a b =>
      have ha := a.toNat_lt
      have hb := b.toNat_lt
      intro digit hdigit
      simp only [toDigits, List.mem_cons, List.not_mem_nil, or_false] at hdigit
      omega
  | case3 a =>
      have ha := a.toNat_lt
      intro digit hdigit
      simp only [toDigits, List.mem_cons, List.not_mem_nil, or_false] at hdigit
      omega
  | case4 => simp [toDigits]

/-- The digits with the padding fill groups of four. -/
theorem length_toDigits (bytes : List UInt8) :
    (toDigits bytes).length + (3 - bytes.length % 3) % 3 = 4 * ((bytes.length + 2) / 3) := by
  induction bytes using toDigits.induct with
  | case1 a b c rest ih =>
      simp only [toDigits, List.length_cons]
      omega
  | case2 | case3 | case4 => simp [toDigits]

/-! ## Characters -/

/-- The alphabet of RFC 4648. -/
def digitChar (digit : Nat) : Char :=
  if digit < 26 then Char.ofNat ('A'.toNat + digit)
  else if digit < 52 then Char.ofNat ('a'.toNat + (digit - 26))
  else if digit < 62 then Char.ofNat ('0'.toNat + (digit - 52))
  else if digit = 62 then '+' else '/'

/-- The digit of a character, `none` outside the alphabet. -/
def charDigit (c : Char) : Option Nat :=
  if 'A' ≤ c ∧ c ≤ 'Z' then some (c.toNat - 'A'.toNat)
  else if 'a' ≤ c ∧ c ≤ 'z' then some (c.toNat - 'a'.toNat + 26)
  else if '0' ≤ c ∧ c ≤ '9' then some (c.toNat - '0'.toNat + 52)
  else if c = '+' then some 62
  else if c = '/' then some 63
  else none

theorem charDigit_digitChar {digit : Nat} (h : digit < 64) :
    charDigit (digitChar digit) = some digit := by
  have hall : ∀ digit : Fin 64, charDigit (digitChar digit) = some digit.val := by decide
  exact hall ⟨digit, h⟩

/-- The white space of ASCII. -/
def isSpace (c : Char) : Bool :=
  c = ' ' || c = '\t' || c = '\n' || c = '\x0c' || c = '\x0d'

/-- A digit is neither white space nor padding. -/
theorem digitChar_plain {digit : Nat} (h : digit < 64) :
    isSpace (digitChar digit) = false ∧ digitChar digit ≠ '=' := by
  have hall : ∀ digit : Fin 64,
      isSpace (digitChar digit) = false ∧ digitChar digit ≠ '=' := by decide
  exact hall ⟨digit, h⟩

/-! ## Texts -/

/-- The padded text of bytes. -/
def encode (bytes : List UInt8) : List Char :=
  (toDigits bytes).map digitChar ++ List.replicate ((3 - bytes.length % 3) % 3) '='

/-- Up to two characters of padding go. -/
def stripPadding (text : List Char) : List Char :=
  match text.reverse with
  | '=' :: '=' :: rest => rest.reverse
  | '=' :: rest => rest.reverse
  | _ => text

/-- The forgiving decoder; `none` when it fails. -/
def decode (text : List Char) : Option (List UInt8) :=
  let data := text.filter fun c => !isSpace c
  let data := if data.length % 4 = 0 then stripPadding data else data
  if data.length % 4 = 1 then none else (data.mapM charDigit).map ofDigits

theorem length_encode (bytes : List UInt8) :
    (encode bytes).length = 4 * ((bytes.length + 2) / 3) := by
  rw [encode, List.length_append, List.length_map, List.length_replicate, length_toDigits]

/-- What an encoder writes. -/
theorem mem_encode {bytes : List UInt8} {c : Char} (hc : c ∈ encode bytes) :
    c = '=' ∨ ∃ digit < 64, c = digitChar digit := by
  rcases List.mem_append.mp hc with hc | hc
  · obtain ⟨digit, hdigit, rfl⟩ := List.mem_map.mp hc
    exact .inr ⟨digit, toDigits_lt bytes digit hdigit, rfl⟩
  · exact .inl (List.eq_of_mem_replicate hc)

theorem filter_encode (bytes : List UInt8) :
    ((encode bytes).filter fun c => !isSpace c) = encode bytes := by
  refine List.filter_eq_self.mpr fun c hc => ?_
  rcases mem_encode hc with rfl | ⟨digit, hdigit, rfl⟩
  · rfl
  · rw [(digitChar_plain hdigit).1]
    rfl

theorem stripPadding_append {digits : List Char} (hplain : '=' ∉ digits) {padding : Nat}
    (hpadding : padding ≤ 2) : stripPadding (digits ++ List.replicate padding '=') = digits := by
  have hreverse : '=' ∉ digits.reverse := fun hmem => hplain (List.mem_reverse.mp hmem)
  unfold stripPadding
  rw [List.reverse_append, List.reverse_replicate]
  match padding, hpadding with
  | 0, _ =>
      cases hdigits : digits.reverse with
      | nil => simp
      | cons last rest =>
          rw [hdigits] at hreverse
          have hlast : last ≠ '=' := fun heq => hreverse (heq ▸ List.mem_cons_self)
          simp [hlast]
  | 1, _ =>
      cases hdigits : digits.reverse with
      | nil => simpa using hdigits
      | cons last rest =>
          rw [hdigits] at hreverse
          have hlast : last ≠ '=' := fun heq => hreverse (heq ▸ List.mem_cons_self)
          have hback : (last :: rest).reverse = digits := by rw [← hdigits, List.reverse_reverse]
          simpa [hlast] using hback
  | 2, _ => simp

theorem mapM_digits {digits : List Nat} (hdigits : ∀ digit ∈ digits, digit < 64) :
    (digits.map digitChar).mapM charDigit = some digits := by
  induction digits with
  | nil => rfl
  | cons digit rest ih =>
      rw [List.map_cons, List.mapM_cons, charDigit_digitChar (hdigits digit List.mem_cons_self),
        ih fun other hother => hdigits other (List.mem_cons_of_mem _ hother)]
      rfl

/-- The round trip. -/
theorem decode_encode (bytes : List UInt8) : decode (encode bytes) = some bytes := by
  have hplain : '=' ∉ (toDigits bytes).map digitChar := by
    intro hmem
    obtain ⟨digit, hdigit, heq⟩ := List.mem_map.mp hmem
    exact (digitChar_plain (toDigits_lt bytes digit hdigit)).2 heq
  have hlength := length_toDigits bytes
  have hgroups : (encode bytes).length % 4 = 0 := by
    rw [length_encode]
    omega
  have hstrip : stripPadding (encode bytes) = (toDigits bytes).map digitChar :=
    stripPadding_append hplain (by omega)
  unfold decode
  simp only [filter_encode, hgroups, if_true, hstrip, List.length_map]
  rw [if_neg (by omega), mapM_digits (toDigits_lt bytes), Option.map_some, ofDigits_toDigits]

end Foundation.Base64
