import BundleTrust.Text.Base64
import BundleTrust.Text.Blank

/-!
# Base64 round trip

Decoding undoes encoding.  Every group of four symbols is read back as its three octets; the
last group is read back through its padding.
-/

namespace BundleTrust
namespace Text

/-! ## Symbols -/

/-- A character that takes one octet, that octet being the one that is read for it. -/
structure IsBase64Character (character : Char) : Prop where
  /-- It takes one octet. -/
  size : character.utf8Size = 1
  /-- It is not blank. -/
  visible : isBlank character = false

/-- The octet of a symbol. -/
def symbolOctet (value : Nat) : UInt8 := (base64Symbol value).val.toUInt8

theorem isBase64Character_symbol
    {value : Nat}
    (small : value < 64) :
    IsBase64Character (base64Symbol value) := by
  have all : ∀ value < 64, (base64Symbol value).utf8Size = 1 ∧
      isBlank (base64Symbol value) = false := by decide
  exact ⟨(all value small).1, (all value small).2⟩

/-- A symbol stands for its value. -/
theorem base64ValueAt_symbolOctet
    (offset : Nat)
    {value : Nat}
    (small : value < 64) :
    base64ValueAt offset (symbolOctet value) = .ok value := by
  have all : ∀ value < 64, base64Value? (symbolOctet value) = some value := by decide
  rw [base64ValueAt, all value small]

/-- No symbol is padding. -/
theorem symbolOctet_ne_padding
    {value : Nat}
    (small : value < 64) :
    symbolOctet value ≠ 61 := by
  have all : ∀ value < 64, symbolOctet value ≠ 61 := by decide
  exact all value small

theorem isBase64Character_of_mem
    {source : List UInt8}
    {character : Char}
    (isSymbol : character ∈ encodeBase64Symbols source) :
    IsBase64Character character := by
  have padding : IsBase64Character '=' := ⟨by decide, by decide⟩
  fun_induction encodeBase64Symbols source with
  | case1 => simp at isSymbol
  | case2 first =>
      have := first.toNat_lt
      simp only [List.mem_cons, List.not_mem_nil, or_false] at isSymbol
      rcases isSymbol with rfl | rfl | rfl | rfl
      · exact isBase64Character_symbol (by omega)
      · exact isBase64Character_symbol (by omega)
      · exact padding
      · exact padding
  | case3 first second =>
      have := first.toNat_lt
      have := second.toNat_lt
      simp only [List.mem_cons, List.not_mem_nil, or_false] at isSymbol
      rcases isSymbol with rfl | rfl | rfl | rfl
      · exact isBase64Character_symbol (by omega)
      · exact isBase64Character_symbol (by omega)
      · exact isBase64Character_symbol (by omega)
      · exact padding
  | case4 first second third rest ih =>
      have := first.toNat_lt
      have := second.toNat_lt
      have := third.toNat_lt
      simp only [List.mem_cons] at isSymbol
      rcases isSymbol with rfl | rfl | rfl | rfl | isLater
      · exact isBase64Character_symbol (by omega)
      · exact isBase64Character_symbol (by omega)
      · exact isBase64Character_symbol (by omega)
      · exact isBase64Character_symbol (by omega)
      · exact ih isLater

/-- Encoded octets have no blank at either end. -/
theorem trim_encodeBase64 (source : List UInt8) :
    trim (encodeBase64 source) = encodeBase64 source := by
  have visible : ∀ character ∈ encodeBase64Symbols source, isBlank character = false :=
    fun character isSymbol => (isBase64Character_of_mem isSymbol).visible
  rw [trim, encodeBase64, String.toList_ofList, trimBlanks_of_visible visible]

/-- Each character of encoded octets takes one octet. -/
theorem octets_encodeBase64 (source : List UInt8) :
    octets (encodeBase64 source) =
      (encodeBase64Symbols source).map fun character => character.val.toUInt8 := by
  have single : ∀ character ∈ encodeBase64Symbols source,
      String.utf8EncodeChar character = [character.val.toUInt8] := fun character isSymbol =>
    String.utf8EncodeChar_eq_singleton (isBase64Character_of_mem isSymbol).size
  rw [encodeBase64, octets_ofList]
  generalize encodeBase64Symbols source = characters at single
  induction characters with
  | nil => rfl
  | cons character rest ih =>
      rw [List.flatMap_cons, single character List.mem_cons_self, List.map_cons,
        ih fun other isLater => single other (List.mem_cons_of_mem _ isLater)]
      rfl

/-! ## Groups -/

section Tail

variable {start padding value : Nat} {symbols : List (UInt8 × Nat)} {rest : List UInt8}

/-- A symbol of the last group is noted with its value. -/
theorem readBase64Tail_symbol (small : value < 64) :
    readBase64Tail start ⟨symbols, 0⟩ (symbolOctet value :: rest) =
      readBase64Tail start ⟨symbols ++ [(symbolOctet value, value)], 0⟩ rest := by
  rw [readBase64Tail, base64ValueAt_symbolOctet _ small]
  simp [symbolOctet_ne_padding small]

/-- Padding from the third place on is counted. -/
theorem readBase64Tail_padding (late : 2 ≤ symbols.length + padding) :
    readBase64Tail start ⟨symbols, padding⟩ (61 :: rest) =
      readBase64Tail start ⟨symbols, padding + 1⟩ rest := by
  have place : ¬ symbols.length + padding < 2 := by omega
  rw [readBase64Tail]
  simp [place]

end Tail

/-- An octet is read back from the upper and the lower part of its value. -/
theorem ofNat_eq_of_toNat
    (octet : UInt8)
    {value : Nat}
    (same : value = octet.toNat) :
    UInt8.ofNat value = octet := by
  rw [same, UInt8.ofNat_toNat]

/-- A last group of one octet is read back. -/
theorem decodeBase64Tail_one (start : Nat) (first : UInt8) :
    decodeBase64Tail start
        [symbolOctet (first.toNat / 4), symbolOctet (first.toNat % 4 * 16), 61, 61] =
      .ok [first] := by
  have := first.toNat_lt
  rw [decodeBase64Tail, readBase64Tail_symbol (by omega), readBase64Tail_symbol (by omega),
    readBase64Tail_padding (by simp), readBase64Tail_padding (by simp)]
  simp only [readBase64Tail, List.nil_append, List.cons_append]
  rw [if_neg (by omega), if_neg (by omega), ofNat_eq_of_toNat first (by omega)]

/-- A last group of two octets is read back. -/
theorem decodeBase64Tail_two (start : Nat) (first second : UInt8) :
    decodeBase64Tail start
        [symbolOctet (first.toNat / 4), symbolOctet (first.toNat % 4 * 16 + second.toNat / 16),
          symbolOctet (second.toNat % 16 * 4), 61] =
      .ok [first, second] := by
  have := first.toNat_lt
  have := second.toNat_lt
  rw [decodeBase64Tail, readBase64Tail_symbol (by omega), readBase64Tail_symbol (by omega),
    readBase64Tail_symbol (by omega), readBase64Tail_padding (by simp)]
  simp only [readBase64Tail, List.nil_append, List.cons_append]
  rw [if_neg (by omega), if_neg (by omega), ofNat_eq_of_toNat first (by omega),
    ofNat_eq_of_toNat second (by omega)]

/-- A last group of three octets is read back. -/
theorem decodeBase64Tail_three (start : Nat) (first second third : UInt8) :
    decodeBase64Tail start
        [symbolOctet (first.toNat / 4), symbolOctet (first.toNat % 4 * 16 + second.toNat / 16),
          symbolOctet (second.toNat % 16 * 4 + third.toNat / 64),
          symbolOctet (third.toNat % 64)] =
      .ok [first, second, third] := by
  have := first.toNat_lt
  have := second.toNat_lt
  have := third.toNat_lt
  rw [decodeBase64Tail, readBase64Tail_symbol (by omega), readBase64Tail_symbol (by omega),
    readBase64Tail_symbol (by omega), readBase64Tail_symbol (by omega)]
  simp only [readBase64Tail, List.nil_append, List.cons_append]
  rw [ofNat_eq_of_toNat first (by omega),
    ofNat_eq_of_toNat second (by omega),
    ofNat_eq_of_toNat third (by omega)]

/-- A group that is not the last one is read back. -/
theorem decodeBase64From_three
    (offset : Nat)
    (first second third next : UInt8)
    (rest : List UInt8) :
    decodeBase64From offset
        (symbolOctet (first.toNat / 4) ::
          symbolOctet (first.toNat % 4 * 16 + second.toNat / 16) ::
          symbolOctet (second.toNat % 16 * 4 + third.toNat / 64) ::
          symbolOctet (third.toNat % 64) :: next :: rest) =
      (decodeBase64From (offset + 4) (next :: rest)).map fun octets =>
        first :: second :: third :: octets := by
  have := first.toNat_lt
  have := second.toNat_lt
  have := third.toNat_lt
  rw [decodeBase64From, base64ValueAt_symbolOctet _ (by omega),
    base64ValueAt_symbolOctet _ (by omega), base64ValueAt_symbolOctet _ (by omega),
    base64ValueAt_symbolOctet _ (by omega)]
  simp only
  rw [ofNat_eq_of_toNat first (by omega),
    ofNat_eq_of_toNat second (by omega),
    ofNat_eq_of_toNat third (by omega)]

/-- Decoding undoes encoding, group by group. -/
theorem decodeBase64From_symbols (source : List UInt8) (offset : Nat) :
    decodeBase64From offset
        ((encodeBase64Symbols source).map fun character => character.val.toUInt8) =
      .ok source := by
  fun_induction encodeBase64Symbols source generalizing offset with
  | case1 => rfl
  | case2 first => exact decodeBase64Tail_one offset first
  | case3 first second => exact decodeBase64Tail_two offset first second
  | case4 first second third rest ih =>
      have later := ih (offset + 4)
      cases encoded : (encodeBase64Symbols rest).map fun character => character.val.toUInt8 with
      | nil =>
          have last : rest = [] := by
            rw [encoded] at later
            simpa [decodeBase64From, decodeBase64Tail, readBase64Tail] using later.symm
          subst last
          exact decodeBase64Tail_three offset first second third
      | cons next others =>
          rw [encoded] at later
          simp only [List.map_cons, encoded]
          exact (decodeBase64From_three offset first second third next others).trans
            (by rw [later]; rfl)

theorem length_encodeBase64Symbols (source : List UInt8) :
    (encodeBase64Symbols source).length % 4 = 0 := by
  fun_induction encodeBase64Symbols source with
  | case1 => rfl
  | case2 => simp
  | case3 => simp
  | case4 first second third rest ih => simpa [Nat.add_assoc] using ih

/-- Decoding undoes encoding. -/
theorem decodeBase64_encodeBase64 (source : List UInt8) :
    decodeBase64 (octets (encodeBase64 source)) = .ok source := by
  have decoded := decodeBase64From_symbols source 0
  have whole := length_encodeBase64Symbols source
  rw [octets_encodeBase64, decodeBase64]
  cases last : ((encodeBase64Symbols source).map fun character =>
      character.val.toUInt8).getLast? with
  | none =>
      rw [List.getLast?_eq_none_iff.1 last] at decoded
      simpa [decodeBase64From, decodeBase64Tail, readBase64Tail] using decoded
  | some octet =>
      simp only [List.length_map, whole]
      simpa using decoded

end Text
end BundleTrust
