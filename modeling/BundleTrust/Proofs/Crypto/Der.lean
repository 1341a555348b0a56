import BundleTrust.Crypto.Key
import Mathlib.Algebra.Group.Nat.Defs

/-!
# Signatures read back

Numbers from one to below the order of the group take at most thirty-three octets, so every
element of an encoded signature has a length of one octet, and reading gives back the two
numbers that were written.
-/

namespace BundleTrust
namespace Crypto

/-! ## Numbers as octets -/

theorem natOfOctets_append (octets : List UInt8) (last : UInt8) :
    natOfOctets (octets ++ [last]) = 256 * natOfOctets octets + last.toNat := by
  simp [natOfOctets]

/-- Without its last octet a number fits one octet less. -/
theorem div_lt_pow
    {width value : Nat}
    (fits : value < 256 ^ (width + 1)) :
    value / 256 < 256 ^ width := by
  rw [Nat.pow_succ] at fits
  exact Nat.div_lt_of_lt_mul (Nat.mul_comm _ _ ▸ fits)

/-- A number is read back from as many octets as it needs. -/
theorem natOfOctets_octetsOfNat
    {width value : Nat}
    (fits : value < 256 ^ width) :
    natOfOctets (octetsOfNat width value) = value := by
  induction width generalizing value with
  | zero =>
      have : value = 0 := by simpa using fits
      simp [octetsOfNat, natOfOctets, this]
  | succ width ih =>
      rw [octetsOfNat, natOfOctets_append, ih (div_lt_pow fits), UInt8.toNat_ofNat']
      omega

namespace Der

theorem octetCount_le
    {width value count : Nat}
    (fits : value < 256 ^ count) :
    octetCount width value ≤ count := by
  induction width generalizing value count with
  | zero => simp [octetCount]
  | succ width ih =>
      rw [octetCount]
      split
      · exact Nat.zero_le count
      · next positive =>
          cases count with
          | zero => exact absurd (by simpa using fits) positive
          | succ count => exact Nat.succ_le_succ (ih (div_lt_pow fits))

/-- A number fits the octets that are counted for it. -/
theorem lt_pow_octetCount
    {width value : Nat}
    (fits : value < 256 ^ width) :
    value < 256 ^ octetCount width value := by
  induction width generalizing value with
  | zero => simpa [octetCount] using fits
  | succ width ih =>
      rw [octetCount]
      split
      · next zero => simp [zero]
      · have upper := ih (div_lt_pow fits)
        rw [Nat.pow_succ]
        omega

/-- No octet is superfluous: the first one is not zero. -/
theorem octetsOfNat_octetCount
    {width value : Nat}
    (fits : value < 256 ^ width)
    (positive : value ≠ 0) :
    ∃ first rest, octetsOfNat (octetCount width value) value = first :: rest ∧ first ≠ 0 := by
  induction width generalizing value with
  | zero => exact absurd (by simpa using fits) positive
  | succ width ih =>
      rw [octetCount, if_neg positive, octetsOfNat]
      by_cases small : value / 256 = 0
      · have none : octetCount width (value / 256) = 0 := by
          rw [small]
          cases width <;> simp [octetCount]
        refine ⟨UInt8.ofNat (value % 256), [], by simp [none, octetsOfNat], fun isZero => ?_⟩
        have same := congrArg UInt8.toNat isZero
        rw [UInt8.toNat_ofNat'] at same
        have zero : (0 : UInt8).toNat = 0 := rfl
        omega
      · obtain ⟨first, rest, isFirst, nonzero⟩ := ih (div_lt_pow fits) small
        exact ⟨first, rest ++ [UInt8.ofNat (value % 256)], by rw [isFirst]; rfl, nonzero⟩

/-! ## Elements -/

/-- A natural number is read back from its contents. -/
theorem naturalOfContents?_naturalContents
    {value : Nat}
    (fits : value < 256 ^ 64) :
    naturalOfContents? (naturalContents value) = some value := by
  have read : natOfOctets (octetsOfNat (octetCount 64 value) value) = value :=
    natOfOctets_octetsOfNat (lt_pow_octetCount fits)
  by_cases zero : value = 0
  · subst zero
    rfl
  · obtain ⟨first, rest, isFirst, nonzero⟩ := octetsOfNat_octetCount fits zero
    rw [isFirst] at read
    rw [naturalContents, isFirst]
    by_cases small : first < 0x80
    · simp [naturalOfContents?, small, nonzero, read]
    · simp [naturalOfContents?, small, read]

theorem length_naturalContents_le
    {value count : Nat}
    (fits : value < 256 ^ count) :
    (naturalContents value).length ≤ count + 1 := by
  have short : (octetsOfNat (octetCount 64 value) value).length ≤ count := by
    rw [length_octetsOfNat]
    exact octetCount_le fits
  rw [naturalContents]
  split
  · simp
  · split
    · exact Nat.le_succ_of_le short
    · exact Nat.succ_le_succ short

section Elements

variable {tag : UInt8} {contents rest : List UInt8}

theorem length_encode (short : contents.length < 0x80) :
    (encode tag contents).length = contents.length + 2 := by
  simp [encode, encodeLength, short]

/-- A short element is read back, whatever follows it. -/
theorem read?_encode (short : contents.length < 0x80) :
    read? tag (encode tag contents ++ rest) = some (contents, rest) := by
  have size : (UInt8.ofNat contents.length).toNat = contents.length := by
    rw [UInt8.toNat_ofNat']
    omega
  have isShort : UInt8.ofNat contents.length < 0x80 := by
    rw [UInt8.lt_iff_toNat_lt, size]
    exact short
  simp [encode, encodeLength, short, read?, readLength?, isShort, size]

/-- A short element that nothing follows is read back. -/
theorem readWhole?_encode (short : contents.length < 0x80) :
    readWhole? tag (encode tag contents) = some contents := by
  have read := @read?_encode tag contents [] short
  rw [List.append_nil] at read
  rw [readWhole?, read]

/-- A natural number of up to thirty-two octets is read back, whatever follows it. -/
theorem readNatural?_encodeNatural
    {value : Nat}
    (fits : value < 256 ^ 32) :
    readNatural? (encodeNatural value ++ rest) = some (value, rest) := by
  have short := length_naturalContents_le fits
  have wide : value < 256 ^ 64 :=
    Nat.lt_of_lt_of_le fits (Nat.pow_le_pow_right (by decide) (by decide))
  rw [readNatural?, encodeNatural, read?_encode (by omega)]
  simp [naturalOfContents?_naturalContents wide]

theorem length_encodeNatural_le
    {value : Nat}
    (fits : value < 256 ^ 32) :
    (encodeNatural value).length ≤ 35 := by
  have short := length_naturalContents_le fits
  rw [encodeNatural, length_encode (by omega)]
  omega

end Elements

end Der

/-! ## Signatures -/

theorem lt_of_isScalar
    {value : Nat}
    (inRange : isScalar value = true) :
    value < 256 ^ 32 := by
  have order : P256.order < 256 ^ 32 := by decide
  simp only [isScalar, Bool.and_eq_true, decide_eq_true_eq] at inRange
  exact Nat.lt_trans inRange.2 order

/-- A signature is read back. -/
theorem EcdsaSignature.ofDer?_toDer
    {signature : EcdsaSignature}
    (first : isScalar signature.r = true)
    (second : isScalar signature.s = true) :
    EcdsaSignature.ofDer? signature.toDer = some signature := by
  have short := Der.length_encodeNatural_le (lt_of_isScalar first)
  have short' := Der.length_encodeNatural_le (lt_of_isScalar second)
  have whole : Der.readWhole? Der.sequenceTag signature.toDer =
      some (Der.encodeNatural signature.r ++ Der.encodeNatural signature.s) :=
    Der.readWhole?_encode (by rw [List.length_append]; omega)
  have last := @Der.readNatural?_encodeNatural [] _ (lt_of_isScalar second)
  rw [List.append_nil] at last
  simp [EcdsaSignature.ofDer?, whole, Der.readNatural?_encodeNatural (lt_of_isScalar first), last,
    first, second]

theorem isScalar_of_signWith?
    {key : PrivateKey}
    {digest : List UInt8}
    {nonce : Nat}
    {signature : EcdsaSignature}
    (signs : signWith? key digest nonce = some signature) :
    isScalar signature.r = true ∧ isScalar signature.s = true := by
  unfold signWith? at signs
  obtain ⟨⟨x, y⟩, -, chosen⟩ := Option.bind_eq_some_iff.1 signs
  dsimp only at chosen
  split at chosen
  · next inRange =>
      cases chosen
      exact Bool.and_eq_true_iff.1 inRange
  · cases chosen

/-- A signature that is made consists of numbers in range. -/
theorem isScalar_of_sign?
    {key : PrivateKey}
    {digest : List UInt8}
    {signature : EcdsaSignature}
    (signs : key.sign? digest = some signature) :
    isScalar signature.r = true ∧ isScalar signature.s = true := by
  rw [PrivateKey.sign?] at signs
  generalize NonceState.start key digest = state at signs
  generalize nonceAttempts = attempts at signs
  induction attempts generalizing state with
  | zero => cases signs
  | succ attempts ih =>
      rw [signFrom?] at signs
      split at signs
      · next made =>
          cases signs
          split at made
          · exact isScalar_of_signWith? made
          · cases made
      · exact ih _ signs

end Crypto
end BundleTrust
