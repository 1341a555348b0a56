import BundleTrust.Proofs.Text.Utf8
import BundleTrust.Text.Offset

/-!
# Offsets between characters

An offset into the octets of a text stands before some characters of the text (`StandsBefore`) if
the octets before it are those of the other characters.  Such an offset is a boundary, the octet
there is that of the next character if this is an ASCII character, and between two of them stands
a text (`StandsBefore.textBetween?_eq`).
-/

namespace BundleTrust
namespace Text

/-- An offset stands before the last characters of a text. -/
def StandsBefore (source : List UInt8) (offset : Nat) (rest : List Char) : Prop :=
  ∃ before, source = encodeUtf8 (before ++ rest) ∧ offset = (encodeUtf8 before).length

section Offset

variable {source : List UInt8} {offset : Nat} {character : Char} {passed rest : List Char}

theorem standsBefore_zero (characters : List Char) :
    StandsBefore (encodeUtf8 characters) 0 characters :=
  ⟨[], rfl, rfl⟩

/-- What comes from an offset on are the octets of the characters that it stands before. -/
theorem StandsBefore.drop_eq (stands : StandsBefore source offset rest) :
    source.drop offset = encodeUtf8 rest := by
  obtain ⟨before, rfl, rfl⟩ := stands
  rw [encodeUtf8_append, List.drop_left]

/-- Behind some characters an offset stands before the others. -/
theorem StandsBefore.advance (stands : StandsBefore source offset (passed ++ rest)) :
    StandsBefore source (offset + (encodeUtf8 passed).length) rest := by
  obtain ⟨before, rfl, rfl⟩ := stands
  exact ⟨before ++ passed, by simp, by simp⟩

/-! ## Octets -/

theorem toNat_ofUInt8 (octet : UInt8) : (Char.ofUInt8 octet).toNat = octet.toNat := rfl

theorem StandsBefore.getElem?_eq (stands : StandsBefore source offset rest) :
    source[offset]? = (encodeUtf8 rest).head? := by
  rw [← stands.drop_eq, List.head?_drop]

/-- There is no octet at the end of a text. -/
theorem StandsBefore.octetAt?_nil (stands : StandsBefore source offset []) :
    octetAt? source offset = none := by
  rw [octetAt?, stands.getElem?_eq]
  rfl

/-- The octet of an ASCII character is the character. -/
theorem encodeUtf8Char_ascii (ascii : character.toNat < 0x80) :
    ∃ octet, String.utf8EncodeChar character = [octet] ∧ Char.ofUInt8 octet = character := by
  obtain ⟨first, following, encoding⟩ := exists_encoding character
  obtain ⟨isFirst, rfl⟩ := encoding.ascii ascii
  exact ⟨first, encoding.isEncoded, Char.toNat_inj.1 ((toNat_ofUInt8 first).trans isFirst)⟩

/-- All octets of other characters are beyond those of ASCII characters. -/
theorem le_toNat_of_mem_encodeUtf8Char
    (foreign : 0x80 ≤ character.toNat)
    {octet : UInt8}
    (isMember : octet ∈ String.utf8EncodeChar character) :
    0x80 ≤ octet.toNat := by
  obtain ⟨first, following, encoding⟩ := exists_encoding character
  rw [encoding.isEncoded, List.mem_cons] at isMember
  rcases isMember with rfl | follows
  · have := encoding.lead foreign
    omega
  · exact (isContinuation_iff.1 (encoding.continues octet follows)).1

/-- No octet of another character is that of an ASCII character. -/
theorem eq_of_mem_encodeUtf8Char
    {octet : UInt8}
    (isMember : octet ∈ String.utf8EncodeChar character)
    (ascii : octet.toNat < 0x80) :
    Char.ofUInt8 octet = character := by
  by_cases small : character.toNat < 0x80
  · obtain ⟨only, isEncoded, same⟩ := encodeUtf8Char_ascii small
    rw [isEncoded, List.mem_singleton] at isMember
    rw [isMember, same]
  · have := le_toNat_of_mem_encodeUtf8Char (by omega) isMember
    omega

/-- Two characters that cannot be told apart as ASCII characters: they are the same, or neither is
one. -/
def LooksLike (other character : Char) : Prop :=
  other = character ∨ 0x80 ≤ other.toNat ∧ 0x80 ≤ character.toNat

theorem LooksLike.eq_iff
    {other : Char}
    (looksLike : LooksLike other character)
    (ascii : Char)
    (small : ascii.toNat < 0x80) :
    other = ascii ↔ character = ascii := by
  rcases looksLike with rfl | ⟨foreign, foreign'⟩
  · rfl
  · constructor
    · rintro rfl
      omega
    · rintro rfl
      omega

/-- A test that only ASCII characters pass does not tell them apart. -/
theorem LooksLike.test_eq
    {other : Char}
    {test : Char → Bool}
    (looksLike : LooksLike other character)
    (ascii : ∀ character, test character = true → character.toNat < 0x80) :
    test other = test character := by
  rcases looksLike with rfl | ⟨foreign, foreign'⟩
  · rfl
  · have refused : ∀ character : Char, 0x80 ≤ character.toNat → test character = false :=
      fun character foreign => Bool.eq_false_iff.2 fun passes => by
        have := ascii character passes
        omega
    rw [refused other foreign, refused character foreign']

/-- The octet before a character looks like it. -/
theorem StandsBefore.exists_octetAt?
    (stands : StandsBefore source offset (character :: rest)) :
    ∃ octet, octetAt? source offset = some octet ∧ LooksLike octet character := by
  obtain ⟨first, following, encoding⟩ := exists_encoding character
  refine ⟨Char.ofUInt8 first, ?_, ?_⟩
  · rw [octetAt?, stands.getElem?_eq, encodeUtf8_cons, encoding.isEncoded]
    rfl
  · by_cases small : character.toNat < 0x80
    · exact .inl (Char.toNat_inj.1 ((toNat_ofUInt8 first).trans (encoding.ascii small).1))
    · have lead := encoding.lead (by omega)
      exact .inr ⟨by rw [toNat_ofUInt8]; omega, by omega⟩

/-- The octet before an ASCII character is that character, and only there it is. -/
theorem StandsBefore.octetAt?_eq_some_iff
    (stands : StandsBefore source offset rest)
    (ascii : character.toNat < 0x80) :
    octetAt? source offset = some character ↔ ∃ others, rest = character :: others := by
  cases rest with
  | nil => simp [stands.octetAt?_nil]
  | cons first others =>
      obtain ⟨octet, isOctet, looksLike⟩ := stands.exists_octetAt?
      rw [isOctet, Option.some.injEq, looksLike.eq_iff character ascii]
      simp

/-- Every character has an octet. -/
theorem length_le_length_encodeUtf8 (characters : List Char) :
    characters.length ≤ (encodeUtf8 characters).length := by
  induction characters with
  | nil => exact Nat.le_refl 0
  | cons character rest ih =>
      obtain ⟨first, following, encoding⟩ := exists_encoding character
      rw [encodeUtf8_cons, encoding.isEncoded, List.length_append, List.length_cons,
        List.length_cons]
      omega

/-- An offset stands before the end of a text if there are characters behind it. -/
theorem StandsBefore.lt_length_iff (stands : StandsBefore source offset rest) :
    offset < source.length ↔ rest ≠ [] := by
  have isEmpty : encodeUtf8 rest = [] ↔ rest = [] := by
    constructor
    · intro none
      have := length_le_length_encodeUtf8 rest
      rw [none] at this
      exact List.length_eq_zero_iff.1 (Nat.le_zero.1 this)
    · rintro rfl
      rfl
  rw [← Nat.not_le, ← List.drop_eq_nil_iff, stands.drop_eq, isEmpty]

/-! ## Runs of characters -/

/-- A test that only ASCII characters pass is passed by as many octets as characters. -/
theorem takeWhile_encodeUtf8
    {test : Char → Bool}
    (ascii : ∀ character, test character = true → character.toNat < 0x80)
    (characters : List Char) :
    (encodeUtf8 characters).takeWhile (fun octet => test (Char.ofUInt8 octet)) =
      encodeUtf8 (characters.takeWhile test) := by
  induction characters with
  | nil => rfl
  | cons character rest ih =>
      rw [encodeUtf8_cons]
      by_cases small : character.toNat < 0x80
      · obtain ⟨octet, isEncoded, same⟩ := encodeUtf8Char_ascii small
        rw [isEncoded, List.singleton_append, List.takeWhile_cons, List.takeWhile_cons, same, ih]
        split
        · rw [encodeUtf8_cons, isEncoded]
          rfl
        · rfl
      · obtain ⟨first, following, encoding⟩ := exists_encoding character
        have lead := encoding.lead (by omega)
        have refused : ¬ test (Char.ofUInt8 first) = true := fun passes => by
          have := ascii _ passes
          rw [toNat_ofUInt8] at this
          omega
        have refused' : ¬ test character = true := fun passes => small (ascii _ passes)
        rw [encoding.isEncoded, List.cons_append, List.takeWhile_cons, List.takeWhile_cons,
          if_neg refused, if_neg refused']
        rfl

/-- The offset past a run of ASCII characters is past those characters. -/
theorem StandsBefore.offsetPast_eq
    (stands : StandsBefore source offset rest)
    {test : Char → Bool}
    (ascii : ∀ character, test character = true → character.toNat < 0x80) :
    offsetPast test source offset = offset + (encodeUtf8 (rest.takeWhile test)).length := by
  rw [offsetPast, stands.drop_eq, takeWhile_encodeUtf8 ascii]

/-! ## Parts of a text -/

theorem StandsBefore.isBoundary (stands : StandsBefore source offset rest) :
    isBoundary source offset = true := by
  rw [Text.isBoundary, stands.getElem?_eq]
  cases rest with
  | nil =>
      obtain ⟨before, rfl, rfl⟩ := stands
      simp
  | cons character rest =>
      obtain ⟨first, following, encoding⟩ := exists_encoding character
      rw [encodeUtf8_cons, encoding.isEncoded]
      simp only [List.cons_append, List.head?_cons, Bool.not_eq_true', Bool.eq_false_iff, ne_eq,
        isContinuation_iff]
      by_cases small : character.toNat < 0x80
      · have := (encoding.ascii small).1
        omega
      · have := encoding.lead (by omega)
        omega

/-- Between an offset before some characters and the one behind them stand these characters. -/
theorem StandsBefore.textBetween?_eq (stands : StandsBefore source offset (passed ++ rest)) :
    textBetween? source offset (offset + (encodeUtf8 passed).length) =
      some (String.ofList passed) := by
  have inOrder : offset ≤ offset + (encodeUtf8 passed).length := by omega
  rw [textBetween?, stands.isBoundary, stands.advance.isBoundary, stands.drop_eq,
    encodeUtf8_append, Nat.add_sub_cancel_left, List.take_left, decodeUtf8_encodeUtf8]
  simp [Except.toOption]

end Offset

end Text
end BundleTrust
