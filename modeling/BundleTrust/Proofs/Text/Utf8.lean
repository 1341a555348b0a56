import BundleTrust.Text.Utf8

/-!
# UTF-8 round trip

Decoding undoes encoding (`decodeUtf8_octets`): the octets of a character are classified as that
character, and so are read back one character after the other.
-/

namespace BundleTrust
namespace Text

/-! ## Octets of characters -/

/-- The octets of some characters. -/
def encodeUtf8 (characters : List Char) : List UInt8 :=
  characters.flatMap String.utf8EncodeChar

@[simp] theorem encodeUtf8_nil : encodeUtf8 [] = [] := rfl

@[simp] theorem encodeUtf8_cons (character : Char) (rest : List Char) :
    encodeUtf8 (character :: rest) = String.utf8EncodeChar character ++ encodeUtf8 rest := rfl

@[simp] theorem encodeUtf8_append (left right : List Char) :
    encodeUtf8 (left ++ right) = encodeUtf8 left ++ encodeUtf8 right :=
  List.flatMap_append

theorem octets_eq_encodeUtf8 (text : String) : octets text = encodeUtf8 text.toList := by
  have encoded := octets_ofList text.toList
  rwa [String.ofList_toList] at encoded

theorem isContinuation_iff {octet : UInt8} :
    isContinuation octet = true ↔ 0x80 ≤ octet.toNat ∧ octet.toNat ≤ 0xBF := by
  simp [isContinuation, UInt8.le_iff_toNat_le]

/-! ## Classification -/

section Piece

variable {first second third fourth : UInt8}

theorem utf8Piece_one (ascii : first.toNat < 0x80) (rest : List UInt8) :
    utf8Piece first rest = .character (Char.ofNat first.toNat) 1 := by
  have small : first < 0x80 := UInt8.lt_iff_toNat_lt.2 ascii
  simp [utf8Piece, small]

theorem utf8Piece_two
    (lower : 0xC2 ≤ first.toNat)
    (upper : first.toNat ≤ 0xDF)
    (continues : isContinuation second = true)
    (rest : List UInt8) :
    utf8Piece first (second :: rest) =
      .character (Char.ofNat (first.toNat % 32 * 64 + continuationBits second)) 2 := by
  simp only [utf8Piece, UInt8.lt_iff_toNat_lt, UInt8.le_iff_toNat_le, UInt8.reduceToNat]
  rw [if_neg (by omega), if_pos (by simp [lower, upper]), if_pos continues]

theorem utf8Piece_three
    (lower : 0xE0 ≤ first.toNat)
    (upper : first.toNat ≤ 0xEF)
    (isSecond : isSecondOfThree first second = true)
    (continues : isContinuation third = true)
    (rest : List UInt8) :
    utf8Piece first (second :: third :: rest) =
      .character (Char.ofNat ((first.toNat % 16 * 64 + continuationBits second) * 64 +
        continuationBits third)) 3 := by
  simp only [utf8Piece, UInt8.lt_iff_toNat_lt, UInt8.le_iff_toNat_le, UInt8.reduceToNat]
  rw [if_neg (by omega), if_neg (by simp; omega), if_pos (by simp [lower, upper]),
    if_pos isSecond, if_pos continues]

theorem utf8Piece_four
    (lower : 0xF0 ≤ first.toNat)
    (upper : first.toNat ≤ 0xF4)
    (isSecond : isSecondOfFour first second = true)
    (continues : isContinuation third = true)
    (continues' : isContinuation fourth = true)
    (rest : List UInt8) :
    utf8Piece first (second :: third :: fourth :: rest) =
      .character (Char.ofNat (((first.toNat % 8 * 64 + continuationBits second) * 64 +
        continuationBits third) * 64 + continuationBits fourth)) 4 := by
  simp only [utf8Piece, UInt8.lt_iff_toNat_lt, UInt8.le_iff_toNat_le, UInt8.reduceToNat]
  rw [if_neg (by omega), if_neg (by simp; omega), if_neg (by simp; omega),
    if_pos (by simp [lower, upper]), if_pos isSecond, if_pos continues, if_pos continues']

end Piece

/-- The numbers of characters, without the surrogates. -/
theorem toNat_lt_or (character : Char) :
    character.toNat < 0xD800 ∨ 0xDFFF < character.toNat ∧ character.toNat < 0x110000 :=
  character.valid

/-- A character is that of its number, however that is computed. -/
theorem ofNat_eq_of_eq_toNat
    {character : Char}
    {number : Nat}
    (same : number = character.toNat) :
    Char.ofNat number = character := by
  rw [same, Char.ofNat_toNat]

/-- The number of an octet that is given by its number. -/
theorem toNat_octet {number : Nat} (small : number < 256) :
    (UInt8.ofNat number).toNat = number := by
  rw [UInt8.toNat_ofNat']
  omega

theorem isContinuation_octet (number : Nat) :
    isContinuation (UInt8.ofNat (number % 64 + 128)) = true := by
  rw [isContinuation_iff, toNat_octet (by omega)]
  omega

theorem continuationBits_octet (number : Nat) :
    continuationBits (UInt8.ofNat (number % 64 + 128)) = number % 64 := by
  rw [continuationBits, toNat_octet (by omega)]
  omega

/-- The octets of a character, the first one apart. -/
structure Encoding (character : Char) (first : UInt8) (following : List UInt8) : Prop where
  /-- They are what is written for the character. -/
  isEncoded : String.utf8EncodeChar character = first :: following
  /-- They are read as the character, whatever comes after them. -/
  isPiece : ∀ rest, utf8Piece first (following ++ rest) =
    .character character (following.length + 1)
  /-- An ASCII character is its own octet. -/
  ascii : character.toNat < 0x80 → first.toNat = character.toNat ∧ following = []
  /-- The first octet of any other character is not that of an ASCII character. -/
  lead : 0x80 ≤ character.toNat → 0xC0 ≤ first.toNat
  /-- All other octets are continuations. -/
  continues : ∀ octet ∈ following, isContinuation octet = true

section Sizes

variable {character : Char}

theorem encoding_one (upper : character.toNat ≤ 127) :
    Encoding character (UInt8.ofNat character.toNat) [] where
  isEncoded := by simp only [String.utf8EncodeChar, Char.toNat_val, if_pos upper]
  isPiece rest := by
    have isFirst := @toNat_octet character.toNat (by omega)
    rw [List.nil_append, utf8Piece_one (by omega), ofNat_eq_of_eq_toNat isFirst]
    rfl
  ascii _ := ⟨toNat_octet (by omega), rfl⟩
  lead _ := by omega
  continues _ none := absurd none List.not_mem_nil

theorem encoding_two
    (lower : ¬ character.toNat ≤ 127)
    (upper : character.toNat ≤ 2047) :
    Encoding character (UInt8.ofNat (character.toNat / 64 % 32 + 192))
      [UInt8.ofNat (character.toNat % 64 + 128)] := by
  have isFirst := @toNat_octet (character.toNat / 64 % 32 + 192) (by omega)
  refine ⟨?_, fun rest => ?_, by omega, by omega, ?_⟩
  · simp only [String.utf8EncodeChar, Char.toNat_val, if_neg lower, if_pos upper]
  · rw [List.singleton_append, utf8Piece_two (by omega) (by omega) (isContinuation_octet _),
      isFirst, continuationBits_octet, @ofNat_eq_of_eq_toNat character _ (by omega)]
    rfl
  · simp [isContinuation_octet, -UInt8.ofNat_add]

theorem encoding_three
    (lower : ¬ character.toNat ≤ 2047)
    (upper : character.toNat ≤ 65535) :
    Encoding character (UInt8.ofNat (character.toNat / 4096 % 16 + 224))
      [UInt8.ofNat (character.toNat / 64 % 64 + 128),
        UInt8.ofNat (character.toNat % 64 + 128)] := by
  have valid := toNat_lt_or character
  have small : ¬ character.toNat ≤ 127 := by omega
  have isFirst := @toNat_octet (character.toNat / 4096 % 16 + 224) (by omega)
  have isSecond := @toNat_octet (character.toNat / 64 % 64 + 128) (by omega)
  -- Numbers below 2048 and surrogates are not written with three octets.
  have follows : isSecondOfThree (UInt8.ofNat (character.toNat / 4096 % 16 + 224))
      (UInt8.ofNat (character.toNat / 64 % 64 + 128)) = true := by
    simp only [isSecondOfThree, beq_iff_eq, ← UInt8.toNat_inj, UInt8.le_iff_toNat_le, isFirst,
      isSecond, UInt8.reduceToNat, isContinuation_octet]
    grind
  refine ⟨?_, fun rest => ?_, by omega, by omega, ?_⟩
  · simp only [String.utf8EncodeChar, Char.toNat_val, if_neg small, if_neg lower, if_pos upper]
  · rw [List.cons_append, List.singleton_append, utf8Piece_three (by omega) (by omega) follows
      (isContinuation_octet _), isFirst, continuationBits_octet, continuationBits_octet,
      @ofNat_eq_of_eq_toNat character _ (by omega)]
    rfl
  · simp [isContinuation_octet, -UInt8.ofNat_add]

theorem encoding_four (lower : ¬ character.toNat ≤ 65535) :
    Encoding character (UInt8.ofNat (character.toNat / 262144 % 8 + 240))
      [UInt8.ofNat (character.toNat / 4096 % 64 + 128),
        UInt8.ofNat (character.toNat / 64 % 64 + 128),
        UInt8.ofNat (character.toNat % 64 + 128)] := by
  have valid := toNat_lt_or character
  have small : ¬ character.toNat ≤ 127 := by omega
  have small' : ¬ character.toNat ≤ 2047 := by omega
  have isFirst := @toNat_octet (character.toNat / 262144 % 8 + 240) (by omega)
  have isSecond := @toNat_octet (character.toNat / 4096 % 64 + 128) (by omega)
  -- Numbers below 65536 are not written with four octets, and there are none from 1114112 on.
  have follows : isSecondOfFour (UInt8.ofNat (character.toNat / 262144 % 8 + 240))
      (UInt8.ofNat (character.toNat / 4096 % 64 + 128)) = true := by
    simp only [isSecondOfFour, beq_iff_eq, ← UInt8.toNat_inj, UInt8.le_iff_toNat_le, isFirst,
      isSecond, UInt8.reduceToNat, isContinuation_octet]
    grind
  refine ⟨?_, fun rest => ?_, by omega, by omega, ?_⟩
  · simp only [String.utf8EncodeChar, Char.toNat_val, if_neg small, if_neg small', if_neg lower]
  · rw [List.cons_append, List.cons_append, List.singleton_append,
      utf8Piece_four (by omega) (by omega) follows (isContinuation_octet _)
        (isContinuation_octet _), isFirst, continuationBits_octet, continuationBits_octet,
      continuationBits_octet, @ofNat_eq_of_eq_toNat character _ (by omega)]
    rfl
  · simp [isContinuation_octet, -UInt8.ofNat_add]

/-- Every character has octets. -/
theorem exists_encoding (character : Char) :
    ∃ first following, Encoding character first following := by
  by_cases one : character.toNat ≤ 127
  · exact ⟨_, _, encoding_one one⟩
  · by_cases two : character.toNat ≤ 2047
    · exact ⟨_, _, encoding_two one two⟩
    · by_cases three : character.toNat ≤ 65535
      · exact ⟨_, _, encoding_three two three⟩
      · exact ⟨_, _, encoding_four three⟩

end Sizes

/-! ## Decoding -/

/-- The octets that belong to the character before are passed over. -/
theorem decodeUtf8From_skip (index : Nat) (passed rest : List UInt8) :
    decodeUtf8From passed.length index (passed ++ rest) =
      decodeUtf8From 0 (index + passed.length) rest := by
  induction passed generalizing index with
  | nil => rfl
  | cons octet passed ih =>
      rw [List.length_cons, List.cons_append, decodeUtf8From, ih]
      congr 1
      omega

/-- Decoding undoes encoding, character by character. -/
theorem decodeUtf8From_encodeUtf8 (index : Nat) (characters : List Char) :
    decodeUtf8From 0 index (encodeUtf8 characters) = .ok characters := by
  induction characters generalizing index with
  | nil => rfl
  | cons character rest ih =>
      obtain ⟨first, following, encoding⟩ := exists_encoding character
      rw [encodeUtf8_cons, encoding.isEncoded, List.cons_append, decodeUtf8From, encoding.isPiece]
      change (decodeUtf8From following.length (index + 1) (following ++ encodeUtf8 rest)).map _ = _
      rw [decodeUtf8From_skip, ih]
      rfl

theorem decodeUtf8_encodeUtf8 (characters : List Char) :
    decodeUtf8 (encodeUtf8 characters) = .ok (String.ofList characters) := by
  rw [decodeUtf8, decodeUtf8From_encodeUtf8]
  rfl

/-- The octets of a text are read back as the text. -/
theorem decodeUtf8_octets (text : String) : decodeUtf8 (octets text) = .ok text := by
  rw [octets_eq_encodeUtf8, decodeUtf8_encodeUtf8, String.ofList_toList]

end Text
end BundleTrust
