import BundleTrust.Text.JsonLiteral

/-!
# The grammar of JSON string literals

A literal is read exactly if it is one of the grammar (`readJsonLiteral?_eq_some_iff`): quotes
around plain characters, short escapes, and code units of UTF-16 as four hexadecimal digits, two
of them where the first is a leading surrogate.  Literals that are written are among them
(`isJsonLiteral_jsonLiteral`), and none contains a control character.
-/

namespace BundleTrust
namespace Text

/-! ## The grammar -/

/-- The letters of the short escapes and the characters that these denote. -/
def shortEscapes : List (Char × Char) :=
  [('"', '"'), ('\\', '\\'), ('/', '/'), ('b', '\x08'), ('f', '\x0c'), ('n', '\n'), ('r', '\r'),
    ('t', '\t')]

/-- Four hexadecimal digits of a code unit. -/
inductive CodeUnit : List Char → Nat → Prop where
  /-- In either case, with leading zeros. -/
  | hexadecimal {first second third fourth : Char} :
      (∀ digit ∈ [first, second, third, fourth], digitValue digit < 16) →
      CodeUnit [first, second, third, fourth] (numeralValue 16 [first, second, third, fourth])

/-- What stands for one character in a literal. -/
inductive JsonUnit : List Char → Char → Prop where
  /-- The character itself. -/
  | plain {character : Char} :
      0x20 ≤ character.toNat → character ≠ '"' → character ≠ '\\' →
      JsonUnit [character] character
  /-- A backslash and a letter. -/
  | short {letter character : Char} :
      (letter, character) ∈ shortEscapes → JsonUnit ['\\', letter] character
  /-- A code unit that is no surrogate. -/
  | single {digits : List Char} {unit : Nat} :
      CodeUnit digits unit → ¬ (0xD800 ≤ unit ∧ unit < 0xE000) →
      JsonUnit ('\\' :: 'u' :: digits) (Char.ofNat unit)
  /-- A leading surrogate and a trailing one. -/
  | pair {digits digits' : List Char} {high low : Nat} :
      CodeUnit digits high → 0xD800 ≤ high ∧ high < 0xDC00 →
      CodeUnit digits' low → 0xDC00 ≤ low ∧ low < 0xE000 →
      JsonUnit ('\\' :: 'u' :: digits ++ '\\' :: 'u' :: digits')
        (Char.ofNat (0x10000 + (high - 0xD800) * 0x400 + (low - 0xDC00)))

/-- What stands between the quotes of a literal. -/
inductive JsonBody : List Char → List Char → Prop where
  /-- Nothing. -/
  | nil : JsonBody [] []
  /-- One character, then more. -/
  | cons {unit body text : List Char} {character : Char} :
      JsonUnit unit character → JsonBody body text → JsonBody (unit ++ body) (character :: text)

/-- A literal of a text. -/
inductive IsJsonLiteral : List Char → String → Prop where
  /-- The quotes around it. -/
  | quoted {body text : List Char} :
      JsonBody body text → IsJsonLiteral ('"' :: body ++ ['"']) (String.ofList text)

/-! ## Reading -/

theorem simpleEscape?_eq_some_iff {letter character : Char} :
    simpleEscape? letter = some character ↔ (letter, character) ∈ shortEscapes := by
  constructor
  · intro found
    unfold simpleEscape? at found
    split at found <;> cases found <;> decide
  · intro isListed
    simp only [shortEscapes, List.mem_cons, Prod.mk.injEq, List.not_mem_nil, or_false] at isListed
    rcases isListed with ⟨rfl, rfl⟩ | ⟨rfl, rfl⟩ | ⟨rfl, rfl⟩ | ⟨rfl, rfl⟩ | ⟨rfl, rfl⟩ |
      ⟨rfl, rfl⟩ | ⟨rfl, rfl⟩ | ⟨rfl, rfl⟩ <;> rfl

theorem fourHexDigits?_eq_some_iff {first second third fourth : Char} {unit : Nat} :
    fourHexDigits? first second third fourth = some unit ↔
      CodeUnit [first, second, third, fourth] unit := by
  have isNumeral : (∀ digit ∈ [first, second, third, fourth], digitValue digit < 16) ↔
      [first, second, third, fourth].all (fun digit => digitValue digit < 16) = true := by
    simp only [List.all_eq_true, decide_eq_true_eq]
  rw [fourHexDigits?, readNumeral?]
  constructor
  · intro found
    split at found
    · next valid =>
        cases found
        exact .hexadecimal (isNumeral.2 (by simpa using valid))
    · cases found
  · intro isUnit
    cases isUnit with
    | hexadecimal valid =>
        rw [if_pos]
        simpa using isNumeral.1 valid

/-- What stands for a character is read as the character, and more is read after it. -/
theorem readJsonBody?_unit
    {unit : List Char}
    {character : Char}
    (isUnit : JsonUnit unit character)
    (rest : List Char) :
    readJsonBody? (unit ++ rest) =
      (readJsonBody? rest).map fun body => (character :: body.1, body.2) := by
  cases isUnit with
  | plain visible noQuote noBackslash =>
      have noControl : ¬ character.toNat < 0x20 := by omega
      simp [readJsonBody?, noBackslash, noControl]
  | @short letter _ isShort =>
      have noUnit : letter ≠ 'u' := by
        rintro rfl
        simp [shortEscapes] at isShort
      simp [readJsonBody?, noUnit, simpleEscape?_eq_some_iff.2 isShort]
  | single isCode noSurrogate =>
      cases isCode with
      | @hexadecimal first second third fourth valid =>
          have isUnit := fourHexDigits?_eq_some_iff.2 (.hexadecimal valid)
          have noLead : ¬ (0xD800 ≤ numeralValue 16 [first, second, third, fourth] ∧
              numeralValue 16 [first, second, third, fourth] < 0xDC00) := by omega
          have noTrail : ¬ (0xDC00 ≤ numeralValue 16 [first, second, third, fourth] ∧
              numeralValue 16 [first, second, third, fourth] < 0xE000) := by omega
          simp only [List.cons_append, List.nil_append, readJsonBody?, isUnit, if_neg noLead,
            if_neg noTrail]
  | pair isHigh highRange isLow lowRange =>
      cases isHigh with
      | hexadecimal valid =>
          cases isLow with
          | hexadecimal valid' =>
              have isHigh := fourHexDigits?_eq_some_iff.2 (.hexadecimal valid)
              have isLow := fourHexDigits?_eq_some_iff.2 (.hexadecimal valid')
              simp only [List.cons_append, List.nil_append, readJsonBody?, isHigh, isLow,
                if_pos highRange, if_pos lowRange]

/-- The body of a literal is read up to the closing quote. -/
theorem readJsonBody?_append
    {body text : List Char}
    (isBody : JsonBody body text)
    (rest : List Char) :
    readJsonBody? (body ++ '"' :: rest) = some (text, rest) := by
  induction isBody with
  | nil => rfl
  | cons isUnit _ ih => rw [List.append_assoc, readJsonBody?_unit isUnit, ih]; rfl

/-- Whether what is read before a closing quote is the body of a literal. -/
def ReadsBody (source : List Char) : Prop :=
  ∀ {text rest : List Char}, readJsonBody? source = some (text, rest) →
    ∃ body, source = body ++ '"' :: rest ∧ JsonBody body text

/-- One more character is read before a body. -/
theorem ReadsBody.unit
    {unit source text rest : List Char}
    {character : Char}
    (readsBody : ReadsBody source)
    (isUnit : JsonUnit unit character)
    (isRead : (readJsonBody? source).map (fun body => (character :: body.1, body.2)) =
      some (text, rest)) :
    ∃ body, unit ++ source = body ++ '"' :: rest ∧ JsonBody body text := by
  obtain ⟨⟨text', rest'⟩, isRest, same⟩ := Option.map_eq_some_iff.1 isRead
  obtain ⟨rfl, rfl⟩ := Prod.mk.inj same
  obtain ⟨body, rfl, isBody⟩ := readsBody isRest
  exact ⟨unit ++ body, (List.append_assoc ..).symm, .cons isUnit isBody⟩

/-- What is read as the body of a literal is one. -/
theorem readsBody (source : List Char) : ReadsBody source := by
  intro text rest isRead
  fun_induction readJsonBody? source generalizing text rest with
  | case2 =>
      cases isRead
      exact ⟨[], rfl, .nil⟩
  | case5 first second third fourth high isHigh highRange first' second' third' fourth' source low
      isLow lowRange ih =>
      exact ReadsBody.unit ih (.pair (fourHexDigits?_eq_some_iff.1 isHigh) highRange
        (fourHexDigits?_eq_some_iff.1 isLow) lowRange) isRead
  | case9 first second third fourth source unit isUnit noLead noTrail ih =>
      exact ReadsBody.unit ih (.single (fourHexDigits?_eq_some_iff.1 isUnit) (by omega)) isRead
  | case11 letter source _ character isShort ih =>
      exact ReadsBody.unit ih (.short (simpleEscape?_eq_some_iff.1 isShort)) isRead
  | case13 character source noQuote _ _ visible ih =>
      exact ReadsBody.unit ih (.plain (by omega) noQuote (by grind)) isRead
  | _ => cases isRead

/-- A literal is read exactly if it is one, and only what follows it is left. -/
theorem readJsonLiteral?_eq_some_iff
    {source rest : List Char}
    {text : String} :
    readJsonLiteral? source = some (text, rest) ↔
      ∃ literal, source = literal ++ rest ∧ IsJsonLiteral literal text := by
  constructor
  · intro isRead
    unfold readJsonLiteral? at isRead
    split at isRead
    · obtain ⟨⟨characters, rest'⟩, taken, same⟩ := Option.map_eq_some_iff.1 isRead
      obtain ⟨rfl, rfl⟩ := Prod.mk.inj same
      obtain ⟨body, rfl, isBody⟩ := readsBody _ taken
      exact ⟨'"' :: body ++ ['"'], by simp, .quoted isBody⟩
    · cases isRead
  · rintro ⟨literal, rfl, isLiteral⟩
    cases isLiteral with
    | quoted isBody =>
        have closed := readJsonBody?_append isBody rest
        simp [readJsonLiteral?, closed]

/-- A text is that of a literal exactly if nothing follows the literal. -/
theorem textOfJsonLiteral?_eq_some_iff {literal : List Char} {text : String} :
    textOfJsonLiteral? (String.ofList literal) = some text ↔ IsJsonLiteral literal text := by
  rw [textOfJsonLiteral?, String.toList_ofList]
  constructor
  · intro found
    split at found
    · next isRead =>
        cases found
        obtain ⟨literal', isAll, isLiteral⟩ := readJsonLiteral?_eq_some_iff.1 isRead
        rwa [isAll, List.append_nil]
    · cases found
  · intro isLiteral
    have isAll := (List.append_nil literal).symm
    rw [readJsonLiteral?_eq_some_iff.2 ⟨literal, isAll, isLiteral⟩]

/-! ## Writing -/

theorem digitValue_lowerHexDigit {value : Nat} (small : value < 16) :
    digitValue (lowerHexDigit value) = value := by
  have all : ∀ value < 16, digitValue (lowerHexDigit value) = value := by decide
  exact all value small

/-- Four digits are enough for a code unit. -/
theorem codeUnit_fixedHex {unit : Nat} (small : unit < 0x10000) :
    CodeUnit (fixedHex lowerHexDigit 4 unit) unit := by
  have value : ∀ number, digitValue (lowerHexDigit (number % 16)) = number % 16 := fun number =>
    digitValue_lowerHexDigit (Nat.mod_lt number (by decide))
  have isUnit : numeralValue 16
      [lowerHexDigit (unit / 16 / 16 / 16 % 16), lowerHexDigit (unit / 16 / 16 % 16),
        lowerHexDigit (unit / 16 % 16), lowerHexDigit (unit % 16)] = unit := by
    simp only [numeralValue, List.foldl_cons, List.foldl_nil, value]
    omega
  have isHexadecimal : ∀ digit ∈ [lowerHexDigit (unit / 16 / 16 / 16 % 16),
      lowerHexDigit (unit / 16 / 16 % 16), lowerHexDigit (unit / 16 % 16),
      lowerHexDigit (unit % 16)], digitValue digit < 16 := by
    simp [value, Nat.mod_lt]
  have written := CodeUnit.hexadecimal isHexadecimal
  rwa [isUnit] at written

/-- A character is written as what stands for it. -/
theorem jsonUnit_jsonCharacter (character : Char) :
    JsonUnit (jsonCharacter character) character := by
  unfold jsonCharacter
  split
  case h_8 =>
    split
    · next isControl =>
        have isUnit := @codeUnit_fixedHex character.toNat (by omega)
        have written := JsonUnit.single isUnit (by omega)
        rwa [Char.ofNat_toNat] at written
    · next visible => exact .plain (by omega) (by assumption) (by assumption)
  all_goals exact .short (by decide)

/-- The literal that is written for a text is one of it. -/
theorem isJsonLiteral_jsonLiteral (text : String) : IsJsonLiteral (jsonLiteral text) text := by
  have isBody (characters : List Char) :
      JsonBody (characters.flatMap jsonCharacter) characters := by
    induction characters with
    | nil => exact .nil
    | cons character rest ih => exact .cons (jsonUnit_jsonCharacter character) ih
  have quoted := IsJsonLiteral.quoted (isBody text.toList)
  rwa [String.ofList_toList] at quoted

/-! ## Characters of literals -/

theorem le_toNat_of_digitValue_lt {digit : Char} (isDigit : digitValue digit < 16) :
    0x20 ≤ digit.toNat := by
  unfold digitValue at isDigit
  simp only [Text.isDigit, Char.le_def, UInt32.le_iff_toNat_le, Char.toNat_val, Bool.and_eq_true,
    decide_eq_true_eq, Char.reduceToNat] at isDigit
  grind

theorem CodeUnit.le_toNat
    {digits : List Char}
    {unit : Nat}
    (isUnit : CodeUnit digits unit) :
    ∀ digit ∈ digits, 0x20 ≤ digit.toNat := by
  cases isUnit with
  | hexadecimal valid =>
      exact fun digit isMember => le_toNat_of_digitValue_lt (valid digit isMember)

/-- No control character stands for a character. -/
theorem JsonUnit.le_toNat
    {unit : List Char}
    {character : Char}
    (isUnit : JsonUnit unit character) :
    ∀ other ∈ unit, 0x20 ≤ other.toNat := by
  have escape : ∀ other ∈ ['\\', 'u'], 0x20 ≤ other.toNat :=
    List.forall_mem_cons.2 ⟨by decide, List.forall_mem_singleton.2 (by decide)⟩
  cases isUnit with
  | plain visible => exact List.forall_mem_singleton.2 visible
  | short isShort =>
      have letters : ∀ escape ∈ shortEscapes, 0x20 ≤ escape.1.toNat := by decide
      exact List.forall_mem_cons.2 ⟨by decide, List.forall_mem_singleton.2 (letters _ isShort)⟩
  | single isCode =>
      exact List.forall_mem_append.2 ⟨escape, isCode.le_toNat⟩
  | pair isHigh _ isLow =>
      exact List.forall_mem_append.2 ⟨List.forall_mem_append.2 ⟨escape, isHigh.le_toNat⟩,
        List.forall_mem_append.2 ⟨escape, isLow.le_toNat⟩⟩

/-- No control character stands in a literal. -/
theorem IsJsonLiteral.le_toNat
    {literal : List Char}
    {text : String}
    (isLiteral : IsJsonLiteral literal text) :
    ∀ character ∈ literal, 0x20 ≤ character.toNat := by
  cases isLiteral with
  | quoted isBody =>
      have inBody : ∀ {body text : List Char}, JsonBody body text →
          ∀ character ∈ body, 0x20 ≤ character.toNat := by
        intro body text isBody
        induction isBody with
        | nil => exact fun _ none => absurd none List.not_mem_nil
        | cons isUnit _ ih => exact List.forall_mem_append.2 ⟨isUnit.le_toNat, ih⟩
      have quote : ∀ character ∈ ['"'], 0x20 ≤ character.toNat :=
        List.forall_mem_singleton.2 (by decide)
      exact List.forall_mem_append.2 ⟨List.forall_mem_append.2 ⟨quote, inBody isBody⟩, quote⟩

end Text
end BundleTrust
