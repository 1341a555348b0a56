import BundleTrust.Text.Numeral
import BundleTrust.Yaml.Writer

/-!
# A prefix code of documents

A way of writing documents by which different documents are never written alike.  Every
document and each of its parts is written as a word that no other word of its kind starts
with.  A writer that uses YAML for some documents and the code for all others sets documents
apart as soon as YAML sets those few apart.
-/

namespace BundleTrust

/-- No text starts with the words of two values. -/
def IsPrefixCode {Value : Type} (code : Value → List Char) : Prop :=
  ∀ left right rest rest',
    code left ++ rest = code right ++ rest' → left = right ∧ rest = rest'

namespace PrefixCode

/-! ## Texts and numbers -/

/-- Characters, each after a comma, and a full stop. -/
def codeCharacters : List Char → List Char
  | [] => ['.']
  | character :: rest => ',' :: character :: codeCharacters rest

/-- A text. -/
def codeText (text : String) : List Char :=
  codeCharacters text.toList

/-- A natural number by its decimal digits. -/
def codeNatural (value : Nat) : List Char :=
  codeText (Text.decimal value)

/-- A whole number by its positive and its negative part. -/
def codeInteger (value : Int) : List Char :=
  codeNatural value.toNat ++ codeNatural (-value).toNat

/-- A floating-point number by its parts. -/
def codeReal (value : Number.Binary64) : List Char :=
  codeNatural value.negative.toNat ++ (codeNatural value.significand ++ codeInteger value.exponent)

theorem isPrefixCode_characters : IsPrefixCode codeCharacters := by
  intro left
  induction left with
  | nil =>
      intro right rest rest' same
      cases right <;> simp_all [codeCharacters]
  | cons character left ih =>
      intro right rest rest' same
      cases right with
      | nil => simp [codeCharacters] at same
      | cons character' right =>
          simp only [codeCharacters, List.cons_append, List.cons.injEq, true_and] at same
          obtain ⟨sameFirst, sameRest⟩ := same
          obtain ⟨rfl, rfl⟩ := ih right rest rest' sameRest
          exact ⟨by rw [sameFirst], rfl⟩

theorem isPrefixCode_text : IsPrefixCode codeText := by
  intro left right rest rest' same
  obtain ⟨sameList, sameRest⟩ := isPrefixCode_characters _ _ rest rest' same
  exact ⟨String.toList_injective sameList, sameRest⟩

theorem isPrefixCode_natural : IsPrefixCode codeNatural := by
  intro left right rest rest' same
  obtain ⟨sameText, sameRest⟩ := isPrefixCode_text _ _ rest rest' same
  exact ⟨Text.decimal_injective sameText, sameRest⟩

theorem isPrefixCode_integer : IsPrefixCode codeInteger := by
  intro left right rest rest' same
  simp only [codeInteger, List.append_assoc] at same
  obtain ⟨samePositive, same⟩ := isPrefixCode_natural _ _ _ _ same
  obtain ⟨sameNegative, sameRest⟩ := isPrefixCode_natural _ _ _ _ same
  exact ⟨by omega, sameRest⟩

theorem isPrefixCode_real : IsPrefixCode codeReal := by
  intro left right rest rest' same
  simp only [codeReal, List.append_assoc] at same
  obtain ⟨sameSign, same⟩ := isPrefixCode_natural _ _ _ _ same
  obtain ⟨sameSignificand, same⟩ := isPrefixCode_natural _ _ _ _ same
  obtain ⟨sameExponent, sameRest⟩ := isPrefixCode_integer _ _ _ _ same
  have sameNegative : left.negative = right.negative := by
    revert sameSign
    cases left.negative <;> cases right.negative <;> decide
  exact ⟨Number.Binary64.ext sameNegative sameSignificand sameExponent, sameRest⟩

/-! ## Documents -/

mutual

/-- A document by the letter of its kind and its parts. -/
def code : Document → List Char
  | .null => ['n']
  | .boolean value => ['b', if value then 't' else 'f']
  | .integer value => 'i' :: codeInteger value.value
  | .real value => 'r' :: codeReal value
  | .text value => 's' :: codeText value
  | .list items => 'l' :: codeItems items
  | .mapping members => 'm' :: codeMembers members

/-- Items, each after a comma, and a full stop. -/
def codeItems : List Document → List Char
  | [] => ['.']
  | item :: items => ',' :: (code item ++ codeItems items)

/-- Members, each after a comma, and a full stop. -/
def codeMembers : Members → List Char
  | [] => ['.']
  | (key, value) :: members => ',' :: (codeText key ++ (code value ++ codeMembers members))

end

mutual

theorem code_append_inj : (left right : Document) → (rest rest' : List Char) →
    code left ++ rest = code right ++ rest' → left = right ∧ rest = rest'
  | .null, right, rest, rest', same => by
      cases right with
      | null => simpa [code] using same
      | _ => simp [code] at same
  | .boolean value, right, rest, rest', same => by
      cases right with
      | boolean value' => cases value <;> cases value' <;> simp_all [code]
      | _ => simp [code] at same
  | .integer value, right, rest, rest', same => by
      cases right with
      | integer value' =>
          simp only [code, List.cons_append, List.cons.injEq, true_and] at same
          obtain ⟨sameValue, sameRest⟩ := isPrefixCode_integer _ _ _ _ same
          cases value
          cases value'
          simp_all
      | _ => simp [code] at same
  | .real value, right, rest, rest', same => by
      cases right with
      | real value' =>
          simp only [code, List.cons_append, List.cons.injEq, true_and] at same
          obtain ⟨sameValue, sameRest⟩ := isPrefixCode_real _ _ _ _ same
          exact ⟨by rw [sameValue], sameRest⟩
      | _ => simp [code] at same
  | .text value, right, rest, rest', same => by
      cases right with
      | text value' =>
          simp only [code, List.cons_append, List.cons.injEq, true_and] at same
          obtain ⟨sameValue, sameRest⟩ := isPrefixCode_text _ _ _ _ same
          exact ⟨by rw [sameValue], sameRest⟩
      | _ => simp [code] at same
  | .list items, right, rest, rest', same => by
      cases right with
      | list items' =>
          simp only [code, List.cons_append, List.cons.injEq, true_and] at same
          obtain ⟨sameItems, sameRest⟩ := codeItems_append_inj items items' rest rest' same
          exact ⟨by rw [sameItems], sameRest⟩
      | _ => simp [code] at same
  | .mapping members, right, rest, rest', same => by
      cases right with
      | mapping members' =>
          simp only [code, List.cons_append, List.cons.injEq, true_and] at same
          obtain ⟨sameMembers, sameRest⟩ :=
            codeMembers_append_inj members members' rest rest' same
          exact ⟨by rw [sameMembers], sameRest⟩
      | _ => simp [code] at same

theorem codeItems_append_inj : (left right : List Document) → (rest rest' : List Char) →
    codeItems left ++ rest = codeItems right ++ rest' → left = right ∧ rest = rest'
  | [], right, rest, rest', same => by
      cases right <;> simp_all [codeItems]
  | item :: items, right, rest, rest', same => by
      cases right with
      | nil => simp [codeItems] at same
      | cons item' items' =>
          simp only [codeItems, List.cons_append, List.append_assoc, List.cons.injEq,
            true_and] at same
          obtain ⟨sameItem, same⟩ := code_append_inj item item' _ _ same
          obtain ⟨sameItems, sameRest⟩ := codeItems_append_inj items items' rest rest' same
          exact ⟨by rw [sameItem, sameItems], sameRest⟩

theorem codeMembers_append_inj : (left right : Members) → (rest rest' : List Char) →
    codeMembers left ++ rest = codeMembers right ++ rest' → left = right ∧ rest = rest'
  | [], right, rest, rest', same => by
      cases right <;> simp_all [codeMembers]
  | (key, value) :: members, right, rest, rest', same => by
      cases right with
      | nil => simp [codeMembers] at same
      | cons member' members' =>
          obtain ⟨key', value'⟩ := member'
          simp only [codeMembers, List.cons_append, List.append_assoc, List.cons.injEq,
            true_and] at same
          obtain ⟨sameKey, same⟩ := isPrefixCode_text _ _ _ _ same
          obtain ⟨sameValue, same⟩ := code_append_inj value value' _ _ same
          obtain ⟨sameMembers, sameRest⟩ :=
            codeMembers_append_inj members members' rest rest' same
          exact ⟨by rw [sameKey, sameValue, sameMembers], sameRest⟩

end

/-- Different documents have different words. -/
theorem code_injective : Function.Injective code := fun left right same =>
  (code_append_inj left right [] [] (by rw [same])).1

/-! ## YAML for some documents -/

/-- Write known documents as YAML and others as a word after a null character. -/
def writeKnown (known : List Document) (document : Document) : String :=
  if document ∈ known then Yaml.write document else String.ofList ('\x00' :: code document)

/-- Where YAML sets the known documents apart and starts none of them with a null character,
the writer sets all documents apart. -/
theorem writeKnown_injective
    {known : List Document}
    (apart : ∀ left ∈ known, ∀ right ∈ known, Yaml.write left = Yaml.write right → left = right)
    (noNull : ∀ document ∈ known, (Yaml.write document).toList.head? ≠ some '\x00') :
    Function.Injective (writeKnown known) := by
  intro left right same
  simp only [writeKnown] at same
  split at same
  · next isKnown =>
      split at same
      · next isKnown' => exact apart left isKnown right isKnown' same
      · exact absurd (by rw [same]; simp) (noNull left isKnown)
  · split at same
    · next isKnown' => exact absurd (by rw [← same]; simp) (noNull right isKnown')
    · have sameWords := String.ofList_injective same
      exact code_injective (List.cons.inj sameWords).2

end PrefixCode
end BundleTrust
