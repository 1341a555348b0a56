/-!
# Numerals

Digit strings read as natural numbers.  A numeral is a nonempty run of digits of
one radix; leading zeros are allowed.
-/

namespace BundleTrust
namespace Text

/-- An ASCII decimal digit. -/
def isDigit (character : Char) : Bool :=
  '0' ≤ character && character ≤ '9'

/-- The value of an ASCII letter or digit read as a digit, in either case. -/
def digitValue (character : Char) : Nat :=
  if isDigit character then character.toNat - 48
  else if 'a' ≤ character && character ≤ 'z' then character.toNat - 87
  else if 'A' ≤ character && character ≤ 'Z' then character.toNat - 55
  else 36

/-- The number that a run of digits denotes, most significant digit first. -/
def numeralValue (radix : Nat) (digits : List Char) : Nat :=
  digits.foldl (fun value digit => radix * value + digitValue digit) 0

/-- The decimal numeral of a number, without leading zeros. -/
def decimal (value : Nat) : String :=
  String.ofList (Nat.toDigits 10 value)

/-- Read a nonempty run of digits of a radix. -/
def readNumeral? (radix : Nat) (digits : List Char) : Option Nat :=
  if !digits.isEmpty && digits.all (fun digit => digitValue digit < radix) then
    some (numeralValue radix digits)
  else none

/-- Read a nonempty run of decimal digits whose value is below a limit. -/
def readDecimalBelow? (limit : Nat) (digits : List Char) : Option Nat :=
  match readNumeral? 10 digits with
  | some value => if value < limit then some value else none
  | none => none

/-- Read a decimal numeral below a limit that may carry one plus sign. -/
def readSignedDecimalBelow? (limit : Nat) : List Char → Option Nat
  | '+' :: digits => readDecimalBelow? limit digits
  | digits => readDecimalBelow? limit digits

/-- Different numbers have different numerals. -/
theorem decimal_injective : Function.Injective decimal := by
  intro left right equal
  have digits : Nat.toDigits 10 left = Nat.toDigits 10 right := String.ofList_injective equal
  calc
    left = Nat.ofDigitChars 10 (Nat.toDigits 10 left) 0 := Nat.ofDigitChars_ten_toDigits.symm
    _ = Nat.ofDigitChars 10 (Nat.toDigits 10 right) 0 := by rw [digits]
    _ = right := Nat.ofDigitChars_ten_toDigits

/-- The codes of decimal digits. -/
theorem isDigit_iff_toNat {character : Char} :
    isDigit character = true ↔ 48 ≤ character.toNat ∧ character.toNat ≤ 57 := by
  simp only [isDigit, Bool.and_eq_true, decide_eq_true_eq, Char.le_def, UInt32.le_iff_toNat_le,
    Char.toNat_val, Char.reduceToNat]

/-- The digits below ten are the decimal digits. -/
theorem digitValue_lt_ten_iff {digit : Char} : digitValue digit < 10 ↔ isDigit digit = true := by
  unfold digitValue
  simp only [isDigit_iff_toNat, Char.le_def, UInt32.le_iff_toNat_le, Char.toNat_val,
    Bool.and_eq_true, decide_eq_true_eq, Char.reduceToNat]
  grind

/-- The numeral of a number consists of digits. -/
theorem isDigit_of_mem_toDigits (value : Nat) :
    ∀ digit ∈ Nat.toDigits 10 value, isDigit digit = true :=
  fun _ isMember => Nat.isDigit_of_mem_toDigits (by decide) (by decide) isMember

/-- The numeral of a number has the number as its value. -/
theorem numeralValue_toDigits (value : Nat) : numeralValue 10 (Nat.toDigits 10 value) = value := by
  have same : ∀ (digits : List Char) (initial : Nat), (∀ digit ∈ digits, isDigit digit = true) →
      digits.foldl (fun number digit => 10 * number + digitValue digit) initial =
        Nat.ofDigitChars 10 digits initial := by
    intro digits initial areDigits
    induction digits generalizing initial with
    | nil => rfl
    | cons digit digits ih =>
        obtain ⟨isFirst, areDigits⟩ := List.forall_mem_cons.1 areDigits
        rw [List.foldl_cons, ih _ areDigits, Nat.ofDigitChars_cons, digitValue, if_pos isFirst]
        rfl
  rw [numeralValue, same _ 0 (isDigit_of_mem_toDigits value), Nat.ofDigitChars_ten_toDigits]

/-- A numeral is read exactly from digits. -/
theorem readNumeral?_eq_some_iff {value : Nat} {digits : List Char} :
    readNumeral? 10 digits = some value ↔
      digits ≠ [] ∧ (∀ digit ∈ digits, isDigit digit = true) ∧ numeralValue 10 digits = value := by
  have valid : (!digits.isEmpty && digits.all fun digit => digitValue digit < 10) = true ↔
      digits ≠ [] ∧ ∀ digit ∈ digits, isDigit digit = true := by
    simp [← digitValue_lt_ten_iff]
  rw [readNumeral?, Option.ite_none_right_eq_some, valid, Option.some.injEq, and_assoc]

/-- A bounded numeral is read exactly from digits of a number below the limit. -/
theorem readDecimalBelow?_eq_some_iff
    {limit value : Nat}
    {digits : List Char} :
    readDecimalBelow? limit digits = some value ↔
      digits ≠ [] ∧ (∀ digit ∈ digits, isDigit digit = true) ∧ numeralValue 10 digits = value ∧
        value < limit := by
  have bounded : readDecimalBelow? limit digits = some value ↔
      readNumeral? 10 digits = some value ∧ value < limit := by
    rw [readDecimalBelow?]
    cases readNumeral? 10 digits with
    | none => simp
    | some number =>
        simp only [Option.ite_none_right_eq_some, Option.some.injEq]
        exact ⟨fun ⟨below, same⟩ => ⟨same, same ▸ below⟩, fun ⟨same, below⟩ => ⟨same ▸ below, same⟩⟩
  rw [bounded, readNumeral?_eq_some_iff, and_assoc, and_assoc]

end Text
end BundleTrust
