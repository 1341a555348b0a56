import BundleTrust.Text.Numeral
import Mathlib.Data.List.Basic
import Mathlib.Data.Nat.Digits.Defs

/-!
# Numerals and their leading zeros

A numeral has the value of its digits in the usual positional sense, and what is left of it
without its leading zeros are the digits of that value.  So two numerals denote one number exactly
if they agree without their leading zeros (`Text.numeralValue_eq_iff`), and each number has one
numeral without them, which is the decimal numeral that is written for it (`Text.eq_decimal_iff`).
-/

namespace BundleTrust
namespace Text

/-- A run of characters is a numeral of a number: it is not empty and consists of digits, and the
number is their value. -/
structure IsNumeralOf (run : List Char) (value : Nat) : Prop where
  /-- There is a digit. -/
  ne_nil : run ≠ []
  /-- There is nothing else. -/
  isDigit : ∀ digit ∈ run, isDigit digit = true
  /-- The number is the value of the digits. -/
  numeralValue_eq : numeralValue 10 run = value

/-- A run of characters without the zeros that it starts with. -/
def dropLeadingZeros (run : List Char) : List Char :=
  run.dropWhile (· = '0')

theorem isNumeralOf_iff {run : List Char} {value : Nat} :
    readNumeral? 10 run = some value ↔ IsNumeralOf run value :=
  readNumeral?_eq_some_iff.trans
    ⟨fun ⟨filled, digits, same⟩ => ⟨filled, digits, same⟩,
      fun ⟨filled, digits, same⟩ => ⟨filled, digits, same⟩⟩

/-- The decimal numeral of a number is a numeral of it. -/
theorem isNumeralOf_toDigits (value : Nat) : IsNumeralOf (Nat.toDigits 10 value) value :=
  ⟨Nat.toDigits_ne_nil, isDigit_of_mem_toDigits value, numeralValue_toDigits value⟩

/-- A numeral of digits cannot hold a separator. -/
theorem IsNumeralOf.notMem
    {run : List Char}
    {value : Nat}
    {separator : Char}
    (isNumeral : IsNumeralOf run value)
    (noDigit : Text.isDigit separator = false) :
    separator ∉ run :=
  fun isMember => Bool.false_ne_true (noDigit.symm.trans (isNumeral.isDigit _ isMember))

/-! ## Values -/

/-- The value of a run of digits is the positional one. -/
theorem numeralValue_eq_ofDigits (run : List Char) :
    numeralValue 10 run = Nat.ofDigits 10 (run.map digitValue).reverse := by
  rw [Nat.ofDigits_eq_foldr, List.foldr_reverse, List.foldl_map, numeralValue]
  congr 1
  funext value digit
  exact Nat.add_comm _ _

/-- A digit is that of its value. -/
theorem digitChar_digitValue {digit : Char} (isDigit : isDigit digit = true) :
    Nat.digitChar (digitValue digit) = digit := by
  obtain ⟨lower, upper⟩ := isDigit_iff_toNat.1 isDigit
  have same : ∀ code < 58, 48 ≤ code → Nat.digitChar (code - 48) = Char.ofNat code := by decide
  rw [digitValue, if_pos isDigit, same digit.toNat (Nat.lt_succ_of_le upper) lower,
    Char.ofNat_toNat]

/-- The digits of a numeral are those of its values. -/
theorem map_digitChar_digitValue
    {run : List Char}
    (areDigits : ∀ digit ∈ run, isDigit digit = true) :
    (run.map digitValue).map Nat.digitChar = run := by
  rw [List.map_map]
  exact (List.map_congr_left fun digit isMember =>
    digitChar_digitValue (areDigits digit isMember)).trans (List.map_id run)

/-! ## Leading zeros -/

/-- Leading zeros do not count. -/
theorem numeralValue_dropLeadingZeros (run : List Char) :
    numeralValue 10 (dropLeadingZeros run) = numeralValue 10 run := by
  induction run with
  | nil => rfl
  | cons digit run ih =>
      by_cases isZero : digit = '0'
      · subst isZero
        exact ih
      · rw [dropLeadingZeros, List.dropWhile_cons_of_neg (by simpa using isZero)]

/-- What is left without leading zeros are the digits of the value. -/
theorem digits_numeralValue
    {run : List Char}
    (areDigits : ∀ digit ∈ run, isDigit digit = true) :
    Nat.digits 10 (numeralValue 10 run) = ((dropLeadingZeros run).map digitValue).reverse := by
  have areDigits' : ∀ digit ∈ dropLeadingZeros run, isDigit digit = true :=
    fun digit isMember => areDigits digit (List.dropWhile_sublist _ |>.mem isMember)
  rw [← numeralValue_dropLeadingZeros, numeralValue_eq_ofDigits]
  refine Nat.digits_ofDigits 10 (by decide) _ (fun value isValue => ?_) fun filled => ?_
  · obtain ⟨digit, isMember, rfl⟩ := List.mem_map.1 (List.mem_reverse.1 isValue)
    exact digitValue_lt_ten_iff.2 (areDigits' digit isMember)
  · -- The first digit that is left is no zero, so its value is none.
    have filled' : dropLeadingZeros run ≠ [] := fun isEmpty => filled (by rw [isEmpty]; rfl)
    have isFirst := areDigits' _ (List.head_mem filled')
    have notZero : (dropLeadingZeros run).head filled' ≠ '0' :=
      of_decide_eq_false (List.head_dropWhile_not (· = '0') filled')
    rw [List.getLast_reverse, List.head_map]
    intro isZero
    exact notZero ((digitChar_digitValue isFirst).symm.trans (congrArg Nat.digitChar isZero))

/-- Two numerals denote one number exactly if they agree without their leading zeros. -/
theorem numeralValue_eq_iff
    {left right : List Char}
    (areDigits : ∀ digit ∈ left, isDigit digit = true)
    (areDigits' : ∀ digit ∈ right, isDigit digit = true) :
    numeralValue 10 left = numeralValue 10 right ↔
      dropLeadingZeros left = dropLeadingZeros right := by
  constructor
  · intro same
    have digits : (dropLeadingZeros left).map digitValue =
        (dropLeadingZeros right).map digitValue := by
      rw [← List.reverse_inj, ← digits_numeralValue areDigits, ← digits_numeralValue areDigits',
        same]
    have remain {run : List Char} (areDigits : ∀ digit ∈ run, isDigit digit = true) :
        ((dropLeadingZeros run).map digitValue).map Nat.digitChar = dropLeadingZeros run :=
      map_digitChar_digitValue fun digit isMember =>
        areDigits digit ((List.dropWhile_sublist _).mem isMember)
    rw [← remain areDigits, digits, remain areDigits']
  · intro same
    rw [← numeralValue_dropLeadingZeros left, same, numeralValue_dropLeadingZeros]

/-! ## Canonical numerals -/

/-- A run of characters is the canonical numeral of a number: it is a numeral of the number, and
its only zero in front is that of zero itself. -/
structure IsCanonicalNumeralOf (run : List Char) (value : Nat) : Prop
    extends IsNumeralOf run value where
  /-- A zero in front is the whole numeral. -/
  eq_of_zero_first : run.head? = some '0' → run = ['0']

/-- A canonical numeral has no leading zeros to drop, if it is not a zero. -/
theorem IsCanonicalNumeralOf.dropLeadingZeros_eq
    {run : List Char}
    {value : Nat}
    (isNumeral : IsCanonicalNumeralOf run value) :
    dropLeadingZeros run = if run = ['0'] then [] else run := by
  split
  · next isZero => subst isZero; rfl
  · next notZero =>
      obtain ⟨first, rest, rfl⟩ := List.exists_cons_of_ne_nil isNumeral.ne_nil
      have notFirst : first ≠ '0' := fun isFirst =>
        notZero (isNumeral.eq_of_zero_first (congrArg some isFirst))
      rw [dropLeadingZeros, List.dropWhile_cons_of_neg (by simpa using notFirst)]

/-- A number has one canonical numeral. -/
theorem IsCanonicalNumeralOf.unique
    {left right : List Char}
    {value : Nat}
    (isNumeral : IsCanonicalNumeralOf left value)
    (isNumeral' : IsCanonicalNumeralOf right value) :
    left = right := by
  have same := (numeralValue_eq_iff isNumeral.isDigit isNumeral'.isDigit).1
    (isNumeral.numeralValue_eq.trans isNumeral'.numeralValue_eq.symm)
  rw [isNumeral.dropLeadingZeros_eq, isNumeral'.dropLeadingZeros_eq] at same
  -- Something is left of all numerals but the zero.
  split at same
  · next isZero =>
      split at same
      · next isZero' => rw [isZero, isZero']
      · exact absurd same.symm isNumeral'.ne_nil
  · split at same
    · exact absurd same isNumeral.ne_nil
    · exact same

/-- The digits of a positive number do not start with a zero. -/
theorem head?_toDigits_ne_zero
    {value : Nat}
    (positive : 0 < value) :
    (Nat.toDigits 10 value).head? ≠ some '0' := by
  induction value using Nat.strongRecOn with
  | ind value ih =>
      by_cases small : value < 10
      · have same : ∀ digit < 10, 0 < digit → Nat.digitChar digit ≠ '0' := by decide
        rw [Nat.toDigits_of_lt_base small, List.head?_cons]
        exact mt Option.some.inj (same value small positive)
      · -- The first digit is that of the number without its last digit.
        rw [Nat.toDigits_of_base_le (by decide) (Nat.le_of_not_lt small),
          List.head?_append_of_ne_nil _ Nat.toDigits_ne_nil]
        exact ih (value / 10) (by omega) (by omega)

/-- The decimal numeral of a number is its canonical one. -/
theorem isCanonicalNumeralOf_decimal (value : Nat) :
    IsCanonicalNumeralOf (decimal value).toList value := by
  rw [decimal, String.toList_ofList]
  refine ⟨isNumeralOf_toDigits value, fun zeroFirst => ?_⟩
  rcases Nat.eq_zero_or_pos value with rfl | positive
  · rfl
  · exact absurd zeroFirst (head?_toDigits_ne_zero positive)

/-- A text is the decimal numeral of a number exactly if it is the canonical one. -/
theorem eq_decimal_iff {text : String} {value : Nat} :
    text = decimal value ↔ IsCanonicalNumeralOf text.toList value := by
  constructor
  · rintro rfl
    exact isCanonicalNumeralOf_decimal value
  · exact fun isNumeral =>
      String.toList_inj.1 (isNumeral.unique (isCanonicalNumeralOf_decimal value))

end Text
end BundleTrust
