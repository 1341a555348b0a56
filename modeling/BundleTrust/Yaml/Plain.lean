import BundleTrust.Number.Layout

/-!
# Plain scalars

What an unquoted scalar without a tag denotes: null, a truth value, a whole number in one
of four radices, a floating-point number, or else a text.  An optional sign before two or
more digits of which the first is zero is a text.
-/

namespace BundleTrust
namespace Yaml

/-- The value of a plain scalar. -/
inductive PlainValue where
  /-- No value. -/
  | null
  /-- A truth value. -/
  | boolean (value : Bool)
  /-- A whole number of at most one hundred and twenty-eight bits. -/
  | integer (value : Int)
  /-- A finite floating-point number. -/
  | real (value : Number.Binary64)
  /-- Infinity or not a number. -/
  | nonFinite
  /-- A text. -/
  | text
  deriving DecidableEq, Repr

/-- The spellings of null. -/
def nullWords : List String := ["null", "Null", "NULL", "~"]

/-- The spellings of truth. -/
def trueWords : List String := ["true", "True", "TRUE"]

/-- The spellings of falsehood. -/
def falseWords : List String := ["false", "False", "FALSE"]

/-- The spellings of infinity without a sign. -/
def infinityWords : List String := [".inf", ".Inf", ".INF"]

/-- The spellings of not-a-number. -/
def notANumberWords : List String := [".nan", ".NaN", ".NAN"]

/-- Whether characters spell a null. -/
def isNullWord (characters : List Char) : Bool :=
  nullWords.contains (String.ofList characters)

/-- The truth value that characters spell. -/
def readBoolean? (characters : List Char) : Option Bool :=
  if trueWords.contains (String.ofList characters) then some true
  else if falseWords.contains (String.ofList characters) then some false
  else none

/-- Drop one sign. -/
def dropSign : List Char → List Char
  | '+' :: rest => rest
  | '-' :: rest => rest
  | rest => rest

/-- An optional sign, then two or more digits of which the first is zero. -/
def isPaddedNumeral (characters : List Char) : Bool :=
  let digits := dropSign characters
  digits.length > 1 && digits.head? == some '0' && digits.all Text.isDigit

/-- A number after its sign, in one of the four radices. -/
def readMagnitude? : List Char → Option Nat
  | '0' :: 'x' :: digits => Text.readNumeral? 16 digits
  | '0' :: 'o' :: digits => Text.readNumeral? 8 digits
  | '0' :: 'b' :: digits => Text.readNumeral? 2 digits
  | digits => if isPaddedNumeral digits then none else Text.readNumeral? 10 digits

/-- A whole number within given limits: below the first one if it has no minus sign, and of
a magnitude up to the second one if it has. -/
def readInteger? (limit greatestNegative : Nat) : List Char → Option Int
  | '-' :: rest =>
      (readMagnitude? rest).bind fun magnitude =>
        if magnitude ≤ greatestNegative then some (-(magnitude : Int)) else none
  | '+' :: rest =>
      (readMagnitude? rest).bind fun magnitude =>
        if magnitude < limit then some (magnitude : Int) else none
  | rest =>
      (readMagnitude? rest).bind fun magnitude =>
        if magnitude < limit then some (magnitude : Int) else none

/-- Infinity with an optional sign, or not-a-number. -/
def isNonFinite (characters : List Char) : Bool :=
  infinityWords.contains (String.ofList (dropSign characters)) ||
    notANumberWords.contains (String.ofList characters)

/-- A finite floating-point number with at most one sign. -/
def readReal? : List Char → Option Number.Binary64
  | '+' :: rest =>
      if rest.head? = some '+' ∨ rest.head? = some '-' then none
      else Number.readDecimal? rest
  | rest => Number.readDecimal? rest

/-- How many numbers have one hundred and twenty-eight bits. -/
def wideLimit : Nat := UInt64.size * UInt64.size

/-- What a plain scalar denotes. -/
def resolvePlain (characters : List Char) : PlainValue :=
  if characters.isEmpty || isNullWord characters then .null
  else
    match readBoolean? characters with
    | some value => .boolean value
    | none =>
        match readInteger? wideLimit (wideLimit / 2) characters with
        | some value => .integer value
        | none =>
            if isPaddedNumeral characters then .text
            else if isNonFinite characters then .nonFinite
            else
              match readReal? characters with
              | some value => .real value
              | none => .text

end Yaml
end BundleTrust
