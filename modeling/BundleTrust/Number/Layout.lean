import BundleTrust.Number.Shortest
import BundleTrust.Text.Numeral

/-!
# Decimal notation of floating-point numbers

Reading a decimal literal and writing a number: positionally with at least one digit
after the point, or with an exponent when the leading digit stands too far from it.
-/

namespace BundleTrust
namespace Number

/-- The choices a format leaves open when it writes a floating-point number. -/
structure Layout where
  /-- The least exponent of the leading digit that is written positionally. -/
  leastPositional : Int
  /-- The greatest exponent of the leading digit that is written positionally. -/
  greatestPositional : Int
  /-- Whether a positive exponent carries a plus sign. -/
  plusSign : Bool

/-- Put the point into digits whose leading one has an exponent. -/
def positional (digits : List Char) (leading : Int) : List Char :=
  if leading < 0 then
    ['0', '.'] ++ List.replicate (-leading - 1).toNat '0' ++ digits
  else
    let whole := leading.toNat + 1
    let padded := digits ++ List.replicate (whole - digits.length) '0'
    match padded.drop whole with
    | [] => padded.take whole ++ ['.', '0']
    | fraction => padded.take whole ++ ['.'] ++ fraction

/-- Write digits with an exponent. -/
def scientific (layout : Layout) (digits : List Char) (leading : Int) : List Char :=
  let sign := if leading < 0 then ['-'] else if layout.plusSign then ['+'] else []
  let significand :=
    match digits with
    | [] => []
    | [digit] => [digit]
    | digit :: fraction => digit :: '.' :: fraction
  significand ++ ['e'] ++ sign ++ Nat.toDigits 10 leading.natAbs

/-- Write a number with the fewest digits that read back. -/
def Layout.render (layout : Layout) (number : Binary64) : List Char :=
  let sign := if number.negative then ['-'] else []
  if number.isZero then sign ++ ['0', '.', '0']
  else
    let decimal := number.shortest
    let digits := Nat.toDigits 10 decimal.digits
    let leading := decimal.exponent + (digits.length : Int) - 1
    sign ++
      if layout.leastPositional ≤ leading ∧ leading ≤ layout.greatestPositional then
        positional digits leading
      else scientific layout digits leading

/-- An exponent part after its letter: an optional sign and digits. -/
def readExponent? : List Char → Option Int
  | '+' :: digits => (Text.readNumeral? 10 digits).map Int.ofNat
  | '-' :: digits => (Text.readNumeral? 10 digits).map fun value => -Int.ofNat value
  | digits => (Text.readNumeral? 10 digits).map Int.ofNat

/-- An unsigned decimal literal: digits with an optional point, at least one of them, and
an optional exponent.  The result is the digits as a number and the power of ten. -/
def readUnsignedDecimal? (source : List Char) : Option (Nat × Int) :=
  let whole := source.takeWhile Text.isDigit
  let afterWhole := source.dropWhile Text.isDigit
  let (fraction, rest) :=
    match afterWhole with
    | '.' :: tail => (tail.takeWhile Text.isDigit, tail.dropWhile Text.isDigit)
    | _ => ([], afterWhole)
  let digits := whole ++ fraction
  if digits.isEmpty then none
  else
    let value := Text.numeralValue 10 digits
    let shift : Int := -(fraction.length : Int)
    match rest with
    | [] => some (value, shift)
    | letter :: tail =>
        if letter = 'e' ∨ letter = 'E' then
          (readExponent? tail).map fun exponent => (value, shift + exponent)
        else none

/-- The binary64 number nearest to a decimal literal with an optional sign; none when the
text is no literal or its value is out of range. -/
def readDecimal? : List Char → Option Binary64
  | '-' :: rest =>
      (readUnsignedDecimal? rest).bind fun parts => Binary64.ofDecimal? true parts.1 parts.2
  | '+' :: rest =>
      (readUnsignedDecimal? rest).bind fun parts => Binary64.ofDecimal? false parts.1 parts.2
  | rest =>
      (readUnsignedDecimal? rest).bind fun parts => Binary64.ofDecimal? false parts.1 parts.2

end Number
end BundleTrust
