import BundleTrust.Text.Numeral

/-!
# Punycode

The decoder of RFC 3492, which writes a text as its ASCII characters and a run of numbers
that tell where the other characters go.
-/

namespace BundleTrust
namespace Registry
namespace Punycode

/-- The value of a digit: letters of ASCII in either case, then decimal digits. -/
def digit? (character : Char) : Option Nat :=
  if Text.isDigit character then some (Text.digitValue character + 26)
  else if Text.digitValue character < 36 then some (Text.digitValue character - 10)
  else none

/-- The least digit at a place that is not the last one of its number. -/
def threshold (bias place : Nat) : Nat :=
  if place ≤ bias then 1 else if bias + 26 ≤ place then 26 else place - bias

/-- The greatest number, and the greatest weight of a digit. -/
def greatest : Nat := UInt32.size - 1

/-- Read a number, lowest digit first. -/
def readNumber? (bias : Nat) : (place weight value : Nat) → List Char →
    Option (Nat × List Char)
  | _, _, _, [] => none
  | place, weight, value, character :: rest =>
      match digit? character with
      | none => none
      | some digit =>
          let value := value + digit * weight
          let weight' := weight * (36 - threshold bias place)
          if greatest < value then none
          else if digit < threshold bias place then some (value, rest)
          else if greatest < weight' then none
          else readNumber? bias (place + 36) weight' value rest

/-- How often a difference is divided before it is small, and what is left of it. -/
def shrink (difference divisions : Nat) : Nat × Nat :=
  if 455 < difference then shrink (difference / 35) (divisions + 1) else (difference, divisions)
termination_by difference
decreasing_by exact Nat.div_lt_self (by omega) (by omega)

/-- The bias after a number that made a text of some length. -/
def adapt (difference length : Nat) (isFirst : Bool) : Nat :=
  let scaled := if isFirst then difference / 700 else difference / 2
  let (left, divisions) := shrink (scaled + scaled / length) 0
  36 * divisions + 36 * left / (left + 38)

/-- Insert the characters that numbers tell, the place of the last one being known.  Every
character takes one unit of fuel. -/
def insertAll? : (fuel : Nat) → (code place bias : Nat) → (text : List Char) →
    (numbers : List Char) → Option (List Char)
  | _, _, _, _, text, [] => some text
  | 0, _, _, _, _, _ => none
  | fuel + 1, code, place, bias, text, numbers =>
      match readNumber? bias 36 1 place numbers with
      | none => none
      | some (value, rest) =>
          let length := text.length + 1
          let code := code + value / length
          let position := value % length
          if code.isValidChar then
            insertAll? fuel code (position + 1)
              (adapt (value - place) length (place = 0))
              (text.take position ++ Char.ofNat code :: text.drop position) rest
          else none

/-- The ASCII characters of an encoded text, and its numbers. -/
def split (encoded : List Char) : List Char × List Char :=
  match encoded.reverse.dropWhile (· ≠ '-') with
  | [] => ([], encoded)
  | [_] => ([], encoded)
  | _ :: before => (before.reverse, (encoded.reverse.takeWhile (· ≠ '-')).reverse)

/-- Decode an encoded text. -/
def decode? (encoded : List Char) : Option (List Char) :=
  let (text, numbers) := split encoded
  insertAll? numbers.length 128 0 72 text numbers

end Punycode
end Registry
end BundleTrust
