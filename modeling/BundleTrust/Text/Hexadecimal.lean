/-!
# Hexadecimal text

Octets written as two lower-case hexadecimal digits each, and code points written
with a fixed number of digits.
-/

namespace BundleTrust
namespace Text

/-- The lower-case hexadecimal digit of a number below sixteen. -/
def lowerHexDigit (value : Nat) : Char :=
  Char.ofNat (if value < 10 then 48 + value else 87 + value)

/-- The upper-case hexadecimal digit of a number below sixteen. -/
def upperHexDigit (value : Nat) : Char :=
  Char.ofNat (if value < 10 then 48 + value else 55 + value)

/-- The lowest digits of a number, most significant digit first. -/
def fixedHex (digit : Nat → Char) : Nat → Nat → List Char
  | 0, _ => []
  | width + 1, value => fixedHex digit width (value / 16) ++ [digit (value % 16)]

/-- Octets as lower-case hexadecimal digits. -/
def hex (octets : List UInt8) : String :=
  String.ofList (octets.flatMap fun octet => fixedHex lowerHexDigit 2 octet.toNat)

/-- A fixed-width numeral has exactly its width. -/
@[simp] theorem length_fixedHex
    (digit : Nat → Char)
    (width value : Nat) :
    (fixedHex digit width value).length = width := by
  induction width generalizing value with
  | zero => rfl
  | succ width ih => simp [fixedHex, ih]

end Text
end BundleTrust
