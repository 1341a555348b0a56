import BundleTrust.Text.Hexadecimal
import BundleTrust.Text.Printable

/-!
# Quoted texts

How a text is shown inside a message: between double quotes, with escapes for quotes,
backslashes and everything that is not printable.
-/

namespace BundleTrust
namespace Text

/-- The hexadecimal digits of a number without leading zeros. -/
def shortHex (value : Nat) : List Char :=
  Nat.toDigits 16 value

/-- How one character is shown between quotes. -/
def quotedCharacter (character : Char) : List Char :=
  match character with
  | '"' => ['\\', '"']
  | '\\' => ['\\', '\\']
  | '\n' => ['\\', 'n']
  | '\r' => ['\\', 'r']
  | '\t' => ['\\', 't']
  | '\x00' => ['\\', '0']
  | _ =>
      if isPrintable character then [character]
      else ['\\', 'u', '\x7b'] ++ shortHex character.toNat ++ ['\x7d']

/-- A text between double quotes with escapes. -/
def quoted (text : String) : String :=
  String.ofList (['"'] ++ text.toList.flatMap quotedCharacter ++ ['"'])

end Text
end BundleTrust
