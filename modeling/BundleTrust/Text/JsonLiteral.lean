import BundleTrust.Text.Hexadecimal
import BundleTrust.Text.Numeral

/-!
# JSON string literals

Writing escapes the quote, the backslash and the controls below U+0020 and nothing
else.  Reading takes every escape of the grammar; raw controls and surrogates that
stand alone are refused.
-/

namespace BundleTrust
namespace Text

/-- How one character is written inside a literal. -/
def jsonCharacter (character : Char) : List Char :=
  match character with
  | '"' => ['\\', '"']
  | '\\' => ['\\', '\\']
  | '\x08' => ['\\', 'b']
  | '\x0c' => ['\\', 'f']
  | '\n' => ['\\', 'n']
  | '\r' => ['\\', 'r']
  | '\t' => ['\\', 't']
  | _ =>
      if character.toNat < 0x20 then
        ['\\', 'u'] ++ fixedHex lowerHexDigit 4 character.toNat
      else [character]

/-- The literal of a text. -/
def jsonLiteral (text : String) : List Char :=
  ['"'] ++ text.toList.flatMap jsonCharacter ++ ['"']

/-- The number that four hexadecimal digits denote. -/
def fourHexDigits? (first second third fourth : Char) : Option Nat :=
  readNumeral? 16 [first, second, third, fourth]

/-- The character of a one-letter escape. -/
def simpleEscape? : Char → Option Char
  | '"' => some '"'
  | '\\' => some '\\'
  | '/' => some '/'
  | 'b' => some '\x08'
  | 'f' => some '\x0c'
  | 'n' => some '\n'
  | 'r' => some '\r'
  | 't' => some '\t'
  | _ => none

/-- The body of a literal after its opening quote, and what follows the closing one. -/
def readJsonBody? : List Char → Option (List Char × List Char)
  | [] => none
  | '"' :: rest => some ([], rest)
  | '\\' :: 'u' :: a :: b :: c :: d :: rest =>
      match fourHexDigits? a b c d with
      | none => none
      | some unit =>
          if 0xD800 ≤ unit ∧ unit < 0xDC00 then
            match rest with
            | '\\' :: 'u' :: e :: f :: g :: h :: rest =>
                match fourHexDigits? e f g h with
                | none => none
                | some low =>
                    if 0xDC00 ≤ low ∧ low < 0xE000 then
                      (readJsonBody? rest).map fun body =>
                        (Char.ofNat (0x10000 + (unit - 0xD800) * 0x400 + (low - 0xDC00)) ::
                          body.1, body.2)
                    else none
            | _ => none
          else if 0xDC00 ≤ unit ∧ unit < 0xE000 then none
          else (readJsonBody? rest).map fun body => (Char.ofNat unit :: body.1, body.2)
  | '\\' :: escape :: rest =>
      match simpleEscape? escape with
      | none => none
      | some character =>
          (readJsonBody? rest).map fun body => (character :: body.1, body.2)
  | character :: rest =>
      if character.toNat < 0x20 ∨ character = '\\' then none
      else (readJsonBody? rest).map fun body => (character :: body.1, body.2)

/-- The text of a literal at the front of the input, and what follows it. -/
def readJsonLiteral? : List Char → Option (String × List Char)
  | '"' :: rest => (readJsonBody? rest).map fun body => (String.ofList body.1, body.2)
  | _ => none

/-- The text of a literal that nothing follows. -/
def textOfJsonLiteral? (literal : String) : Option String :=
  match readJsonLiteral? literal.toList with
  | some (text, []) => some text
  | _ => none

end Text
end BundleTrust
