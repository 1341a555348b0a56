/-!
# Character classes of YAML

Line breaks, blanks and printable characters, as writing and reading share them.
-/

namespace BundleTrust
namespace Yaml

/-- A character that ends a line. -/
def isBreak (character : Char) : Bool :=
  character = '\n' || character = '\r' || character = '\u0085' ||
    character = '\u2028' || character = '\u2029'

/-- A space or a tab. -/
def isBlank (character : Char) : Bool :=
  character = ' ' || character = '\t'

/-- A line break or the null character, which ends every text. -/
def isBreakOrEnd (character : Char) : Bool :=
  isBreak character || character = '\x00'

/-- A blank, a line break or the null character. -/
def isBlankOrEnd (character : Char) : Bool :=
  isBlank character || isBreakOrEnd character

/-- A character that may be written without an escape. -/
def isPrintable (character : Char) : Bool :=
  let code := character.toNat
  code == 0x0A || (0x20 ≤ code && code ≤ 0x7E) || (0xA0 ≤ code && code ≤ 0xD7FF) ||
    (0xE000 ≤ code && code ≤ 0xFFFD && code != 0xFEFF) || 0x10000 ≤ code

/-- A letter, digit, hyphen or underscore of ASCII. -/
def isWordCharacter (character : Char) : Bool :=
  ('0' ≤ character && character ≤ '9') || ('A' ≤ character && character ≤ 'Z') ||
    ('a' ≤ character && character ≤ 'z') || character = '_' || character = '-'

end Yaml
end BundleTrust
