import BundleTrust.Yaml.Character
import BundleTrust.Yaml.Plain

/-!
# Styles of scalars

Which of the four styles a text is written in.  A style is asked for by the content, and
replaced by the next safer one where the characters rule it out.
-/

namespace BundleTrust
namespace Yaml

/-- The styles in which a scalar can be written in block context. -/
inductive ScalarStyle where
  /-- Without quotes. -/
  | plain
  /-- Between single quotes. -/
  | singleQuoted
  /-- Between double quotes, with escapes. -/
  | doubleQuoted
  /-- As lines after a bar. -/
  | literal
  deriving DecidableEq, Repr

/-- Two neighbours of which the first passes one test and the second another. -/
def hasNeighbours (first second : Char → Bool) : List Char → Bool
  | left :: right :: rest =>
      (first left && second right) || hasNeighbours first second (right :: rest)
  | _ => false

/-- The characters that cannot start a plain scalar. -/
def isLeadingIndicator (character : Char) : Bool :=
  "#,[]\x7b\x7d&*!|>'\"%@\x60".toList.contains character

/-- Whether the first character of a text is taken for an indicator. -/
def startsWithIndicator : List Char → Bool
  | [] => false
  | first :: rest =>
      isLeadingIndicator first ||
        ((first = '?' || first = ':' || first = '-') &&
          (match rest with
          | [] => true
          | next :: _ => isBlankOrEnd next))

/-- Whether a text starts like a document marker. -/
def startsWithMarker : List Char → Bool
  | '-' :: '-' :: '-' :: _ => true
  | '.' :: '.' :: '.' :: _ => true
  | _ => false

/-- Whether a later character of a text is taken for an indicator: a colon before a blank
or at the end, or a hash after a blank. -/
def hasInnerIndicator (characters : List Char) : Bool :=
  (characters.length > 1 && characters.getLast? == some ':') ||
    hasNeighbours (· = ':') isBlankOrEnd (characters.drop 1) ||
    hasNeighbours isBlankOrEnd (· = '#') characters

/-- A space or a line break. -/
def isSpaceOrBreak (character : Char) : Bool :=
  character = ' ' || isBreak character

/-- Whether a text has several lines. -/
def isMultiline (characters : List Char) : Bool :=
  characters.any isBreak

/-- Whether a text starts or ends with a space or a line break. -/
def hasOuterSpace (characters : List Char) : Bool :=
  (characters.head?.map isSpaceOrBreak).getD false ||
    (characters.getLast?.map isSpaceOrBreak).getD false

/-- Whether only escapes can carry a text. -/
def needsEscapes (characters : List Char) : Bool :=
  hasNeighbours (· = ' ') isBreak characters || !characters.all isPrintable

/-- Whether a text may be written without quotes. -/
def allowsPlain (characters : List Char) : Bool :=
  !(hasOuterSpace characters || isMultiline characters || needsEscapes characters ||
    startsWithMarker characters || startsWithIndicator characters ||
    hasInnerIndicator characters)

/-- Whether a text may be written between single quotes. -/
def allowsSingleQuotes (characters : List Char) : Bool :=
  !(hasNeighbours isBreak (· = ' ') characters || needsEscapes characters)

/-- Whether a text may be written as lines. -/
def allowsLiteral (characters : List Char) : Bool :=
  !(characters.isEmpty || characters.getLast? == some ' ' || needsEscapes characters)

/-- The style that the content of a text asks for. -/
def wantedStyle (characters : List Char) : ScalarStyle :=
  if characters.contains '\n' then .literal
  else if resolvePlain characters ≠ .text || isPaddedNumeral characters then .singleQuoted
  else .plain

/-- The style in which a text is written. -/
def styleOf (characters : List Char) : ScalarStyle :=
  match wantedStyle characters with
  | .literal => if allowsLiteral characters then .literal else .doubleQuoted
  | .plain =>
      if allowsPlain characters then .plain
      else if allowsSingleQuotes characters then .singleQuoted
      else .doubleQuoted
  | .singleQuoted => if allowsSingleQuotes characters then .singleQuoted else .doubleQuoted
  | .doubleQuoted => .doubleQuoted

end Yaml
end BundleTrust
