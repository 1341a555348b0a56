import BundleTrust.Text.Utf8

/-!
# Offsets into texts

A text as the sequence of its octets, addressed by offset.  A part is cut out of it between
two offsets; there is a text between them only if neither lies inside a character or behind
the end.
-/

namespace BundleTrust
namespace Text

/-- The octet at an offset, as the character with its number. -/
def octetAt? (source : List UInt8) (offset : Nat) : Option Char :=
  source[offset]?.map Char.ofUInt8

/-- The offset of the first octet from an offset on that does not pass a test. -/
def offsetPast (test : Char → Bool) (source : List UInt8) (offset : Nat) : Nat :=
  offset + ((source.drop offset).takeWhile fun octet => test (Char.ofUInt8 octet)).length

/-- Whether an offset is the end of a text or that of the first octet of a character. -/
def isBoundary (source : List UInt8) (offset : Nat) : Bool :=
  match source[offset]? with
  | some octet => !isContinuation octet
  | none => offset == source.length

/-- The text between two offsets. -/
def textBetween? (source : List UInt8) (start stop : Nat) : Option String :=
  if start ≤ stop && isBoundary source start && isBoundary source stop then
    (decodeUtf8 ((source.drop start).take (stop - start))).toOption
  else none

end Text
end BundleTrust
