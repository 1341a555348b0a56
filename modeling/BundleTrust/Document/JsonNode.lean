import BundleTrust.Number.Layout
import BundleTrust.Text.JsonLiteral

/-!
# JSON values as they are written

The tree that a JSON text describes, before its literals are given values.  A text is a sequence
of octets, each of which stands for the character with its number.  Where a text literal ends
depends on its quotes and escapes alone: whether its octets are UTF-8, and whether its escapes
are those of characters, counts only where the literal is given a value.
-/

namespace BundleTrust
namespace Json

/-- White space between tokens. -/
def isSpace (character : Char) : Bool :=
  character = ' ' || character = '\n' || character = '\t' || character = '\r'

/-- Drop white space. -/
def skipSpace (source : List Char) : List Char :=
  source.dropWhile isSpace

/-- The parts of a number literal. -/
structure NumberLiteral where
  /-- Whether it starts with a minus sign. -/
  negative : Bool
  /-- The digits before the point. -/
  whole : List Char
  /-- The digits after the point, if there is one. -/
  fraction : Option (List Char)
  /-- The exponent, if there is one. -/
  exponent : Option Int
  deriving Repr, Inhabited

/-- Split the digits at the front of the input, of which there is one at least, from what
follows them. -/
def splitDigits? (source : List Char) : Option (List Char × List Char) :=
  let digits := source.takeWhile Text.isDigit
  if digits.isEmpty then none else some (digits, source.dropWhile Text.isDigit)

/-- Split the digits before the point of a number; only zero starts with a zero. -/
def splitWhole? (source : List Char) : Option (List Char × List Char) :=
  (splitDigits? source).bind fun split =>
    if split.1.head? = some '0' ∧ split.1 ≠ ['0'] then none else some split

/-- Split the fraction of a number, if there is one. -/
def splitFraction? : List Char → Option (Option (List Char) × List Char)
  | '.' :: rest => (splitDigits? rest).map fun split => (some split.1, split.2)
  | rest => some (none, rest)

/-- Split the sign of an exponent, if there is one. -/
def splitSign : List Char → List Char × List Char
  | '-' :: rest => (['-'], rest)
  | '+' :: rest => (['+'], rest)
  | rest => ([], rest)

/-- Split the exponent of a number, if there is one. -/
def splitExponent? : List Char → Option (Option Int × List Char)
  | [] => some (none, [])
  | letter :: rest =>
      if letter = 'e' ∨ letter = 'E' then
        let signed := splitSign rest
        (splitDigits? signed.2).bind fun split =>
          (Number.readExponent? (signed.1 ++ split.1)).map fun exponent =>
            (some exponent, split.2)
      else some (none, letter :: rest)

/-- Split an unsigned number literal from what follows it. -/
def splitNumber? (negative : Bool) (source : List Char) :
    Option (NumberLiteral × List Char) := do
  let (whole, rest) ← splitWhole? source
  let (fraction, rest) ← splitFraction? rest
  let (exponent, rest) ← splitExponent? rest
  return (⟨negative, whole, fraction, exponent⟩, rest)

/-- Split a number literal from what follows it. -/
def splitNumberLiteral? : List Char → Option (NumberLiteral × List Char)
  | '-' :: rest => splitNumber? true rest
  | source => splitNumber? false source

/-- Split a text literal behind its opening quote from what follows it.  Of an escape only the
shape counts. -/
def splitTextLiteral? : List Char → Option (List Char × List Char)
  | [] => none
  | '"' :: rest => some (['"'], rest)
  | '\\' :: 'u' :: first :: second :: third :: fourth :: rest =>
      if (Text.fourHexDigits? first second third fourth).isSome then
        (splitTextLiteral? rest).map fun split =>
          ('\\' :: 'u' :: first :: second :: third :: fourth :: split.1, split.2)
      else none
  | '\\' :: escape :: rest =>
      if (Text.simpleEscape? escape).isSome then
        (splitTextLiteral? rest).map fun split => ('\\' :: escape :: split.1, split.2)
      else none
  | character :: rest =>
      if character.toNat < 0x20 ∨ character = '\\' then none
      else (splitTextLiteral? rest).map fun split => (character :: split.1, split.2)

/-- A value as it is written; numbers and texts are literals. -/
inductive Node where
  /-- No value. -/
  | null
  /-- A truth value. -/
  | boolean (value : Bool)
  /-- A number. -/
  | number (literal : NumberLiteral)
  /-- A text, with its quotes. -/
  | text (literal : List Char)
  /-- A list. -/
  | list (items : List Node)
  /-- A mapping; its keys are literals too. -/
  | mapping (members : List (List Char × Node))
  deriving Repr, Inhabited

mutual

/-- Read a value at the front of the input.  Every call takes one unit of fuel. -/
def readNode? : (fuel : Nat) → List Char → Option (Node × List Char)
  | 0, _ => none
  | fuel + 1, source =>
      match skipSpace source with
      | 'n' :: 'u' :: 'l' :: 'l' :: rest => some (.null, rest)
      | 't' :: 'r' :: 'u' :: 'e' :: rest => some (.boolean true, rest)
      | 'f' :: 'a' :: 'l' :: 's' :: 'e' :: rest => some (.boolean false, rest)
      | '"' :: rest =>
          (splitTextLiteral? rest).map fun split => (.text ('"' :: split.1), split.2)
      | '[' :: rest =>
          match skipSpace rest with
          | ']' :: rest => some (.list [], rest)
          | rest => (readItems? fuel rest).map fun read => (.list read.1, read.2)
      | '\x7b' :: rest =>
          match skipSpace rest with
          | '\x7d' :: rest => some (.mapping [], rest)
          | rest => (readMembers? fuel rest).map fun read => (.mapping read.1, read.2)
      | source => (splitNumberLiteral? source).map fun read => (.number read.1, read.2)

/-- Read the items of a list up to its closing bracket. -/
def readItems? : (fuel : Nat) → List Char → Option (List Node × List Char)
  | 0, _ => none
  | fuel + 1, source =>
      match readNode? fuel source with
      | none => none
      | some (item, rest) =>
          match skipSpace rest with
          | ',' :: rest => (readItems? fuel rest).map fun read => (item :: read.1, read.2)
          | ']' :: rest => some ([item], rest)
          | _ => none

/-- Read the members of a mapping up to its closing brace. -/
def readMembers? : (fuel : Nat) → List Char → Option (List (List Char × Node) × List Char)
  | 0, _ => none
  | fuel + 1, source =>
      match skipSpace source with
      | '"' :: rest =>
          match splitTextLiteral? rest with
          | none => none
          | some (key, rest) =>
              match skipSpace rest with
              | ':' :: rest =>
                  match readNode? fuel rest with
                  | none => none
                  | some (value, rest) =>
                      match skipSpace rest with
                      | ',' :: rest =>
                          (readMembers? fuel rest).map fun read =>
                            (('"' :: key, value) :: read.1, read.2)
                      | '\x7d' :: rest => some ([('"' :: key, value)], rest)
                      | _ => none
              | _ => none
      | _ => none

end

/-- Read octets that hold one value.  Of two calls in a row one takes an octet, so the fuel
suffices. -/
def Node.ofOctets? (octets : List UInt8) : Option Node :=
  match readNode? (2 * octets.length + 1) (octets.map Char.ofUInt8) with
  | some (node, rest) => if (skipSpace rest).isEmpty then some node else none
  | none => none

end Json
end BundleTrust
