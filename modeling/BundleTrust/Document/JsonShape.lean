import BundleTrust.Document.Basic
import BundleTrust.Document.JsonNode
import BundleTrust.Text.Utf8

/-!
# Reading JSON by shape

What a JSON value denotes depends on what is expected of it.  A shape says what is expected;
reading a value by a shape gives a generic document.  Where anything is expected, an integer
literal that fits sixty-four bits is an integer, every other number is the nearest
floating-point number, and of repeated keys the last one counts.  Where a record is expected,
no known field may be repeated, and the values of other keys are passed over, whatever they
denote.  Collections that are not passed over may be nested to a limited depth.
-/

namespace BundleTrust
namespace Json

/-- The floating-point number nearest to a literal. -/
def NumberLiteral.toReal? (literal : NumberLiteral) : Option Document :=
  let fraction := literal.fraction.getD []
  (Number.Binary64.ofDecimal? literal.negative
    (Text.numeralValue 10 (literal.whole ++ fraction))
    (literal.exponent.getD 0 - fraction.length)).map Document.real

/-- The document that a number literal denotes. -/
def NumberLiteral.toDocument? (literal : NumberLiteral) : Option Document :=
  if literal.fraction.isNone ∧ literal.exponent.isNone then
    let magnitude := Text.numeralValue 10 literal.whole
    if literal.negative then
      if magnitude = 0 then literal.toReal?
      else
        match WideInteger.ofInt? (-(magnitude : Int)) with
        | some value => some (.integer value)
        | none => literal.toReal?
    else
      match WideInteger.ofInt? magnitude with
      | some value => some (.integer value)
      | none => literal.toReal?
  else literal.toReal?

/-- The greatest number of nested collections that a text may have. -/
def greatestDepth : Nat := 127

/-- What is expected of a value. -/
inductive Shape where
  /-- Anything. -/
  | value
  /-- A text. -/
  | text
  /-- A mapping from texts to texts. -/
  | texts
  /-- A list. -/
  | list (item : Shape)
  /-- A mapping with known fields; others are passed over.  It may also be written as the list
  of the values of its fields, from the first one on. -/
  | record (fields : List (String × Shape))
  deriving Repr, Inhabited

/-- The text that a text literal denotes. -/
def textOfLiteral? (literal : List Char) : Option String :=
  match Text.decodeUtf8 (literal.map Char.toUInt8) with
  | .ok written => Text.textOfJsonLiteral? written
  | .error _ => none

/-- Read a member of a record.  Nothing comes of a member with a key that no field has, and its
value is not looked at. -/
def readField?
    (fields : List (String × Shape))
    (read : Shape → Node → Option Document)
    (member : List Char × Node) :
    Option (Option (String × Document)) := do
  let key ← textOfLiteral? member.1
  match fields.lookup key with
  | some shape => return some (key, ← read shape member.2)
  | none => return none

/-- Read a value by a shape.  Every collection takes one unit of depth. -/
def Node.read? : (depth : Nat) → Shape → Node → Option Document
  | _, .value, .null => some .null
  | _, .value, .boolean value => some (.boolean value)
  | _, .value, .number literal => literal.toDocument?
  | _, .value, .text literal => (textOfLiteral? literal).map .text
  | depth + 1, .value, .list items => (items.mapM fun item => read? depth .value item).map .list
  | depth + 1, .value, .mapping members => do
      let read ← members.mapM fun member => do
        let key ← textOfLiteral? member.1
        return (key, ← read? depth .value member.2)
      return .mapping (Members.ofList read)
  | _, .text, .text literal => (textOfLiteral? literal).map .text
  | depth + 1, .texts, .mapping members => do
      let read ← members.mapM fun member => do
        let key ← textOfLiteral? member.1
        return (key, ← read? depth .text member.2)
      return .mapping (Members.ofList read)
  | depth + 1, .list item, .list items => (items.mapM fun value => read? depth item value).map .list
  | depth + 1, .record fields, .mapping members => do
      let read ← members.filterMapM (readField? fields fun shape node => read? depth shape node)
      if (read.map Prod.fst).Nodup then return .mapping (Members.ofList read) else none
  | depth + 1, .record fields, .list items =>
      if items.length ≤ fields.length then do
        let read ← (fields.zip items).mapM fun field =>
          return (field.1.1, ← read? depth field.1.2 field.2)
        return .mapping (Members.ofList read)
      else none
  | _, _, _ => none

/-- Read the one value that octets hold by a shape. -/
def readAs? (shape : Shape) (octets : List UInt8) : Option Document :=
  (Node.ofOctets? octets).bind (Node.read? greatestDepth shape)

/-- Read the one value of a text. -/
def read? (text : String) : Option Document :=
  readAs? .value (Text.octets text)

end Json
end BundleTrust
