import BundleTrust.Document.Path
import BundleTrust.Text.Offset

/-!
# Selectors

The written form of a field path.  A selector is a full stop and a step, then any
number of further steps, each after a full stop; a bracketed step may also follow
directly.  A step is an identifier, a JSON string literal, or a bracket around a JSON
string literal or a decimal position below `2 ^ 64`.

Selectors are read octet by octet.  What tells steps apart are octets of ASCII characters,
and keys and positions are cut out between their offsets.
-/

namespace BundleTrust
namespace Selector

/-- The first character of an identifier. -/
def isIdentifierStart (character : Char) : Bool :=
  ('a' ≤ character && character ≤ 'z') || ('A' ≤ character && character ≤ 'Z') ||
    character = '_'

/-- A further character of an identifier. -/
def isIdentifierPart (character : Char) : Bool :=
  isIdentifierStart character || Text.isDigit character

/-- The limit of positions. -/
def positionLimit : Nat := UInt64.size

/-- Why nothing is read. -/
inductive Halt where
  /-- What is there is not of the form that is expected. -/
  | malformed
  /-- A part is to be cut out between offsets that have no text between them. -/
  | misplaced
  deriving DecidableEq, Repr

/-- Go on with what is expected, if it is there. -/
def expect {Value : Type} : Option Value → Except Halt Value
  | some value => .ok value
  | none => .error .malformed

/-- Go on only if a condition holds. -/
def expectThat (condition : Bool) : Except Halt Unit :=
  if condition then .ok () else .error .malformed

/-- Cut out the text between two offsets. -/
def cut (source : List UInt8) (start stop : Nat) : Except Halt String :=
  match Text.textBetween? source start stop with
  | some part => .ok part
  | none => .error .misplaced

/-- The offset of the quote that closes a literal, given an offset in the literal and the octets
from there on.  A backslash hides the octet after it. -/
def closingQuote? (offset : Nat) : List UInt8 → Option Nat
  | [] => none
  | 0x5C :: _ :: rest => closingQuote? (offset + 2) rest
  | 0x22 :: _ => some offset
  | _ :: rest => closingQuote? (offset + 1) rest

/-- The text of the literal whose opening quote has an offset, and the offset behind it. -/
def literalAt (source : List UInt8) (offset : Nat) : Except Halt (String × Nat) := do
  let closing ← expect (closingQuote? (offset + 1) (source.drop (offset + 1)))
  let literal ← cut source offset (closing + 1)
  let text ← expect (Text.textOfJsonLiteral? literal)
  return (text, closing + 1)

/-- The run of octets from an offset on that pass a test, and the offset behind it. -/
def runAt (test : Char → Bool) (source : List UInt8) (offset : Nat) :
    Except Halt (String × Nat) := do
  let next := Text.offsetPast test source offset
  let run ← cut source offset next
  return (run, next)

/-- Close the bracket of a step at an offset. -/
def closeAt (source : List UInt8) (step : PathStep) (offset : Nat) :
    Except Halt (PathStep × Nat) := do
  expectThat (Text.octetAt? source offset = some ']')
  return (step, offset + 1)

/-- The step in the bracket that has an offset, and the offset behind it. -/
def bracketAt (source : List UInt8) (offset : Nat) : Except Halt (PathStep × Nat) := do
  let first ← expect (Text.octetAt? source (offset + 1))
  if first = '"' then
    let (key, next) ← literalAt source (offset + 1)
    closeAt source (.key key) next
  else if Text.isDigit first then
    let (digits, next) ← runAt Text.isDigit source (offset + 1)
    let index ← expect (Text.readDecimalBelow? positionLimit digits.toList)
    closeAt source (.position index) next
  else
    .error .malformed

/-- The step at an offset behind a full stop, and the offset behind the step. -/
def stepAt (source : List UInt8) (offset : Nat) : Except Halt (PathStep × Nat) := do
  let first ← expect (Text.octetAt? source offset)
  if first = '"' then
    let (key, next) ← literalAt source offset
    return (.key key, next)
  else if first = '[' then
    bracketAt source offset
  else if isIdentifierStart first then
    let (key, next) ← runAt isIdentifierPart source offset
    return (.key key, next)
  else
    .error .malformed

/-- The step at an offset after others, if any: the one behind a full stop, or a bracket that is
not the first step. -/
def tailAt (source : List UInt8) (isFirst : Bool) (offset : Nat) :
    Except Halt (PathStep × Nat) := do
  let first ← expect (Text.octetAt? source offset)
  if first = '.' then
    stepAt source (offset + 1)
  else if first = '[' && !isFirst then
    bracketAt source offset
  else
    .error .malformed

/-- Read steps from an offset on and add them to those before.  Every step takes at least one
octet, so the number of octets is enough fuel. -/
def stepsFrom (source : List UInt8) : (fuel offset : Nat) → (steps : FieldPath) →
    Except Halt FieldPath
  | 0, _, _ => .error .malformed
  | fuel + 1, offset, steps =>
      if offset < source.length then do
        let (step, next) ← tailAt source steps.isEmpty offset
        stepsFrom source fuel next (steps ++ [step])
      else .ok steps

/-- Read a selector, given by its octets. -/
def readOctets (source : List UInt8) : Except Halt FieldPath := do
  expectThat (Text.octetAt? source 0 = some '.')
  let path ← stepsFrom source (source.length + 1) 0 []
  expectThat !path.isEmpty
  return path

/-- The path that a selector denotes. -/
def parse? (selector : String) : Option FieldPath :=
  (readOctets (Text.octets selector)).toOption

/-- What is read in two parts, both parts give. -/
theorem exists_of_bind_eq_ok
    {First Value : Type}
    {first : Except Halt First}
    {second : First → Except Halt Value}
    {value : Value}
    (isRead : (first >>= second) = .ok value) :
    ∃ middle, first = .ok middle ∧ second middle = .ok value := by
  cases first with
  | error halt => cases isRead
  | ok middle => exact ⟨middle, rfl, isRead⟩

theorem parse?_eq_some_iff
    {selector : String}
    {path : FieldPath} :
    parse? selector = some path ↔ readOctets (Text.octets selector) = .ok path := by
  rw [parse?]
  cases readOctets (Text.octets selector) <;> simp [Except.toOption]

/-- A selector names a place below the root. -/
theorem parse?_ne_nil
    {selector : String}
    {path : FieldPath}
    (parsed : parse? selector = some path) :
    path ≠ [] := by
  rintro rfl
  obtain ⟨_, -, isRead⟩ := exists_of_bind_eq_ok (parse?_eq_some_iff.1 parsed)
  obtain ⟨steps, -, isChecked⟩ := exists_of_bind_eq_ok isRead
  obtain ⟨_, nonempty, isPath⟩ := exists_of_bind_eq_ok isChecked
  cases isPath
  cases nonempty

/-- Whether a key can be written as an identifier. -/
def isIdentifier (key : String) : Bool :=
  match key.toList with
  | [] => false
  | first :: rest => isIdentifierStart first && rest.all isIdentifierPart

/-- The written form of a step: an identifier after a full stop, else a bracket. -/
def renderStep : PathStep → List Char
  | .key name =>
      if isIdentifier name then '.' :: name.toList
      else '[' :: Text.jsonLiteral name ++ [']']
  | .position index => '[' :: Nat.toDigits 10 index ++ [']']

/-- The written form of a path. -/
def render (path : FieldPath) : String :=
  String.ofList (path.flatMap renderStep)

end Selector
end BundleTrust
