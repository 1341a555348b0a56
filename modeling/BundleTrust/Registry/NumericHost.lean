import BundleTrust.Text.Numeral
import BundleTrust.Text.Pieces

/-!
# Numeric hosts

Hosts that are given by number: four octets or fewer larger numbers in decimal, octal or
hexadecimal, and eight groups of hexadecimal digits.
-/

namespace BundleTrust
namespace Registry

/-- The number that a part of a numeric host denotes: hexadecimal after `0x`, octal after a
zero, else decimal. -/
def numericPart? : List Char → Option Nat
  | [] => none
  | ['0', 'x'] => some 0
  | ['0', 'X'] => some 0
  | '0' :: 'x' :: digits => Text.readNumeral? 16 digits
  | '0' :: 'X' :: digits => Text.readNumeral? 16 digits
  | ['0'] => some 0
  | '0' :: digits => Text.readNumeral? 8 digits
  | digits => Text.readNumeral? 10 digits

/-- The parts of a host, without the empty one that a point at the end makes. -/
def numericParts (host : List Char) : List (List Char) :=
  let parts := Text.pieces '.' host
  if 1 < parts.length && parts.getLast? = some [] then parts.dropLast else parts

/-- Whether a host has to be numeric, because its last part is a number. -/
def endsInNumber (host : List Char) : Bool :=
  match (numericParts host).getLast? with
  | none => false
  | some last => (!last.isEmpty && last.all Text.isDigit) || (numericPart? last).isSome

/-- Whether numbers make an address of four octets: each but the last one is an octet, and the
last one fills what is left. -/
def areOctets : List Nat → (room : Nat) → Bool
  | [], _ => false
  | [last], room => last < room
  | octet :: rest, room => octet < 256 && areOctets rest (room / 256)

/-- Whether a host is an address of four octets. -/
def isFourOctets (host : List Char) : Bool :=
  let parts := numericParts host
  parts.length ≤ 4 &&
    match parts.mapM numericPart? with
    | some numbers => areOctets numbers UInt32.size
    | none => false

/-- Whether a part of an address is an octet in decimal, without leading zeros. -/
def isDecimalOctet (part : List Char) : Bool :=
  match Text.readDecimalBelow? 256 part with
  | some _ => part.length = 1 || part.head? ≠ some '0'
  | none => false

/-- How many groups a part of an address of groups stands for: one if it has up to four
hexadecimal digits, two if it is the last part and holds four octets. -/
def groupCount? (isLast : Bool) (part : List Char) : Option Nat :=
  if part.length ≤ 4 && (Text.readNumeral? 16 part).isSome then some 1
  else
    let octets := Text.pieces '.' part
    if isLast && octets.length = 4 && octets.all isDecimalOctet then some 2 else none

/-- The number of groups that parts stand for, of which an empty part stands for none. -/
def groupTotal? : List (List Char) → Option Nat
  | [] => some 0
  | part :: rest =>
      match (if part.isEmpty then some 0 else groupCount? rest.isEmpty part), groupTotal? rest with
      | some count, some total => some (count + total)
      | _, _ => none

/-- Whether an empty part at an end of a list of parts comes of two colons. -/
def endsInColons : List (List Char) → Bool
  | [] :: [] :: _ :: _ => true
  | [] :: _ => false
  | _ => true

/-- Whether a text is an address of eight groups.  Two colons in a row, once, stand for the
groups that are left out. -/
def isEightGroups (text : List Char) : Bool :=
  let parts := Text.pieces ':' text
  let inner := if parts.head? = some [] then parts.tail else parts
  let inner := if parts.getLast? = some [] then inner.dropLast else inner
  endsInColons parts && endsInColons parts.reverse &&
    match groupTotal? inner, inner.count [] with
    | some total, 0 => total = 8
    | some total, 1 => total ≤ 7
    | _, _ => false

end Registry
end BundleTrust
