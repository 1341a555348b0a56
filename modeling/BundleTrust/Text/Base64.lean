import BundleTrust.Text.Utf8

/-!
# Base64

The standard alphabet with required padding.  Four symbols stand for three octets;
only the last group may be padded, and bits that a padded group does not use must be
zero, so that every octet sequence has exactly one written form.
-/

namespace BundleTrust
namespace Text

/-- Why octets are not base64. -/
inductive Base64Defect where
  /-- An octet at an offset that may not stand there. -/
  | symbol (octet : UInt8) (offset : Nat)
  /-- A length that leaves a single symbol in the last group. -/
  | length (size : Nat)
  /-- A last symbol with unused bits set. -/
  | lastSymbol (octet : UInt8) (offset : Nat)
  /-- A last group that is not filled up with padding. -/
  | padding
  deriving DecidableEq, Repr

/-- The wording of a defect. -/
def Base64Defect.message : Base64Defect → String
  | .symbol octet offset => s!"Invalid symbol {octet.toNat}, offset {offset}."
  | .length size => s!"Invalid input length: {size}"
  | .lastSymbol octet offset => s!"Invalid last symbol {octet.toNat}, offset {offset}."
  | .padding => "Invalid padding"

/-- The symbol of a number below sixty-four. -/
def base64Symbol (value : Nat) : Char :=
  Char.ofNat <|
    if value < 26 then 65 + value
    else if value < 52 then 71 + value
    else if value < 62 then value - 4
    else if value = 62 then 43
    else 47

/-- The number that a symbol stands for. -/
def base64Value? (symbol : UInt8) : Option Nat :=
  let code := symbol.toNat
  if 65 ≤ code ∧ code ≤ 90 then some (code - 65)
  else if 97 ≤ code ∧ code ≤ 122 then some (code - 71)
  else if 48 ≤ code ∧ code ≤ 57 then some (code + 4)
  else if code = 43 then some 62
  else if code = 47 then some 63
  else none

/-- Write octets in groups of three. -/
def encodeBase64Symbols : List UInt8 → List Char
  | [] => []
  | [first] =>
      [base64Symbol (first.toNat / 4), base64Symbol (first.toNat % 4 * 16), '=', '=']
  | [first, second] =>
      [base64Symbol (first.toNat / 4),
        base64Symbol (first.toNat % 4 * 16 + second.toNat / 16),
        base64Symbol (second.toNat % 16 * 4), '=']
  | first :: second :: third :: rest =>
      base64Symbol (first.toNat / 4) ::
        base64Symbol (first.toNat % 4 * 16 + second.toNat / 16) ::
        base64Symbol (second.toNat % 16 * 4 + third.toNat / 64) ::
        base64Symbol (third.toNat % 64) :: encodeBase64Symbols rest

/-- Octets as base64 text. -/
def encodeBase64 (source : List UInt8) : String :=
  String.ofList (encodeBase64Symbols source)

/-- The value of a symbol at an offset. -/
def base64ValueAt (offset : Nat) (symbol : UInt8) : Except Base64Defect Nat :=
  match base64Value? symbol with
  | some value => .ok value
  | none => .error (.symbol symbol offset)

/-- The symbols of the last group before its padding, with their octets. -/
structure Base64Tail where
  /-- The symbols in order, each with its value. -/
  symbols : List (UInt8 × Nat)
  /-- The number of padding octets after them. -/
  padding : Nat

/-- Read the last group: symbols, then padding from the third place on. -/
def readBase64Tail
    (start : Nat) :
    (tail : Base64Tail) → List UInt8 → Except Base64Defect Base64Tail
  | tail, [] => .ok tail
  | tail, octet :: rest =>
      let place := tail.symbols.length + tail.padding
      if octet = 61 then
        if place < 2 then .error (.symbol octet (start + place))
        else readBase64Tail start { tail with padding := tail.padding + 1 } rest
      else if tail.padding > 0 then
        .error (.symbol 61 (start + tail.symbols.length))
      else
        match base64ValueAt (start + place) octet with
        | .ok value =>
            readBase64Tail start { tail with symbols := tail.symbols ++ [(octet, value)] } rest
        | .error defect => .error defect

/-- The octets of the last group, which starts at an offset. -/
def decodeBase64Tail (start : Nat) (group : List UInt8) : Except Base64Defect (List UInt8) :=
  match readBase64Tail start ⟨[], 0⟩ group with
  | .error defect => .error defect
  | .ok tail =>
      match tail.symbols with
      | [] => if group.isEmpty then .ok [] else .error (.length start)
      | [_] => .error (.length (start + 1))
      | [(_, first), (octet, second)] =>
          if tail.padding ≠ 2 then .error .padding
          else if second % 16 ≠ 0 then .error (.lastSymbol octet (start + 1))
          else .ok [UInt8.ofNat (first * 4 + second / 16)]
      | [(_, first), (_, second), (octet, third)] =>
          if tail.padding ≠ 1 then .error .padding
          else if third % 4 ≠ 0 then .error (.lastSymbol octet (start + 2))
          else
            .ok [UInt8.ofNat (first * 4 + second / 16),
              UInt8.ofNat (second % 16 * 16 + third / 4)]
      | (_, first) :: (_, second) :: (_, third) :: (_, fourth) :: _ =>
          .ok [UInt8.ofNat (first * 4 + second / 16),
            UInt8.ofNat (second % 16 * 16 + third / 4),
            UInt8.ofNat (third % 4 * 64 + fourth)]

/-- Decode groups of four symbols; the last group starts at an offset of its own. -/
def decodeBase64From : (offset : Nat) → List UInt8 → Except Base64Defect (List UInt8)
  | offset, first :: second :: third :: fourth :: next :: rest =>
      match base64ValueAt offset first, base64ValueAt (offset + 1) second,
          base64ValueAt (offset + 2) third, base64ValueAt (offset + 3) fourth with
      | .ok a, .ok b, .ok c, .ok d =>
          (decodeBase64From (offset + 4) (next :: rest)).map fun octets =>
            UInt8.ofNat (a * 4 + b / 16) :: UInt8.ofNat (b % 16 * 16 + c / 4) ::
              UInt8.ofNat (c % 4 * 64 + d) :: octets
      | .error defect, _, _, _ => .error defect
      | _, .error defect, _, _ => .error defect
      | _, _, .error defect, _ => .error defect
      | _, _, _, .error defect => .error defect
  | offset, group => decodeBase64Tail offset group

/-- Decode base64.  A stray last octet, such as a line end, is reported first. -/
def decodeBase64 (source : List UInt8) : Except Base64Defect (List UInt8) :=
  match source.getLast? with
  | some last =>
      if source.length % 4 = 1 ∧ last ≠ 61 ∧ base64Value? last = none then
        .error (.symbol last (source.length - 1))
      else decodeBase64From 0 source
  | none => .ok []

end Text
end BundleTrust
