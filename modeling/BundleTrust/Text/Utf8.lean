/-!
# UTF-8

Texts as octets and back.  Decoding reports where a text stops being well formed
and how many octets the malformed piece has, or that the text ends inside a
character; the lossy reading puts U+FFFD in place of each malformed piece.
-/

namespace BundleTrust
namespace Text

/-- The octets of a text. -/
def octets (text : String) : List UInt8 :=
  text.toByteArray.data.toList

theorem octets_ofList (characters : List Char) :
    octets (String.ofList characters) = characters.flatMap String.utf8EncodeChar := by
  simp [octets, List.utf8Encode]

/-- Why octets are not UTF-8. -/
inductive Utf8Defect where
  /-- A malformed piece of some octets starts at an index. -/
  | malformed (size index : Nat)
  /-- The octets end inside the character that starts at an index. -/
  | incomplete (index : Nat)
  deriving DecidableEq, Repr

/-- The wording of a defect. -/
def Utf8Defect.message : Utf8Defect → String
  | .malformed size index =>
      s!"invalid utf-8 sequence of {size} bytes from index {index}"
  | .incomplete index => s!"incomplete utf-8 byte sequence from index {index}"

/-- What the first octets of a nonempty sequence are. -/
inductive Utf8Piece where
  /-- A character and the number of its octets. -/
  | character (value : Char) (size : Nat)
  /-- A malformed piece and the number of its octets. -/
  | malformed (size : Nat)
  /-- The start of a character that the sequence does not finish. -/
  | incomplete

/-- A continuation octet. -/
def isContinuation (octet : UInt8) : Bool :=
  0x80 ≤ octet && octet ≤ 0xBF

/-- The octets that may follow the first octet of a three-octet character. -/
def isSecondOfThree (first second : UInt8) : Bool :=
  if first == 0xE0 then 0xA0 ≤ second && second ≤ 0xBF
  else if first == 0xED then 0x80 ≤ second && second ≤ 0x9F
  else isContinuation second

/-- The octets that may follow the first octet of a four-octet character. -/
def isSecondOfFour (first second : UInt8) : Bool :=
  if first == 0xF0 then 0x90 ≤ second && second ≤ 0xBF
  else if first == 0xF4 then 0x80 ≤ second && second ≤ 0x8F
  else isContinuation second

/-- The low six bits that a continuation octet adds to a code point. -/
def continuationBits (octet : UInt8) : Nat :=
  octet.toNat % 64

/-- Classify the first piece of `first :: rest`. -/
def utf8Piece (first : UInt8) (rest : List UInt8) : Utf8Piece :=
  if first < 0x80 then .character (Char.ofNat first.toNat) 1
  else if 0xC2 ≤ first && first ≤ 0xDF then
    match rest with
    | [] => .incomplete
    | second :: _ =>
        if isContinuation second then
          .character (Char.ofNat (first.toNat % 32 * 64 + continuationBits second)) 2
        else .malformed 1
  else if 0xE0 ≤ first && first ≤ 0xEF then
    match rest with
    | [] => .incomplete
    | second :: rest =>
        if isSecondOfThree first second then
          match rest with
          | [] => .incomplete
          | third :: _ =>
              if isContinuation third then
                .character
                  (Char.ofNat
                    ((first.toNat % 16 * 64 + continuationBits second) * 64 +
                      continuationBits third)) 3
              else .malformed 2
        else .malformed 1
  else if 0xF0 ≤ first && first ≤ 0xF4 then
    match rest with
    | [] => .incomplete
    | second :: rest =>
        if isSecondOfFour first second then
          match rest with
          | [] => .incomplete
          | third :: rest =>
              if isContinuation third then
                match rest with
                | [] => .incomplete
                | fourth :: _ =>
                    if isContinuation fourth then
                      .character
                        (Char.ofNat
                          (((first.toNat % 8 * 64 + continuationBits second) * 64 +
                            continuationBits third) * 64 + continuationBits fourth)) 4
                    else .malformed 3
              else .malformed 2
        else .malformed 1
  else .malformed 1

/-- Decode octets, the first of which has a given index; `skip` octets belong to the
character before. -/
def decodeUtf8From : (skip index : Nat) → List UInt8 → Except Utf8Defect (List Char)
  | _, _, [] => .ok []
  | skip + 1, index, _ :: rest => decodeUtf8From skip (index + 1) rest
  | 0, index, first :: rest =>
      match utf8Piece first rest with
      | .character value size =>
          (decodeUtf8From (size - 1) (index + 1) rest).map (value :: ·)
      | .malformed size => .error (.malformed size index)
      | .incomplete => .error (.incomplete index)

/-- Decode UTF-8. -/
def decodeUtf8 (source : List UInt8) : Except Utf8Defect String :=
  (decodeUtf8From 0 0 source).map String.ofList

/-- Decode octets with U+FFFD in place of each malformed piece. -/
def decodeUtf8LossyFrom : (skip : Nat) → List UInt8 → List Char
  | _, [] => []
  | skip + 1, _ :: rest => decodeUtf8LossyFrom skip rest
  | 0, first :: rest =>
      match utf8Piece first rest with
      | .character value size => value :: decodeUtf8LossyFrom (size - 1) rest
      | .malformed size => '\uFFFD' :: decodeUtf8LossyFrom (size - 1) rest
      | .incomplete => ['\uFFFD']

/-- Decode octets as UTF-8, replacing what is malformed. -/
def decodeUtf8Lossy (source : List UInt8) : String :=
  String.ofList (decodeUtf8LossyFrom 0 source)

end Text
end BundleTrust
