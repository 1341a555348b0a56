import BundleTrust.Text.Base64
import BundleTrust.Text.Utf8

/-!
# PEM

Octets as a block of base64 lines between two marker lines with a label.  Whole lines may
stand before the block; of the block's lines all but the last have sixty-four characters.
-/

namespace BundleTrust
namespace Crypto
namespace Pem

/-- The number of characters of a full line. -/
def lineWidth : Nat := 64

/-- The line that opens a block. -/
def opening (label : String) : String := "-----BEGIN " ++ label ++ "-----"

/-- The line that closes a block. -/
def closing (label : String) : String := "-----END " ++ label ++ "-----"

/-- Characters in lines of the full width, each ended by a line feed; `room` characters still
fit the current line. -/
def wrap : (room : Nat) → List Char → List Char
  | _, [] => ['\n']
  | 0, character :: rest => '\n' :: character :: wrap (lineWidth - 1) rest
  | room + 1, character :: rest => character :: wrap room rest

/-- A block. -/
def encode (label : String) (octets : List UInt8) : String :=
  opening label ++ "\n" ++ String.ofList (wrap lineWidth (Text.encodeBase64 octets).toList) ++
    closing label ++ "\n"

/-- What follows a text that comes first. -/
def dropStart? (start source : List Char) : Option (List Char) :=
  if start.isPrefixOf source then some (source.drop start.length) else none

/-- What precedes a text that comes last. -/
def dropFinish? (finish source : List Char) : Option (List Char) :=
  (dropStart? finish.reverse source.reverse).map List.reverse

/-- What follows a line end that comes first. -/
def dropLineStart? : List Char → Option (List Char)
  | '\n' :: rest => some rest
  | '\r' :: '\n' :: rest => some rest
  | '\r' :: rest => some rest
  | _ => none

/-- What precedes a line end that comes last. -/
def dropLineFinish? (source : List Char) : Option (List Char) :=
  match source.reverse with
  | '\n' :: '\r' :: rest => some rest.reverse
  | '\n' :: rest => some rest.reverse
  | '\r' :: rest => some rest.reverse
  | _ => none

/-- Skip lines up to the first one that opens a block; a null character is refused. -/
def skipLines? (start : List Char) : List Char → Option (List Char)
  | [] => none
  | '\x00' :: _ => none
  | character :: rest =>
      if character = '\n' && start.isPrefixOf rest then some rest else skipLines? start rest

/-- Join lines of the full width; the last one may be shorter.  Every line takes one unit of
fuel. -/
def unwrap? : (fuel : Nat) → List Char → Option (List Char)
  | 0, _ => none
  | fuel + 1, source =>
      if source.length ≤ lineWidth then some source
      else
        (dropLineStart? (source.drop lineWidth)).bind fun rest =>
          (unwrap? fuel rest).map (source.take lineWidth ++ ·)

/-- The octets of the first block of a text, if it has a given label and nothing but a line
end follows it. -/
def decode? (label source : String) : Option (List UInt8) := do
  let begin := "-----BEGIN ".toList
  let source := source.toList
  let block ← if begin.isPrefixOf source then some source else skipLines? begin source
  let body ← (dropStart? (opening label).toList block).bind dropLineStart?
  let body ← dropFinish? (closing label).toList ((dropLineFinish? body).getD body)
  let body ← dropLineFinish? body
  if body.isEmpty then none
  let base64 ← unwrap? (body.length + 1) body
  (Text.decodeBase64 (Text.octets (String.ofList base64))).toOption

end Pem
end Crypto
end BundleTrust
