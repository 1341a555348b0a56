import BundleTrust.Registry.HostName
import BundleTrust.Registry.NumericHost
import BundleTrust.Text.Utf8

/-!
# Hosts of registries

Whether a text names the host of a registry: whether `https://`, the text and a slash make
the address of the root of a host.
-/

namespace BundleTrust
namespace Registry

/-- The octets of a text in which a percent sign and two hexadecimal digits stand for one
octet. -/
def percentDecode : List UInt8 → List UInt8
  | 0x25 :: high :: low :: rest =>
      match Text.readNumeral? 16 [Char.ofNat high.toNat, Char.ofNat low.toNat] with
      | some value => UInt8.ofNat value :: percentDecode rest
      | none => 0x25 :: percentDecode (high :: low :: rest)
  | octet :: rest => octet :: percentDecode rest
  | [] => []
termination_by octets => octets.length

/-- Whether a text is the name or the number of a host. -/
def isHost (text : List Char) : Bool :=
  match text with
  | '[' :: rest => rest.getLast? = some ']' && isEightGroups rest.dropLast
  | _ =>
      match Text.decodeUtf8 (percentDecode (Text.octets (String.ofList text))) with
      | .error _ => false
      | .ok decoded =>
          match nameOf? decoded.toList with
          | none => false
          | some name =>
              !name.isEmpty && isProperName name && (!endsInNumber name || isFourOctets name)

/-- The host at the front of a text, and what follows it: a colon outside brackets ends it. -/
def splitHost : (isInBrackets : Bool) → List Char → List Char × List Char
  | _, [] => ([], [])
  | isInBrackets, character :: rest =>
      if character = ':' && !isInBrackets then ([], character :: rest)
      else
        let (host, after) :=
          splitHost (character = '[' || (isInBrackets && character ≠ ']')) rest
        (character :: host, after)

/-- Whether a text is a port: digits that denote a number of sixteen bits, or nothing. -/
def isPort (text : List Char) : Bool :=
  text.isEmpty || (Text.readDecimalBelow? UInt16.size text).isSome

/-- Whether a text is a host with an optional port, after optional credentials. -/
def isAuthority (text : List Char) : Bool :=
  let (host, after) := splitHost false (text.reverse.takeWhile (· ≠ '@')).reverse
  isHost host && isPort after.tail

/-- A segment of a path that stands for the same place. -/
def isSamePlace (segment : List Char) : Bool :=
  [".", "%2e", "%2E"].contains (String.ofList segment)

/-- A segment of a path that stands for the place above. -/
def isPlaceAbove (segment : List Char) : Bool :=
  ["..", ".%2e", ".%2E", "%2e.", "%2E.", "%2e%2e", "%2e%2E", "%2E%2e", "%2E%2E"].contains
    (String.ofList segment)

/-- A segment of a path that names a drive, above which there is none. -/
def isDrive : List Char → Bool
  | [letter, ':'] => letter.isAlpha
  | [letter, '|'] => letter.isAlpha
  | _ => false

/-- The segments that a path leads through, the last one first, after those that it led through
before. -/
def walk (path : List (List Char)) (segment : List Char) : List (List Char) :=
  if isSamePlace segment then path
  else if isPlaceAbove segment then
    match path with
    | [] => []
    | last :: before => if isDrive last then last :: before else before
  else segment :: path

/-- Whether a path, given as its segments, leads to the root; nothing follows its last slash
then. -/
def leadsToRoot (segments : List (List Char)) : Bool :=
  match segments.getLast? with
  | none => true
  | some last =>
      let path := segments.dropLast.foldl walk []
      if last.isEmpty then path.isEmpty else (walk path last).isEmpty

/-- Cut a text at slashes of either kind. -/
def segments (text : List Char) : List (List Char) :=
  Text.pieces '/' (text.map fun character => if character = '\\' then '/' else character)

/-- Whether a text names the host of a registry. -/
def isRegistry (registry : String) : Bool :=
  let text := registry.toList.filter fun character =>
    character ≠ '\t' && character ≠ '\n' && character ≠ '\r'
  let text := text.dropWhile (· = '\\') ++ ['/']
  let authority := text.takeWhile fun character => !"/\\?#".toList.contains character
  let path := (text.drop authority.length).takeWhile fun character =>
    character ≠ '?' && character ≠ '#'
  isAuthority authority && leadsToRoot (segments (path.drop 1))

end Registry
end BundleTrust
