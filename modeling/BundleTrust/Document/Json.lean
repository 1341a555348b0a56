import BundleTrust.Document.Basic
import BundleTrust.Number.Layout
import BundleTrust.Text.JsonLiteral

/-!
# JSON texts of documents

Documents written as compact JSON.
-/

namespace BundleTrust
namespace Json

/-- Floating-point numbers in JSON: positional from `1e-5` to below `1e16`, otherwise with a
signed exponent. -/
def numberLayout : Number.Layout := ⟨-5, 15, true⟩

/-- The decimal digits of an integer with its sign. -/
def integerText (value : Int) : List Char :=
  (if value < 0 then ['-'] else []) ++ Nat.toDigits 10 value.natAbs

/-- Join pieces with a comma. -/
def joinWithComma : List (List Char) → List Char
  | [] => []
  | [piece] => piece
  | piece :: pieces => piece ++ ',' :: joinWithComma pieces

mutual

/-- The compact JSON text of a document. -/
def render : Document → List Char
  | .null => ['n', 'u', 'l', 'l']
  | .boolean true => ['t', 'r', 'u', 'e']
  | .boolean false => ['f', 'a', 'l', 's', 'e']
  | .integer value => integerText value.value
  | .real value => numberLayout.render value
  | .text value => Text.jsonLiteral value
  | .list items => '[' :: joinWithComma (renderItems items) ++ [']']
  | .mapping members => '\x7b' :: joinWithComma (renderMembers members) ++ ['\x7d']

/-- The texts of the items of a list. -/
def renderItems : List Document → List (List Char)
  | [] => []
  | item :: items => render item :: renderItems items

/-- The texts of the members of a mapping. -/
def renderMembers : Members → List (List Char)
  | [] => []
  | (key, value) :: members =>
      (Text.jsonLiteral key ++ ':' :: render value) :: renderMembers members

end

/-- The compact JSON text of a document. -/
def write (document : Document) : String :=
  String.ofList (render document)

end Json
end BundleTrust
