import BundleTrust.Yaml.Tag

/-!
# Tokens

The pieces a YAML text is made of: directives, document markers, the brackets of
collections (those of block collections follow from indentation), the signs of entries,
keys and values, and what a node is made of.
-/

namespace BundleTrust
namespace Yaml

/-- How a scalar is written, as far as its meaning depends on it. -/
inductive ScalarForm where
  /-- Without quotes. -/
  | plain
  /-- Quoted or folded. -/
  | quoted
  /-- As literal lines. -/
  | literal
  deriving DecidableEq, Repr

/-- A token. -/
inductive Token where
  /-- A directive that names the version of YAML. -/
  | version (major minor : Nat)
  /-- A directive that says what a tag handle stands for. -/
  | handle (name : String) (meaning : List UInt8)
  /-- The marker that opens a document. -/
  | documentStart
  /-- The marker that closes a document. -/
  | documentEnd
  /-- The start of an indented list. -/
  | blockListStart
  /-- The start of an indented mapping. -/
  | blockMappingStart
  /-- The end of an indented collection. -/
  | blockEnd
  /-- An opening square bracket. -/
  | flowListStart
  /-- A closing square bracket. -/
  | flowListEnd
  /-- An opening brace. -/
  | flowMappingStart
  /-- A closing brace. -/
  | flowMappingEnd
  /-- The dash of an indented list. -/
  | dash
  /-- The comma of a bracketed collection. -/
  | comma
  /-- The start of a key. -/
  | key
  /-- The start of a value. -/
  | value
  /-- The name of an anchored node that is meant again. -/
  | alias (name : String)
  /-- A name for the node that follows. -/
  | anchor (name : String)
  /-- The tag of the node that follows. -/
  | tag (spelling : TagSpelling)
  /-- A scalar. -/
  | scalar (form : ScalarForm) (text : String)
  deriving DecidableEq, Repr

end Yaml
end BundleTrust
