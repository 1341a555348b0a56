import BundleTrust.Document.Basic
import BundleTrust.Yaml.Grammar
import BundleTrust.Yaml.Links
import BundleTrust.Yaml.Plain
import BundleTrust.Yaml.TokenStream

/-!
# Reading by shape

What a YAML node denotes depends on what is expected of it: where a text is expected, a
scalar keeps its spelling, and where a collection is expected, nothing stands for the empty
one.  A shape says what is expected; reading a node by a shape gives a generic document.
Aliases are followed a limited number of times, and collections may be nested to a limited
depth.
-/

namespace BundleTrust
namespace Yaml

/-- What is expected of a node. -/
inductive Shape where
  /-- Anything. -/
  | value
  /-- A text. -/
  | text
  /-- A truth value. -/
  | flag
  /-- A whole number below a limit. -/
  | natural (limit : Nat)
  /-- A whole number from a least to a greatest one, within sixty-four bits. -/
  | integer (least greatest : Int)
  /-- The name of an alternative, which may also be written as a tag of the application. -/
  | choice
  /-- A list. -/
  | list (item : Shape)
  /-- A mapping from texts to texts. -/
  | texts
  /-- A mapping with known fields; others are passed over. -/
  | record (fields : List (String × Shape))
  /-- Something that may be null. -/
  | optional (shape : Shape)
  deriving Repr, Inhabited

namespace Shape

/-- What is expected unless the node is null. -/
def required : Shape → Shape
  | .optional shape => shape.required
  | shape => shape

/-- Whether null is expected too. -/
def isOptional : Shape → Bool
  | .optional _ => true
  | _ => false

end Shape

/-- The greatest number of nested collections. -/
def greatestDepth : Nat := 128

/-- Reading counts the aliases followed. -/
abbrev Reading := StateT Nat Option

/-- The node meant by a node. -/
def follow (document : LinkedDocument) : Node Nat → Reading (Node Nat)
  | .alias number => fun followed =>
      if followed < document.aliasLimit then
        (document.targets.lookup number).map fun target => (target, followed + 1)
      else none
  | node => pure node

/-- What a scalar denotes where anything is expected. -/
def resolveScalar? (tag : Option Tag) (form : ScalarForm) (text : String) : Option Document :=
  let plain : PlainValue → Option Document
    | .null => some .null
    | .boolean value => some (.boolean value)
    | .integer value => (WideInteger.ofInt? value).map .integer
    | .real value => some (.real value)
    | .nonFinite => some .null
    | .text => some (.text text)
  let characters := text.toList
  match tag with
  | none => if form = .plain then plain (resolvePlain characters) else some (.text text)
  | some .boolean => (readBoolean? characters).map .boolean
  | some .integer =>
      ((readInteger? wideLimit (wideLimit / 2) characters).bind WideInteger.ofInt?).map .integer
  | some .real =>
      if isNonFinite characters then some .null else (readReal? characters).map .real
  | some .null => if isNullWord characters then some .null else none
  | some (.custom _) => none
  | some .garbled =>
      if form = .plain then plain (resolvePlain characters) else some (.text text)
  | some .other => some (.text text)

/-- Whether a scalar is null where that is expected; a tag that says so has to be right. -/
def isNullScalar? (tag : Option Tag) (form : ScalarForm) (text : String) : Option Bool :=
  if form ≠ .plain then some false
  else
    match tag with
    | some .null => if isNullWord text.toList then some true else none
    | some _ => some false
    | none => some (text.isEmpty || isNullWord text.toList)

/-- Whether a scalar may be read as a value of a core type: an unquoted one, or literal lines
that its tag gives that type. -/
def mayDenote (expected : Tag) (tag : Option Tag) (form : ScalarForm) : Bool :=
  form = .plain || (form = .literal && tag = some expected)

/-- What a scalar denotes where a shape other than a collection is expected. -/
def scalarOfShape?
    (shape : Shape)
    (tag : Option Tag)
    (form : ScalarForm)
    (text : String) :
    Option Document :=
  let isEmpty := form = .plain && text.isEmpty
  match shape with
  | .value => resolveScalar? tag form text
  | .text => some (.text text)
  | .flag =>
      if mayDenote .boolean tag form then (readBoolean? text.toList).map .boolean else none
  | .natural limit =>
      if mayDenote .integer tag form && text.toList.head? != some '-' then
        ((readInteger? limit 0 text.toList).bind WideInteger.ofInt?).map .integer
      else none
  | .integer least greatest =>
      if mayDenote .integer tag form then
        (readInteger? (UInt64.size / 2) (UInt64.size / 2) text.toList).bind fun value =>
          if least ≤ value ∧ value ≤ greatest then
            (WideInteger.ofInt? value).map .integer
          else none
      else none
  | .choice =>
      match tag with
      | some (.custom name) =>
          if form = .plain && (text.isEmpty || isNullWord text.toList) then some (.text name)
          else none
      | _ => some (.text text)
  | .list _ => if isEmpty then some (.list []) else none
  | .texts => if isEmpty then some .empty else none
  | .record _ => if isEmpty then some .empty else none
  | .optional _ => none

/-- The text of a key. -/
def readKey (document : LinkedDocument) (key : Node Nat) : Reading String := do
  match ← follow document key with
  | .scalar _ _ text => pure text
  | _ => failure

/-- Read a node by a shape.  Every collection takes one unit of depth. -/
def readNode (document : LinkedDocument) :
    (depth : Nat) → Shape → Node Nat → Reading Document
  | depth, shape, node => do
      match ← follow document node with
      | .alias _ => failure
      | .scalar properties form text =>
          if shape.isOptional then
            match isNullScalar? properties.tag form text with
            | some true => return .null
            | some false => pure ()
            | none => failure
          match scalarOfShape? shape.required properties.tag form text with
          | some value => pure value
          | none => failure
      | .list properties items =>
          match depth, shape.required with
          | depth + 1, .value =>
              if properties.tag.any fun tag => tag matches .custom _ then failure
              pure (.list (← items.mapM (readNode document depth .value)))
          | depth + 1, .list item => pure (.list (← items.mapM (readNode document depth item)))
          | _, _ => failure
      | .mapping properties entries =>
          match depth, shape.required with
          | depth + 1, .value => do
              if properties.tag.any fun tag => tag matches .custom _ then failure
              let members ← entries.mapM fun entry => do
                let key ← readKey document entry.1
                pure (key, ← readNode document depth .value entry.2)
              pure (.mapping (Members.ofList members))
          | depth + 1, .texts => do
              let members ← entries.mapM fun entry => do
                let key ← readKey document entry.1
                pure (key, ← readNode document depth .text entry.2)
              pure (.mapping (Members.ofList members))
          | depth + 1, .record fields => do
              let members ← entries.filterMapM fun entry => do
                let key ← readKey document entry.1
                match fields.lookup key with
                | some shape => pure (some (key, ← readNode document depth shape entry.2))
                | none => pure none
              if (members.map Prod.fst).Nodup then pure (.mapping (Members.ofList members))
              else failure
          | _, _ => failure

/-- What no document denotes. -/
def absent? : Shape → Option Document
  | .value => some .null
  | .optional _ => some .null
  | .list _ => some (.list [])
  | .texts => some .empty
  | .record _ => some .empty
  | _ => none

/-- Read the one document of a text by a shape. -/
def readAs? (shape : Shape) (text : String) : Option Document :=
  (tokens? text).bind fun tokens =>
    match rootOfTokens? tokens with
    | none => none
    | some none => absent? shape
    | some (some root) =>
        (LinkedDocument.ofNode? root).bind fun document =>
          ((readNode document greatestDepth shape document.root).run 0).map Prod.fst

/-- Read the one document of a text; no document reads as null. -/
def read? (text : String) : Option Document :=
  readAs? .value text

end Yaml
end BundleTrust
