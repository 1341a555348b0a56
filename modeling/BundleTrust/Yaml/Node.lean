import BundleTrust.Yaml.Token

/-!
# Nodes

The tree that a YAML document describes, before its scalars are given values.  Anchored
nodes and the aliases that stand for them carry references: the names written in the text,
or the numbers that linking gives them.
-/

namespace BundleTrust
namespace Yaml

/-- The anchor and the tag of a node. -/
structure NodeProperties (Reference : Type) where
  /-- Its anchor. -/
  anchor : Option Reference
  /-- Its tag. -/
  tag : Option Tag
  deriving DecidableEq, Repr

/-- No anchor and no tag. -/
def NodeProperties.none {Reference : Type} : NodeProperties Reference := ⟨.none, .none⟩

/-- A node. -/
inductive Node (Reference : Type) where
  /-- The node that an anchor marks. -/
  | alias (reference : Reference)
  /-- A scalar. -/
  | scalar (properties : NodeProperties Reference) (form : ScalarForm) (text : String)
  /-- A list. -/
  | list (properties : NodeProperties Reference) (items : List (Node Reference))
  /-- A mapping. -/
  | mapping
      (properties : NodeProperties Reference)
      (entries : List (Node Reference × Node Reference))
  deriving Repr, Inhabited

namespace Node

/-- The scalar that stands where nothing is written. -/
def missing {Reference : Type} : Node Reference := .scalar .none .plain ""

mutual

/-- The number of pieces that a document is made of: one for an alias or a scalar, two more
than its contents for a collection. -/
def size {Reference : Type} : Node Reference → Nat
  | .alias _ => 1
  | .scalar _ _ _ => 1
  | .list _ items => sizeOfItems items + 2
  | .mapping _ entries => sizeOfEntries entries + 2

/-- The pieces of the items of a list. -/
def sizeOfItems {Reference : Type} : List (Node Reference) → Nat
  | [] => 0
  | item :: items => item.size + sizeOfItems items

/-- The pieces of the entries of a mapping. -/
def sizeOfEntries {Reference : Type} : List (Node Reference × Node Reference) → Nat
  | [] => 0
  | (key, value) :: entries => key.size + value.size + sizeOfEntries entries

end

mutual

/-- The anchored nodes of a tree with their references, outer nodes first. -/
def anchored {Reference : Type} : Node Reference → List (Reference × Node Reference)
  | .alias _ => []
  | .scalar properties form text =>
      (properties.anchor.map fun anchor => (anchor, scalar properties form text)).toList
  | .list properties items =>
      (properties.anchor.map fun anchor => (anchor, list properties items)).toList ++
        anchoredInItems items
  | .mapping properties entries =>
      (properties.anchor.map fun anchor => (anchor, mapping properties entries)).toList ++
        anchoredInEntries entries

/-- The anchored nodes of the items of a list. -/
def anchoredInItems {Reference : Type} :
    List (Node Reference) → List (Reference × Node Reference)
  | [] => []
  | item :: items => item.anchored ++ anchoredInItems items

/-- The anchored nodes of the entries of a mapping. -/
def anchoredInEntries {Reference : Type} :
    List (Node Reference × Node Reference) → List (Reference × Node Reference)
  | [] => []
  | (key, value) :: entries => key.anchored ++ value.anchored ++ anchoredInEntries entries

end

end Node

end Yaml
end BundleTrust
