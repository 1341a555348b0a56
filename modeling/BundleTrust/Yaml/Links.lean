import BundleTrust.Yaml.Node

/-!
# Links

Every anchor is given a number, and every alias the number of the anchor that last bore its
name.  The number of an anchor is the count of different names before it, so two anchors
can share a number once a name has been used again; the last node with a number is the one
meant by it.
-/

namespace BundleTrust
namespace Yaml

/-- The names met so far, each with the number of the anchor that last bore it. -/
abbrev KnownAnchors := List (String × Nat)

namespace KnownAnchors

/-- Give a name to an anchor. -/
def insert (name : String) (number : Nat) : KnownAnchors → KnownAnchors
  | [] => [(name, number)]
  | (other, old) :: known =>
      if name = other then (name, number) :: known else (other, old) :: insert name number known

end KnownAnchors

namespace Node

/-- The properties of a node with a number in place of its anchor's name, and the names known
inside the node. -/
def linkProperties
    (known : KnownAnchors)
    (properties : NodeProperties String) :
    NodeProperties Nat × KnownAnchors :=
  match properties.anchor with
  | none => (⟨none, properties.tag⟩, known)
  | some name => (⟨some known.length, properties.tag⟩, known.insert name known.length)

mutual

/-- Number the anchors of a node and resolve its aliases; an alias of an unknown name is
refused. -/
def link? : KnownAnchors → Node String → Option (Node Nat × KnownAnchors)
  | known, .alias name => (known.lookup name).map fun number => (.alias number, known)
  | known, .scalar properties form text =>
      let (properties, known) := linkProperties known properties
      some (.scalar properties form text, known)
  | known, .list properties items =>
      let (properties, known) := linkProperties known properties
      (linkItems? known items).map fun linked => (.list properties linked.1, linked.2)
  | known, .mapping properties entries =>
      let (properties, known) := linkProperties known properties
      (linkEntries? known entries).map fun linked => (.mapping properties linked.1, linked.2)

/-- Link the items of a list. -/
def linkItems? : KnownAnchors → List (Node String) → Option (List (Node Nat) × KnownAnchors)
  | known, [] => some ([], known)
  | known, item :: items =>
      (link? known item).bind fun (item, known) =>
        (linkItems? known items).map fun linked => (item :: linked.1, linked.2)

/-- Link the entries of a mapping. -/
def linkEntries? :
    KnownAnchors →
    List (Node String × Node String) →
    Option (List (Node Nat × Node Nat) × KnownAnchors)
  | known, [] => some ([], known)
  | known, (key, value) :: entries =>
      (link? known key).bind fun (key, known) =>
        (link? known value).bind fun (value, known) =>
          (linkEntries? known entries).map fun linked => ((key, value) :: linked.1, linked.2)

end

end Node

/-- A document whose aliases are resolved. -/
structure LinkedDocument where
  /-- Its root. -/
  root : Node Nat
  /-- What the numbers of anchors mean; of two nodes with one number the first one here. -/
  targets : List (Nat × Node Nat)

namespace LinkedDocument

/-- Link a tree. -/
def ofNode? (root : Node String) : Option LinkedDocument :=
  (root.link? []).map fun linked => ⟨linked.1, linked.1.anchored.reverse⟩

/-- How often aliases may be followed while a document is read: a hundred times for each of
its pieces. -/
def aliasLimit (document : LinkedDocument) : Nat :=
  100 * document.root.size

end LinkedDocument

end Yaml
end BundleTrust
