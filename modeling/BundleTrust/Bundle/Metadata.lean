import BundleTrust.Document.Record
import BundleTrust.Document.TextMap
import BundleTrust.Yaml.Shape

/-!
# Metadata

What bundles and controllers say about themselves: their names, labels and annotations, and
the fields that a cluster assigns.
-/

namespace BundleTrust

/-- The metadata of a document. -/
structure Metadata where
  /-- The name. -/
  name : String
  /-- The namespace. -/
  space : String
  /-- The labels. -/
  labels : TextMap
  /-- The annotations. -/
  annotations : TextMap
  /-- When the document was created. -/
  creationTimestamp : Option String
  /-- How often the document was changed. -/
  generation : Option Int64
  /-- Who manages which fields. -/
  managedFields : Option (List Document)
  /-- The identity of the document in the cluster. -/
  uid : Option String
  /-- The version that the store gave the document. -/
  resourceVersion : Option String
  deriving DecidableEq, Repr

namespace Metadata

/-- Metadata that only name a document. -/
def named (space name : String) : Metadata :=
  ⟨name, space, .empty, .empty, none, none, none, none, none⟩

/-- What the fields are read as, in their order. -/
def fields : List (String × Yaml.Shape) :=
  [("name", .text), ("namespace", .text), ("labels", .texts), ("annotations", .texts),
    ("creationTimestamp", .optional .text),
    ("generation", .optional (.integer Int64.minValue.toInt Int64.maxValue.toInt)),
    ("managedFields", .optional (.list .value)), ("uid", .optional .text),
    ("resourceVersion", .optional .text)]

/-- Metadata as a document, with the fields in their order. -/
def toDocument (metadata : Metadata) : Document :=
  .mapping
    (("name", .text metadata.name) ::
      (Members.ofText "namespace" metadata.space ++
        Members.omitIf metadata.labels.isEmpty "labels" metadata.labels.toDocument ++
        Members.omitIf metadata.annotations.isEmpty "annotations"
          metadata.annotations.toDocument ++
        Members.ofOption "creationTimestamp" .text metadata.creationTimestamp ++
        Members.ofOption "generation" (fun value => .integer (.ofInt64 value))
          metadata.generation ++
        Members.ofOption "managedFields" .list metadata.managedFields ++
        Members.ofOption "uid" .text metadata.uid ++
        Members.ofOption "resourceVersion" .text metadata.resourceVersion))

/-- Read metadata. -/
def ofDocument? (document : Document) : Option Metadata := do
  let members ← document.asRecord? (fields.map Prod.fst)
  let name ← members.fieldOr? "name" "" Document.asText?
  let space ← members.fieldOr? "namespace" "" Document.asText?
  let labels ← members.fieldOr? "labels" .empty TextMap.ofDocument?
  let annotations ← members.fieldOr? "annotations" .empty TextMap.ofDocument?
  let creationTimestamp ←
    members.fieldOr? "creationTimestamp" none (Document.asOptional? Document.asText?)
  let generation ← members.fieldOr? "generation" none (Document.asOptional? Document.asInt64?)
  let managedFields ← members.fieldOr? "managedFields" none
    (Document.asOptional? (Document.asListOf? some))
  let uid ← members.fieldOr? "uid" none (Document.asOptional? Document.asText?)
  let resourceVersion ←
    members.fieldOr? "resourceVersion" none (Document.asOptional? Document.asText?)
  some ⟨name, space, labels, annotations, creationTimestamp, generation, managedFields, uid,
    resourceVersion⟩

end Metadata

end BundleTrust
