import BundleTrust.Document.Path

/-!
# Filters

A filter deletes a set of places from a document and can narrow its annotations to a
list of keys.  Places are deleted in descending order of their paths, each once, so the
outcome does not depend on the order in which they were given.
-/

namespace BundleTrust

/-- Places to delete and annotations to keep. -/
structure DocumentFilter where
  /-- The places to delete. -/
  deletions : List FieldPath
  /-- The keys of the annotations to keep; without a list all are kept. -/
  keptAnnotations : Option (List String)
  deriving DecidableEq, Repr

namespace DocumentFilter

/-- The filter that changes nothing. -/
def identity : DocumentFilter := ⟨[], .none⟩

/-- The fields that a cluster assigns and nobody signs. -/
def serverAssignedPaths : List FieldPath :=
  [FieldPath.ofKeys ["status"],
    FieldPath.ofKeys ["metadata", "creationTimestamp"],
    FieldPath.ofKeys ["metadata", "generation"],
    FieldPath.ofKeys ["metadata", "managedFields"],
    FieldPath.ofKeys ["metadata", "uid"],
    FieldPath.ofKeys ["metadata", "resourceVersion"]]

/-- The filter that deletes the server-assigned fields. -/
def serverAssigned : DocumentFilter := ⟨serverAssignedPaths, .none⟩

/-- Delete further places. -/
def excluding (filter : DocumentFilter) (paths : List FieldPath) : DocumentFilter :=
  { filter with deletions := filter.deletions ++ paths }

/-- Keep only listed annotations; lists of several calls add up. -/
def keepingAnnotations (filter : DocumentFilter) (keys : List String) : DocumentFilter :=
  { filter with keptAnnotations := some (filter.keptAnnotations.getD [] ++ keys) }

/-- Drop repeated neighbours. -/
def dropRepeats : List FieldPath → List FieldPath
  | [] => []
  | [path] => [path]
  | path :: next :: rest =>
      if path = next then dropRepeats (next :: rest) else path :: dropRepeats (next :: rest)

/-- Paths in descending order, each once. -/
def descending (paths : List FieldPath) : List FieldPath :=
  dropRepeats (paths.mergeSort fun left right => right.atMost left)

/-- Delete places one after the other. -/
def deleteAll (paths : List FieldPath) (document : Document) : Document :=
  paths.foldl (fun document path => document.deleteAt path) document

/-- Keep the listed annotations of a metadata mapping and drop annotations that are then
empty or null. -/
def narrowAnnotations (keys : List String) (metadata : Members) : Members :=
  match Members.get? metadata "annotations" with
  | some (.mapping annotations) =>
      let kept := annotations.filter fun member => keys.contains member.1
      if kept.isEmpty then Members.erase "annotations" metadata
      else Members.modify "annotations" (fun _ => .mapping kept) metadata
  | some .null => Members.erase "annotations" metadata
  | _ => metadata

/-- Narrow the annotations in the metadata of a document. -/
def narrowDocument (keys : List String) (document : Document) : Document :=
  document.changeMetadata (narrowAnnotations keys)

/-- Apply a filter to a document. -/
def apply (filter : DocumentFilter) (document : Document) : Document :=
  let remaining := deleteAll (descending filter.deletions) document
  match filter.keptAnnotations with
  | some keys => narrowDocument keys remaining
  | .none => remaining

end DocumentFilter

end BundleTrust
