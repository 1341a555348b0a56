import BundleTrust.Document.Basic

/-!
# Maps from texts to texts

Labels and annotations: every key once, in ascending order.
-/

namespace BundleTrust

/-- A map from texts to texts. -/
structure TextMap where
  /-- Its entries. -/
  entries : List (String × String)
  /-- They come in ascending order of their keys. -/
  ascending : Members.Ascending entries
  deriving DecidableEq, Repr

namespace TextMap

/-- The map without entries. -/
def empty : TextMap := ⟨[], List.Pairwise.nil⟩

/-- Whether a map has no entries. -/
def isEmpty (map : TextMap) : Bool :=
  map.entries.isEmpty

/-- The text of a key. -/
def get? (map : TextMap) (key : String) : Option String :=
  Members.get? map.entries key

/-- Give a key a text. -/
def insert (map : TextMap) (key value : String) : TextMap :=
  ⟨Members.insert key value map.entries, map.ascending.insert key value⟩

/-- The map of a list of entries; of two entries with one key the later one counts. -/
def ofList (entries : List (String × String)) : TextMap :=
  ⟨Members.ofList entries, Members.ascending_ofList entries⟩

/-- A map as a document. -/
def toDocument (map : TextMap) : Document :=
  .mapping (map.entries.map fun entry => (entry.1, .text entry.2))

/-- The text of a member. -/
def entryOfMember? (member : String × Document) : Option (String × String) :=
  member.2.asText?.map fun text => (member.1, text)

/-- Read a mapping whose values are texts. -/
def ofDocument? : Document → Option TextMap
  | .mapping members => (members.mapM entryOfMember?).map ofList
  | _ => none

end TextMap

end BundleTrust
