import BundleTrust.Document.Basic

/-!
# Records in documents

Reading typed values from generic documents.  A record stands in a document as a mapping
from the names of its fields, or as a list of their values in the order in which the fields
are declared; a field that is missing takes a default or is refused.
-/

namespace BundleTrust

namespace WideInteger

/-- A signed number of sixty-four bits. -/
def ofInt64 (value : Int64) : WideInteger :=
  ⟨value.toInt, value.le_toInt, by have := value.toInt_lt; omega⟩

/-- A signed number of thirty-two bits. -/
def ofInt32 (value : Int32) : WideInteger :=
  ⟨value.toInt, by have := value.le_toInt; omega, by have := value.toInt_lt; omega⟩

/-- A natural number of sixty-four bits. -/
def ofUInt64 (value : UInt64) : WideInteger :=
  ⟨value.toNat, by omega, by have := value.toNat_lt; omega⟩

/-- A natural number of thirty-two bits. -/
def ofUInt32 (value : UInt32) : WideInteger :=
  ⟨value.toNat, by omega, by have := value.toNat_lt; omega⟩

end WideInteger

namespace Document

/-- The truth value that a document is. -/
def asBoolean? : Document → Option Bool
  | .boolean value => some value
  | _ => none

/-- The whole number that a document is. -/
def asInteger? : Document → Option Int
  | .integer value => some value.value
  | _ => none

/-- The signed number of sixty-four bits that a document is. -/
def asInt64? (document : Document) : Option Int64 :=
  document.asInteger?.bind fun value =>
    if Int64.minValue.toInt ≤ value ∧ value ≤ Int64.maxValue.toInt
    then some (Int64.ofInt value)
    else none

/-- The signed number of thirty-two bits that a document is. -/
def asInt32? (document : Document) : Option Int32 :=
  document.asInteger?.bind fun value =>
    if Int32.minValue.toInt ≤ value ∧ value ≤ Int32.maxValue.toInt
    then some (Int32.ofInt value)
    else none

/-- The natural number of sixty-four bits that a document is. -/
def asUInt64? (document : Document) : Option UInt64 :=
  document.asInteger?.bind fun value =>
    if 0 ≤ value ∧ value.toNat < UInt64.size then some (UInt64.ofNat value.toNat) else none

/-- The natural number of thirty-two bits that a document is. -/
def asUInt32? (document : Document) : Option UInt32 :=
  document.asInteger?.bind fun value =>
    if 0 ≤ value ∧ value.toNat < UInt32.size then some (UInt32.ofNat value.toNat) else none

/-- The items of a document that is a list. -/
def asItems? : Document → Option (List Document)
  | .list items => some items
  | _ => none

/-- The name of the alternative that a document is: a text, or a mapping from the name alone
to null. -/
def asChoice? : Document → Option String
  | .text name => some name
  | .mapping [(name, .null)] => some name
  | _ => none

/-- Read a list whose items are all read alike. -/
def asListOf? {Item : Type} (read : Document → Option Item) (document : Document) :
    Option (List Item) :=
  document.asItems?.bind fun items => items.mapM read

/-- Read a value that may be null. -/
def asOptional? {Value : Type} (read : Document → Option Value) :
    Document → Option (Option Value)
  | .null => some none
  | document => (read document).map some

/-- The members of a record with given field names. -/
def asRecord? (names : List String) : Document → Option Members
  | .mapping members => some members
  | .list items => if items.length ≤ names.length then some (names.zip items) else none
  | _ => none

end Document

namespace Members

/-- Read a field that has to be there. -/
def field? {Value : Type} (members : Members) (name : String)
    (read : Document → Option Value) : Option Value :=
  (get? members name).bind read

/-- Read a field that has a default. -/
def fieldOr? {Value : Type} (members : Members) (name : String) (default : Value)
    (read : Document → Option Value) : Option Value :=
  match get? members name with
  | some value => read value
  | none => some default

/-- A field that is written unless a condition holds. -/
def omitIf (isOmitted : Bool) (name : String) (value : Document) : Members :=
  if isOmitted then [] else [(name, value)]

/-- A field that is written if there is a value. -/
def ofOption {Value : Type} (name : String) (write : Value → Document) :
    Option Value → Members
  | some value => [(name, write value)]
  | none => []

/-- A field with a text that is written unless it is empty. -/
def ofText (name text : String) : Members :=
  omitIf text.isEmpty name (.text text)

end Members

end BundleTrust
