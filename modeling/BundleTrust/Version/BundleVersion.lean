import BundleTrust.Text.Numeral
import BundleTrust.Text.Pieces

/-!
# Versions of bundles

A bundle is named `v<major>-<minor>-<sequence>`: the first two numbers pin the server
version that it is made for, the third orders the bundles made for one server version.
Names are ordered newest first, and names of another form come last.
-/

namespace BundleTrust

/-- The version that the name of a bundle spells. -/
structure BundleVersion where
  /-- The major version of the server. -/
  major : Nat
  /-- The minor version of the server. -/
  minor : Nat
  /-- The number of the bundle among those for one server version. -/
  sequence : Nat
  /-- The major version fits thirty-two bits. -/
  major_lt : major < UInt32.size
  /-- The minor version fits thirty-two bits. -/
  minor_lt : minor < UInt32.size
  /-- The number of the bundle fits sixty-four bits. -/
  sequence_lt : sequence < UInt64.size
  deriving DecidableEq, Repr

attribute [ext] BundleVersion

/-- The text `v<major>-<minor>` that bundles and servers are compared by. -/
def kubeVersionText (major minor : Nat) : String :=
  "v" ++ Text.decimal major ++ "-" ++ Text.decimal minor

/-- The characters of the text of two numbers. -/
theorem toList_kubeVersionText (major minor : Nat) :
    (kubeVersionText major minor).toList =
      'v' :: ((Text.decimal major).toList ++ '-' :: (Text.decimal minor).toList) := by
  simp [kubeVersionText]

namespace BundleVersion

/-- Read the name of a bundle. -/
def parse? (name : String) : Option BundleVersion :=
  match name.toList with
  | 'v' :: rest =>
      match Text.pieces '-' rest with
      | [major, minor, sequence] =>
          match Text.readNumeral? 10 major, Text.readNumeral? 10 minor,
              Text.readNumeral? 10 sequence with
          | some major, some minor, some sequence =>
              if bounds : major < UInt32.size ∧ minor < UInt32.size ∧ sequence < UInt64.size then
                some ⟨major, minor, sequence, bounds.1, bounds.2.1, bounds.2.2⟩
              else none
          | _, _, _ => none
      | _ => none
  | _ => none

/-- The name that spells a version without leading zeros. -/
def name (version : BundleVersion) : String :=
  kubeVersionText version.major version.minor ++ "-" ++ Text.decimal version.sequence

/-- The text by which a version is compared with a server. -/
def kubeVersion (version : BundleVersion) : String :=
  kubeVersionText version.major version.minor

/-- Whether two versions are made for one server version. -/
def isSameMinor (left right : BundleVersion) : Bool :=
  left.major == right.major && left.minor == right.minor

/-- The order of versions, the oldest first. -/
def compareWith (left right : BundleVersion) : Ordering :=
  (compare left.major right.major).then
    ((compare left.minor right.minor).then (compare left.sequence right.sequence))

end BundleVersion

/-- The order of names, the newest version first; names that are not those of bundles come
last and are not told apart. -/
def compareNewestFirst (left right : String) : Ordering :=
  match BundleVersion.parse? left, BundleVersion.parse? right with
  | some left, some right => right.compareWith left
  | some _, none => .lt
  | none, some _ => .gt
  | none, none => .eq

/-- Sort by names, the newest first; items with names that are not told apart keep their
order. -/
def sortNewestFirst {Item : Type} (name : Item → String) (items : List Item) : List Item :=
  items.mergeSort fun left right => compareNewestFirst (name left) (name right) != .gt

end BundleTrust
