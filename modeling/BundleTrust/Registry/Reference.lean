import BundleTrust.Error
import BundleTrust.Registry.Host
import BundleTrust.Text.Blank

/-!
# References to artifacts

A reference names an artifact by its registry, its repository there, and a tag or a digest.
-/

namespace BundleTrust

/-- Which artifact of a repository is meant. -/
inductive ArtifactSelector where
  /-- The one with a tag. -/
  | tag (name : String)
  /-- The one with a digest. -/
  | digest (value : String)
  deriving DecidableEq, Repr

/-- The text of a selector. -/
def ArtifactSelector.text : ArtifactSelector → String
  | .tag name => name
  | .digest value => value

/-- A reference to an artifact. -/
structure ArtifactReference where
  /-- The registry. -/
  registry : String
  /-- The repository in the registry. -/
  repository : String
  /-- Which artifact of the repository is meant. -/
  selector : ArtifactSelector
  deriving DecidableEq, Repr

namespace ArtifactReference

/-- The tag that is meant where none is given. -/
def standardTag : String := "latest"

/-- Whether a text has the form of a digest: a mark for the hash and as many octets as it takes
to write it. -/
def isDigest (text : String) : Bool :=
  text.startsWith "sha256:" && text.utf8ByteSize = 7 + 64

/-- Split a text at the last occurrence of a character. -/
def splitLast? (separator : Char) (text : List Char) : Option (List Char × List Char) :=
  match text.reverse.dropWhile (· ≠ separator) with
  | [] => none
  | _ :: before => some (before.reverse, (text.reverse.takeWhile (· ≠ separator)).reverse)

/-- Split a text at the first occurrence of a character. -/
def splitFirst? (separator : Char) (text : List Char) : Option (List Char × List Char) :=
  match text.dropWhile (· ≠ separator) with
  | [] => none
  | _ :: after => some (text.takeWhile (· ≠ separator), after)

/-- A text is split at the first occurrence if the separator is not before it. -/
theorem splitFirst?_eq_some_iff {separator : Char} {text before after : List Char} :
    splitFirst? separator text = some (before, after) ↔
      text = before ++ separator :: after ∧ separator ∉ before := by
  constructor
  · intro cut
    rw [splitFirst?] at cut
    split at cut
    · contradiction
    · next found rest isRest =>
        cases cut
        have isSeparator := List.head?_dropWhile_not (· ≠ separator) text
        rw [isRest, List.head?_cons] at isSeparator
        obtain rfl : found = separator := by simpa using isSeparator
        refine ⟨?_, fun isBefore => ?_⟩
        · rw [← isRest, List.takeWhile_append_dropWhile]
        · simpa using List.all_eq_true.1 (List.all_takeWhile (l := text)) _ isBefore
  · rintro ⟨rfl, absent⟩
    have passes : ∀ character ∈ before, decide (character ≠ separator) = true :=
      fun character isBefore => decide_eq_true fun same => absent (same ▸ isBefore)
    rw [splitFirst?, List.dropWhile_append_of_pos passes, List.takeWhile_append_of_pos passes]
    simp

theorem splitFirst?_eq_none_iff {separator : Char} {text : List Char} :
    splitFirst? separator text = none ↔ separator ∉ text := by
  rw [← Option.not_isSome_iff_eq_none, Option.isSome_iff_exists]
  refine not_congr ⟨?_, ?_⟩
  · rintro ⟨⟨before, after⟩, cut⟩
    rw [(splitFirst?_eq_some_iff.1 cut).1]
    exact List.mem_append_right before List.mem_cons_self
  · intro isMember
    obtain ⟨before, after, isCut, absent⟩ := List.eq_append_cons_of_mem isMember
    exact ⟨(before, after), splitFirst?_eq_some_iff.2 ⟨isCut, absent⟩⟩

/-- The last occurrence is the first one from the end. -/
theorem splitLast?_eq_map (separator : Char) (text : List Char) :
    splitLast? separator text =
      (splitFirst? separator text.reverse).map fun cut => (cut.2.reverse, cut.1.reverse) := by
  rw [splitLast?, splitFirst?]
  split <;> rfl

/-- A text is split at the last occurrence if the separator is not behind it. -/
theorem splitLast?_eq_some_iff {separator : Char} {text before after : List Char} :
    splitLast? separator text = some (before, after) ↔
      text = before ++ separator :: after ∧ separator ∉ after := by
  rw [splitLast?_eq_map, Option.map_eq_some_iff]
  constructor
  · rintro ⟨⟨last, first⟩, cut, same⟩
    cases same
    obtain ⟨isCut, absent⟩ := splitFirst?_eq_some_iff.1 cut
    refine ⟨?_, mt List.mem_reverse.1 absent⟩
    rw [← List.reverse_reverse text, isCut]
    simp
  · rintro ⟨rfl, absent⟩
    refine ⟨(after.reverse, before.reverse), splitFirst?_eq_some_iff.2 ⟨?_, ?_⟩, by simp⟩
    · simp
    · exact mt List.mem_reverse.1 absent

theorem splitLast?_eq_none_iff {separator : Char} {text : List Char} :
    splitLast? separator text = none ↔ separator ∉ text := by
  rw [splitLast?_eq_map, Option.map_eq_none_iff, splitFirst?_eq_none_iff, List.mem_reverse]

/-- Read what follows the registry: the repository and the selector, or why there are none. -/
def readSelector (text : List Char) : Except String (List Char × ArtifactSelector) :=
  match splitFirst? '@' text with
  | some (repository, digest) =>
      if isDigest (String.ofList digest) then
        .ok (repository, .digest (String.ofList digest))
      else .error "digest must be sha256:<64 hex>"
  | none =>
      match splitLast? ':' text with
      | some (repository, tag) =>
          if tag.isEmpty || tag.contains '/' then .error "empty tag"
          else .ok (repository, .tag (String.ofList tag))
      | none => .ok (text, .tag standardTag)

/-- Read the parts of a reference, or why they cannot be read; which texts name a registry is
given. -/
def readParts (isRegistry : String → Bool) (text : List Char) :
    Except String ArtifactReference :=
  match splitFirst? '/' text with
  | none => .error "missing repository"
  | some (registry, rest) =>
      if registry.isEmpty then .error "missing registry"
      else if !isRegistry (String.ofList registry) then .error "invalid registry host"
      else
        match readSelector rest with
        | .error reason => .error reason
        | .ok (repository, selector) =>
            if (Text.pieces '/' repository).any List.isEmpty then
              .error "empty repository path segment"
            else .ok ⟨String.ofList registry, String.ofList repository, selector⟩

/-- Read a reference, with blanks around it; which texts name a registry is given. -/
def readWith (isRegistry : String → Bool) (reference : String) :
    Except BundleError ArtifactReference :=
  (readParts isRegistry (Text.trimBlanks reference.toList)).mapError fun reason =>
    .invalidReference (Text.trim reference) reason

/-- Read a reference, with blanks around it. -/
def read : (reference : String) → Except BundleError ArtifactReference :=
  readWith Registry.isRegistry

/-- The text of a reference. -/
def render (reference : ArtifactReference) : String :=
  reference.registry ++ "/" ++ reference.repository ++
    match reference.selector with
    | .tag name => ":" ++ name
    | .digest value => "@" ++ value

/-- The address of a repository. -/
def address (reference : ArtifactReference) (isInsecure : Bool) : String :=
  (if isInsecure then "http" else "https") ++ "://" ++ reference.registry ++ "/v2/" ++
    reference.repository

/-- The address of the manifest that a reference means. -/
def manifestAddress (reference : ArtifactReference) (isInsecure : Bool) : String :=
  reference.address isInsecure ++ "/manifests/" ++ reference.selector.text

/-- The address of a blob in the repository of a reference. -/
def blobAddress (reference : ArtifactReference) (digest : String) (isInsecure : Bool) :
    String :=
  reference.address isInsecure ++ "/blobs/" ++ digest

end ArtifactReference

end BundleTrust
