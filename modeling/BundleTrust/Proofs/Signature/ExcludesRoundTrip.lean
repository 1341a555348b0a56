import BundleTrust.Proofs.Document.SelectorReading
import BundleTrust.Proofs.Text.Base64
import BundleTrust.Proofs.Text.Utf8
import BundleTrust.Signature.Digest

/-!
# Excludes that are read back

A list of selectors that is written as an excludes annotation is read line by line
(`readExcludes_encodeExcludes`).  No selector contains a line break, so selectors that name places
are read as these places, one for each.
-/

namespace BundleTrust

open Selector (parse?)

variable {manifest : Document} {domain selector : String} {selectors : List String}
  {path : FieldPath}

/-! ## Lines -/

/-- The lines of texts that are not empty, in order. -/
def nonemptyLines (texts : List String) : List String :=
  ((texts.flatMap (·.toList.splitOn '\n')).filter (!·.isEmpty)).map String.ofList

theorem nonemptyLines_cons (text : String) (texts : List String) :
    nonemptyLines (text :: texts) = excludedSelectors text ++ nonemptyLines texts := by
  simp [nonemptyLines, excludedSelectors, Text.pieces_eq_splitOn]

/-- The lines of joined texts are those of the texts in order. -/
theorem excludedSelectors_intercalate (texts : List String) :
    excludedSelectors ("\n".intercalate texts) = nonemptyLines texts := by
  have isBreak : "\n".toList = ['\n'] := rfl
  rw [excludedSelectors, String.toList_intercalate, isBreak]
  induction texts with
  | nil => rfl
  | cons text texts ih =>
      rw [nonemptyLines_cons]
      cases texts with
      | nil => simp [excludedSelectors, nonemptyLines]
      | cons next texts =>
          rw [List.map_cons, List.map_cons, List.intercalate_cons_cons, List.append_assoc,
            List.singleton_append, Text.pieces_append, List.filter_append, List.map_append,
            ← List.map_cons, ih]
          rfl

/-- No selector contains a line break. -/
theorem newline_notMem_of_parse? (parsed : parse? selector = some path) :
    '\n' ∉ selector.toList := by
  have areTails := (Selector.isSelector_iff.1 (Selector.parse?_eq_some_iff_isSelector.1 parsed)).2
  intro isMember
  exact absurd (areTails.le_toNat '\n' isMember) (by decide)

/-- A selector is one line. -/
theorem excludedSelectors_of_parse? (parsed : parse? selector = some path) :
    excludedSelectors selector = [selector] := by
  obtain ⟨⟨rest, isDotted⟩, -⟩ :=
    Selector.isSelector_iff.1 (Selector.parse?_eq_some_iff_isSelector.1 parsed)
  have nonempty : selector.toList.isEmpty = false := by rw [isDotted]; rfl
  rw [excludedSelectors, Text.pieces_eq_singleton (newline_notMem_of_parse? parsed)]
  simp [nonempty]

/-! ## Places -/

/-- Selectors that all name places are read as these, one for each. -/
theorem exists_pathsOfSelectors (named : ∀ selector ∈ selectors, (parse? selector).isSome = true) :
    ∃ paths, selectors.map parse? = paths.map some ∧ pathsOfSelectors selectors = .ok paths := by
  have none : selectors.filter (fun selector => (parse? selector).isNone) = [] := by
    rw [List.filter_eq_nil_iff]
    intro selector isListed
    simpa using Option.isSome_iff_ne_none.1 (named selector isListed)
  refine ⟨selectors.filterMap parse?, ?_, by simp [pathsOfSelectors, none]⟩
  clear none
  induction selectors with
  | nil => rfl
  | cons selector selectors ih =>
      obtain ⟨isNamed, named⟩ := List.forall_mem_cons.1 named
      obtain ⟨path, parsed⟩ := Option.isSome_iff_exists.1 isNamed
      rw [List.map_cons, ih named, List.filterMap_cons_some parsed, parsed, List.map_cons]

/-- Selectors that name no place are reported in order. -/
theorem pathsOfSelectors_of_eq_none
    (isListed : selector ∈ selectors)
    (unnamed : parse? selector = none) :
    pathsOfSelectors selectors =
      .error (.invalidSelectors (selectors.filter fun selector => (parse? selector).isNone)) := by
  have reported : selector ∈ selectors.filter fun selector => (parse? selector).isNone :=
    List.mem_filter.2 ⟨isListed, by rw [unnamed]; rfl⟩
  have nonempty := List.ne_nil_of_mem reported
  rw [pathsOfSelectors, if_neg (by simpa using nonempty)]

/-- Selectors that name places are their own lines. -/
theorem nonemptyLines_of_named
    (named : ∀ selector ∈ selectors, (parse? selector).isSome = true) :
    nonemptyLines selectors = selectors := by
  induction selectors with
  | nil => rfl
  | cons selector selectors ih =>
      obtain ⟨isNamed, named⟩ := List.forall_mem_cons.1 named
      obtain ⟨path, parsed⟩ := Option.isSome_iff_exists.1 isNamed
      rw [nonemptyLines_cons, excludedSelectors_of_parse? parsed, ih named, List.singleton_append]

/-- An annotation that was written for selectors lists the places of their lines. -/
theorem readExcludes_of_declared
    (declared : annotation? manifest (excludesAnnotationKey domain) =
      some (encodeExcludes selectors)) :
    readExcludes manifest domain = pathsOfSelectors (nonemptyLines selectors) := by
  rw [readExcludes, declared]
  simp only [encodeExcludes, Text.decodeBase64_encodeBase64, Text.decodeUtf8_octets,
    excludedSelectors_intercalate]

/-- An annotation that was written for a list of texts is read as the places that their nonempty
lines name, in order, if all of them name one, and otherwise the lines that name none are
reported.  As no selector contains a line break, a list of selectors is read as the places that
they name, one for each. -/
theorem readExcludes_encodeExcludes
    (declared : annotation? manifest (excludesAnnotationKey domain) =
      some (encodeExcludes selectors)) :
    ((∀ line ∈ nonemptyLines selectors, (parse? line).isSome = true) →
        ∃ paths, (nonemptyLines selectors).map parse? = paths.map some ∧
          readExcludes manifest domain = .ok paths) ∧
      ((∃ line ∈ nonemptyLines selectors, parse? line = none) →
        readExcludes manifest domain = .error (.invalidSelectors
          ((nonemptyLines selectors).filter fun line => (parse? line).isNone))) ∧
      (∀ selector path, parse? selector = some path → '\n' ∉ selector.toList) ∧
      ((∀ selector ∈ selectors, (parse? selector).isSome = true) →
        ∃ paths, selectors.map parse? = paths.map some ∧
          readExcludes manifest domain = .ok paths) := by
  rw [readExcludes_of_declared declared]
  refine ⟨exists_pathsOfSelectors, ?_, fun _ _ => newline_notMem_of_parse?, fun named => ?_⟩
  · rintro ⟨line, isListed, unnamed⟩
    exact pathsOfSelectors_of_eq_none isListed unnamed
  · rw [nonemptyLines_of_named named]
    exact exists_pathsOfSelectors named

/-- A manifest that declares a position and a key with an escaped line break lists both. -/
theorem escaped_newline_read_back :
    ∃ paths, [".spec.packages[0]", ".metadata[\"a\\nb\"]"].map parse? = paths.map some ∧
      readExcludes (.mapping [("metadata", .mapping [("annotations", .mapping
        [("eksa.aws.com/excludes",
          .text (encodeExcludes [".spec.packages[0]", ".metadata[\"a\\nb\"]"]))])])])
        "eksa.aws.com" = .ok paths :=
  (readExcludes_encodeExcludes rfl).2.2.2 (by decide +kernel)

end BundleTrust
