import BundleTrust.Registry.Reference
import BundleTrust.Text.Numeral
import BundleTrust.Text.Pieces

/-!
# Which references are read

A reference is cut at the first slash, then at the first at sign or else at the last colon.  The
parts that come out may hold further separators, but none at which the text would be cut
elsewhere (`ArtifactReference.IsProper`).  So a text is read as a reference exactly if the
reference is proper and the text is a written form of it
(`ArtifactReference.readWith_eq_ok_iff`), and the rendered reference is read back.  That holds
whatever texts name a registry.
-/

namespace BundleTrust

/-- What is written for a selector behind a repository. -/
def ArtifactSelector.suffix : ArtifactSelector → List Char
  | .tag name => ':' :: name.toList
  | .digest value => '@' :: value.toList

/-- A tag is not empty and cannot be cut; a digest names its hash, and as many octets follow as
it takes to write it. -/
def ArtifactSelector.IsProper : ArtifactSelector → Prop
  | .tag name => name ≠ "" ∧ '/' ∉ name.toList ∧ '@' ∉ name.toList ∧ ':' ∉ name.toList
  | .digest value => ∃ rest, value = "sha256:" ++ rest ∧ rest.utf8ByteSize = 64

namespace ArtifactReference

/-- A reference whose parts are those that its text is cut into. -/
structure IsProper (isRegistry : String → Bool) (reference : ArtifactReference) : Prop where
  /-- The registry is named. -/
  registry_ne_empty : reference.registry ≠ ""
  /-- The registry ends at the first slash. -/
  slash_notMem_registry : '/' ∉ reference.registry.toList
  /-- The registry is accepted as one. -/
  isRegistry_registry : isRegistry reference.registry = true
  /-- The repository is a path of segments none of which is empty. -/
  nil_notMem_segments : [] ∉ Text.pieces '/' reference.repository.toList
  /-- The repository ends at the first at sign. -/
  at_notMem_repository : '@' ∉ reference.repository.toList
  /-- The selector is a tag, or has the form of a digest. -/
  selector : reference.selector.IsProper

/-- The texts of a reference: as it is rendered, and without the standard tag if there is no colon
that would be taken for the start of a tag. -/
def IsWritten (reference : ArtifactReference) (text : List Char) : Prop :=
  text = reference.render.toList ∨
    reference.selector = .tag standardTag ∧ ':' ∉ reference.repository.toList ∧
      text = reference.registry.toList ++ '/' :: reference.repository.toList

theorem toList_render (reference : ArtifactReference) :
    reference.render.toList =
      reference.registry.toList ++
        '/' :: (reference.repository.toList ++ reference.selector.suffix) := by
  rw [render]
  cases reference.selector <;> simp [ArtifactSelector.suffix]

/-! ## The parts of a text -/

theorem isDigest_iff {text : String} :
    isDigest text = true ↔ ∃ rest, text = "sha256:" ++ rest ∧ rest.utf8ByteSize = 64 := by
  rw [isDigest, Bool.and_eq_true, decide_eq_true_eq, String.startsWith_string_iff]
  constructor
  · rintro ⟨⟨rest, isWhole⟩, size⟩
    obtain rfl : text = "sha256:" ++ String.ofList rest := by
      apply String.toList_injective
      rw [← isWhole]
      simp
    refine ⟨String.ofList rest, rfl, ?_⟩
    rw [String.utf8ByteSize_append] at size
    exact Nat.add_left_cancel size
  · rintro ⟨rest, rfl, size⟩
    rw [String.utf8ByteSize_append, size, String.toList_append]
    exact ⟨List.prefix_append _ _, rfl⟩

theorem isProper_standardTag : (ArtifactSelector.tag standardTag).IsProper := by
  simp only [ArtifactSelector.IsProper, standardTag]
  decide

/-- What follows the registry is a repository without at sign, and a selector that is written
behind it, or the standard tag if there is no colon. -/
theorem readSelector_eq_ok_iff
    {text repository : List Char}
    {selector : ArtifactSelector} :
    readSelector text = .ok (repository, selector) ↔
      '@' ∉ repository ∧ selector.IsProper ∧
        (text = repository ++ selector.suffix ∨
          selector = .tag standardTag ∧ ':' ∉ repository ∧ text = repository) := by
  constructor
  · intro accepted
    rw [readSelector] at accepted
    -- Where there is an at sign, colons are not looked at: the repository may hold some.
    split at accepted
    · next before after cut =>
        obtain ⟨rfl, absent⟩ := splitFirst?_eq_some_iff.1 cut
        split at accepted
        · next hasForm =>
            cases accepted
            exact ⟨absent, isDigest_iff.1 hasForm, .inl (by simp [ArtifactSelector.suffix])⟩
        · cases accepted
    · next uncut =>
        have noAt := splitFirst?_eq_none_iff.1 uncut
        split at accepted
        · next before name cut =>
            obtain ⟨rfl, absent⟩ := splitLast?_eq_some_iff.1 cut
            simp only [List.mem_append, List.mem_cons, not_or] at noAt
            split at accepted
            · cases accepted
            · next isFilled =>
                cases accepted
                simp only [Bool.or_eq_true, List.isEmpty_iff, List.contains_iff_mem, not_or]
                  at isFilled
                refine ⟨noAt.1, ⟨?_, ?_⟩, .inl ?_⟩
                · simpa using isFilled.1
                · simpa using ⟨isFilled.2, noAt.2.2, absent⟩
                · simp [ArtifactSelector.suffix]
        · next noColon =>
            cases accepted
            exact ⟨noAt, isProper_standardTag, .inr ⟨rfl, splitLast?_eq_none_iff.1 noColon, rfl⟩⟩
  · rintro ⟨noAt, proper, rfl | ⟨rfl, noColon, rfl⟩⟩
    · cases selector with
      | tag name =>
          obtain ⟨isFilled, noSlash, noAtInName, noColonInName⟩ := proper
          have uncut : splitFirst? '@' (repository ++ ':' :: name.toList) = none := by
            rw [splitFirst?_eq_none_iff]
            simpa using ⟨noAt, noAtInName⟩
          have cut : splitLast? ':' (repository ++ ':' :: name.toList) =
              some (repository, name.toList) :=
            splitLast?_eq_some_iff.2 ⟨rfl, noColonInName⟩
          simp [readSelector, ArtifactSelector.suffix, uncut, cut, isFilled, noSlash]
      | digest value =>
          have cut : splitFirst? '@' (repository ++ '@' :: value.toList) =
              some (repository, value.toList) :=
            splitFirst?_eq_some_iff.2 ⟨rfl, noAt⟩
          simp [readSelector, ArtifactSelector.suffix, cut, isDigest_iff.2 proper]
    · rw [readSelector, splitFirst?_eq_none_iff.2 noAt, splitLast?_eq_none_iff.2 noColon]

variable {isRegistry : String → Bool}

/-- What a text with a slash is read as: the registry before it has to be one, and what
follows it a repository of filled segments with a selector. -/
theorem readParts_append
    {registry rest : List Char}
    {reference : ArtifactReference}
    (noSlash : '/' ∉ registry) :
    readParts isRegistry (registry ++ '/' :: rest) = .ok reference ↔
      registry ≠ [] ∧ isRegistry (String.ofList registry) = true ∧
        ∃ repository selector,
          readSelector rest = .ok (repository, selector) ∧
            [] ∉ Text.pieces '/' repository ∧
              reference = ⟨String.ofList registry, String.ofList repository, selector⟩ := by
  rw [readParts, splitFirst?_eq_some_iff.2 ⟨rfl, noSlash⟩]
  dsimp only
  constructor
  · intro accepted
    split at accepted
    · cases accepted
    · next isNamed =>
        split at accepted
        · cases accepted
        · next isHost =>
            split at accepted
            · cases accepted
            · next repository selector isRest =>
                split at accepted
                · cases accepted
                · next areFilled =>
                    cases accepted
                    refine ⟨?_, ?_, repository, selector, isRest, ?_, rfl⟩
                    · simpa using isNamed
                    · simpa using isHost
                    · simpa using areFilled
  · rintro ⟨isNamed, isHost, repository, selector, isRest, areFilled, rfl⟩
    have noneEmpty : (Text.pieces '/' repository).any List.isEmpty = false :=
      List.any_eq_false.2 fun segment isSegment isEmpty =>
        areFilled (List.isEmpty_iff.1 isEmpty ▸ isSegment)
    simp [isNamed, isHost, isRest, noneEmpty]

/-- The parts of a proper reference are read from its written forms, and from no other text. -/
theorem readParts_eq_ok_iff {text : List Char} {reference : ArtifactReference} :
    readParts isRegistry text = .ok reference ↔
      reference.IsProper isRegistry ∧ reference.IsWritten text := by
  constructor
  · intro accepted
    cases cut : splitFirst? '/' text with
    | none => simp [readParts, cut] at accepted
    | some parts =>
        obtain ⟨registry, rest⟩ := parts
        obtain ⟨rfl, noSlash⟩ := splitFirst?_eq_some_iff.1 cut
        obtain ⟨isNamed, isHost, repository, selector, isRest, areFilled, rfl⟩ :=
          (readParts_append noSlash).1 accepted
        obtain ⟨noAt, proper, written⟩ := readSelector_eq_ok_iff.1 isRest
        refine ⟨⟨?_, ?_, isHost, ?_, ?_, proper⟩, ?_⟩
        · simpa using isNamed
        · simpa using noSlash
        · simpa using areFilled
        · simpa using noAt
        · rw [IsWritten, toList_render]
          simpa using written
  · rintro ⟨proper, written⟩
    obtain ⟨rest, rfl, isRest⟩ : ∃ rest, text = reference.registry.toList ++ '/' :: rest ∧
        readSelector rest = .ok (reference.repository.toList, reference.selector) := by
      rw [IsWritten, toList_render] at written
      rcases written with rfl | ⟨isStandard, noColon, rfl⟩
      · exact ⟨_, rfl, readSelector_eq_ok_iff.2
          ⟨proper.at_notMem_repository, proper.selector, .inl rfl⟩⟩
      · exact ⟨_, rfl, readSelector_eq_ok_iff.2
          ⟨proper.at_notMem_repository, proper.selector, .inr ⟨isStandard, noColon, rfl⟩⟩⟩
    refine (readParts_append proper.slash_notMem_registry).2
      ⟨?_, ?_, _, _, isRest, proper.nil_notMem_segments, ?_⟩
    · simpa using proper.registry_ne_empty
    · simpa using proper.isRegistry_registry
    · simp

/-- A proper reference is read from its written forms with blanks around them, and from no other
text. -/
theorem readWith_eq_ok_iff {text : String} {reference : ArtifactReference} :
    readWith isRegistry text = .ok reference ↔
      reference.IsProper isRegistry ∧ reference.IsWritten (Text.trimBlanks text.toList) := by
  rw [← readParts_eq_ok_iff, readWith]
  cases readParts isRegistry (Text.trimBlanks text.toList) with
  | error reason =>
      constructor
      · rintro ⟨⟩
      · rintro ⟨⟩
  | ok found =>
      constructor
      · rintro ⟨⟩
        rfl
      · rintro ⟨⟩
        rfl

/-! ## Reading back -/

/-- Whether a text carries a tag or a digest: behind its first slash there is the mark of one. -/
def carriesSelector (text : List Char) : Bool :=
  (text.dropWhile (· ≠ '/')).any fun character => character == '@' || character == ':'

theorem carriesSelector_append {registry rest : List Char} (noSlash : '/' ∉ registry) :
    carriesSelector (registry ++ '/' :: rest) = true ↔ '@' ∈ rest ∨ ':' ∈ rest := by
  have passes : ∀ character ∈ registry, decide (character ≠ '/') = true :=
    fun character isMember => decide_eq_true fun same => noSlash (same ▸ isMember)
  rw [carriesSelector, List.dropWhile_append_of_pos passes]
  simp [and_or_left, exists_or]

/-- The rendering of what is read is what was read without the blanks around it, and the standard
tag is added where no selector was carried. -/
theorem toList_render_of_written
    {reference : ArtifactReference}
    {text : List Char}
    (proper : reference.IsProper isRegistry)
    (written : reference.IsWritten text) :
    reference.render.toList =
      if carriesSelector text then text else text ++ ":latest".toList := by
  rcases written with rfl | ⟨isStandard, noColon, rfl⟩
  · have carries : carriesSelector reference.render.toList = true := by
      rw [toList_render, carriesSelector_append proper.slash_notMem_registry]
      cases reference.selector <;> simp [ArtifactSelector.suffix]
    rw [if_pos carries]
  · have bare : ¬ carriesSelector
        (reference.registry.toList ++ '/' :: reference.repository.toList) = true := by
      rw [carriesSelector_append proper.slash_notMem_registry]
      exact not_or.2 ⟨proper.at_notMem_repository, noColon⟩
    rw [if_neg bare, toList_render, isStandard]
    simp [ArtifactSelector.suffix, standardTag]

/-- A tag added to a text without blanks around it leaves it without blanks. -/
theorem trimBlanks_append_latest {text : List Char} (isFilled : text ≠ [])
    (trimmed : Text.trimBlanks text = text) :
    Text.trimBlanks (text ++ ":latest".toList) = text ++ ":latest".toList := by
  obtain ⟨visibleFirst, -⟩ := Text.trimBlanks_eq_self_iff.1 trimmed
  obtain ⟨character, rest, rfl⟩ := List.exists_cons_of_ne_nil isFilled
  refine Text.trimBlanks_eq_self_iff.2 ⟨visibleFirst, fun last isLast => ?_⟩
  rw [List.getLast?_append] at isLast
  obtain rfl : 't' = last := Option.some.inj isLast
  rfl

/-- The rendering of a reference that was read has no blanks around it. -/
theorem trimBlanks_render
    {text : String}
    {reference : ArtifactReference}
    (accepted : readWith isRegistry text = .ok reference) :
    Text.trimBlanks reference.render.toList = reference.render.toList := by
  obtain ⟨proper, written⟩ := readWith_eq_ok_iff.1 accepted
  have isFilled : Text.trimBlanks text.toList ≠ [] := by
    rintro isEmpty
    rw [isEmpty] at written
    rcases written with same | ⟨-, -, same⟩
    · simp [toList_render] at same
    · simp at same
  rw [toList_render_of_written proper written]
  split
  · exact Text.trimBlanks_trimBlanks _
  · exact trimBlanks_append_latest isFilled (Text.trimBlanks_trimBlanks _)

/-- The rendering of a reference that was read is read as the same reference.  It is the text
without the blanks around it; if the text carried neither a tag nor a digest, the tag `latest` is
added. -/
theorem rendered_reference_read_back
    {text : String}
    {reference : ArtifactReference}
    (accepted : readWith isRegistry text = .ok reference) :
    readWith isRegistry reference.render = .ok reference ∧
      reference.render =
        if carriesSelector (Text.trim text).toList then Text.trim text
        else Text.trim text ++ ":latest" := by
  obtain ⟨proper, written⟩ := readWith_eq_ok_iff.1 accepted
  constructor
  · exact readWith_eq_ok_iff.2 ⟨proper, .inl (trimBlanks_render accepted)⟩
  · apply String.toList_injective
    rw [toList_render_of_written proper written, Text.trim, String.toList_ofList,
      apply_ite String.toList, String.toList_append, String.toList_ofList]
    rfl

/-- A reference with a port, and with a colon in its repository. -/
def portReference : ArtifactReference := ⟨"localhost:5000", "eks:v1/bundles", .tag "v2"⟩

/-- The reference is read from a text with three colons and blanks around it, and read back. -/
theorem port_and_colons_read_back :
    read "\tlocalhost:5000/eks:v1/bundles:v2 \n" = .ok portReference ∧
      read portReference.render = .ok portReference ∧
      portReference.render = Text.trim "\tlocalhost:5000/eks:v1/bundles:v2 \n" := by
  have accepted : read "\tlocalhost:5000/eks:v1/bundles:v2 \n" =
      .ok portReference := by decide +kernel
  obtain ⟨readBack, rendered⟩ := rendered_reference_read_back accepted
  exact ⟨accepted, readBack, rendered.trans (if_pos (by decide +kernel))⟩

/-- The references that are read from some text are the proper ones without blanks around them:
their registry is accepted as one and has no slash, their repository is a path of filled segments
without at sign, and their selector is a tag without separators, or the mark of a hash with 64
octets behind it. -/
theorem exists_readWith_eq_ok_iff (reference : ArtifactReference) :
    (∃ text, readWith isRegistry text = .ok reference) ↔
      reference.IsProper isRegistry ∧ Text.trim reference.render = reference.render := by
  rw [← String.toList_inj, Text.trim, String.toList_ofList]
  constructor
  · rintro ⟨text, accepted⟩
    exact ⟨(readWith_eq_ok_iff.1 accepted).1, trimBlanks_render accepted⟩
  · rintro ⟨proper, trimmed⟩
    exact ⟨reference.render, readWith_eq_ok_iff.2 ⟨proper, .inl trimmed⟩⟩

end ArtifactReference

namespace ReferenceExample

/-- The mark of a hash with one digit 64 times. -/
def digest (digit : Char) : String :=
  "sha256:" ++ String.ofList (List.replicate 64 digit)

/-- A reference by such a digest. -/
def byDigest (repository : String) (digit : Char) : ArtifactReference :=
  ⟨"reg.example.com", repository, .digest (digest digit)⟩

theorem read_byDigest
    {repository : String}
    {digit : Char}
    (areFilled : [] ∉ Text.pieces '/' repository.toList)
    (noAt : '@' ∉ repository.toList)
    (hasForm : ArtifactReference.isDigest (digest digit) = true)
    (trimmed : Text.trimBlanks (byDigest repository digit).render.toList =
      (byDigest repository digit).render.toList) :
    ArtifactReference.read (byDigest repository digit).render =
      .ok (byDigest repository digit) := by
  have isRegistry : Registry.isRegistry "reg.example.com" = true := by decide +kernel
  have proper : (byDigest repository digit).IsProper Registry.isRegistry :=
    ⟨by simp [byDigest], by simp [byDigest], isRegistry, areFilled, noAt,
      ArtifactReference.isDigest_iff.1 hasForm⟩
  exact ArtifactReference.readWith_eq_ok_iff.2 ⟨proper, .inl trimmed⟩

/-- A digest whose digits are none is accepted, and so is a repository with a colon in front of a
digest. -/
theorem digest_without_digits_accepted :
    (∃ reference value,
      ArtifactReference.read ("reg.example.com/bundles@" ++ digest 'z') = .ok reference ∧
        reference.selector = .digest value ∧
        ¬ ∀ digit ∈ value.toList.drop 7, Text.digitValue digit < 16) ∧
      ∃ reference,
        ArtifactReference.read ("reg.example.com/bundles:v1@" ++ digest 'a') = .ok reference ∧
          ':' ∈ reference.repository.toList := by
  have withoutDigits := @read_byDigest "bundles" 'z' (by decide +kernel) (by decide)
    (by decide +kernel) (by decide +kernel)
  have withColon := @read_byDigest "bundles:v1" 'a' (by decide +kernel) (by decide)
    (by decide +kernel) (by decide +kernel)
  have noDigits : ¬ ∀ digit ∈ (digest 'z').toList.drop 7, Text.digitValue digit < 16 := by
    intro areDigits
    have isListed : 'z' ∈ (digest 'z').toList.drop 7 := by simp [digest]
    exact absurd (areDigits 'z' isListed) (by decide)
  exact ⟨⟨_, digest 'z', withoutDigits, rfl, noDigits⟩, _, withColon, by decide⟩

end ReferenceExample

end BundleTrust
