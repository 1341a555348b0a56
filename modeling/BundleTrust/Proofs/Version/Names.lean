import BundleTrust.Proofs.Text.Numeral
import BundleTrust.Version.BundleVersion

/-!
# Names of bundles

The name of a bundle is a `v` with three numerals behind it, with dashes between them, and spells
the version of their values (`BundleVersion.parse?_eq_some_iff`).  One version has many names, which
differ in leading zeros; the one without is that which is written for the version.
-/

namespace BundleTrust

open Text

/-- The three runs of characters that the dashes of a name keep apart. -/
@[ext] structure NameRuns where
  /-- What stands for the major version. -/
  major : List Char
  /-- What stands for the minor version. -/
  minor : List Char
  /-- What stands for the number of the bundle. -/
  sequence : List Char
  deriving DecidableEq, Repr

namespace NameRuns

/-- The name with three runs. -/
def name (runs : NameRuns) : String :=
  String.ofList ('v' :: (runs.major ++ '-' :: (runs.minor ++ '-' :: runs.sequence)))

/-- Three runs are numerals of three numbers. -/
structure Spell (runs : NameRuns) (major minor sequence : Nat) : Prop where
  /-- The first run is one of the major version. -/
  major : IsNumeralOf runs.major major
  /-- The second run is one of the minor version. -/
  minor : IsNumeralOf runs.minor minor
  /-- The third run is one of the number of the bundle. -/
  sequence : IsNumeralOf runs.sequence sequence

/-- Three runs without the zeros that each of them starts with. -/
def dropLeadingZeros (runs : NameRuns) : NameRuns :=
  ⟨Text.dropLeadingZeros runs.major, Text.dropLeadingZeros runs.minor,
    Text.dropLeadingZeros runs.sequence⟩

variable {runs : NameRuns} {major minor sequence : Nat}

/-- A name is cut into its runs if these are numerals. -/
theorem Spell.pieces_eq (spell : runs.Spell major minor sequence) :
    pieces '-' (runs.major ++ '-' :: (runs.minor ++ '-' :: runs.sequence)) =
      [runs.major, runs.minor, runs.sequence] := by
  have noDash : isDigit '-' = false := by decide
  rw [pieces_append, pieces_append, pieces_eq_singleton (spell.major.notMem noDash),
    pieces_eq_singleton (spell.minor.notMem noDash),
    pieces_eq_singleton (spell.sequence.notMem noDash)]
  rfl

/-- A name of three numerals can be cut into three runs in no other way. -/
theorem Spell.eq_of_name_eq
    {other : NameRuns}
    (spell : runs.Spell major minor sequence)
    (same : other.name = runs.name) :
    other = runs := by
  have behind := (List.cons.inj (String.ofList_injective same)).2
  have cut := (congrArg (pieces '-') behind).trans spell.pieces_eq
  rw [pieces_append, pieces_append] at cut
  -- Every run makes at least one piece, and there are three pieces.
  have filled (run : List Char) := List.length_pos_iff.2 (pieces_ne_nil '-' run)
  have count := congrArg List.length cut
  simp only [List.length_append, List.length_cons, List.length_nil] at count
  have uncut (run : List Char) (one : (pieces '-' run).length = 1) : pieces '-' run = [run] := by
    obtain ⟨piece, isPiece⟩ := List.length_eq_one_iff.1 one
    rw [isPiece, eq_of_pieces_eq_singleton isPiece]
  have ofMajor := filled other.major
  have ofMinor := filled other.minor
  have ofSequence := filled other.sequence
  rw [uncut other.major (by omega), uncut other.minor (by omega),
    uncut other.sequence (by omega)] at cut
  obtain ⟨majors, minors, sequences⟩ := by simpa using cut
  exact NameRuns.ext majors minors sequences

end NameRuns

namespace BundleVersion

/-- A name is read as the version of the values of its three numerals, and a name of another form
is not read. -/
theorem parse?_eq_some_iff {name : String} {version : BundleVersion} :
    parse? name = some version ↔
      ∃ runs : NameRuns, name = runs.name ∧
        runs.Spell version.major version.minor version.sequence := by
  constructor
  · intro accepted
    unfold parse? at accepted
    split at accepted
    · next rest isName =>
        split at accepted
        · next major minor sequence cut =>
            split at accepted
            · next isMajor isMinor isSequence =>
                split at accepted
                · cases accepted
                  have joined := joinPieces_pieces '-' rest
                  rw [cut] at joined
                  refine ⟨⟨major, minor, sequence⟩, ?_, isNumeralOf_iff.1 isMajor,
                    isNumeralOf_iff.1 isMinor, isNumeralOf_iff.1 isSequence⟩
                  rw [NameRuns.name, ← String.toList_inj, isName, String.toList_ofList, ← joined]
                  rfl
                · cases accepted
            · cases accepted
        · cases accepted
    · cases accepted
  · rintro ⟨runs, rfl, spell⟩
    have bounds := And.intro version.major_lt (And.intro version.minor_lt version.sequence_lt)
    simp only [parse?, NameRuns.name, String.toList_ofList, spell.pieces_eq,
      isNumeralOf_iff.2 spell.major, isNumeralOf_iff.2 spell.minor,
      isNumeralOf_iff.2 spell.sequence, dif_pos bounds]

/-- A name with three runs is read as a version exactly if these are numerals of its numbers. -/
theorem parse?_runs_iff {runs : NameRuns} {version : BundleVersion} :
    parse? runs.name = some version ↔
      runs.Spell version.major version.minor version.sequence := by
  constructor
  · intro accepted
    obtain ⟨others, same, spell⟩ := parse?_eq_some_iff.1 accepted
    exact spell.eq_of_name_eq same ▸ spell
  · exact fun spell => parse?_eq_some_iff.2 ⟨runs, rfl, spell⟩

/-- The name that is written for a version is read as the version. -/
theorem parse?_name (version : BundleVersion) : parse? version.name = some version := by
  refine parse?_eq_some_iff.2 ⟨⟨Nat.toDigits 10 version.major, Nat.toDigits 10 version.minor,
    Nat.toDigits 10 version.sequence⟩, ?_, isNumeralOf_toDigits _, isNumeralOf_toDigits _,
    isNumeralOf_toDigits _⟩
  rw [name, kubeVersionText, decimal, decimal, decimal, NameRuns.name, ← String.toList_inj]
  simp

/-- Names spell one version if they agree without leading zeros, and only then. -/
theorem eq_iff_dropLeadingZeros_eq
    {left right : NameRuns}
    {version version' : BundleVersion}
    (spell : left.Spell version.major version.minor version.sequence)
    (spell' : right.Spell version'.major version'.minor version'.sequence) :
    version = version' ↔ left.dropLeadingZeros = right.dropLeadingZeros := by
  have agree {run run' : List Char} {value value' : Nat} (isNumeral : IsNumeralOf run value)
      (isNumeral' : IsNumeralOf run' value') :
      value = value' ↔ Text.dropLeadingZeros run = Text.dropLeadingZeros run' := by
    rw [← isNumeral.numeralValue_eq, ← isNumeral'.numeralValue_eq]
    exact numeralValue_eq_iff isNumeral.isDigit isNumeral'.isDigit
  rw [NameRuns.dropLeadingZeros, NameRuns.dropLeadingZeros, NameRuns.mk.injEq,
    ← agree spell.major spell'.major, ← agree spell.minor spell'.minor,
    ← agree spell.sequence spell'.sequence]
  constructor
  · rintro rfl
    exact ⟨rfl, rfl, rfl⟩
  · rintro ⟨major, minor, sequence⟩
    exact BundleVersion.ext major minor sequence

/-- The names of bundles are the texts of a `v` and three numerals of numbers in range, with dashes
between them, and spell the version with these numbers.  The name that is written for a version
spells it, and two names spell one version exactly if they agree without the leading zeros of their
numerals. -/
theorem names_spell_versions :
    (∀ name, (∃ version, parse? name = some version) ↔
        ∃ (runs : NameRuns) (major minor sequence : Nat), name = runs.name ∧
          runs.Spell major minor sequence ∧
            major < UInt32.size ∧ minor < UInt32.size ∧ sequence < UInt64.size) ∧
      (∀ (runs : NameRuns) (version : BundleVersion), parse? runs.name = some version ↔
        runs.Spell version.major version.minor version.sequence) ∧
      (∀ version : BundleVersion, parse? version.name = some version) ∧
      ∀ left right : NameRuns, (parse? left.name).isSome → (parse? right.name).isSome →
        (parse? left.name = parse? right.name ↔
          left.dropLeadingZeros = right.dropLeadingZeros) := by
  refine ⟨fun name => ⟨?_, ?_⟩, fun runs version => parse?_runs_iff, parse?_name, ?_⟩
  · rintro ⟨version, accepted⟩
    obtain ⟨runs, same, spell⟩ := parse?_eq_some_iff.1 accepted
    exact ⟨runs, _, _, _, same, spell, version.major_lt, version.minor_lt, version.sequence_lt⟩
  · rintro ⟨runs, major, minor, sequence, rfl, spell, ofMajor, ofMinor, ofSequence⟩
    exact ⟨⟨major, minor, sequence, ofMajor, ofMinor, ofSequence⟩, parse?_runs_iff.2 spell⟩
  · intro left right accepted accepted'
    obtain ⟨version, spelled⟩ := Option.isSome_iff_exists.1 accepted
    obtain ⟨version', spelled'⟩ := Option.isSome_iff_exists.1 accepted'
    rw [spelled, spelled', Option.some.injEq]
    exact eq_iff_dropLeadingZeros_eq (parse?_runs_iff.1 spelled) (parse?_runs_iff.1 spelled')

/-- A name with leading zeros, also in front of a zero, and the name without them. -/
theorem padded_name_spells_same :
    let padded : NameRuns := ⟨"01".toList, "00".toList, "0001003".toList⟩
    let plain : NameRuns := ⟨"1".toList, "0".toList, "1003".toList⟩
    padded.name = "v01-00-0001003" ∧ plain.name = "v1-0-1003" ∧
      parse? padded.name = parse? plain.name := by
  intro padded plain
  exact ⟨by decide, by decide,
    (names_spell_versions.2.2.2 padded plain (by decide +kernel) (by decide +kernel)).2 rfl⟩

end BundleVersion

end BundleTrust
