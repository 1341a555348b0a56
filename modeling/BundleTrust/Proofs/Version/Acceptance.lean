import BundleTrust.Bundle.Lookup
import BundleTrust.Proofs.Version.Names
import Mathlib.Data.List.Basic

/-!
# What a server accepts

A server is compared with a version by one text for each, in which a dash joins two parts.  The
parts of a server are any texts, also with dashes of their own.  Still the comparison is that of
two numbers: the text of a version has one dash, with a canonical numeral on either side, so a
server with this text has the two numerals as its parts (`ServerVersion.kubeVersion_eq_iff`).
-/

namespace BundleTrust

open Text

namespace ServerVersion

/-- A server reports two numbers: without plus signs its parts are their canonical numerals. -/
structure Reports (server : ServerVersion) (major minor : Nat) : Prop where
  /-- The major version is the numeral of the first number. -/
  major : IsCanonicalNumeralOf (server.major.toList.filter (· ≠ '+')) major
  /-- The minor version is the numeral of the second number. -/
  minor : IsCanonicalNumeralOf (server.minor.toList.filter (· ≠ '+')) minor

variable {server : ServerVersion} {major minor major' minor' : Nat}

/-- A server reports two numbers exactly if without plus signs its parts are what is written for
them. -/
theorem reports_iff :
    server.Reports major minor ↔
      dropPlusSigns server.major = decimal major ∧ dropPlusSigns server.minor = decimal minor := by
  rw [eq_decimal_iff, eq_decimal_iff, toList_dropPlusSigns, toList_dropPlusSigns]
  constructor
  · exact fun reports => ⟨reports.major, reports.minor⟩
  · exact fun ⟨isMajor, isMinor⟩ => ⟨isMajor, isMinor⟩

/-- A server does not report two pairs of numbers. -/
theorem Reports.unique
    (reports : server.Reports major minor)
    (reports' : server.Reports major' minor') :
    major = major' ∧ minor = minor' :=
  ⟨reports.major.numeralValue_eq.symm.trans reports'.major.numeralValue_eq,
    reports.minor.numeralValue_eq.symm.trans reports'.minor.numeralValue_eq⟩

/-- The text of a server is that of two numbers exactly if the server reports them. -/
theorem kubeVersion_eq_iff :
    server.kubeVersion = kubeVersionText major minor ↔ server.Reports major minor := by
  have noDash (value : Nat) : '-' ∉ (decimal value).toList :=
    (isCanonicalNumeralOf_decimal value).notMem (by decide)
  calc
    server.kubeVersion = kubeVersionText major minor ↔
        (decimal major).toList ++ '-' :: (decimal minor).toList =
          (dropPlusSigns server.major).toList ++ '-' :: (dropPlusSigns server.minor).toList := by
      rw [← String.toList_inj, toList_kubeVersion, toList_kubeVersionText, List.cons_inj_right,
        eq_comm]
    -- Numerals have no dash, so the parts of the server have none either.
    _ ↔ decimal major = dropPlusSigns server.major ∧
        decimal minor = dropPlusSigns server.minor := by
      rw [List.append_cons_inj_of_notMem (noDash major) (noDash minor), String.toList_inj,
        String.toList_inj]
      simp only [true_and]
    _ ↔ server.Reports major minor := (and_congr eq_comm eq_comm).trans reports_iff.symm

/-- A server accepts a version exactly if it reports the numbers of the version. -/
theorem accepts_iff_reports {version : BundleVersion} :
    server.accepts version = true ↔ server.Reports version.major version.minor := by
  rw [accepts, beq_iff_eq, BundleVersion.kubeVersion, kubeVersion_eq_iff]

/-- A server, whatever its two parts are, accepts the versions with the numbers that it reports and
no others.  So all versions that it accepts have the same two numbers, and a bundle whose name has
leading zeros is made for it exactly if one with the name that is written for the version is. -/
theorem accepts_exactly_reported (server : ServerVersion) :
    (∀ version : BundleVersion,
        server.accepts version = true ↔ server.Reports version.major version.minor) ∧
      (∀ left right : BundleVersion, server.accepts left = true → server.accepts right = true →
        left.major = right.major ∧ left.minor = right.minor) ∧
      ∀ (padded canonical : Bundle) (runs : NameRuns) (version : BundleVersion),
        runs.Spell version.major version.minor version.sequence →
        padded.name = runs.name → canonical.name = version.name →
          padded.isMadeFor server = .ok (server.accepts version) ∧
            canonical.isMadeFor server = .ok (server.accepts version) := by
  refine ⟨fun version => accepts_iff_reports, ?_, ?_⟩
  · intro left right accepted accepted'
    exact (accepts_iff_reports.1 accepted).unique (accepts_iff_reports.1 accepted')
  · intro padded canonical runs version spell isPadded isCanonical
    constructor
    · refine padded.isMadeFor_of_spelled ?_ server
      rw [isPadded, BundleVersion.parse?_runs_iff.2 spell]
    · refine canonical.isMadeFor_of_spelled ?_ server
      rw [isCanonical, BundleVersion.parse?_name]

/-- A server that is not generally available and two spellings of a version for it; and a server
with a dash of its own, whose text is the name of a bundle and that of no version. -/
theorem padded_bundle_accepted :
    let server : ServerVersion := ⟨"1", "21+"⟩
    let version : BundleVersion := ⟨1, 21, 1003, by decide, by decide, by decide⟩
    let older : BundleVersion := ⟨1, 21, 7, by decide, by decide, by decide⟩
    let runs : NameRuns := ⟨"01".toList, "0021".toList, "0001003".toList⟩
    let padded := Bundle.named "eksa-packages" "v01-0021-0001003"
    let canonical := Bundle.named "eksa-packages" "v1-21-1003"
    let dashed : ServerVersion := ⟨"1-21", "1003"⟩
    server.Reports 1 21 ∧ server.accepts version = true ∧ server.accepts older = true ∧
      (version.major = older.major ∧ version.minor = older.minor) ∧
      runs.Spell version.major version.minor version.sequence ∧
      padded.name = runs.name ∧ canonical.name = version.name ∧
      padded.isMadeFor server = .ok true ∧ canonical.isMadeFor server = .ok true ∧
      dashed.kubeVersion = canonical.name ∧ ∀ other, dashed.accepts other = false := by
  intro server version older runs padded canonical dashed
  have accepted : server.accepts version = true := by decide +kernel
  have accepted' : server.accepts older = true := by decide +kernel
  have spell : runs.Spell version.major version.minor version.sequence :=
    BundleVersion.parse?_runs_iff.1 (by decide +kernel)
  have isPadded : padded.name = runs.name := by decide +kernel
  have isCanonical : canonical.name = version.name := by decide +kernel
  obtain ⟨reported, alike, spellings⟩ := accepts_exactly_reported server
  obtain ⟨ofPadded, ofCanonical⟩ :=
    spellings padded canonical runs version spell isPadded isCanonical
  rw [accepted] at ofPadded ofCanonical
  refine ⟨(reported version).1 accepted, accepted, accepted',
    alike version older accepted accepted', spell, isPadded, isCanonical, ofPadded, ofCanonical,
    by decide +kernel, fun other => Bool.eq_false_iff.2 fun accepted => ?_⟩
  -- The dash is no digit, so the major version is no numeral.
  have reports := ((accepts_exactly_reported dashed).1 other).1 accepted
  exact Bool.false_ne_true (reports.major.isDigit '-' (by decide +kernel))

end ServerVersion

end BundleTrust
