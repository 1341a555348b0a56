import BundleTrust.Proofs.Document.PrefixCode
import BundleTrust.Proofs.Signature.CoveredView

/-!
# Tamper evidence

Where different documents are written as different texts, two manifests have one canonical
text exactly when their covered views are the same.  A change that shows in the view never
goes unnoticed, and one that does not show never changes the digest.
-/

namespace BundleTrust

open PrefixCode

/-- Two digests are of one text exactly when they are of one view. -/
theorem digests_agree_iff_views_agree
    {write : Document → String}
    (rendersApart : Function.Injective write)
    {manifest manifest' : Document}
    (sorted : manifest.Sorted)
    (sorted' : manifest'.Sorted)
    {domain : String}
    {digest digest' : ManifestDigest}
    (digested : digestManifestWith write manifest domain = .ok digest)
    (digested' : digestManifestWith write manifest' domain = .ok digest') :
    digest.yaml = digest'.yaml ↔ coveredView manifest domain = coveredView manifest' domain := by
  obtain ⟨-, view, isView, written⟩ := (digestManifestWith_eq_ok_iff sorted).1 digested
  obtain ⟨-, view', isView', written'⟩ := (digestManifestWith_eq_ok_iff sorted').1 digested'
  rw [isView, isView', ← written, ← written', Except.ok.injEq]
  exact ⟨fun same => rendersApart same, fun same => congrArg write same⟩

/-- A bundle whose excludes annotation lists the registry of its first package. -/
def bundleFrom (registry foreign : String) : Document :=
  .mapping [
    ("kind", .text "PackageBundle"),
    ("metadata", .mapping [
      ("annotations", .mapping [
        ("eksa.aws.com/excludes", .text "LnNwZWMucGFja2FnZXNbMF0ucmVnaXN0cnk="),
        ("team", .text foreign)]),
      ("name", .text "v1-21-1003")]),
    ("spec", .mapping [
      ("packages", .list [.mapping [("name", .text "flux"), ("registry", .text registry)]])])]

/-- What is covered of such a bundle. -/
def bundleView : Document :=
  .mapping [
    ("kind", .text "PackageBundle"),
    ("metadata", .mapping [
      ("annotations", .mapping [
        ("eksa.aws.com/excludes", .text "LnNwZWMucGFja2FnZXNbMF0ucmVnaXN0cnk=")]),
      ("name", .text "v1-21-1003")]),
    ("spec", .mapping [("packages", .list [.mapping [("name", .text "flux")]])])]

/-- Moving a package to another registry and changing an annotation of somebody else leave the
digest of the bundle as it is. -/
theorem moved_package_keeps_digest :
    ∃ digest digest' : ManifestDigest,
      digestManifestWith (writeKnown [bundleView]) (bundleFrom "public.ecr.aws" "blue")
          "eksa.aws.com" = .ok digest ∧
        digestManifestWith (writeKnown [bundleView]) (bundleFrom "localhost" "green")
          "eksa.aws.com" = .ok digest' ∧
        digest.yaml = digest'.yaml := by
  have sorted : (bundleFrom "public.ecr.aws" "blue").Sorted := by decide +kernel
  have sorted' : (bundleFrom "localhost" "green").Sorted := by decide +kernel
  have rendersApart : Function.Injective (writeKnown [bundleView]) :=
    writeKnown_injective (by simp) (by decide +kernel)
  have view : coveredView (bundleFrom "public.ecr.aws" "blue") "eksa.aws.com" =
      .ok bundleView := by decide +kernel
  have view' : coveredView (bundleFrom "localhost" "green") "eksa.aws.com" =
      .ok bundleView := by decide +kernel
  have digested := (@digestManifestWith_eq_ok_iff _ _ (writeKnown [bundleView])
    ⟨writeKnown [bundleView] bundleView⟩ sorted).2 ⟨rfl, bundleView, view, rfl⟩
  have digested' := (@digestManifestWith_eq_ok_iff _ _ (writeKnown [bundleView])
    ⟨writeKnown [bundleView] bundleView⟩ sorted').2 ⟨rfl, bundleView, view', rfl⟩
  exact ⟨_, _, digested, digested', (digests_agree_iff_views_agree rendersApart sorted sorted'
    digested digested').2 (view.trans view'.symm)⟩

end BundleTrust
