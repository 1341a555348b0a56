import BundleTrust.Proofs.Document.PrefixCode
import BundleTrust.Proofs.Signature.CoveredView

/-!
# Protection of the excludes declaration

A digest pins down how the excludes annotation reads as long as no list of excluded places
contains the annotation itself.  A list that does takes its own declaration out of what is
signed: the manifest then shares its digest with one that declares nothing.
-/

namespace BundleTrust

open FieldPath PrefixCode

variable {manifest manifest' : Document} {domain : String} {write : Document → String}
  {digest digest' : ManifestDigest}

/-- No place on the excludes list of a manifest contains the excludes annotation. -/
def SparesDeclaration (manifest : Document) (domain : String) : Prop :=
  ∀ listed, readExcludes manifest domain = .ok listed →
    extendsAny listed (excludesPath domain) = false

/-- What the view under a domain says about its excludes. -/
theorem annotation?_coveredWith_excludes (listed : List FieldPath) :
    annotation? (coveredWith listed (declarationKeys domain) manifest)
        (excludesAnnotationKey domain) =
      if extendsAny listed (excludesPath domain) then none
      else annotation? manifest (excludesAnnotationKey domain) :=
  annotation?_coveredWith (by simp [declarationKeys])

/-- Where no annotation declares excludes, none is taken out. -/
theorem spares_of_undeclared
    (undeclared : annotation? manifest (excludesAnnotationKey domain) = none) :
    SparesDeclaration manifest domain := by
  intro listed isListed
  simp only [readExcludes, undeclared, Except.ok.injEq] at isListed
  subst isListed
  rfl

/-- A manifest whose list names a place that contains the annotation has the annotation. -/
theorem exists_declaration_of_not_spares
    (removes : ¬ SparesDeclaration manifest domain) :
    ∃ listed text, readExcludes manifest domain = .ok listed ∧
      extendsAny listed (excludesPath domain) = true ∧
      annotation? manifest (excludesAnnotationKey domain) = some text := by
  simp only [SparesDeclaration, Classical.not_forall, Bool.not_eq_false] at removes
  obtain ⟨listed, isListed, reached⟩ := removes
  cases declared : annotation? manifest (excludesAnnotationKey domain) with
  | some text => exact ⟨listed, text, isListed, reached, rfl⟩
  | none => simp [spares_of_undeclared declared listed isListed] at reached

/-- Manifests with one digest have views that read alike. -/
theorem views_read_alike
    (rendersApart : Function.Injective write)
    (sorted : manifest.Sorted)
    (sorted' : manifest'.Sorted)
    (digested : digestManifestWith write manifest domain = .ok digest)
    (digested' : digestManifestWith write manifest' domain = .ok digest')
    (same : digest.yaml = digest'.yaml) :
    ∃ listed listed', readExcludes manifest domain = .ok listed ∧
      readExcludes manifest' domain = .ok listed' ∧
      (if extendsAny listed (excludesPath domain) then none
        else annotation? manifest (excludesAnnotationKey domain)) =
      if extendsAny listed' (excludesPath domain) then none
        else annotation? manifest' (excludesAnnotationKey domain) := by
  obtain ⟨-, view, isView, written⟩ := (digestManifestWith_eq_ok_iff sorted).1 digested
  obtain ⟨-, view', isView', written'⟩ := (digestManifestWith_eq_ok_iff sorted').1 digested'
  have sameView : view = view' := rendersApart (by rw [written, written', same])
  rw [coveredView] at isView isView'
  cases isListed : readExcludes manifest domain with
  | error failure => simp [isListed, Except.map] at isView
  | ok listed =>
      cases isListed' : readExcludes manifest' domain with
      | error failure => simp [isListed', Except.map] at isView'
      | ok listed' =>
          simp only [isListed, Except.map, Except.ok.injEq] at isView
          simp only [isListed', Except.map, Except.ok.injEq] at isView'
          refine ⟨listed, listed', rfl, rfl, ?_⟩
          rw [← annotation?_coveredWith_excludes listed, isView, sameView, ← isView',
            annotation?_coveredWith_excludes listed']

/-- Next to a manifest that spares its declaration, the manifests with its digest that read
alike are those that spare theirs. -/
theorem reads_alike_iff_spares
    (rendersApart : Function.Injective write)
    (sorted : manifest.Sorted)
    (sorted' : manifest'.Sorted)
    (digested : digestManifestWith write manifest domain = .ok digest)
    (digested' : digestManifestWith write manifest' domain = .ok digest')
    (same : digest.yaml = digest'.yaml)
    (spares : SparesDeclaration manifest domain) :
    annotation? manifest (excludesAnnotationKey domain) =
        annotation? manifest' (excludesAnnotationKey domain) ↔
      SparesDeclaration manifest' domain := by
  obtain ⟨listed, listed', isListed, isListed', alike⟩ :=
    views_read_alike rendersApart sorted sorted' digested digested' same
  rw [if_neg (by simp [spares listed isListed])] at alike
  constructor
  · intro readsAlike
    rw [SparesDeclaration, ← readExcludes_congr readsAlike]
    exact spares
  · intro spares'
    rw [if_neg (by simp [spares' listed' isListed'])] at alike
    exact alike

/-- A manifest whose list takes out its own declaration shares its digest with its covered
view, which declares nothing. -/
theorem exists_undeclared_twin
    (sorted : manifest.Sorted)
    (digested : digestManifestWith write manifest domain = .ok digest)
    (removes : ¬ SparesDeclaration manifest domain) :
    ∃ twin, twin.Sorted ∧ digestManifestWith write twin domain = .ok digest ∧
      annotation? twin (excludesAnnotationKey domain) = none ∧
      annotation? manifest (excludesAnnotationKey domain) ≠ none := by
  obtain ⟨listed, text, isListed, reached, declared⟩ := exists_declaration_of_not_spares removes
  obtain ⟨isMapping, view, isView, written⟩ := (digestManifestWith_eq_ok_iff sorted).1 digested
  simp only [coveredView, isListed, Except.map, Except.ok.injEq] at isView
  subst isView
  have undeclared : annotation? (coveredWith listed (declarationKeys domain) manifest)
      (excludesAnnotationKey domain) = none := by
    rw [annotation?_coveredWith_excludes, if_pos reached]
  have nothingListed :
      readExcludes (coveredWith listed (declarationKeys domain) manifest) domain = .ok [] := by
    rw [readExcludes, undeclared]
  refine ⟨_, sorted_coveredWith sorted, ?_, undeclared, by simp [declared]⟩
  refine (digestManifestWith_eq_ok_iff (sorted_coveredWith sorted)).2
    ⟨by simpa using isMapping, _, ?_, written⟩
  rw [coveredView, nothingListed]
  exact congrArg Except.ok (coveredWith_coveredWith sorted)

/-- Next to a manifest that spares its declaration, the manifests with its digest that read
like it are those that spare theirs.  Next to one that takes its declaration out, a manifest
that spares its own has the same digest and reads differently. -/
theorem spared_declaration_pinned
    (rendersApart : Function.Injective write)
    (sorted : manifest.Sorted)
    (digested : digestManifestWith write manifest domain = .ok digest) :
    (SparesDeclaration manifest domain →
      ∀ manifest' digest', manifest'.Sorted →
        digestManifestWith write manifest' domain = .ok digest' → digest.yaml = digest'.yaml →
          (annotation? manifest (excludesAnnotationKey domain) =
              annotation? manifest' (excludesAnnotationKey domain) ↔
            SparesDeclaration manifest' domain)) ∧
    (¬ SparesDeclaration manifest domain →
      ∃ manifest' digest', manifest'.Sorted ∧
        digestManifestWith write manifest' domain = .ok digest' ∧ digest.yaml = digest'.yaml ∧
          SparesDeclaration manifest' domain ∧
          annotation? manifest (excludesAnnotationKey domain) ≠
            annotation? manifest' (excludesAnnotationKey domain)) := by
  constructor
  · intro spares manifest' digest' sorted' digested' same
    exact reads_alike_iff_spares rendersApart sorted sorted' digested digested' same spares
  · intro removes
    obtain ⟨twin, twinSorted, twinDigested, undeclared, declared⟩ :=
      exists_undeclared_twin sorted digested removes
    refine ⟨twin, digest, twinSorted, twinDigested, rfl, spares_of_undeclared undeclared, ?_⟩
    rwa [undeclared]

/-- A bundle without annotations. -/
def plainBundle : Document :=
  .mapping [
    ("kind", .text "PackageBundle"),
    ("metadata", .mapping [("name", .text "v1-21-1003")]),
    ("spec", .mapping [("packages", .list [])])]

/-- The bundle with a further field, and an excludes list that names the field and the excludes
annotation. -/
def forgedBundle : Document :=
  .mapping [
    ("kind", .text "PackageBundle"),
    ("metadata", .mapping [
      ("annotations", .mapping [
        ("eksa.aws.com/excludes", .text
          ("Lm1ldGFkYXRhLmFubm90YXRpb25zWyJla3NhLmF3cy5jb20vZXhjbHVkZXMiXQouc3BlYy5iYWNrZG9v" ++
            "cg=="))]),
      ("name", .text "v1-21-1003")]),
    ("spec", .mapping [("backdoor", .text "evil"), ("packages", .list [])])]

theorem sorted_plainBundle : plainBundle.Sorted := by decide +kernel

theorem sorted_forgedBundle : forgedBundle.Sorted := by decide +kernel

theorem coveredView_plainBundle : coveredView plainBundle "eksa.aws.com" = .ok plainBundle := by
  decide +kernel

theorem coveredView_forgedBundle : coveredView forgedBundle "eksa.aws.com" = .ok plainBundle := by
  decide +kernel

/-- The forged bundle has the digest of the plain one and reads differently, so its list contains
its own annotation. -/
theorem forgedBundle_removes_declaration :
    SparesDeclaration plainBundle "eksa.aws.com" ∧
      ¬ SparesDeclaration forgedBundle "eksa.aws.com" := by
  have rendersApart : Function.Injective (writeKnown [plainBundle]) :=
    writeKnown_injective (by simp) (by decide +kernel)
  have digested : digestManifestWith (writeKnown [plainBundle]) plainBundle "eksa.aws.com" =
      .ok ⟨writeKnown [plainBundle] plainBundle⟩ :=
    (digestManifestWith_eq_ok_iff sorted_plainBundle).2
      ⟨rfl, plainBundle, coveredView_plainBundle, rfl⟩
  have digested' : digestManifestWith (writeKnown [plainBundle]) forgedBundle "eksa.aws.com" =
      .ok ⟨writeKnown [plainBundle] plainBundle⟩ :=
    (digestManifestWith_eq_ok_iff sorted_forgedBundle).2
      ⟨rfl, plainBundle, coveredView_forgedBundle, rfl⟩
  have spares : SparesDeclaration plainBundle "eksa.aws.com" := spares_of_undeclared rfl
  have pinned := (spared_declaration_pinned rendersApart sorted_plainBundle digested).1 spares
    forgedBundle _ sorted_forgedBundle digested' rfl
  refine ⟨spares, fun spares' => ?_⟩
  have readsAlike := pinned.2 spares'
  revert readsAlike
  decide +kernel

/-- Equal digests do not make manifests declare the same excludes. -/
theorem digest_does_not_pin_declaration :
    ¬ ∀ (domain : String) (manifest manifest' : Document) (digest digest' : ManifestDigest),
      manifest.Sorted → manifest'.Sorted →
      digestManifest manifest domain = .ok digest →
      digestManifest manifest' domain = .ok digest' →
      digest.yaml = digest'.yaml →
        annotation? manifest (excludesAnnotationKey domain) =
          annotation? manifest' (excludesAnnotationKey domain) := by
  intro pinned
  have readsAlike := pinned "eksa.aws.com" plainBundle forgedBundle ⟨Yaml.write plainBundle⟩
    ⟨Yaml.write plainBundle⟩ sorted_plainBundle sorted_forgedBundle
    ((digestManifestWith_eq_ok_iff sorted_plainBundle).2
      ⟨rfl, plainBundle, coveredView_plainBundle, rfl⟩)
    ((digestManifestWith_eq_ok_iff sorted_forgedBundle).2
      ⟨rfl, plainBundle, coveredView_forgedBundle, rfl⟩) rfl
  revert readsAlike
  decide +kernel

end BundleTrust
