import BundleTrust.Proofs.Bundle.Manifest
import BundleTrust.Proofs.Controller.TickOutcome
import BundleTrust.Proofs.Controller.TickRequests
import BundleTrust.Proofs.Lifecycle.AdmissionAgreement

/-!
# Registering bundles

A tick stores what the registry has for it in the namespace of the manager, and the bundle in use
under the name that the controller has for it.  Both are covered by signatures unless the bundle
itself excludes them.  So what is stored is covered as it was served exactly where the registry
had it with that namespace and that name already, or where these are excluded; it is then
verified as it was served (`registered_bundle_verified_alike`).
-/

namespace BundleTrust

open Document FieldPath

/-! ## What registering changes of a bundle -/

namespace Bundle

variable {bundle : Bundle} {domain : String}

/-- The excludes list of a bundle leaves out a field of the metadata.  Where the list cannot be
read nothing is covered, so that every field is left out. -/
def Excludes (bundle : Bundle) (domain field : String) : Prop :=
  ∀ listed, readExcludes bundle.toManifest domain = .ok listed →
    extendsAny listed (ofKeys ["metadata", field]) = true

/-- What a signature covers of a bundle is the same in a namespace and under a name. -/
structure StaysCovered (bundle : Bundle) (domain space name : String) : Prop where
  /-- The bundle is in the namespace already, or excludes it. -/
  space : space = bundle.space ∨ bundle.Excludes domain "namespace"
  /-- The bundle has the name already, or excludes it. -/
  name : name = bundle.name ∨ bundle.Excludes domain "name"

variable (bundle domain) in
/-- A bundle with another namespace, name and version lists the same places. -/
theorem readExcludes_kept (space name version : String) :
    readExcludes ((bundle.kept space name).withVersion version).toManifest domain =
      readExcludes bundle.toManifest domain :=
  readExcludes_congr (by rw [annotation?_toManifest, annotation?_toManifest]; rfl)

/-- The name of a bundle is read in its manifest. -/
theorem text_name_toManifest (bundle : Bundle) :
    (bundle.toManifest.at? (ofKeys ["metadata", "name"])).bind asText? = some bundle.name := by
  rw [at?_toManifest, Metadata.get?_name_toDocument]
  simp [sortKeys, asText?, Bundle.name]

/-- The namespace is read there unless it is empty. -/
theorem text_space_toManifest (bundle : Bundle) :
    (bundle.toManifest.at? (ofKeys ["metadata", "namespace"])).bind asText? =
      if bundle.space = "" then none else some bundle.space := by
  rw [at?_toManifest, Metadata.get?_space_toDocument, Bundle.space]
  split <;> simp [sortKeys, asText?]

theorem space_eq_of_text {other : Bundle}
    (same : (bundle.toManifest.at? (ofKeys ["metadata", "namespace"])).bind asText? =
      (other.toManifest.at? (ofKeys ["metadata", "namespace"])).bind asText?) :
    bundle.space = other.space := by
  rw [text_space_toManifest, text_space_toManifest] at same
  split at same <;> split at same <;> simp_all

/-- A name and a namespace are not assigned by a server. -/
theorem isUncovered_name {listed : List FieldPath} {kept : List String} :
    isUncovered listed kept (ofKeys ["metadata", "name"]) =
      extendsAny listed (ofKeys ["metadata", "name"]) :=
  isUncovered_metadata (by decide)

theorem isUncovered_space {listed : List FieldPath} {kept : List String} :
    isUncovered listed kept (ofKeys ["metadata", "namespace"]) =
      extendsAny listed (ofKeys ["metadata", "namespace"]) :=
  isUncovered_metadata (by decide)

/-- A version is assigned by the server. -/
theorem isUncovered_version {listed : List FieldPath} {kept : List String} :
    isUncovered listed kept (ofKeys ["metadata", "resourceVersion"]) = true :=
  isUncovered_of_server (by decide)

/-- A namespace and a name that stay, or are listed, do not matter for what is covered. -/
theorem coveredWith_kept
    {listed : List FieldPath}
    {kept : List String}
    {space name : String}
    (sameSpace : space = bundle.space ∨ extendsAny listed (ofKeys ["metadata", "namespace"]) = true)
    (sameName : name = bundle.name ∨ extendsAny listed (ofKeys ["metadata", "name"]) = true)
    (version : String) :
    coveredWith listed kept ((bundle.kept space name).withVersion version).toManifest =
      coveredWith listed kept bundle.toManifest := by
  obtain ⟨members, isMetadata, lookup⟩ :=
    ((bundle.kept space name).withVersion version).exists_metadata_toManifest
  obtain ⟨others, isMetadata', lookup'⟩ := bundle.exists_metadata_toManifest
  refine coveredWith_congr (sorted_toManifest _) (sorted_toManifest _) isMetadata isMetadata'
    (fun key outside _ => ?_) fun key covered => ?_
  · rw [get?_toManifest, get?_toManifest]
    simp [toDocument, Document.get?, outside, Bundle.kept, withVersion]
  · rw [lookup, lookup']
    refine congrArg _ (bundle.metadata.get?_toDocument_congr key
      (fun isName => sameName.resolve_right ?_) (fun isSpace => sameSpace.resolve_right ?_) ?_)
    · rw [← isUncovered_name, ← isName, Bool.not_eq_true]
      exact covered
    · rw [← isUncovered_space, ← isSpace, Bool.not_eq_true]
      exact covered
    · rintro rfl
      exact absurd (isUncovered_version.symm.trans covered) (by decide)

/-- What is covered of a bundle with another namespace, name and version is the same exactly if
these do not matter. -/
theorem coveredView_kept_iff {space name version : String} :
    coveredView ((bundle.kept space name).withVersion version).toManifest domain =
        coveredView bundle.toManifest domain ↔
      bundle.StaysCovered domain space name := by
  rw [coveredView, coveredView, readExcludes_kept]
  cases viewed : readExcludes bundle.toManifest domain with
  | error failure =>
      have excluded (field : String) : bundle.Excludes domain field := by
        intro listed isListed
        rw [viewed] at isListed
        cases isListed
      simp only [Except.map, true_iff]
      exact ⟨.inr (excluded _), .inr (excluded _)⟩
  | ok listed =>
      have excludes_iff (field : String) : bundle.Excludes domain field ↔
          extendsAny listed (ofKeys ["metadata", field]) = true := by
        simp [Excludes, viewed]
      simp only [Except.map, Except.ok.injEq]
      constructor
      · intro same
        constructor
        · rw [excludes_iff]
          cases excluded : extendsAny listed (ofKeys ["metadata", "namespace"]) with
          | true => exact .inr rfl
          | false =>
              have texts := text_of_coveredWith_eq same (by decide)
                (isUncovered_space.trans excluded)
              exact .inl (space_eq_of_text texts)
        · rw [excludes_iff]
          cases excluded : extendsAny listed (ofKeys ["metadata", "name"]) with
          | true => exact .inr rfl
          | false =>
              have texts := text_of_coveredWith_eq same (by decide)
                (isUncovered_name.trans excluded)
              rw [text_name_toManifest, text_name_toManifest] at texts
              exact .inl (Option.some.inj texts)
      · rintro ⟨sameSpace, sameName⟩
        rw [excludes_iff] at sameSpace sameName
        exact coveredWith_kept sameSpace sameName version

/-- A bundle of which the same is covered with another namespace and name is verified alike. -/
theorem StaysCovered.verify_eq
    {domain : TrustDomain}
    {space name : String}
    (stays : bundle.StaysCovered domain.name space name)
    (version : String) :
    ((bundle.kept space name).withVersion version).verify domain = bundle.verify domain :=
  verifyManifest_congr (sorted_toManifest _) (sorted_toManifest _)
    (by rw [annotation?_toManifest, annotation?_toManifest]; rfl) (coveredView_kept_iff.2 stays)

end Bundle

/-! ## What a tick registers -/

namespace Store

variable {store : Store}

/-- A write over a stored controller changes no bundle. -/
theorem bundles_overwrite {Item : Type}
    {kind : ResourceKind}
    {address : Address}
    {stored : Option Item}
    {versionOf : Item → Option String}
    {incoming : Option String}
    {write : Item → Item × Store}
    (same : ∀ item, (write item).2.bundles = store.bundles) :
    (store.overwrite kind address stored versionOf incoming write).2.bundles = store.bundles := by
  unfold overwrite
  split
  · rfl
  · split
    · rfl
    · exact same _

/-- To store a controller or its status changes no bundle. -/
theorem bundles_saveController (store : Store) (controller : Controller) :
    (store.saveController controller).2.bundles = store.bundles :=
  bundles_overwrite fun _ => rfl

theorem bundles_saveControllerStatus (store : Store) (controller : Controller) :
    (store.saveControllerStatus controller).2.bundles = store.bundles :=
  bundles_overwrite fun _ => rfl

end Store

namespace Surroundings

variable {World : Type} {surroundings : Surroundings World} {configuration : Configuration}
  {controller : Controller} {store : Store} {world : World}
  {entry : ManagerRequest × Store × World}

/-- A tick has a bundle from the registry and stores it under a name: the newest bundle under its
own, the bundle in use under the one that the controller has for it. -/
inductive Obtains (surroundings : Surroundings World) (controller : Controller) (world : World) :
    Bundle → String → Prop where
  /-- The newest bundle. -/
  | latest (pulled : Bundle) (between : World)
      (found : surroundings.findLatest controller world = (.ok pulled, between)) :
      Obtains surroundings controller world pulled pulled.name
  /-- The bundle in use. -/
  | missing (latest pulled : Bundle) (between : World)
      (found : surroundings.findLatest controller world = (.ok latest, between))
      (served : (surroundings.pullBundle controller.activeReference between).1 = .ok pulled) :
      Obtains surroundings controller world pulled controller.spec.activeBundle

/-- A bundle is one that a tick obtains, in the namespace of the manager. -/
def Registers (surroundings : Surroundings World) (configuration : Configuration)
    (controller : Controller) (world : World) (bundle : Bundle) : Prop :=
  ∃ pulled, surroundings.Obtains controller world pulled bundle.name ∧
    bundle = pulled.kept configuration.space bundle.name

/-- Housekeeping changes no bundle. -/
theorem bundles_respond_of_isHousekeeping
    (surroundings : Surroundings World)
    {request : ManagerRequest}
    (housekeeping : request.IsHousekeeping)
    (state : Store × World) :
    (surroundings.respond request state).2.1.bundles = state.1.bundles := by
  cases request with
  | serverVersion cluster => rfl
  | pull reference => rfl
  | store request =>
      cases request with
      | createBundle bundle => exact housekeeping.elim
      | saveBundleStatus bundle => exact housekeeping.elim
      | saveController controller => exact housekeeping.elim
      | saveControllerStatus controller => exact state.1.bundles_saveControllerStatus controller
      | ensureSpace name => exact state.1.bundles_ensureSpace name
      | listBundles => rfl
      | isActive bundle => rfl
      | activeBundle => rfl

/-- A request of a tick stores bundles that the tick registers, or none. -/
theorem exists_gains_of_request
    (isFor : store.IsFor configuration)
    (isAsked : entry ∈ surroundings.requests (Controller.reconcile configuration) controller store
      world) :
    ∃ bundles, entry.2.1.Gains bundles (surroundings.respond entry.1 entry.2).2.1 ∧
      ∀ bundle ∈ bundles, surroundings.Registers configuration controller world bundle := by
  rcases Tick.requests_reconcile isFor isAsked with housekeeping | writes
  · exact ⟨[], .of_bundles (bundles_respond_of_isHousekeeping surroundings housekeeping entry.2),
      by simp⟩
  · cases writes with
    | latest latest between found =>
        exact ⟨_, Store.gains_createBundle _ _, fun bundle isBundle =>
          List.mem_singleton.1 isBundle ▸ ⟨latest, .latest latest between found, rfl⟩⟩
    | missing latest pulled between state found served =>
        exact ⟨_, Store.gains_createBundle _ _, fun bundle isBundle =>
          List.mem_singleton.1 isBundle ▸ ⟨pulled, .missing latest pulled between found served,
            rfl⟩⟩
    | adopted latest between found =>
        exact ⟨[], .of_bundles (Store.bundles_saveController _ _), by simp⟩

/-- A tick stores bundles that it registers, and no others. -/
theorem exists_gains_tick
    (isFor : store.IsFor configuration) :
    ∃ bundles, store.Gains bundles (surroundings.tick configuration controller store world).2.1 ∧
      ∀ bundle ∈ bundles, surroundings.Registers configuration controller world bundle := by
  refine Script.run_preserves_of_requests (fun state : Store × World =>
    ∃ bundles, store.Gains bundles state.1 ∧
      ∀ bundle ∈ bundles, surroundings.Registers configuration controller world bundle)
    (fun entry isAsked gained => ?_) ⟨[], .of_bundles rfl, by simp⟩
  obtain ⟨earlier, gains, registers⟩ := gained
  obtain ⟨later, gains', registers'⟩ := exists_gains_of_request isFor isAsked
  exact ⟨earlier ++ later, gains.trans gains', fun bundle isBundle =>
    (List.mem_append.1 isBundle).elim (registers bundle) (registers' bundle)⟩

/-- What a tick stores where nothing was stored is a bundle that it has from the registry, in the
namespace of the manager, under the name that it is obtained under and with a version. -/
theorem exists_obtained
    {address : Address}
    {stored : Bundle}
    (isFor : store.IsFor configuration)
    (absent : store.bundle? address = none)
    (registered : (surroundings.tick configuration controller store world).2.1.bundle? address =
      some stored) :
    ∃ pulled version, surroundings.Obtains controller world pulled address.name ∧
      stored = (pulled.kept configuration.space address.name).withVersion version := by
  obtain ⟨bundles, gains, registers⟩ := surroundings.exists_gains_tick isFor
  rcases gains.origin address stored registered with before | ⟨gained, isGained, rfl, version, rfl⟩
  · rw [absent] at before
    cases before
  · obtain ⟨pulled, obtains, eq⟩ := registers gained isGained
    exact ⟨pulled, version, obtains, congrArg (Bundle.withVersion · version) eq⟩

/-- A tick that finds the newest bundle leaves one of its name stored. -/
theorem isSome_latest_tick
    {latest : Bundle}
    {between : World}
    (held : HeldAsStored configuration controller store)
    (found : surroundings.findLatest controller world = (.ok latest, between)) :
    ((surroundings.tick configuration controller store world).2.1.bundle?
      ⟨configuration.space, latest.name⟩).isSome := by
  have address : (latest.inSpace controller.space).address = ⟨configuration.space, latest.name⟩ :=
    congrArg (Address.mk · latest.name) held.space_eq
  rw [← address]
  rcases missing : surroundings.findMissing controller
    (store.register (latest.inSpace controller.space)) between with ⟨failure | restored, last⟩
  · obtain ⟨written, after, ended, -, gains⟩ :=
      surroundings.tickEnds_of_notRestored world held found missing
    rw [ended]
    exact gains.isStored _ List.mem_cons_self
  · obtain ⟨written, after, ended, -, gains⟩ :=
      surroundings.tickEnds_of_advanced world held found missing
    rw [ended]
    exact gains.isStored _ List.mem_cons_self

/-- A tick of an active controller leaves its bundle stored, unless that could not be restored. -/
theorem isSome_active_of_restored
    {latest : Bundle}
    {missing : Option Bundle}
    {between last : World}
    (held : HeldAsStored configuration controller store)
    (found : surroundings.findLatest controller world = (.ok latest, between))
    (restored : surroundings.findMissing controller
      (store.register (latest.inSpace controller.space)) between = (.ok missing, last))
    (active : controller.status.state = .active)
    (used : controller.spec.activeBundle ≠ "") :
    ((surroundings.tick configuration controller store world).2.1.bundle?
      ⟨configuration.space, controller.spec.activeBundle⟩).isSome := by
  have address : (⟨configuration.space, controller.spec.activeBundle⟩ : Address) =
      controller.activeAddress :=
    congrArg (Address.mk · controller.spec.activeBundle) held.space_eq.symm
  obtain ⟨written, after, ended, -, gains⟩ :=
    surroundings.tickEnds_of_advanced world held found restored
  rw [address, ended]
  by_cases misses : controller.Misses (store.register (latest.inSpace controller.space))
  · -- It is pulled and stored.
    rw [findMissing, if_pos ⟨active, misses⟩] at restored
    cases served : (surroundings.pullBundle controller.activeReference between).1 with
    | error failure =>
        rw [served] at restored
        cases restored
    | ok pulled =>
        rw [served] at restored
        cases restored
        exact gains.isStored (pulled.kept controller.space controller.spec.activeBundle)
          (List.mem_cons_of_mem _ (List.mem_singleton.2 rfl))
  · -- It is stored already, at the latest with the newest bundle.
    obtain ⟨bundle, isStored⟩ := Option.ne_none_iff_exists'.1 fun absent => misses ⟨used, absent⟩
    rcases (store.gains_createBundle _).origin _ _ isStored with
      before | ⟨gained, isGained, here, -⟩
    · exact Option.isSome_iff_exists.2 ⟨bundle, gains.kept _ _ before⟩
    · obtain rfl := List.mem_singleton.1 isGained
      exact here ▸ gains.isStored _ List.mem_cons_self

/-- A tick of an active controller leaves its bundle stored, if the registry has that. -/
theorem isSome_active_tick
    {latest pulled : Bundle}
    {between : World}
    (held : HeldAsStored configuration controller store)
    (found : surroundings.findLatest controller world = (.ok latest, between))
    (active : controller.status.state = .active)
    (used : controller.spec.activeBundle ≠ "")
    (served : (surroundings.pullBundle controller.activeReference between).1 = .ok pulled) :
    ((surroundings.tick configuration controller store world).2.1.bundle?
      ⟨configuration.space, controller.spec.activeBundle⟩).isSome := by
  by_cases misses : controller.Misses (store.register (latest.inSpace controller.space))
  · have missing : (surroundings.findMissing controller
        (store.register (latest.inSpace controller.space)) between).1 = .ok (some pulled) := by
      rw [findMissing, if_pos ⟨active, misses⟩, served]
      rfl
    exact isSome_active_of_restored held found (Prod.ext missing rfl) active used
  · exact isSome_active_of_restored held found (if_neg fun both => misses both.2) active used

end Surroundings

/-- What a tick registers, and how that is verified. -/
structure RegistrationOutcome {World : Type} (configuration : Configuration)
    (surroundings : Surroundings World) (controller : Controller) (store : Store)
    (world : World) : Prop where
  /-- If the newest bundle is found, one of its name is stored after the tick. -/
  latest : ∀ latest between,
    HeldAsStored configuration controller store →
    surroundings.findLatest controller world = (.ok latest, between) →
    ((surroundings.tick configuration controller store world).2.1.bundle?
      ⟨configuration.space, latest.name⟩).isSome
  /-- If the registry has the bundle in use of an active controller, that is stored, too. -/
  active : ∀ latest between pulled,
    HeldAsStored configuration controller store →
    surroundings.findLatest controller world = (.ok latest, between) →
    controller.status.state = .active →
    controller.spec.activeBundle ≠ "" →
    (surroundings.pullBundle controller.activeReference between).1 = .ok pulled →
    ((surroundings.tick configuration controller store world).2.1.bundle?
      ⟨configuration.space, controller.spec.activeBundle⟩).isSome
  /-- What is stored where nothing was stored is a bundle from the registry, in the namespace of
  the manager, under the name that it is obtained under and with a version.  The same is covered
  of it in a trust domain as of the bundle from the registry exactly if that one has the namespace
  and the name or excludes them; then it is verified as that one is. -/
  alike : ∀ address stored,
    store.bundle? address = none →
    (surroundings.tick configuration controller store world).2.1.bundle? address = some stored →
    ∃ pulled version,
      surroundings.Obtains controller world pulled address.name ∧
      stored = (pulled.kept configuration.space address.name).withVersion version ∧
      ∀ domain : TrustDomain,
        (coveredView stored.toManifest domain.name = coveredView pulled.toManifest domain.name ↔
          pulled.StaysCovered domain.name configuration.space address.name) ∧
        (pulled.StaysCovered domain.name configuration.space address.name →
          stored.verify domain = pulled.verify domain)

/-- Every tick with a store of the configuration registers bundles like that, whatever controller
it holds and in any surroundings. -/
theorem registered_bundle_verified_alike {World : Type}
    {configuration : Configuration}
    {store : Store}
    (surroundings : Surroundings World)
    (controller : Controller)
    (world : World)
    (isFor : store.IsFor configuration) :
    RegistrationOutcome configuration surroundings controller store world where
  latest _ _ held found := Surroundings.isSome_latest_tick held found
  active _ _ _ held found active used served :=
    Surroundings.isSome_active_tick held found active used served
  alike address stored absent registered := by
    obtain ⟨pulled, version, obtains, rfl⟩ := Surroundings.exists_obtained isFor absent registered
    exact ⟨pulled, version, obtains, rfl, fun domain =>
      ⟨Bundle.coveredView_kept_iff, fun stays => stays.verify_eq version⟩⟩

namespace SignedExample

open TickExample

/-- A registry in which every artifact is the same one, and a server of version 1.21. -/
def serving (artifact : List UInt8) : Surroundings Unit :=
  { surroundings with pull := fun _ world => (.ok artifact, world) }

section Serving

variable {artifact : List UInt8} {bundle : Bundle}

theorem pullBundle_serving
    (decoded : bundleOfArtifact "" artifact = .ok bundle)
    (reference : String) :
    (serving artifact).pullBundle reference () = (.ok bundle, ()) :=
  congrArg (·, ()) (bundleOfArtifact_eq_ok decoded reference)

theorem findLatest_serving
    (decoded : bundleOfArtifact "" artifact = .ok bundle)
    (controller : Controller) :
    (serving artifact).findLatest controller () = (.ok bundle, ()) :=
  pullBundle_serving decoded _

/-- All that a tick obtains there is the bundle of the artifact. -/
theorem eq_of_obtains
    {controller : Controller}
    {pulled : Bundle}
    {name : String}
    (decoded : bundleOfArtifact "" artifact = .ok bundle)
    (obtains : (serving artifact).Obtains controller () pulled name) :
    pulled = bundle := by
  cases obtains with
  | latest pulled between found =>
      rw [findLatest_serving decoded] at found
      cases found
      rfl
  | missing latest pulled between found served =>
      rw [pullBundle_serving decoded] at served
      exact (Except.ok.inj served).symm

end Serving

/-- The signed bundle as an artifact. -/
def signedArtifact : List UInt8 :=
  Text.octets <| "metadata:\n  name: v1-21-1003\n  namespace: eksa-packages\n  annotations:\n" ++
    "    eksa.aws.com/signature: " ++ Text.encodeBase64 bundleSignature.val.toDer ++ "\n" ++
    "spec:\n  packages: []\n"

theorem bundleOfArtifact_signedArtifact :
    bundleOfArtifact "" signedArtifact = .ok (signedBundle bundleSignature) := by
  decide +kernel

/-- The manager of the namespace of the bundle stores it with a signature that is valid. -/
theorem registered_verified :
    ∃ stored,
      ((serving signedArtifact).tick .standard controller store ()).2.1.bundle?
        ⟨"eksa-packages", "v1-21-1003"⟩ = some stored ∧
      stored.isSigned trust := by
  have outcome := registered_bundle_verified_alike (serving signedArtifact) controller ()
    heldAsStored.isFor
  obtain ⟨stored, registered⟩ := Option.isSome_iff_exists.1
    (outcome.latest _ () heldAsStored (findLatest_serving bundleOfArtifact_signedArtifact _))
  obtain ⟨pulled, version, obtains, -, verified⟩ := outcome.alike _ _ rfl registered
  obtain rfl := eq_of_obtains bundleOfArtifact_signedArtifact obtains
  have alike := (verified trust).2 ⟨.inl rfl, .inl rfl⟩
  exact ⟨stored, registered, Bundle.isSigned_of_verify (alike.trans verify_bundleSignature)⟩

/-- A configuration with another namespace. -/
def elsewhere : Configuration :=
  { Configuration.standard with space := "packages" }

/-- A new controller in that namespace as it is stored. -/
def controllerElsewhere : Controller :=
  (Controller.named elsewhere.space elsewhere.controllerName).withVersion "1"

/-- A store in which there is nothing but that controller. -/
def storeElsewhere : Store :=
  ((Store.empty elsewhere).putController
    (Controller.named elsewhere.space elsewhere.controllerName)).2

theorem heldElsewhere : HeldAsStored elsewhere controllerElsewhere storeElsewhere :=
  ⟨⟨rfl, rfl⟩, by decide, by decide⟩

theorem not_verifies_elsewhere :
    publicKey.verifies (ManifestDigest.octets ⟨Yaml.write (signedView "packages" [])⟩)
      bundleSignature = false := by
  rw [Crypto.PublicKey.verifies_eq]
  decide +kernel

/-- In the other namespace the signature of the bundle is not valid. -/
theorem verify_inSpace_elsewhere :
    ((signedBundle bundleSignature).inSpace "packages").verify trust =
      .ok ⟨false, ⟨Yaml.write (signedView "packages" [])⟩⟩ :=
  verifyManifest_eq_ok (Bundle.sorted_toManifest _) rfl (by decide) (by decide)
    (by decide +kernel) (by decide +kernel) verifyingKey_trust not_verifies_elsewhere

/-- The manager of another namespace has the bundle with a valid signature from the registry and
stores it with one that is not valid. -/
theorem registered_elsewhere_not_verified :
    HeldAsStored elsewhere controllerElsewhere storeElsewhere ∧
      (serving signedArtifact).findLatest controllerElsewhere () =
        (.ok (signedBundle bundleSignature), ()) ∧
      (signedBundle bundleSignature).isSigned trust = true ∧
      ∃ stored,
        ((serving signedArtifact).tick elsewhere controllerElsewhere storeElsewhere ()).2.1.bundle?
          ⟨"packages", "v1-21-1003"⟩ = some stored ∧
        stored.isSigned trust = false := by
  obtain ⟨stored, registered⟩ := Option.isSome_iff_exists.1
    (Surroundings.isSome_latest_tick heldElsewhere
      (findLatest_serving bundleOfArtifact_signedArtifact controllerElsewhere))
  obtain ⟨pulled, version, obtains, isStored⟩ :=
    Surroundings.exists_obtained heldElsewhere.isFor rfl registered
  obtain rfl := eq_of_obtains bundleOfArtifact_signedArtifact obtains
  refine ⟨heldElsewhere, findLatest_serving bundleOfArtifact_signedArtifact _,
    Bundle.isSigned_of_verify verify_bundleSignature, stored, registered,
    Bundle.isSigned_of_verify (Eq.trans ?_ verify_inSpace_elsewhere)⟩
  -- The bundle that was moved to the namespace before is stored as it is, but for the version.
  have stays : ((signedBundle bundleSignature).inSpace "packages").StaysCovered trust.name
      "packages" "v1-21-1003" := ⟨.inl rfl, .inl rfl⟩
  rw [isStored]
  exact stays.verify_eq version

end SignedExample

end BundleTrust
