import BundleTrust.Proofs.Lifecycle.AdmissionAgreement
import BundleTrust.Proofs.Lifecycle.Computation
import BundleTrust.Proofs.Store.UpToStates

/-!
# The states of the bundles of a store

The state of a bundle is derived from its content, from the name that the controller has for the
active bundle, and from the names of the bundles in the namespace.  So what a manager computes for
the bundles of a store hangs together (`LifecycleManager.derivesStates`): at most one of them is in
use, an upgrade is available for it exactly if the store has one, and no state depends on the order
in which the bundles were created or on the states that are stored.

That the state and the version of a bundle make no difference to its signature, whatever it
excludes, is `Bundle.verify_content`.
-/

namespace BundleTrust

open Document FieldPath

/-- The states of a bundle in use. -/
def BundleState.IsInUse (state : BundleState) : Prop :=
  state = .active ∨ state = .upgradeAvailable

instance (state : BundleState) : Decidable state.IsInUse :=
  inferInstanceAs (Decidable (_ ∨ _))

/-! ## What the state of a bundle depends on of the bundle -/

namespace Bundle

variable (bundle : Bundle)

/-- The status of a bundle is assigned by the server, and so is its version: neither is covered. -/
theorem coveredWith_content (listed : List FieldPath) (kept : List String) :
    coveredWith listed kept bundle.content.toManifest =
      coveredWith listed kept bundle.toManifest := by
  obtain ⟨members, isMetadata, lookup⟩ := bundle.content.exists_metadata_toManifest
  obtain ⟨others, isMetadata', lookup'⟩ := bundle.exists_metadata_toManifest
  refine coveredWith_congr (sorted_toManifest _) (sorted_toManifest _) isMetadata isMetadata'
    (fun key outside covered => ?_) fun key covered => ?_
  · have notStatus : key ≠ "status" := by
      rintro rfl
      exact absurd ((isUncovered_of_server (by decide)).symm.trans covered) (by decide)
    rw [get?_toManifest, get?_toManifest]
    simp [toDocument, Document.get?, content, outside, notStatus]
  · have notVersion : key ≠ "resourceVersion" := by
      rintro rfl
      exact absurd ((isUncovered_of_server (by decide)).symm.trans covered) (by decide)
    rw [lookup, lookup']
    exact congrArg _ (bundle.metadata.get?_toDocument_congr key (fun _ => rfl) (fun _ => rfl)
      notVersion)

/-- The content of a bundle is verified as the bundle is. -/
theorem verify_content (domain : TrustDomain) :
    bundle.content.verify domain = bundle.verify domain := by
  have annotations (key : String) : annotation? bundle.content.toManifest key =
      annotation? bundle.toManifest key := by
    rw [annotation?_toManifest, annotation?_toManifest]
    rfl
  refine verifyManifest_congr (sorted_toManifest _) (sorted_toManifest _) (annotations _) ?_
  simp only [coveredView, readExcludes_congr (annotations _), coveredWith_content]

theorem isSigned_content (domain : TrustDomain) :
    bundle.content.isSigned domain = bundle.isSigned domain := by
  rw [isSigned, isSigned, verify_content]

/-- The state of a bundle depends on its content alone. -/
theorem evaluateState_content (context : LifecycleContext) :
    bundle.content.evaluateState context = bundle.evaluateState context := by
  simp only [evaluateState, isSigned_content]
  rfl

/-! ## What it depends on of other bundles -/

/-- A bundle passes the checks of a context, which are about nothing but itself. -/
structure Passes (bundle : Bundle) (context : LifecycleContext) (version : BundleVersion) :
    Prop where
  /-- It is in the namespace. -/
  space_eq : bundle.space = context.space
  /-- Its name spells a version. -/
  parsed : BundleVersion.parse? bundle.name = some version
  /-- The version is one for the server. -/
  accepted : context.server.accepts version = true
  /-- The bundle is signed. -/
  signed : bundle.isSigned context.domain = true

variable {bundle : Bundle} {context : LifecycleContext} {version : BundleVersion}

/-- The state of a bundle that passes is decided by whether it is active and there is a newer
one. -/
theorem Passes.evaluateState_eq (passes : bundle.Passes context version) :
    bundle.evaluateState context =
      if context.isActive then
        if context.bundles.any fun other => other.isNewerIn context.space version then
          .upgradeAvailable
        else .active
      else .inactive := by
  rw [evaluateState, if_neg (not_not_intro passes.space_eq), passes.parsed]
  simp only [passes.accepted, passes.signed, Bool.not_true, Bool.false_eq_true, ↓reduceIte]
  cases context.isActive <;> rfl

/-- A bundle passes, or its state is none of a bundle in use, whatever else there is. -/
theorem passes_or (bundle : Bundle) (context : LifecycleContext) :
    (∃ version, bundle.Passes context version) ∨
      ∃ state : BundleState, ¬ state.IsInUse ∧ ∀ isActive bundles, bundle.evaluateState
        { context with isActive := isActive, bundles := bundles } = state := by
  by_cases space : bundle.space = context.space
  · cases parsed : BundleVersion.parse? bundle.name with
    | none =>
        exact .inr ⟨.invalidVersion, by decide, fun _ _ => by simp [evaluateState, space, parsed]⟩
    | some version =>
        cases accepted : context.server.accepts version with
        | false =>
            exact .inr ⟨.ignoredVersion, by decide, fun _ _ => by
              simp [evaluateState, space, parsed, accepted]⟩
        | true =>
            cases signed : bundle.isSigned context.domain with
            | false =>
                exact .inr ⟨.invalid, by decide, fun _ _ => by
                  simp [evaluateState, space, parsed, accepted, signed]⟩
            | true => exact .inl ⟨version, space, parsed, accepted, signed⟩
  · exact .inr ⟨.ignored, by decide, fun _ _ => by simp [evaluateState, space]⟩

/-- Only an active bundle is in use. -/
theorem isActive_of_isInUse (inUse : (bundle.evaluateState context).IsInUse) :
    context.isActive = true := by
  rcases bundle.passes_or context with ⟨version, passes⟩ | ⟨state, notInUse, same⟩
  · rw [passes.evaluateState_eq] at inUse
    cases active : context.isActive with
    | true => rfl
    | false => simp [active, BundleState.IsInUse] at inUse
  · exact absurd (same context.isActive context.bundles ▸ inUse) notInUse

/-- The state of a bundle depends on the bundles in so far as there are newer ones. -/
theorem evaluateState_congr
    {bundles : List Bundle}
    (same : ∀ version, (bundles.any fun other => other.isNewerIn context.space version) =
      context.bundles.any fun other => other.isNewerIn context.space version) :
    bundle.evaluateState { context with bundles := bundles } = bundle.evaluateState context := by
  simp only [evaluateState, same]

/-- More bundles can change the state of a bundle only from active to upgrade available. -/
theorem evaluateState_of_more
    {bundles : List Bundle}
    (more : ∀ version, (context.bundles.any fun other => other.isNewerIn context.space version) →
      bundles.any fun other => other.isNewerIn context.space version) :
    bundle.evaluateState { context with bundles := bundles } = bundle.evaluateState context ∨
      bundle.evaluateState context = .active ∧
        bundle.evaluateState { context with bundles := bundles } = .upgradeAvailable := by
  rcases bundle.passes_or context with ⟨version, passes⟩ | ⟨state, -, same⟩
  · have passesMore : bundle.Passes { context with bundles := bundles } version :=
      ⟨passes.space_eq, passes.parsed, passes.accepted, passes.signed⟩
    rw [passes.evaluateState_eq, passesMore.evaluateState_eq]
    cases context.isActive with
    | false => exact .inl rfl
    | true =>
        cases newer : context.bundles.any fun other => other.isNewerIn context.space version with
        | true => simp [more version newer]
        | false =>
            cases bundles.any fun other => other.isNewerIn context.space version <;> simp
  · exact .inl ((same context.isActive bundles).trans
      (same context.isActive context.bundles).symm)

end Bundle

/-! ## Upgrades in a store -/

/-- A version is an upgrade of another one: it is for the same server version and has a greater
number. -/
def BundleVersion.IsUpgradeOf (other version : BundleVersion) : Prop :=
  other.major = version.major ∧ other.minor = version.minor ∧ version.sequence < other.sequence

theorem Bundle.isNewerIn_iff {bundle : Bundle} {space : String} {version : BundleVersion} :
    bundle.isNewerIn space version ↔
      bundle.space = space ∧
        ∃ other, BundleVersion.parse? bundle.name = some other ∧ other.IsUpgradeOf version := by
  rw [isNewerIn]
  cases BundleVersion.parse? bundle.name with
  | none => simp
  | some other => simp [BundleVersion.isSameMinor, BundleVersion.IsUpgradeOf, and_assoc]

namespace Store

/-- In the namespace of a store there is a bundle whose name spells an upgrade of a version. -/
def HasUpgrade (store : Store) (version : BundleVersion) : Prop :=
  ∃ name other, (store.bundle? ⟨store.space, name⟩).isSome ∧
    BundleVersion.parse? name = some other ∧ other.IsUpgradeOf version

theorem any_isNewerIn_listBundles
    {store : Store}
    {configuration : Configuration}
    {version : BundleVersion}
    (isFor : store.IsFor configuration) :
    (store.listBundles.any fun other => other.isNewerIn configuration.space version) ↔
      store.HasUpgrade version := by
  rw [List.any_eq_true, ← isFor.space]
  constructor
  · rintro ⟨bundle, isListed, isNewer⟩
    obtain ⟨space, stored⟩ := mem_listBundles_iff.1 isListed
    obtain ⟨-, other, parsed, isUpgrade⟩ := Bundle.isNewerIn_iff.1 isNewer
    have address : bundle.address = ⟨store.space, bundle.name⟩ := by rw [← space]; rfl
    exact ⟨bundle.name, other, by rw [← address, stored]; rfl, parsed, isUpgrade⟩
  · rintro ⟨name, other, stored, parsed, isUpgrade⟩
    obtain ⟨bundle, isListed, rfl⟩ := exists_mem_listBundles_iff.2 stored
    exact ⟨bundle, isListed, Bundle.isNewerIn_iff.2
      ⟨(mem_listBundles_iff.1 isListed).1, other, parsed, isUpgrade⟩⟩

/-- An upgrade stays one when bundles are stored. -/
theorem HasUpgrade.of_gains
    {store after : Store}
    {bundles : List Bundle}
    {version : BundleVersion}
    (upgrade : store.HasUpgrade version)
    (gains : store.Gains bundles after)
    (space : after.space = store.space) :
    after.HasUpgrade version := by
  obtain ⟨name, other, stored, parsed, isUpgrade⟩ := upgrade
  obtain ⟨bundle, isBundle⟩ := Option.isSome_iff_exists.1 stored
  refine ⟨name, other, ?_, parsed, isUpgrade⟩
  rw [space, gains.kept _ _ isBundle]
  rfl

theorem hasUpgrade_congr
    {left right : Store}
    (names : left.SameNames right)
    (version : BundleVersion) :
    left.HasUpgrade version ↔ right.HasUpgrade version := by
  simp only [HasUpgrade, names.2]

end Store

/-! ## The states that the manager computes -/

/-- Whenever it is asked, a cluster tells of its server that it has a version. -/
def Surroundings.HasServer {World : Type} (surroundings : Surroundings World) (cluster : String)
    (server : ServerVersion) : Prop :=
  ∀ world, (surroundings.serverVersion cluster world).1 = .ok server

namespace LifecycleManager

open Reconciliation

variable {World : Type}

/-- What the manager computes for the bundle at an address, if there is one. -/
def computedAt (manager : LifecycleManager) (surroundings : Surroundings World) (address : Address)
    (store : Store) (world : World) : Option (Except BundleError BundleState) :=
  (store.bundle? address).map fun bundle => manager.computed surroundings bundle store world

/-- A manager works on a store with its namespace and its controller, on a cluster of a server
version. -/
structure Manages (manager : LifecycleManager) (surroundings : Surroundings World)
    (server : ServerVersion) (store : Store) (controller : Controller) : Prop where
  /-- The store is that of its configuration. -/
  isFor : store.IsFor manager.configuration
  /-- The store has the controller that names the active bundle. -/
  reserved : store.reservedController = .ok controller
  /-- The cluster tells the version of its server. -/
  told : surroundings.HasServer manager.configuration.controllerName server

/-- What the manager takes into account for a bundle of a store. -/
def contextIn (manager : LifecycleManager) (server : ServerVersion) (controller : Controller)
    (store : Store) (bundle : Bundle) : LifecycleContext where
  space := manager.configuration.space
  server := server
  domain := manager.domain
  isActive :=
    decide (bundle.address = ⟨manager.configuration.space, controller.spec.activeBundle⟩)
  bundles := store.listBundles

section Manages

variable {manager : LifecycleManager} {surroundings : Surroundings World} {server : ServerVersion}
  {controller : Controller} {store twin : Store} {bundle : Bundle}

/-- A manager works on stores that differ in their bundles alone alike. -/
theorem Manages.of_sameSetting
    (manages : manager.Manages surroundings server store controller)
    (same : twin.SameSetting store) :
    manager.Manages surroundings server twin controller :=
  ⟨same.isFor manages.isFor, same.reservedController_eq.trans manages.reserved, manages.told⟩

/-- The manager computes the state of every bundle, and asks without writing. -/
theorem Manages.exists_execute_compute
    (manages : manager.Manages surroundings server store controller)
    (bundle held : Bundle)
    (world : World) :
    ∃ last, Reconciliation.execute surroundings.respond (manager.compute bundle) held
        (store, world) =
      ((.ok (bundle.evaluateState (manager.contextIn server controller store bundle)), held),
        store, last) := by
  have prompts : bundle.promptState? manager.configuration.space = _ :=
    bundle.promptState?_eq (manager.contextIn server controller store bundle)
  rw [execute_compute]
  split at prompts
  · exact ⟨world, by rw [prompts]⟩
  · have told := manages.told world
    rcases asked : surroundings.serverVersion manager.configuration.controllerName world with
      ⟨answer, last⟩
    rw [asked] at told
    obtain rfl : answer = .ok server := told
    refine ⟨last, ?_⟩
    simp only [prompts, Store.isActive_eq_ok manages.reserved, manages.isFor.space]
    rfl

theorem Manages.computed_eq
    (manages : manager.Manages surroundings server store controller)
    (bundle : Bundle)
    (world : World) :
    manager.computed surroundings bundle store world =
      .ok (bundle.evaluateState (manager.contextIn server controller store bundle)) := by
  obtain ⟨last, executed⟩ := manages.exists_execute_compute bundle bundle world
  rw [computed, executed]

/-- What is computed for a bundle depends on its content, on the names of the bundles in the
namespace, and on the name that the controller has for the active one. -/
theorem Manages.computed_congr
    {other : Controller}
    {bundle' : Bundle}
    (manages : manager.Manages surroundings server store controller)
    (manages' : manager.Manages surroundings server twin other)
    (choice : other.spec.activeBundle = controller.spec.activeBundle)
    (names : twin.SameNames store)
    (content : bundle'.content = bundle.content)
    (world world' : World) :
    manager.computed surroundings bundle' twin world' =
      manager.computed surroundings bundle store world := by
  have address : bundle'.address = bundle.address := Bundle.address_eq_of_content_eq content
  -- The contexts differ in the bundles alone, of which only the upgrades are looked at.
  have context : manager.contextIn server other twin bundle' =
      { manager.contextIn server controller store bundle with bundles := twin.listBundles } := by
    simp only [contextIn, choice, address]
  rw [manages'.computed_eq, manages.computed_eq, ← bundle'.evaluateState_content, content,
    bundle.evaluateState_content, context]
  refine congrArg _ (Bundle.evaluateState_congr fun version => Bool.eq_iff_iff.2 ?_)
  exact (Store.any_isNewerIn_listBundles manages'.isFor).trans
    ((Store.hasUpgrade_congr names version).trans
      (Store.any_isNewerIn_listBundles manages.isFor).symm)

/-- What is computed for the bundle at an address is the same in stores that are the same up to
states. -/
theorem Manages.computedAt_congr
    (manages : manager.Manages surroundings server store controller)
    (same : twin.SameUpToStates store)
    (address : Address)
    (world world' : World) :
    manager.computedAt surroundings address twin world' =
      manager.computedAt surroundings address store world := by
  have contents := same.contents address
  cases stored : store.bundle? address with
  | none =>
      rw [stored, Option.map_none, Option.map_eq_none_iff] at contents
      rw [computedAt, computedAt, stored, contents]
      rfl
  | some bundle =>
      rw [stored, Option.map_some, Option.map_eq_some_iff] at contents
      obtain ⟨bundle', stored', content⟩ := contents
      rw [computedAt, computedAt, stored, stored', Option.map_some, Option.map_some]
      exact congrArg some (manages.computed_congr (manages.of_sameSetting same.toSameSetting) rfl
        same.sameNames content world world')

/-- What is in use is the bundle that the controller names. -/
theorem Manages.address_of_isInUse
    {state : BundleState}
    {world : World}
    (manages : manager.Manages surroundings server store controller)
    (ended : manager.computed surroundings bundle store world = .ok state)
    (inUse : state.IsInUse) :
    bundle.address = ⟨manager.configuration.space, controller.spec.activeBundle⟩ := by
  cases (manages.computed_eq bundle world).symm.trans ended
  exact of_decide_eq_true (Bundle.isActive_of_isInUse inUse)

/-- The bundle that the controller names is active, unless there is an upgrade. -/
theorem Manages.computed_of_named
    {version : BundleVersion}
    (manages : manager.Manages surroundings server store controller)
    (named : bundle.address = ⟨manager.configuration.space, controller.spec.activeBundle⟩)
    (parsed : BundleVersion.parse? bundle.name = some version)
    (accepted : server.accepts version = true)
    (signed : bundle.isSigned manager.domain = true)
    (world : World) :
    (store.HasUpgrade version →
        manager.computed surroundings bundle store world = .ok .upgradeAvailable) ∧
      (¬ store.HasUpgrade version →
        manager.computed surroundings bundle store world = .ok .active) := by
  have passes : bundle.Passes (manager.contextIn server controller store bundle) version :=
    ⟨congrArg Address.space named, parsed, accepted, signed⟩
  have active : (manager.contextIn server controller store bundle).isActive = true :=
    decide_eq_true named
  have newer : (store.listBundles.any fun other =>
      other.isNewerIn manager.configuration.space version) ↔ store.HasUpgrade version :=
    Store.any_isNewerIn_listBundles manages.isFor
  rw [manages.computed_eq, passes.evaluateState_eq, if_pos active]
  exact ⟨fun upgrade => congrArg _ (if_pos (newer.2 upgrade)),
    fun newest => congrArg _ (if_neg fun found => newest (newer.1 found))⟩

/-- One more bundle can change what is computed for another one only from active to upgrade
available. -/
theorem Manages.computed_createBundle
    (manages : manager.Manages surroundings server store controller)
    (bundle new : Bundle)
    (world world' : World) :
    manager.computed surroundings bundle (store.createBundle new).2 world' =
        manager.computed surroundings bundle store world ∨
      manager.computed surroundings bundle store world = .ok .active ∧
        manager.computed surroundings bundle (store.createBundle new).2 world' =
          .ok .upgradeAvailable := by
  have setting := store.sameSetting_createBundle new
  have manages' := manages.of_sameSetting setting
  have context : manager.contextIn server controller (store.createBundle new).2 bundle =
      { manager.contextIn server controller store bundle with
        bundles := (store.createBundle new).2.listBundles } := rfl
  rw [manages.computed_eq, manages'.computed_eq, context]
  refine (Bundle.evaluateState_of_more fun version newer => ?_).imp (congrArg _)
    fun changed => ⟨congrArg _ changed.1, congrArg _ changed.2⟩
  have upgrade := (Store.any_isNewerIn_listBundles manages.isFor).1 newer
  exact (Store.any_isNewerIn_listBundles manages'.isFor).2
    (upgrade.of_gains (store.gains_createBundle new) setting.space_eq)

end Manages

/-- The states that a manager computes for the bundles of a store. -/
structure DerivesStates (manager : LifecycleManager) (surroundings : Surroundings World)
    (server : ServerVersion) (store : Store) (controller : Controller) : Prop where
  /-- Every stored bundle has a state. -/
  total : ∀ bundle ∈ store.bundles.items, ∀ world, ∃ state,
    manager.computed surroundings bundle store world = .ok state
  /-- None is in use but the one that the controller names. -/
  named : ∀ bundle ∈ store.bundles.items, ∀ world state,
    manager.computed surroundings bundle store world = .ok state → state.IsInUse →
    bundle.address = ⟨manager.configuration.space, controller.spec.activeBundle⟩
  /-- At most one is in use. -/
  single : ∀ left ∈ store.bundles.items, ∀ right ∈ store.bundles.items,
    ∀ world world' state state',
    manager.computed surroundings left store world = .ok state → state.IsInUse →
    manager.computed surroundings right store world' = .ok state' → state'.IsInUse →
    left = right
  /-- For the one that is named, if it passes the checks of its version and its signature, an
  upgrade is available exactly if one is stored, and otherwise it is active. -/
  superseded : ∀ bundle ∈ store.bundles.items, ∀ version world,
    bundle.address = ⟨manager.configuration.space, controller.spec.activeBundle⟩ →
    BundleVersion.parse? bundle.name = some version →
    server.accepts version = true →
    bundle.isSigned manager.domain = true →
    (manager.computed surroundings bundle store world = .ok .upgradeAvailable ↔
        store.HasUpgrade version) ∧
      (manager.computed surroundings bundle store world = .ok .active ↔
        ¬ store.HasUpgrade version)
  /-- A state depends on the content of its own bundle, on the name of the active bundle, and of
  the other bundles on the names of those in the namespace alone. -/
  independent : ∀ twin other bundle bundle' world world',
    manager.Manages surroundings server twin other →
    other.spec.activeBundle = controller.spec.activeBundle →
    twin.SameNames store →
    bundle'.content = bundle.content →
    manager.computed surroundings bundle' twin world' =
      manager.computed surroundings bundle store world
  /-- It makes no difference in which order bundles are created. -/
  unordered : ∀ bundles others address world world',
    bundles.Perm others →
    (others.map Bundle.address).Nodup →
    manager.computedAt surroundings address (store.run (Store.creations bundles)) world =
      manager.computedAt surroundings address (store.run (Store.creations others)) world'
  /-- If one more bundle is created, the stored ones stay, and so do their states, except that
  an upgrade may be available for the one that was active. -/
  monotone : ∀ new, ∀ bundle ∈ store.bundles.items, ∀ world world',
    bundle ∈ (store.createBundle new).2.bundles.items ∧
      (manager.computed surroundings bundle (store.createBundle new).2 world' =
          manager.computed surroundings bundle store world ∨
        bundle.address = ⟨manager.configuration.space, controller.spec.activeBundle⟩ ∧
          manager.computed surroundings bundle store world = .ok .active ∧
          manager.computed surroundings bundle (store.createBundle new).2 world' =
            .ok .upgradeAvailable)

/-- The states that a manager computes are those of one bundle in use at most, whatever else there
is in the store. -/
theorem derivesStates
    {manager : LifecycleManager}
    {surroundings : Surroundings World}
    {server : ServerVersion}
    {store : Store}
    {controller : Controller}
    (manages : manager.Manages surroundings server store controller) :
    manager.DerivesStates surroundings server store controller where
  total bundle _ world := ⟨_, manages.computed_eq bundle world⟩
  named _ _ _ _ ended inUse := manages.address_of_isInUse ended inUse
  single left isLeft right isRight _ _ _ _ ended inUse ended' inUse' := by
    have stored := Shelf.mem_items_iff.1 isLeft
    have stored' := Shelf.mem_items_iff.1 isRight
    rw [manages.address_of_isInUse ended inUse] at stored
    rw [manages.address_of_isInUse ended' inUse'] at stored'
    exact Option.some.inj (stored.symm.trans stored')
  superseded bundle _ version world named parsed accepted signed := by
    obtain ⟨upgrade, newest⟩ := manages.computed_of_named named parsed accepted signed world
    by_cases available : store.HasUpgrade version
    · simp [upgrade available, available]
    · simp [newest available, available]
  independent _ _ _ _ _ _ manages' choice names content :=
    manages.computed_congr manages' choice names content _ _
  unordered bundles others address world world' reordered distinct :=
    (manages.of_sameSetting (store.sameSetting_creations others)).computedAt_congr
      (store.sameUpToStates_creations reordered distinct) address _ _
  monotone new bundle isStored world world' := by
    have kept := (store.gains_createBundle new).kept _ _ (Shelf.mem_items_iff.1 isStored)
    exact ⟨Shelf.mem_items_iff.2 kept,
      (manages.computed_createBundle bundle new world world').imp_right fun changed =>
        ⟨manages.address_of_isInUse changed.1 (.inl rfl), changed⟩⟩

end LifecycleManager

namespace StatesExample

/-- The controller that names the signed bundle. -/
def controller : Controller :=
  { Controller.named "eksa-packages" "eksa-packages-bundle-controller" with
    spec := { ControllerSpec.standard with activeBundle := "v1-21-1003" } }

/-- The signed bundle. -/
def bundle : Bundle := SignedExample.signedBundle SignedExample.bundleSignature

/-- A store with the signed bundle, which is in use, and a newer one. -/
def store : Store :=
  (Store.empty .standard).run
    (.putController controller :: Store.creations [bundle, .named "eksa-packages" "v1-21-1004"])

/-- A manager that trusts the key of the signature. -/
def manager : LifecycleManager := ⟨.standard, SignedExample.trust⟩

/-- The version of the signed bundle. -/
def version : BundleVersion := ⟨1, 21, 1003, by decide, by decide, by decide⟩

/-- The version of the newer one. -/
def newerVersion : BundleVersion := ⟨1, 21, 1004, by decide, by decide, by decide⟩

theorem manages_store :
    manager.Manages TickExample.surroundings ⟨"1", "21"⟩ store (controller.withVersion "1") :=
  ⟨(Store.isFor_empty .standard).run _, rfl, fun _ => rfl⟩

theorem mem_store : bundle.withVersion "2" ∈ store.bundles.items :=
  Shelf.mem_items_iff.2 (by rfl)

theorem isSigned_stored : (bundle.withVersion "2").isSigned manager.domain = true := by
  rw [← Bundle.isSigned_content, Bundle.content_withVersion, Bundle.isSigned_content]
  exact Bundle.isSigned_of_verify SignedExample.verify_bundleSignature

theorem hasUpgrade_store : store.HasUpgrade version :=
  ⟨"v1-21-1004", newerVersion, by decide, by decide, by decide, by decide, by decide⟩

/-- There is an upgrade for the signed bundle. -/
theorem computed_signed_bundle :
    manager.computed TickExample.surroundings (bundle.withVersion "2") store () =
      .ok .upgradeAvailable :=
  ((LifecycleManager.derivesStates manages_store).superseded _ mem_store version () rfl (by decide)
    (by decide) isSigned_stored).1.2 hasUpgrade_store

end StatesExample

end BundleTrust
