import Mathlib.Data.List.Nodup
import BundleTrust.Proofs.Store.Contents

/-!
# Stores that are the same up to states

Two stores of which one came from the other by writing states of bundles differ in these states and
in versions, and in nothing else (`Store.SameUpToStates`).  So do two stores that came from one by
creating the same bundles in different orders (`Store.sameUpToStates_creations`).
-/

namespace BundleTrust
namespace Store

/-! ## Stores that differ in their bundles -/

/-- Two stores differ at most in their bundles, and in how many versions they gave. -/
structure SameSetting (left right : Store) : Prop where
  /-- They list the bundles of one namespace. -/
  space_eq : left.space = right.space
  /-- One name is reserved for the controller that names the active bundle. -/
  controllerName_eq : left.controllerName = right.controllerName
  /-- They have the same controllers. -/
  controllers_eq : left.controllers = right.controllers
  /-- They have the same namespaces. -/
  spaces_eq : left.spaces = right.spaces

section SameSetting

variable {left middle right : Store}

theorem SameSetting.refl (store : Store) : store.SameSetting store :=
  ⟨rfl, rfl, rfl, rfl⟩

theorem SameSetting.symm (same : left.SameSetting right) : right.SameSetting left :=
  ⟨same.space_eq.symm, same.controllerName_eq.symm, same.controllers_eq.symm, same.spaces_eq.symm⟩

theorem SameSetting.trans
    (first : left.SameSetting middle)
    (second : middle.SameSetting right) :
    left.SameSetting right :=
  ⟨first.space_eq.trans second.space_eq, first.controllerName_eq.trans second.controllerName_eq,
    first.controllers_eq.trans second.controllers_eq, first.spaces_eq.trans second.spaces_eq⟩

theorem SameSetting.isFor
    {configuration : Configuration}
    (same : left.SameSetting right)
    (isFor : right.IsFor configuration) :
    left.IsFor configuration :=
  ⟨same.space_eq.trans isFor.space, same.controllerName_eq.trans isFor.controllerName⟩

theorem SameSetting.reservedController_eq (same : left.SameSetting right) :
    left.reservedController = right.reservedController := by
  simp only [reservedController, controller?, same.space_eq, same.controllerName_eq,
    same.controllers_eq]

theorem sameSetting_createBundle (store : Store) (bundle : Bundle) :
    (store.createBundle bundle).2.SameSetting store := by
  unfold createBundle
  split <;> exact ⟨rfl, rfl, rfl, rfl⟩

end SameSetting

/-- Two stores differ at most in the states and versions of their bundles, and in how many
versions they gave. -/
structure SameUpToStates (left right : Store) : Prop extends left.SameSetting right where
  /-- At every address there are bundles of one content, or none. -/
  contents : ∀ address,
    (left.bundle? address).map Bundle.content = (right.bundle? address).map Bundle.content

/-- In the namespaces of two stores there are bundles of the same names. -/
def SameNames (left right : Store) : Prop :=
  left.space = right.space ∧
    ∀ name, (left.bundle? ⟨left.space, name⟩).isSome = (right.bundle? ⟨right.space, name⟩).isSome

section SameUpToStates

variable {left right : Store}

theorem SameUpToStates.refl (store : Store) : store.SameUpToStates store :=
  ⟨.refl store, fun _ => rfl⟩

theorem SameUpToStates.trans
    {middle : Store}
    (first : left.SameUpToStates middle)
    (second : middle.SameUpToStates right) :
    left.SameUpToStates right :=
  ⟨first.toSameSetting.trans second.toSameSetting,
    fun address => (first.contents address).trans (second.contents address)⟩

theorem SameUpToStates.isSome_bundle?
    (same : left.SameUpToStates right)
    (address : Address) :
    (left.bundle? address).isSome = (right.bundle? address).isSome := by
  rw [← Option.isSome_map, same.contents, Option.isSome_map]

theorem SameUpToStates.sameNames (same : left.SameUpToStates right) : left.SameNames right :=
  ⟨same.space_eq, fun name => by rw [same.space_eq, same.isSome_bundle?]⟩

end SameUpToStates

/-! ## Creating bundles -/

/-- The operations that create bundles, one after the other. -/
def creations (bundles : List Bundle) : List StoreOperation :=
  bundles.map fun bundle => .request (.createBundle bundle)

theorem gains_creations (store : Store) (bundles : List Bundle) :
    store.Gains bundles (store.run (creations bundles)) := by
  induction bundles generalizing store with
  | nil => exact .of_bundles rfl
  | cons bundle rest ih => exact (store.gains_createBundle bundle).trans (ih _)

theorem sameSetting_creations (store : Store) (bundles : List Bundle) :
    (store.run (creations bundles)).SameSetting store := by
  induction bundles generalizing store with
  | nil => exact .refl store
  | cons bundle rest ih => exact (ih _).trans (store.sameSetting_createBundle bundle)

/-- Where one store gained a bundle, another store that gained the same ones has one of the same
content, if no two of them have one address. -/
theorem Gains.exists_content_eq
    {store left right : Store}
    {bundles others : List Bundle}
    {address : Address}
    {bundle : Bundle}
    (first : store.Gains bundles left)
    (second : store.Gains others right)
    (subset : bundles ⊆ others)
    (distinct : (others.map Bundle.address).Nodup)
    (stored : left.bundle? address = some bundle) :
    ∃ kept, right.bundle? address = some kept ∧ kept.content = bundle.content := by
  rcases first.origin _ _ stored with old | ⟨gained, isGained, rfl, version, rfl⟩
  · exact ⟨bundle, second.kept _ _ old, rfl⟩
  · obtain ⟨kept, isKept⟩ := Option.isSome_iff_exists.1
      (second.isStored gained (subset isGained))
    rcases second.origin _ _ isKept with old | ⟨other, isOther, located, version', rfl⟩
    · exact ⟨kept, isKept, congrArg _ (Option.some.inj ((first.kept _ _ old).symm.trans stored))⟩
    · cases List.inj_on_of_nodup_map distinct isOther (subset isGained) located
      exact ⟨_, isKept, rfl⟩

/-- The order in which bundles are created makes no difference to their contents. -/
theorem sameUpToStates_creations
    {bundles others : List Bundle}
    (store : Store)
    (reordered : bundles.Perm others)
    (distinct : (others.map Bundle.address).Nodup) :
    (store.run (creations bundles)).SameUpToStates (store.run (creations others)) where
  toSameSetting := (store.sameSetting_creations bundles).trans
    (store.sameSetting_creations others).symm
  contents address := by
    have first := store.gains_creations bundles
    have second := store.gains_creations others
    cases left : (store.run (creations bundles)).bundle? address with
    | some bundle =>
        obtain ⟨kept, isKept, same⟩ := first.exists_content_eq second reordered.subset distinct left
        rw [isKept, Option.map_some, Option.map_some, same]
    | none =>
        cases right : (store.run (creations others)).bundle? address with
        | none => rfl
        | some bundle =>
            obtain ⟨kept, isKept, -⟩ := second.exists_content_eq first reordered.symm.subset
              ((reordered.map _).nodup_iff.2 distinct) right
            cases left.symm.trans isKept

/-! ## Bringing the state of a bundle up to date -/

/-- Store a bundle with a state. -/
def putState (store : Store) (bundle : Bundle) (state : BundleState) : Bundle × Store :=
  let written := { bundle with state := some state }.withVersion store.nextVersion
  (written, { store.advance with bundles := store.bundles.put bundle.address written rfl })

/-- Bring the state of a bundle up to date; nothing is written if it is up to date. -/
def updateState (store : Store) (bundle : Bundle) (state : BundleState) : Bundle × Store :=
  if bundle.state = some state then (bundle, store) else store.putState bundle state

/-- A store came from another one by bringing the state of a stored bundle up to date. -/
structure UpdatesState (store : Store) (bundle : Bundle) (state : BundleState) (after : Store)
    (written : Bundle) : Prop where
  /-- The bundle that is stored has the state, and all else but its version is as before. -/
  document : ∃ version, written =
    { bundle with
      state := some state
      metadata := { bundle.metadata with resourceVersion := version } }
  /-- It is stored. -/
  stored : after.bundle? bundle.address = some written
  /-- No other bundle is changed. -/
  others : ∀ address, address ≠ bundle.address → after.bundle? address = store.bundle? address
  /-- Nor is any controller or namespace. -/
  setting : after.SameSetting store
  /-- Nothing is written if the bundle had the state before. -/
  unwritten : bundle.state = some state → written = bundle ∧ after = store

section UpdatesState

variable {store after : Store} {bundle written : Bundle} {state : BundleState}

/-- The state of a bundle that is held as it is stored can be written. -/
theorem saveBundleStatus_of_stored
    (stored : store.bundle? bundle.address = some bundle)
    (state : BundleState) :
    store.saveBundleStatus { bundle with state := some state } =
      (.ok (store.putState bundle state).1, (store.putState bundle state).2) := by
  have found : store.bundles.get? { bundle with state := some state }.address = some bundle :=
    stored
  rw [saveBundleStatus, bundle?, found, overwrite_of_current fun expected carried => carried,
    Shelf.revise_eq_put found]
  rfl

/-- A bundle whose state is put is found at its address, and all others as before. -/
theorem bundle?_putState
    (store : Store)
    (bundle : Bundle)
    (state : BundleState)
    (address : Address) :
    (store.putState bundle state).2.bundle? address =
      if bundle.address = address then some (store.putState bundle state).1
      else store.bundle? address :=
  Shelf.get?_put _ bundle.address (store.putState bundle state).1 rfl _

theorem updatesState_updateState
    (stored : store.bundle? bundle.address = some bundle)
    (state : BundleState) :
    store.UpdatesState bundle state (store.updateState bundle state).2
      (store.updateState bundle state).1 := by
  unfold updateState
  split
  · next same =>
      exact ⟨⟨bundle.metadata.resourceVersion, by rw [← same]⟩, stored, fun _ _ => rfl, .refl store,
        fun _ => ⟨rfl, rfl⟩⟩
  · next different =>
      refine ⟨⟨some store.nextVersion, rfl⟩, ?_, fun address elsewhere => ?_, ⟨rfl, rfl, rfl, rfl⟩,
        fun same => absurd same different⟩
      · rw [bundle?_putState]
        exact if_pos rfl
      · rw [bundle?_putState]
        exact if_neg fun same => elsewhere same.symm

theorem UpdatesState.state_eq (updates : store.UpdatesState bundle state after written) :
    written.state = some state := by
  obtain ⟨version, rfl⟩ := updates.document
  rfl

theorem UpdatesState.content_eq (updates : store.UpdatesState bundle state after written) :
    written.content = bundle.content := by
  obtain ⟨version, rfl⟩ := updates.document
  rfl

/-- A store is the same up to states when one of them was brought up to date. -/
theorem UpdatesState.sameUpToStates
    (updates : store.UpdatesState bundle state after written)
    (stored : store.bundle? bundle.address = some bundle) :
    after.SameUpToStates store where
  toSameSetting := updates.setting
  contents address := by
    by_cases here : address = bundle.address
    · rw [here, updates.stored, stored, Option.map_some, Option.map_some, updates.content_eq]
    · rw [updates.others address here]

end UpdatesState

end Store
end BundleTrust
