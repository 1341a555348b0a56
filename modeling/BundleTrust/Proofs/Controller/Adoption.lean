import BundleTrust.Admission
import BundleTrust.Proofs.Controller.TickOutcome
import BundleTrust.Proofs.Controller.TickRequests

/-!
# Adopting the newest bundle

A tick that takes a bundle into use takes the one that the registry has under the tag for the
version of the server, with the name that this bundle gives itself.  It does not ask whether the
controller would be admitted with that name: admission is for writes from outside.

* The bundle is always listed when it is taken into use, as it is stored before.
* So the controller would be admitted exactly if the name is that of a bundle for the server
  (`adopted_bundle_admitted_iff`).
-/

namespace BundleTrust

/-! ## Admission of a listed bundle -/

/-- A name spells a version that a server accepts. -/
def ServerVersion.AcceptsName (server : ServerVersion) (name : String) : Prop :=
  ∃ version, BundleVersion.parse? name = some version ∧ server.accepts version

instance (server : ServerVersion) (name : String) : Decidable (server.AcceptsName name) :=
  decidable_of_iff ((BundleVersion.parse? name).any server.accepts = true) (by
    simp [ServerVersion.AcceptsName, Option.any_eq_true])

/-- A controller is admitted exactly if its bundle is listed and made for the server. -/
theorem isAllowed_validateActiveBundle_iff
    {controller : Controller}
    {bundles : List Bundle}
    {server : ServerVersion} :
    (validateActiveBundle controller bundles server).isAllowed ↔
      (∃ bundle ∈ bundles, bundle.name = controller.spec.activeBundle) ∧
        server.AcceptsName controller.spec.activeBundle := by
  rw [validateActiveBundle]
  cases found : bundles.find? fun bundle => bundle.name == controller.spec.activeBundle with
  | none =>
      have unlisted := List.find?_eq_none.1 found
      simp only [AdmissionDecision.isAllowed, Bool.false_eq_true, false_iff, not_and]
      rintro ⟨bundle, isListed, named⟩
      exact absurd (beq_iff_eq.2 named) (unlisted bundle isListed)
  | some bundle =>
      have named : bundle.name = controller.spec.activeBundle := by
        simpa using List.find?_some found
      have listed : ∃ bundle ∈ bundles, bundle.name = controller.spec.activeBundle :=
        ⟨bundle, List.mem_of_find?_eq_some found, named⟩
      simp only [Bundle.version, named, listed, true_and, ServerVersion.AcceptsName]
      cases BundleVersion.parse? controller.spec.activeBundle with
      | none => simp [AdmissionDecision.isAllowed]
      | some version => cases accepted : server.accepts version <;>
          simp [AdmissionDecision.isAllowed, accepted]

namespace Store

variable {store : Store} {address : Address}

/-- A bundle of a name is listed once one was stored in the namespace of the store. -/
theorem exists_mem_listBundles_register
    {bundle : Bundle}
    (space : bundle.space = store.space) :
    ∃ listed ∈ (store.register bundle).listBundles, listed.name = bundle.name := by
  have stored := (store.gains_createBundle bundle).isStored bundle List.mem_cons_self
  have sameSpace : (store.register bundle).space = bundle.space := by
    rw [space, register, createBundle]
    split <;> rfl
  have listed := (store.register bundle).any_listBundles bundle.name
  rw [sameSpace] at listed
  simpa using listed.trans stored

/-! ## Which requests change the bundle in use -/

/-- A controller after another one was stored is as before or has the spec of that one. -/
theorem spec_saveController
    {controller persisted : Controller}
    (stored : (store.saveController controller).2.controller? address = some persisted) :
    store.controller? address = some persisted ∨ persisted.spec = controller.spec := by
  unfold saveController overwrite at stored
  split at stored
  · exact .inl stored
  · split at stored
    · exact .inl stored
    · rw [controller?, Shelf.get?_revise] at stored
      obtain ⟨old, found, rfl⟩ := Option.map_eq_some_iff.1 stored
      split
      · exact .inr rfl
      · exact .inl found

/-- Unless a controller is stored, no spec of a controller changes. -/
theorem spec_answer
    {request : StoreRequest}
    (other : ∀ controller, request ≠ .saveController controller) :
    ((store.answer request).2.controller? address).map Controller.spec =
      (store.controller? address).map Controller.spec := by
  cases request with
  | saveController controller => exact absurd rfl (other controller)
  | saveControllerStatus controller => exact store.spec_saveControllerStatus controller address
  | createBundle bundle =>
      exact congrArg _ (controller?_congr (store.controllers_createBundle bundle) address)
  | saveBundleStatus bundle =>
      exact congrArg _ (controller?_congr (store.controllers_saveBundleStatus bundle) address)
  | ensureSpace name =>
      exact congrArg _ (controller?_congr (store.controllers_ensureSpace name) address)
  | listBundles | isActive bundle | activeBundle => rfl

end Store

namespace Surroundings

variable {World : Type} {surroundings : Surroundings World} {configuration : Configuration}
  {controller persisted : Controller} {store : Store} {world : World}
  {entry : ManagerRequest × Store × World}

/-- A request leaves a controller stored with another bundle in use than before it. -/
structure TakesIntoUse (surroundings : Surroundings World) (entry : ManagerRequest × Store × World)
    (persisted : Controller) : Prop where
  /-- The controller is stored after the request. -/
  stored : (surroundings.respond entry.1 entry.2).2.1.controller? persisted.address =
    some persisted
  /-- If one was stored before it, that one had another bundle in use. -/
  changed : ∀ earlier, entry.2.1.controller? persisted.address = some earlier →
    earlier.spec.activeBundle ≠ persisted.spec.activeBundle

/-- Nothing but storing a controller takes a bundle into use. -/
theorem TakesIntoUse.exists_saveController
    (takes : surroundings.TakesIntoUse entry persisted) :
    ∃ adopting, entry.1 = .store (.saveController adopting) ∧
      persisted.spec = adopting.spec := by
  obtain ⟨request, before, world⟩ := entry
  obtain ⟨stored, changed⟩ := takes
  by_cases isSave : ∃ adopting, request = .store (.saveController adopting)
  · obtain ⟨adopting, rfl⟩ := isSave
    rcases Store.spec_saveController stored with unchanged | spec
    · exact absurd rfl (changed persisted unchanged)
    · exact ⟨adopting, rfl, spec⟩
  · have same : ((surroundings.respond request (before, world)).2.1.controller?
        persisted.address).map Controller.spec =
        (before.controller? persisted.address).map Controller.spec := by
      cases request with
      | store request =>
          exact Store.spec_answer fun adopting same => isSave ⟨adopting, congrArg _ same⟩
      | serverVersion cluster => rfl
      | pull reference => rfl
    rw [stored, Option.map_some, eq_comm, Option.map_eq_some_iff] at same
    obtain ⟨earlier, found, sameSpec⟩ := same
    exact absurd (congrArg _ sameSpec) (changed earlier found)

/-- What a tick takes into use is the newest bundle, right after that was stored. -/
theorem TakesIntoUse.exists_latest
    (isFor : store.IsFor configuration)
    (isAsked : entry ∈ surroundings.requests (Controller.reconcile configuration) controller store
      world)
    (takes : surroundings.TakesIntoUse entry persisted) :
    ∃ latest between, surroundings.findLatest controller world = (.ok latest, between) ∧
      entry.2 = (store.register (latest.inSpace configuration.space), between) ∧
      persisted.spec.activeBundle = latest.name := by
  obtain ⟨adopting, isSave, spec⟩ := takes.exists_saveController
  rcases Tick.requests_reconcile isFor isAsked with housekeeping | writes
  · rw [isSave] at housekeeping
    exact housekeeping.elim
  · cases writes with
    | latest latest between found => cases isSave
    | missing latest pulled between state found served => cases isSave
    | adopted latest between found =>
        cases isSave
        exact ⟨latest, between, found, rfl, congrArg ControllerSpec.activeBundle spec⟩

/-- If a stored controller has another bundle in use after a part of a tick, some request of that
part took it into use. -/
theorem exists_takesIntoUse {Answer : Type}
    {part : Tick Answer}
    {address : Address}
    {stored final : Controller}
    (before : store.controller? address = some stored)
    (after : (surroundings.execute part controller store world).2.1.controller? address =
      some final)
    (changed : final.spec.activeBundle ≠ stored.spec.activeBundle) :
    ∃ entry ∈ surroundings.requests part controller store world, ∃ persisted,
      surroundings.TakesIntoUse entry persisted := by
  refine Classical.byContradiction fun nowhere => ?_
  -- Every request keeps the bundle in use, and so does the whole part.
  have keeps : ∀ found,
      (surroundings.execute part controller store world).2.1.controller? address = some found →
        found.spec.activeBundle = stored.spec.activeBundle := by
    refine Script.run_preserves_of_requests (fun state : Store × World => ∀ found,
      state.1.controller? address = some found →
        found.spec.activeBundle = stored.spec.activeBundle)
      (fun entry isAsked same found isFound => ?_) fun found isFound => ?_
    · refine Classical.byContradiction fun different => ?_
      have here : found.address = address := Shelf.address_of_get? isFound
      refine nowhere ⟨entry, isAsked, found, here.symm ▸ isFound, fun earlier isEarlier => ?_⟩
      rw [same earlier (here ▸ isEarlier)]
      exact Ne.symm different
    · rw [before] at isFound
      rw [Option.some.inj isFound]
  exact changed (keeps final after)

/-- A new controller takes its newest bundle into use. -/
theorem exists_adoption
    {latest : Bundle}
    {between : World}
    (held : HeldAsStored configuration controller store)
    (state : controller.status.state = .unset)
    (unused : controller.spec.activeBundle = "")
    (found : surroundings.findLatest controller world = (.ok latest, between))
    (named : latest.name ≠ "") :
    ∃ entry ∈ surroundings.requests (Controller.reconcile configuration) controller store world,
      ∃ persisted, surroundings.TakesIntoUse entry persisted := by
  have present : surroundings.findMissing controller
      (store.register (latest.inSpace controller.space)) between = (.ok none, between) :=
    if_neg fun both => by rw [state] at both; cases both.1
  obtain ⟨written, after, ended, settles, -⟩ :=
    surroundings.tickEnds_of_advanced world held found present
  have stored : (surroundings.tick configuration controller store world).2.1.controller?
      controller.address = some written := by
    rw [ended]
    exact settles.stored
  refine exists_takesIntoUse held.stored stored ?_
  simpa [settles.spec_eq, Controller.specAfter, state, unused] using named

end Surroundings

/-- Whenever a request of a tick takes a bundle into use, that bundle is the newest one and is
listed at that moment, and the controller would be admitted with it exactly if its name is that of
a bundle for the server of the tick. -/
theorem adopted_bundle_admitted_iff {World : Type}
    {configuration : Configuration}
    {controller persisted : Controller}
    {store : Store}
    {world : World}
    {entry : ManagerRequest × Store × World}
    (surroundings : Surroundings World)
    (isFor : store.IsFor configuration)
    (isAsked : entry ∈ surroundings.requests (Controller.reconcile configuration) controller store
      world)
    (takes : surroundings.TakesIntoUse entry persisted) :
    ∃ server latest,
      (surroundings.serverVersion controller.name world).1 = .ok server ∧
      (surroundings.findLatest controller world).1 = .ok latest ∧
      persisted.spec.activeBundle = latest.name ∧
      (∃ bundle ∈ entry.2.1.listBundles, bundle.name = latest.name) ∧
      ((validateActiveBundle persisted entry.2.1.listBundles server).isAllowed ↔
        server.AcceptsName latest.name) := by
  obtain ⟨latest, between, found, state, adopted⟩ := takes.exists_latest isFor isAsked
  have listed : ∃ bundle ∈ entry.2.1.listBundles, bundle.name = latest.name := by
    rw [state]
    exact Store.exists_mem_listBundles_register isFor.space.symm
  rcases version : surroundings.serverVersion controller.name world with ⟨failure | server, asked⟩
  · simp [Surroundings.findLatest, version] at found
  · refine ⟨server, latest, rfl, congrArg Prod.fst found, adopted, listed, ?_⟩
    rw [isAllowed_validateActiveBundle_iff, adopted]
    exact and_iff_right listed

namespace TickExample

/-- A new controller takes a bundle for its server into use, with which it would be admitted. -/
theorem adopts_admitted :
    ∃ entry ∈ surroundings.requests (Controller.reconcile .standard) controller store (),
      ∃ persisted, surroundings.TakesIntoUse entry persisted ∧
        ∃ server,
          (surroundings.serverVersion controller.name ()).1 = .ok server ∧
          (validateActiveBundle persisted entry.2.1.listBundles server).isAllowed := by
  obtain ⟨entry, isAsked, persisted, takes⟩ :=
    Surroundings.exists_adoption heldAsStored rfl rfl (findLatest_surroundings _) (by decide)
  obtain ⟨server, newest, version, found, -, -, admitted⟩ :=
    adopted_bundle_admitted_iff surroundings heldAsStored.isFor isAsked takes
  rw [findLatest_surroundings] at found
  cases version
  cases found
  exact ⟨entry, isAsked, persisted, takes, _, rfl, admitted.2 (by decide)⟩

/-- The same registry, which has that bundle under every tag, and a server of version 1.22. -/
def newerServer : Surroundings Unit :=
  { surroundings with serverVersion := fun _ world => (.ok ⟨"1", "22"⟩, world) }

theorem findLatest_newerServer (controller : Controller) :
    newerServer.findLatest controller () = (.ok latest, ()) := by
  simp only [Surroundings.findLatest, newerServer, surroundings, Surroundings.pullBundle,
    Except.bind, bundleOfArtifact_artifact]

/-- A new controller takes a bundle for another server version into use, with which it would not
be admitted. -/
theorem adopts_not_admitted :
    HeldAsStored .standard controller store ∧
      ∃ entry ∈ newerServer.requests (Controller.reconcile .standard) controller store (),
        ∃ persisted, newerServer.TakesIntoUse entry persisted ∧
          ∃ server,
            (newerServer.serverVersion controller.name ()).1 = .ok server ∧
            (validateActiveBundle persisted entry.2.1.listBundles server).isAllowed = false := by
  obtain ⟨entry, isAsked, persisted, takes⟩ :=
    Surroundings.exists_adoption heldAsStored rfl rfl (findLatest_newerServer _) (by decide)
  obtain ⟨newest, between, found, -, adopted⟩ := takes.exists_latest heldAsStored.isFor isAsked
  rw [findLatest_newerServer] at found
  cases found
  refine ⟨heldAsStored, entry, isAsked, persisted, takes, _, rfl, ?_⟩
  rw [Bool.eq_false_iff, ne_eq, isAllowed_validateActiveBundle_iff, adopted]
  exact fun both => absurd both.2 (by decide)

end TickExample

end BundleTrust
