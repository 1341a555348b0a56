import BundleTrust.Proofs.Controller.TickParts

/-!
# The outcome of a tick

One tick of a managed controller that is held as it is stored, with no other writer, comes out
in one of three ways (`TickOutcome`).

* The newest bundle cannot be found: an active controller and one without a state are
  disconnected, and the next tick comes after the short interval.
* The bundle in use is missing and cannot be restored: the controller stays as it is.
* The controller moves on as `Controller.specAfter` and `Controller.statusAfter` say, and the
  next tick comes after the interval.
-/

namespace BundleTrust

namespace Controller

/-- The spec of a controller after its newest bundle was found. -/
def specAfter (controller : Controller) (latest : String) : ControllerSpec :=
  if (controller.status.state = .unset ∨ controller.status.state = .unknown) ∧
      controller.spec.activeBundle = "" then
    { controller.spec with activeBundle := latest }
  else controller.spec

/-- The status of a controller after its newest bundle was found. -/
def statusAfter (controller : Controller) (latest : String) : ControllerStatus :=
  match controller.status.state with
  | .active =>
      if latest = controller.spec.activeBundle then controller.status
      else ⟨.upgradeAvailable, latest ++ " available"⟩
  | .upgradeAvailable =>
      if latest = controller.spec.activeBundle then ⟨.active, ""⟩ else controller.status
  | .disconnected | .ignored | .unset | .unknown => ⟨.active, ""⟩

end Controller

namespace Tick

open Surroundings Reconciliation

variable {World : Type} (surroundings : Surroundings World) (world : World) (latest : String)
  {configuration : Configuration} {controller : Controller} {store : Store}

/-- A namespace and the bundle in use are stored without a change of the controller. -/
theorem stored_restore
    (stored : store.controller? controller.address = some controller)
    (space : String)
    (missing : Option Bundle) :
    ((store.ensureSpace space).restore controller missing).controller? controller.address =
      some controller :=
  (Store.controller?_congr (by simp) _).trans stored

theorem execute_advance_of_active
    (held : HeldAsStored configuration controller store)
    (active : controller.status.state = .active) :
    surroundings.execute (advance configuration latest) controller store world =
      match surroundings.findMissing controller store world with
      | (.ok missing, world) =>
          let restored := (store.ensureSpace (configuration.clusterSpace controller)).restore
            controller missing
          ((.ok (), (restored.updateStatus controller (controller.statusAfter latest)).1),
            (restored.updateStatus controller (controller.statusAfter latest)).2, world)
      | (.error failure, world) =>
          ((.error failure, controller),
            store.ensureSpace (configuration.clusterSpace controller), world) := by
  have heldNow : HeldAsStored configuration controller
      (store.ensureSpace (configuration.clusterSpace controller)) :=
    held.of_controllers (held.isFor.answer (.ensureSpace _)) (by simp)
  have restoring := execute_restoreActive surroundings world heldNow active
  rw [surroundings.findMissing_congr (store.bundles_ensureSpace _) controller world] at restoring
  simp only [advance, execute_bind, execute_get, active, execute_demand, respond, Store.answer,
    restoring]
  rcases surroundings.findMissing controller store world with ⟨failure | missing, between⟩
  · rfl
  · have stored := stored_restore held.stored (configuration.clusterSpace controller) missing
    by_cases newest : latest = controller.spec.activeBundle
    · have unchanged : controller.statusAfter latest = controller.status := by
        simp [Controller.statusAfter, active, newest]
      simp [newest, ← unchanged, Store.updateStatus]
    · have changed : controller.statusAfter latest =
          ⟨.upgradeAvailable, latest ++ " available"⟩ := by
        simp [Controller.statusAfter, active, newest]
      simp only [ne_eq, newest, not_false_eq_true, ↓reduceIte, changed]
      exact execute_settle surroundings between stored _ _

/-- A controller without a state takes the newest bundle into use if none is, and is active. -/
theorem execute_adopt_settle
    (stored : store.controller? controller.address = some controller)
    (unsettled : controller.status.state = .unset ∨ controller.status.state = .unknown) :
    ∃ written after,
      surroundings.execute (do adopt latest; settle controller.status .active "") controller store
          world = ((.ok (), written), after, world) ∧
        store.Settles controller (controller.specAfter latest) ⟨.active, ""⟩ after written ∧
        after.bundles = store.bundles := by
  have adopting := execute_adopt surroundings world stored latest
  simp only [execute_bind, adopting]
  have different : (⟨.active, ""⟩ : ControllerStatus) ≠ controller.status := by
    rintro same
    simp [← same] at unsettled
  have updates : store.Updates controller (controller.specAfter latest) controller.status
      (store.adopt controller latest).2 (store.adopt controller latest).1 := by
    by_cases unused : controller.spec.activeBundle = ""
    · simp only [Store.adopt, Controller.specAfter, unsettled, unused, and_self, ↓reduceIte]
      exact store.updates_putController controller _ controller.status
    · simp only [Store.adopt, Controller.specAfter, unused, and_false, ↓reduceIte]
      exact .refl stored rfl
  have storedNow := updates.stored
  rw [← updates.address_eq] at storedNow
  have settling := execute_settle surroundings world storedNow .active ""
  rw [updates.status_eq] at settling
  refine ⟨_, _, settling, ⟨updates.trans ?_, fun _ same => absurd same different⟩, by simp⟩
  exact (Store.settles_updateStatus storedNow _).toUpdates

/-- A controller that is not active moves on without a look at its bundle. -/
theorem execute_advance_of_inactive
    (stored : store.controller? controller.address = some controller)
    (inactive : controller.status.state ≠ .active) :
    ∃ written after,
      surroundings.execute (advance configuration latest) controller store world =
          ((.ok (), written), after, world) ∧
        store.Settles controller (controller.specAfter latest) (controller.statusAfter latest)
          after written ∧
        after.bundles = store.bundles := by
  have settling := execute_settle surroundings world stored .active ""
  have settles := store.settles_updateStatus stored ⟨.active, ""⟩
  simp only [advance, execute_bind, execute_get, Controller.specAfter, Controller.statusAfter]
  cases state : controller.status.state with
  | active => exact absurd state inactive
  | upgradeAvailable =>
      by_cases newest : latest = controller.spec.activeBundle
      · simp only [newest, ↓reduceIte]
        exact ⟨_, _, settling, by simpa using settles, by simp⟩
      · simp only [newest, ↓reduceIte]
        exact ⟨_, _, rfl, ⟨by simpa using .refl stored rfl, fun _ _ => ⟨rfl, rfl⟩⟩, rfl⟩
  | disconnected => exact ⟨_, _, settling, by simpa using settles, by simp⟩
  | ignored => exact ⟨_, _, settling, by simpa using settles, by simp⟩
  | unset =>
      have adopted := execute_adopt_settle surroundings world latest stored (.inl state)
      simpa [Controller.specAfter, state] using adopted
  | unknown =>
      have adopted := execute_adopt_settle surroundings world latest stored (.inr state)
      simpa [Controller.specAfter, state] using adopted

/-- A controller moves on where its bundle is not missing or could be restored. -/
theorem execute_advance_ok
    {last : World}
    {missing : Option Bundle}
    (held : HeldAsStored configuration controller store)
    (restored : surroundings.findMissing controller store world = (.ok missing, last)) :
    ∃ written after,
      surroundings.execute (advance configuration latest) controller store world =
          ((.ok (), written), after, last) ∧
        store.Settles controller (controller.specAfter latest) (controller.statusAfter latest)
          after written ∧
        store.Gains (controller.restored missing) after := by
  by_cases active : controller.status.state = .active
  · have advancing := execute_advance_of_active surroundings world latest held active
    rw [restored] at advancing
    have stored := stored_restore held.stored (configuration.clusterSpace controller) missing
    have unadopted : controller.specAfter latest = controller.spec := by
      simp [Controller.specAfter, active]
    refine ⟨_, _, advancing, ?_, ?_⟩
    · rw [unadopted]
      exact (Store.settles_updateStatus stored _).of_controllers (by simp)
    · have opened := Store.Gains.of_bundles
        (store.bundles_ensureSpace (configuration.clusterSpace controller))
      have gains := opened.trans (Store.gains_restore _ controller missing)
      simpa using gains.trans (.of_bundles (Store.bundles_updateStatus _ _ _))
  · rw [findMissing, if_neg fun both => active both.1] at restored
    cases restored
    obtain ⟨written, after, advancing, settles, same⟩ :=
      execute_advance_of_inactive surroundings world latest held.stored active
    exact ⟨written, after, advancing, settles, .of_bundles same⟩

/-- A controller stays as it is where its bundle is missing and cannot be restored. -/
theorem execute_advance_error
    {last : World}
    {failure : BundleError}
    (held : HeldAsStored configuration controller store)
    (restored : surroundings.findMissing controller store world = (.error failure, last)) :
    ∃ after,
      surroundings.execute (advance configuration latest) controller store world =
          ((.error failure, controller), after, last) ∧
        after.controllers = store.controllers ∧ after.bundles = store.bundles := by
  by_cases active : controller.status.state = .active
  · have advancing := execute_advance_of_active surroundings world latest held active
    rw [restored] at advancing
    exact ⟨_, advancing, by simp, by simp⟩
  · rw [findMissing, if_neg fun both => active both.1] at restored
    cases restored

theorem execute_managed (held : HeldAsStored configuration controller store) :
    surroundings.execute (managed configuration) controller store world =
      match surroundings.findLatest controller world with
      | (.error failure, world) =>
          let disconnected := store.updateStatus controller (controller.status.disconnected failure)
          ((.ok (.after controller.spec.shortInterval), disconnected.1), disconnected.2, world)
      | (.ok latest, world) =>
          match surroundings.execute (advance configuration latest.name) controller
              (store.register (latest.inSpace controller.space)) world with
          | ((.ok (), written), after, world) =>
              ((.ok (.after written.spec.interval), written), after, world)
          | ((.error failure, written), after, world) =>
              ((.error failure, written), after, world) := by
  have disconnecting (failure : BundleError) (world : World) :
      Reconciliation.execute surroundings.respond (disconnect failure) controller
        (store, world) = _ :=
    execute_disconnect surroundings world held.stored failure
  simp only [managed, Surroundings.execute, execute_bind, execute_get, execute_ask, respond,
    findLatest]
  rcases surroundings.serverVersion controller.name world with ⟨failure | server, between⟩
  · simp only [execute_bind, disconnecting, execute_pure]
  · simp only [execute_bind, execute_pullBundle, respond, Surroundings.pullBundle]
    cases (surroundings.pull (latestReference controller.spec.source.baseReference server)
        between).1.bind
        (bundleOfArtifact (latestReference controller.spec.source.baseReference server)) with
    | error failure =>
        simp only [execute_bind, disconnecting, execute_pure]
    | ok latest =>
        have space : (latest.inSpace controller.space).space = store.space :=
          held.space_eq.trans held.isFor.space.symm
        simp only [Bundle.inSpace, held.space_eq] at space
        have registering (world : World) :
            Reconciliation.execute surroundings.respond (register _) controller
              (store, world) = _ :=
          execute_register surroundings world space
        simp only [execute_bind, execute_get, execute_pure, registering, held.space_eq,
          Bundle.inSpace]
        rcases Reconciliation.execute surroundings.respond (advance configuration latest.name) _ _
          with ⟨⟨failure | answer, written⟩, after, last⟩ <;> rfl

end Tick

namespace Surroundings

variable {World : Type} (surroundings : Surroundings World) (world : World)
  {configuration : Configuration} {controller : Controller} {store : Store}

/-- One tick of a controller. -/
def tick (configuration : Configuration) (controller : Controller) (store : Store)
    (world : World) : (Except BundleError Requeue × Controller) × Store × World :=
  surroundings.execute (Controller.reconcile configuration) controller store world

/-- A failure of a tick that may be gone at the next attempt is not passed on. -/
theorem tick_eq (held : HeldAsStored configuration controller store) :
    surroundings.tick configuration controller store world =
      match surroundings.execute (Tick.managed configuration) controller store world with
      | ((.ok answer, written), after, world) => ((.ok answer, written), after, world)
      | ((.error failure, written), after, world) =>
          ((if failure.isRetryable then .ok (.after controller.spec.shortInterval)
            else .error failure, written), after, world) := by
  simp only [tick, Surroundings.execute, Controller.reconcile_eq, Reconciliation.execute_bind,
    Reconciliation.execute_get, held.isManaged, Bool.not_true, Bool.false_eq_true, ↓reduceIte,
    Reconciliation.execute_tryCatch]
  rcases Reconciliation.execute surroundings.respond (Tick.managed configuration) controller
    (store, world) with ⟨⟨failure | answer, written⟩, after, last⟩
  · cases retryable : failure.isRetryable <;> simp [retryable]
  · rfl

/-- A tick of a controller ends with an answer, after it brought spec and status of the
controller up to date and stored bundles. -/
def TickEnds (configuration : Configuration) (controller : Controller) (store : Store)
    (world : World) (answer : Except BundleError Requeue) (spec : ControllerSpec)
    (status : ControllerStatus) (bundles : List Bundle) (last : World) : Prop :=
  ∃ written after,
    surroundings.tick configuration controller store world = ((answer, written), after, last) ∧
      store.Settles controller spec status after written ∧ store.Gains bundles after

/-- The newest bundle is stored before the controller moves on, which is then still held as it
is stored. -/
theorem heldAsStored_register
    (held : HeldAsStored configuration controller store)
    (bundle : Bundle) :
    HeldAsStored configuration controller (store.register bundle) :=
  held.of_controllers (held.isFor.answer (.createBundle bundle)) (by simp)

variable {latest : Bundle} {failure : BundleError} {missing : Option Bundle}
  {between last : World}

theorem tickEnds_of_unreachable
    (held : HeldAsStored configuration controller store)
    (found : surroundings.findLatest controller world = (.error failure, last)) :
    surroundings.TickEnds configuration controller store world
      (.ok (.after controller.spec.shortInterval)) controller.spec
      (controller.status.disconnected failure) [] last := by
  have managed := Tick.execute_managed surroundings world held
  rw [found] at managed
  refine ⟨_, _, by rw [surroundings.tick_eq world held, managed], ?_, .of_bundles (by simp)⟩
  exact store.settles_updateStatus held.stored _

theorem tickEnds_of_advanced
    (held : HeldAsStored configuration controller store)
    (found : surroundings.findLatest controller world = (.ok latest, between))
    (restored : surroundings.findMissing controller
      (store.register (latest.inSpace controller.space)) between = (.ok missing, last)) :
    surroundings.TickEnds configuration controller store world
      (.ok (.after (controller.specAfter latest.name).interval))
      (controller.specAfter latest.name) (controller.statusAfter latest.name)
      (latest.inSpace controller.space :: controller.restored missing) last := by
  obtain ⟨written, after, advancing, settles, gains⟩ := Tick.execute_advance_ok surroundings
    between latest.name (heldAsStored_register held _) restored
  have managed := Tick.execute_managed surroundings world held
  rw [found] at managed
  simp only [advancing] at managed
  refine ⟨written, after, ?_, settles.of_controllers (by simp),
    (store.gains_createBundle _).trans gains⟩
  rw [surroundings.tick_eq world held, managed, ← settles.toUpdates.spec_eq]

theorem tickEnds_of_notRestored
    (held : HeldAsStored configuration controller store)
    (found : surroundings.findLatest controller world = (.ok latest, between))
    (restored : surroundings.findMissing controller
      (store.register (latest.inSpace controller.space)) between = (.error failure, last)) :
    surroundings.TickEnds configuration controller store world
      (if failure.isRetryable then .ok (.after controller.spec.shortInterval)
        else .error failure)
      controller.spec controller.status [latest.inSpace controller.space] last := by
  obtain ⟨after, advancing, sameControllers, sameBundles⟩ := Tick.execute_advance_error
    surroundings between latest.name (heldAsStored_register held _) restored
  have managed := Tick.execute_managed surroundings world held
  rw [found] at managed
  simp only [advancing] at managed
  have same : after.controllers = store.controllers := by simp [sameControllers]
  refine ⟨controller, after, by rw [surroundings.tick_eq world held, managed], ?_,
    (store.gains_createBundle _).trans (.of_bundles sameBundles)⟩
  exact ⟨.refl held.stored same, fun _ _ => ⟨rfl, same⟩⟩

end Surroundings

/-- How one tick of a controller that is held as it is stored comes out. -/
structure TickOutcome {World : Type} (configuration : Configuration)
    (surroundings : Surroundings World) (controller : Controller) (store : Store)
    (world : World) : Prop where
  /-- Where the newest bundle cannot be found, that is recorded of an active controller and of
  one without a state, and nothing else is changed. -/
  unreachable : ∀ failure last,
    surroundings.findLatest controller world = (.error failure, last) →
    surroundings.TickEnds configuration controller store world
      (.ok (.after controller.spec.shortInterval)) controller.spec
      (controller.status.disconnected failure) [] last
  /-- Where it is found, and the bundle in use is not missing or could be restored, the
  controller moves on. -/
  advanced : ∀ latest between missing last,
    surroundings.findLatest controller world = (.ok latest, between) →
    surroundings.findMissing controller (store.register (latest.inSpace controller.space))
      between = (.ok missing, last) →
    surroundings.TickEnds configuration controller store world
      (.ok (.after (controller.specAfter latest.name).interval))
      (controller.specAfter latest.name) (controller.statusAfter latest.name)
      (latest.inSpace controller.space :: controller.restored missing) last
  /-- Where the bundle in use is missing and cannot be restored, the controller stays as it is
  and the failure is passed on, unless it may be gone at the next attempt. -/
  notRestored : ∀ latest between failure last,
    surroundings.findLatest controller world = (.ok latest, between) →
    surroundings.findMissing controller (store.register (latest.inSpace controller.space))
      between = (.error failure, last) →
    surroundings.TickEnds configuration controller store world
      (if failure.isRetryable then .ok (.after controller.spec.shortInterval)
        else .error failure)
      controller.spec controller.status [latest.inSpace controller.space] last

/-- Every tick of a managed controller that is held as it is stored comes out like that, in any
surroundings. -/
theorem tick_outcome {World : Type}
    {configuration : Configuration}
    {controller : Controller}
    {store : Store}
    (surroundings : Surroundings World)
    (world : World)
    (held : HeldAsStored configuration controller store) :
    TickOutcome configuration surroundings controller store world where
  unreachable _ _ found := surroundings.tickEnds_of_unreachable world held found
  advanced _ _ _ _ found restored := surroundings.tickEnds_of_advanced world held found restored
  notRestored _ _ _ _ found restored :=
    surroundings.tickEnds_of_notRestored world held found restored

/-- An artifact that is a bundle is that bundle at any reference. -/
theorem bundleOfArtifact_eq_ok
    {artifact : List UInt8}
    {bundle : Bundle}
    {reference : String}
    (decoded : bundleOfArtifact reference artifact = .ok bundle)
    (other : String) :
    bundleOfArtifact other artifact = .ok bundle := by
  unfold bundleOfArtifact at decoded ⊢
  split at decoded
  · cases decoded
  · next notBlank => rw [if_neg notBlank, decoded]

namespace TickExample

/-- A new controller as it is stored. -/
def controller : Controller :=
  (Controller.named Configuration.standard.space Configuration.standard.controllerName).withVersion
    "1"

/-- A store in which there is nothing but the new controller. -/
def store : Store :=
  ((Store.empty .standard).putController (Controller.named Configuration.standard.space
    Configuration.standard.controllerName)).2

theorem heldAsStored : HeldAsStored .standard controller store :=
  ⟨⟨rfl, rfl⟩, by decide, by decide⟩

/-- The newest bundle. -/
def latest : Bundle := .named "" "v1-21-1001"

/-- The newest bundle as an artifact. -/
def artifact : List UInt8 :=
  Text.octets "metadata:\n  name: v1-21-1001\nspec:\n  packages: []\n"

theorem bundleOfArtifact_artifact (reference : String) :
    bundleOfArtifact reference artifact = .ok latest := by
  have decoded : bundleOfArtifact "" artifact = .ok latest := by decide +kernel
  exact bundleOfArtifact_eq_ok decoded reference

/-- A registry in which every artifact is the newest bundle, and a server of version 1.21. -/
def surroundings : Surroundings Unit where
  serverVersion _ world := (.ok ⟨"1", "21"⟩, world)
  pull _ world := (.ok artifact, world)

theorem findLatest_surroundings (controller : Controller) :
    surroundings.findLatest controller () = (.ok latest, ()) := by
  simp only [Surroundings.findLatest, surroundings, Surroundings.pullBundle, Except.bind,
    bundleOfArtifact_artifact]

/-- A new controller takes the newest bundle into use. -/
theorem takes_newest :
    surroundings.TickEnds .standard controller store ()
      (.ok (.after ControllerSpec.standardInterval))
      { ControllerSpec.standard with activeBundle := "v1-21-1001" } ⟨.active, ""⟩
      [latest.inSpace "eksa-packages"] () := by
  have found : surroundings.findLatest controller () = (.ok latest, ()) := by
    simp only [Surroundings.findLatest, surroundings, Surroundings.pullBundle, Except.bind,
      bundleOfArtifact_artifact]
  have spec : controller.specAfter latest.name =
      { ControllerSpec.standard with activeBundle := "v1-21-1001" } := by decide
  have status : controller.statusAfter latest.name = ⟨.active, ""⟩ := by decide
  have ended := (tick_outcome surroundings () heldAsStored).advanced latest () none () found (by
    rw [Surroundings.findMissing, if_neg (by decide)])
  rw [spec, status] at ended
  exact ended

end TickExample

end BundleTrust
