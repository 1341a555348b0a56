import BundleTrust.Proofs.Controller.TickParts
import BundleTrust.Proofs.Manager.Requests

/-!
# What ticks ask

A tick may hold a controller of any age, also one that is not stored, so that its writes may be
refused.  What it asks for is the same: of all its requests only three can store a bundle or
change the spec of a controller, and for each it is known which document it carries and when it
is made (`Tick.Writes`).
-/

namespace BundleTrust

/-- A request that stores no bundle and no spec of a controller. -/
def ManagerRequest.IsHousekeeping : ManagerRequest → Prop
  | .store (.createBundle _) | .store (.saveBundleStatus _) | .store (.saveController _) => False
  | _ => True

/-- The requests of a part of a tick of a controller, each with the store and the world that it
is made in. -/
abbrev Surroundings.requests {World Answer : Type} (surroundings : Surroundings World)
    (part : Tick Answer) (controller : Controller) (store : Store) (world : World) :
    List (ManagerRequest × Store × World) :=
  Reconciliation.requests surroundings.respond part controller (store, world)

namespace Tick

open Reconciliation

variable {World : Type} {surroundings : Surroundings World} {configuration : Configuration}
  {controller : Controller} {store : Store} {world : World}
  {entry : ManagerRequest × Store × World}

/-- A request of a tick that stores a bundle or changes the spec of the controller. -/
inductive Writes (configuration : Configuration) (surroundings : Surroundings World)
    (controller : Controller) (store : Store) (world : World) :
    ManagerRequest × Store × World → Prop where
  /-- The newest bundle is stored in the namespace of the manager. -/
  | latest (latest : Bundle) (between : World)
      (found : surroundings.findLatest controller world = (.ok latest, between)) :
      Writes configuration surroundings controller store world
        (.store (.createBundle (latest.inSpace configuration.space)), store, between)
  /-- The bundle in use is stored in that namespace with the name that the controller has for
  it. -/
  | missing (latest pulled : Bundle) (between : World) (state : Store × World)
      (found : surroundings.findLatest controller world = (.ok latest, between))
      (served : (surroundings.pullBundle controller.activeReference between).1 = .ok pulled) :
      Writes configuration surroundings controller store world
        (.store (.createBundle
          (pulled.kept configuration.space controller.spec.activeBundle)), state)
  /-- The newest bundle, which is stored by then, is taken into use. -/
  | adopted (latest : Bundle) (between : World)
      (found : surroundings.findLatest controller world = (.ok latest, between)) :
      Writes configuration surroundings controller store world
        (.store (.saveController (controller.withActiveBundle latest.name)),
          store.register (latest.inSpace configuration.space), between)

/-! ## The parts -/

/-- To store a status is housekeeping. -/
theorem housekeeping_saveStatus
    (isAsked : entry ∈ surroundings.requests saveStatus controller store world) :
    entry.1.IsHousekeeping := by
  simp only [saveStatus, Surroundings.requests, requests_bind _ _ _ get, requests_get, execute_get,
    List.nil_append] at isAsked
  rw [requests_bind_of_silent _ fun _ _ _ => rfl, requests_demand, List.mem_singleton] at isAsked
  rw [isAsked]
  trivial

theorem housekeeping_settle
    {earlier : ControllerStatus}
    {state : ControllerState}
    {detail : String}
    (isAsked : entry ∈ surroundings.requests (settle earlier state detail) controller store
      world) :
    entry.1.IsHousekeeping := by
  simp only [settle, Surroundings.requests, requests_bind, requests_modify, execute_modify,
    List.nil_append] at isAsked
  split at isAsked
  · simp at isAsked
  · exact housekeeping_saveStatus isAsked

theorem housekeeping_disconnect
    {failure : BundleError}
    (isAsked : entry ∈ surroundings.requests (disconnect failure) controller store world) :
    entry.1.IsHousekeeping := by
  simp only [disconnect, Surroundings.requests, requests_bind, requests_get, execute_get,
    List.nil_append] at isAsked
  split at isAsked
  · exact housekeeping_settle isAsked
  · simp at isAsked

theorem housekeeping_unmanaged
    (isAsked : entry ∈ surroundings.requests unmanaged controller store world) :
    entry.1.IsHousekeeping := by
  simp only [unmanaged, Surroundings.requests, requests_bind, requests_get, execute_get,
    List.nil_append] at isAsked
  split at isAsked
  · simp only [requests_bind _ _ _ (set _), requests_set, execute_set, List.nil_append] at isAsked
    rw [requests_bind_of_silent _ fun _ _ _ => rfl] at isAsked
    exact housekeeping_saveStatus isAsked
  · simp at isAsked

/-- The newest bundle is stored, if it is, right after the bundles were listed. -/
theorem requests_register
    {latest : Bundle}
    (isAsked : entry ∈ surroundings.requests (register latest) controller store world) :
    entry.1.IsHousekeeping ∨ entry = (.store (.createBundle latest), store, world) := by
  simp only [register, Surroundings.requests, requests_bind, requests_demand, execute_demand,
    List.mem_append, List.mem_singleton, Surroundings.respond, Store.answer] at isAsked
  rcases isAsked with rfl | isAsked
  · exact .inl trivial
  · split at isAsked
    · simp at isAsked
    · rw [requests_bind_of_silent _ fun _ _ _ => rfl, requests_demand, List.mem_singleton]
        at isAsked
      exact .inr isAsked

/-- The bundle that is stored for a missing one is what the registry has for it. -/
theorem requests_restoreActive
    {space : String}
    (isAsked : entry ∈ surroundings.requests (restoreActive space) controller store world) :
    entry.1.IsHousekeeping ∨ ∃ pulled,
      (surroundings.pullBundle controller.activeReference world).1 = .ok pulled ∧
        entry.1 = .store (.createBundle (pulled.kept space controller.spec.activeBundle)) := by
  simp only [restoreActive, Surroundings.requests, requests_bind, requests_get, execute_get,
    List.nil_append] at isAsked
  split at isAsked
  · simp at isAsked
  · simp only [requests_bind, requests_ask, execute_ask, List.mem_append, List.mem_singleton,
      Surroundings.respond, Store.answer] at isAsked
    rcases isAsked with rfl | isAsked
    · exact .inl trivial
    · split at isAsked
      · simp at isAsked
      · simp only [requests_bind, requests_pullBundle, execute_pullBundle, List.mem_append,
          List.mem_singleton, Surroundings.respond] at isAsked
        rcases isAsked with rfl | isAsked
        · exact .inl trivial
        · split at isAsked
          · simp at isAsked
          · next pulled served =>
              rw [requests_bind_of_silent _ fun _ _ _ => rfl, requests_demand,
                List.mem_singleton] at isAsked
              exact .inr ⟨pulled, served, congrArg Prod.fst isAsked⟩
      · simp at isAsked

/-- A bundle is taken into use before anything else is asked. -/
theorem requests_adopt
    {latest : String}
    (isAsked : entry ∈ surroundings.requests (adopt latest) controller store world) :
    entry = (.store (.saveController (controller.withActiveBundle latest)), store, world) := by
  simp only [adopt, Surroundings.requests, requests_bind, requests_get, execute_get,
    List.nil_append] at isAsked
  split at isAsked
  · simp at isAsked
  · simp only [requests_bind _ _ _ (set _), requests_set, execute_set, List.nil_append] at isAsked
    rw [requests_bind_of_silent _ fun _ _ _ => rfl, requests_demand, List.mem_singleton] at isAsked
    exact isAsked

theorem housekeeping_of_mem_adopt_settle
    {latest : String}
    {earlier : ControllerStatus}
    (isAsked : entry ∈ surroundings.requests (do adopt latest; settle earlier .active "")
      controller store world) :
    entry.1.IsHousekeeping ∨
      entry = (.store (.saveController (controller.withActiveBundle latest)), store, world) := by
  simp only [Surroundings.requests, requests_bind, List.mem_append] at isAsked
  rcases isAsked with isAsked | isAsked
  · exact .inr (requests_adopt isAsked)
  · split at isAsked
    · exact .inl (housekeeping_settle isAsked)
    · simp at isAsked

/-- A controller that moves on may have its bundle restored or the newest one taken into use. -/
theorem requests_advance
    {latest : String}
    (isAsked : entry ∈ surroundings.requests (advance configuration latest) controller store
      world) :
    entry.1.IsHousekeeping ∨
      (∃ pulled, (surroundings.pullBundle controller.activeReference world).1 = .ok pulled ∧
        entry.1 = .store (.createBundle
          (pulled.kept configuration.space controller.spec.activeBundle))) ∨
      entry = (.store (.saveController (controller.withActiveBundle latest)), store, world) := by
  simp only [advance, Surroundings.requests, requests_bind, requests_get, execute_get,
    List.nil_append] at isAsked
  cases state : controller.status.state with
  | active =>
      simp only [state, requests_bind, requests_demand, execute_demand, List.mem_append,
        List.mem_singleton, Surroundings.respond, Store.answer] at isAsked
      rcases isAsked with rfl | isAsked | isAsked
      · exact .inl trivial
      · exact (requests_restoreActive isAsked).imp_right .inl
      · split at isAsked
        · split at isAsked
          · exact .inl (housekeeping_settle isAsked)
          · simp at isAsked
        · simp at isAsked
  | upgradeAvailable =>
      simp only [state] at isAsked
      split at isAsked
      · exact .inl (housekeeping_settle isAsked)
      · simp at isAsked
  | disconnected | ignored =>
      simp only [state] at isAsked
      exact .inl (housekeeping_settle isAsked)
  | unset | unknown =>
      simp only [state] at isAsked
      exact (housekeeping_of_mem_adopt_settle isAsked).imp_right .inr

/-- A tick of the controller that is managed makes writes or does housekeeping. -/
theorem requests_managed
    (isFor : store.IsFor configuration)
    (isAsked : entry ∈ surroundings.requests (managed configuration) controller store world) :
    entry.1.IsHousekeeping ∨
      Writes configuration surroundings controller store world entry := by
  simp only [managed, Surroundings.requests, requests_bind, requests_get, execute_get,
    requests_ask, execute_ask, List.nil_append, List.mem_append, List.mem_singleton] at isAsked
  rcases isAsked with rfl | isAsked
  · exact .inl trivial
  simp only [Surroundings.respond] at isAsked
  rcases version : surroundings.serverVersion controller.name world with ⟨failure | server, asked⟩
  · rw [version, requests_bind_of_silent _ fun _ _ _ => rfl] at isAsked
    exact .inl (housekeeping_disconnect isAsked)
  simp only [version, requests_bind, requests_pullBundle, execute_pullBundle, List.mem_append,
    List.mem_singleton] at isAsked
  rcases isAsked with rfl | isAsked
  · exact .inl trivial
  simp only [Surroundings.respond] at isAsked
  rcases pulled : (surroundings.pull
      (latestReference controller.spec.source.baseReference server) asked).1.bind
      (bundleOfArtifact (latestReference controller.spec.source.baseReference server)) with
    failure | latest
  · rw [pulled, requests_bind_of_silent _ fun _ _ _ => rfl] at isAsked
    exact .inl (housekeeping_disconnect isAsked)
  have found : surroundings.findLatest controller world = (.ok latest, (surroundings.pull
      (latestReference controller.spec.source.baseReference server) asked).2) := by
    simp only [Surroundings.findLatest, version, Surroundings.pullBundle, pulled]
  have registering (last : World) :
      surroundings.execute (register (latest.inSpace configuration.space)) controller store last =
        ((.ok (), controller), store.register (latest.inSpace configuration.space), last) :=
    execute_register surroundings last isFor.space.symm
  simp only [Surroundings.execute, Bundle.inSpace] at registering
  simp only [pulled, requests_bind, registering, List.mem_append, requests_get, execute_get]
    at isAsked
  rcases isAsked with isAsked | isAsked | isAsked
  · rcases requests_register isAsked with housekeeping | rfl
    · exact .inl housekeeping
    · exact .inr (.latest latest _ found)
  · rcases requests_advance isAsked with housekeeping | ⟨missing, served, isMissing⟩ | rfl
    · exact .inl housekeeping
    · obtain ⟨request, state⟩ := entry
      obtain rfl := isMissing
      exact .inr (.missing latest missing _ state found served)
    · exact .inr (.adopted latest _ found)
  · split at isAsked <;> simp at isAsked

/-- A tick makes writes or does housekeeping, whatever controller it holds. -/
theorem requests_reconcile
    (isFor : store.IsFor configuration)
    (isAsked : entry ∈ surroundings.requests (Controller.reconcile configuration) controller store
      world) :
    entry.1.IsHousekeeping ∨
      Writes configuration surroundings controller store world entry := by
  simp only [Controller.reconcile_eq, Surroundings.requests, requests_bind, requests_get,
    execute_get, List.nil_append] at isAsked
  split at isAsked
  · exact .inl (housekeeping_unmanaged isAsked)
  · simp only [requests_tryCatch, List.mem_append] at isAsked
    rcases isAsked with isAsked | isAsked
    · exact requests_managed isFor isAsked
    · -- After a failure nothing more is asked.
      split at isAsked
      · simp at isAsked
      · split at isAsked <;> simp at isAsked

end Tick
end BundleTrust
