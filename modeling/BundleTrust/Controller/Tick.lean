import BundleTrust.Manager.Plan

/-!
# Ticks of controllers

Every tick finds the version of the server, pulls the newest bundle for it, stores that
bundle if it is not known, and then moves the state of the controller:

* A controller without a state takes the newest bundle into use if none is, and is active.
* An active one has its bundle restored if it is missing, and has an upgrade available if the
  newest bundle is another one.
* One with an upgrade available is active again when its bundle is the newest one.
* A disconnected one, and one that had been ignored, is active again.

If the version or the newest bundle cannot be found, an active controller and one without a
state are disconnected, and the next tick comes after the short interval.
-/

namespace BundleTrust

/-- When the next tick comes. -/
inductive Requeue where
  /-- There is none. -/
  | never
  /-- It comes after some time. -/
  | after (interval : Duration)
  deriving DecidableEq, Repr

namespace Controller

/-- The controller with another status. -/
def withStatus (controller : Controller) (state : ControllerState) (detail : String) :
    Controller :=
  { controller with status := ⟨state, detail⟩ }

/-- The reference of the bundle in use. -/
def activeReference (controller : Controller) : String :=
  controller.spec.source.baseReference ++ ":" ++ controller.spec.activeBundle

end Controller

namespace Configuration

/-- Whether a controller is the one that is managed. -/
def isManaged (configuration : Configuration) (controller : Controller) : Bool :=
  controller.name == configuration.controllerName && controller.space == configuration.space

/-- The namespace that the packages of a controller's cluster are installed into. -/
def clusterSpace (configuration : Configuration) (controller : Controller) : String :=
  configuration.space ++ "-" ++ controller.name

end Configuration

/-- A tick of a controller. -/
abbrev Tick (Answer : Type) : Type := Reconciliation Controller Answer

namespace Tick

/-- Store the status of the controller that is held.  It is then held as it was stored. -/
def saveStatus : Tick Unit := do
  let controller ← get
  let stored ← Reconciliation.demand (.store (.saveControllerStatus controller))
  set (σ := Controller) stored

/-- Give the controller that is held a status, and store it if it differs from what it was at
first. -/
def settle (earlier : ControllerStatus) (state : ControllerState) (detail : String) :
    Tick Unit := do
  modify (Controller.withStatus · state detail)
  if earlier = ⟨state, detail⟩ then return ()
  saveStatus

/-- Record that something could not be reached. -/
def disconnect (failure : BundleError) : Tick Unit := do
  let controller ← get
  if controller.status.state = .active ∨ controller.status.state = .unset then
    settle controller.status .disconnected failure.message

/-- Store the newest bundle if none of its name is listed. -/
def register (latest : Bundle) : Tick Unit := do
  let known ← Reconciliation.demand (.store .listBundles)
  if known.any fun bundle => bundle.name == latest.name then return ()
  let _ ← Reconciliation.demand (.store (.createBundle latest))

/-- Restore the bundle in use if it is missing in the store. -/
def restoreActive (space : String) : Tick Unit := do
  let controller ← get
  let name := controller.spec.activeBundle
  if name.isEmpty then return ()
  match ← Reconciliation.ask (.store .activeBundle) with
  | .ok _ => return ()
  | .error (.notFound _ _ _) =>
      match ← Reconciliation.pullBundle controller.activeReference with
      | .error failure => throw failure
      | .ok bundle =>
          let metadata := { bundle.metadata with space := space, name := name }
          let _ ← Reconciliation.demand
            (.store (.createBundle { bundle with metadata := metadata }))
  | .error failure => throw failure

/-- Take a bundle into use if none is. -/
def adopt (latest : String) : Tick Unit := do
  let controller ← get
  if !controller.spec.activeBundle.isEmpty then return ()
  let adopting := controller.withActiveBundle latest
  set adopting
  let stored ← Reconciliation.demand (.store (.saveController adopting))
  set (σ := Controller) { stored with status := controller.status }

/-- Move the state of the controller that is held, given the name of the newest bundle. -/
def advance (configuration : Configuration) (latest : String) : Tick Unit := do
  let controller ← get
  let earlier := controller.status
  match earlier.state with
  | .active =>
      let _ ← Reconciliation.demand
        (.store (.ensureSpace (configuration.clusterSpace controller)))
      restoreActive configuration.space
      if latest ≠ controller.spec.activeBundle then
        settle earlier .upgradeAvailable (latest ++ " available")
  | .upgradeAvailable =>
      if latest = controller.spec.activeBundle then settle earlier .active ""
  | .disconnected => settle earlier .active ""
  | .ignored => settle earlier .active ""
  | .unset =>
      adopt latest
      settle earlier .active ""
  | .unknown =>
      adopt latest
      settle earlier .active ""

/-- A tick of the controller that is managed. -/
def managed (configuration : Configuration) : Tick Requeue := do
  let controller ← get
  match ← Reconciliation.ask (.serverVersion controller.name) with
  | .error failure =>
      disconnect failure
      return .after controller.spec.shortInterval
  | .ok server =>
      let reference := latestReference controller.spec.source.baseReference server
      match ← Reconciliation.pullBundle reference with
      | .error failure =>
          disconnect failure
          return .after controller.spec.shortInterval
      | .ok bundle =>
          let metadata := { bundle.metadata with space := configuration.space }
          register { bundle with metadata := metadata }
          advance configuration bundle.name
          let controller ← get
          return .after controller.spec.interval

/-- A tick of a controller that is not managed. -/
def unmanaged : Tick Requeue := do
  let controller ← get
  if controller.status.state ≠ .ignored then
    set (controller.withStatus .ignored "")
    saveStatus
  return .never

end Tick

/-- One tick of the controller that is held.  A failure that may be gone at the next attempt
is answered with the short interval. -/
def Controller.reconcile (configuration : Configuration) : Tick Requeue := do
  let controller ← get
  if !configuration.isManaged controller then Tick.unmanaged
  else
    try Tick.managed configuration
    catch failure =>
      if failure.isRetryable then return .after controller.spec.shortInterval
      else throw failure

/-- A tick tries again soon after a failure that may be gone at the next attempt. -/
theorem Controller.reconcile_eq (configuration : Configuration) :
    Controller.reconcile configuration = (do
      let controller ← get
      if !configuration.isManaged controller then Tick.unmanaged
      else
        tryCatch (Tick.managed configuration) fun failure =>
          if failure.isRetryable then pure (Requeue.after controller.spec.shortInterval)
          else throw failure : Tick Requeue) := by
  rw [Controller.reconcile]
  refine congrArg _ (funext fun controller => ?_)
  split
  · rfl
  · funext held
    -- The early return of the handler is one more layer around the attempt.
    change (((Tick.managed configuration held).bind _).bind _).bind _ = Script.bind _ _
    rw [Script.bind_bind, Script.bind_bind]
    refine congrArg _ (funext fun ⟨outcome, left⟩ => ?_)
    cases outcome with
    | ok answer => rfl
    | error failure =>
        change Script.bind ((if failure.isRetryable then (_ : Controller → _) else _) left) _ =
          (if failure.isRetryable then (_ : Controller → _) else _) left
        cases failure.isRetryable <;> rfl

end BundleTrust
