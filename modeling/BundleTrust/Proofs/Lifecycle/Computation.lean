import BundleTrust.Lifecycle.Reconcile
import BundleTrust.Proofs.Controller.Resolution
import BundleTrust.Proofs.Manager.Requests

/-!
# Computing the state of a bundle

The state of a bundle is evaluated in a context, which a manager has to ask for: the version of the
server, whether the bundle is the active one, and the other bundles.  Two states are prompt, as they
follow from the namespace and the name of the bundle alone, and for these the manager asks nothing.

What the manager computes is nevertheless what the evaluation says
(`LifecycleManager.computes_evaluated_state`): the same state wherever the context can be had, and a
failure, where it cannot, for exactly the bundles whose state is not prompt.
-/

namespace BundleTrust

/-- The states that need no look at the cluster. -/
def BundleState.IsPrompt (state : BundleState) : Prop :=
  state = .ignored ∨ state = .invalidVersion

instance (state : BundleState) : Decidable state.IsPrompt :=
  inferInstanceAs (Decidable (_ ∨ _))

namespace Bundle

/-- The state of a bundle that follows from its namespace and its name alone, if it does. -/
def promptState? (bundle : Bundle) (space : String) : Option BundleState :=
  if bundle.space ≠ space then some .ignored
  else if !bundle.hasValidVersion then some .invalidVersion
  else none

/-- The evaluation makes the prompt checks first, and no other one ends in a prompt state. -/
theorem promptState?_eq (bundle : Bundle) (context : LifecycleContext) :
    bundle.promptState? context.space =
      if (bundle.evaluateState context).IsPrompt then some (bundle.evaluateState context)
      else none := by
  rw [promptState?, hasValidVersion]
  by_cases space : bundle.space = context.space
  · cases parsed : BundleVersion.parse? bundle.name with
    | none => simp [evaluateState, space, parsed, BundleState.IsPrompt]
    | some version =>
        have notPrompt : ¬ (bundle.evaluateState context).IsPrompt := by
          simp only [evaluateState, space, parsed, ne_eq, not_true_eq_false, ↓reduceIte]
          repeat' split
          all_goals decide
        simp [space, notPrompt]
  · simp [evaluateState, space, BundleState.IsPrompt]

end Bundle

namespace LifecycleManager

open Reconciliation

variable {World Held : Type}

/-- The context of a bundle that a manager has asked for. -/
def contextWith (manager : LifecycleManager) (server : ServerVersion) (isActive : Bool)
    (store : Store) : LifecycleContext :=
  ⟨manager.configuration.space, server, manager.domain, isActive, store.listBundles⟩

section Execution

variable (manager : LifecycleManager) (surroundings : Surroundings World) (bundle : Bundle)
  (held : Held) (store : Store) (world : World)

/-- The manager computes a prompt state at once, and any other one from what the cluster and the
store tell. -/
theorem execute_compute :
    Reconciliation.execute surroundings.respond (manager.compute bundle) held (store, world) =
      match bundle.promptState? manager.configuration.space with
      | some state => ((.ok state, held), store, world)
      | none =>
          match surroundings.serverVersion manager.configuration.controllerName world with
          | (.error failure, last) => ((.error failure, held), store, last)
          | (.ok server, last) =>
              (((store.isActive bundle).map fun isActive =>
                bundle.evaluateState (manager.contextWith server isActive store), held),
                store, last) := by
  unfold compute Bundle.promptState?
  by_cases space : bundle.space = manager.configuration.space
  · by_cases valid : bundle.hasValidVersion = true
    · simp only [space, valid, execute_bind, execute_demand, Surroundings.respond, Store.answer,
        ne_eq, not_true_eq_false, ↓reduceIte, Bool.not_true, Bool.false_eq_true]
      rcases surroundings.serverVersion manager.configuration.controllerName world with
        ⟨failure | server, last⟩
      · rfl
      · cases active : store.isActive bundle <;> simp only [active] <;> rfl
    · simp [space, valid]
  · simp [space]

/-- A prompt state is computed without a request. -/
theorem requests_compute_eq_nil_iff :
    Reconciliation.requests surroundings.respond (manager.compute bundle) held (store, world) = [] ↔
      (bundle.promptState? manager.configuration.space).isSome := by
  unfold compute Bundle.promptState?
  by_cases space : bundle.space = manager.configuration.space
  · by_cases valid : bundle.hasValidVersion = true
    · simp [space, valid, requests_bind]
    · simp [space, valid]
  · simp [space]

end Execution

/-- What the manager computes for a bundle. -/
def computed (manager : LifecycleManager) (surroundings : Surroundings World) (bundle : Bundle)
    (store : Store) (world : World) : Except BundleError BundleState :=
  (Reconciliation.execute surroundings.respond (manager.compute bundle) bundle (store, world)).1.1

/-- What the manager computes for a bundle agrees with the evaluation of its state.  The store may
be that of another configuration than the manager's. -/
structure AgreesWithEvaluation (manager : LifecycleManager) (surroundings : Surroundings World)
    (bundle : Bundle) (store : Store) (world : World) : Prop where
  /-- Where the version of the server is told and the store has its controller, the state is
  computed that the bundle has in the context of the store. -/
  evaluated : ∀ server controller,
    (surroundings.serverVersion manager.configuration.controllerName world).1 = .ok server →
    store.reservedController = .ok controller →
    manager.computed surroundings bundle store world =
      .ok (bundle.evaluateState (manager.contextWith server
        (decide (bundle.address = ⟨store.space, controller.spec.activeBundle⟩)) store))
  /-- A state that is prompt in any context is computed whatever the server and the store have to
  say. -/
  prompt : ∀ context, context.space = manager.configuration.space →
    (bundle.evaluateState context).IsPrompt →
    manager.computed surroundings bundle store world = .ok (bundle.evaluateState context)
  /-- Nothing is asked for these states, and something for all others. -/
  silent : ∀ context, context.space = manager.configuration.space →
    (Reconciliation.requests surroundings.respond (manager.compute bundle) bundle
      (store, world) = [] ↔ (bundle.evaluateState context).IsPrompt)
  /-- Where the version of the server is not told, the bundles fail whose state is not prompt. -/
  untold : ∀ failure context, context.space = manager.configuration.space →
    (surroundings.serverVersion manager.configuration.controllerName world).1 = .error failure →
    (manager.computed surroundings bundle store world = .error failure ↔
      ¬ (bundle.evaluateState context).IsPrompt)
  /-- Where it is told but the store has no controller, the same bundles fail. -/
  uncontrolled : ∀ server failure context, context.space = manager.configuration.space →
    (surroundings.serverVersion manager.configuration.controllerName world).1 = .ok server →
    store.reservedController = .error failure →
    (manager.computed surroundings bundle store world = .error failure ↔
      ¬ (bundle.evaluateState context).IsPrompt)

section Computed

variable {manager : LifecycleManager} {surroundings : Surroundings World} {bundle : Bundle}
  {store : Store} {world : World}

theorem computed_of_prompt
    {state : BundleState}
    (prompt : bundle.promptState? manager.configuration.space = some state) :
    manager.computed surroundings bundle store world = .ok state := by
  rw [computed, execute_compute, prompt]

theorem computed_of_untold
    {failure : BundleError}
    (notPrompt : bundle.promptState? manager.configuration.space = none)
    (untold : (surroundings.serverVersion manager.configuration.controllerName world).1 =
      .error failure) :
    manager.computed surroundings bundle store world = .error failure := by
  rw [computed, execute_compute, notPrompt, ← Prod.eta (surroundings.serverVersion _ world), untold]

theorem computed_of_told
    {server : ServerVersion}
    (notPrompt : bundle.promptState? manager.configuration.space = none)
    (told : (surroundings.serverVersion manager.configuration.controllerName world).1 =
      .ok server) :
    manager.computed surroundings bundle store world =
      (store.isActive bundle).map fun isActive =>
        bundle.evaluateState (manager.contextWith server isActive store) := by
  rw [computed, execute_compute, notPrompt, ← Prod.eta (surroundings.serverVersion _ world), told]

end Computed

/-- The manager computes what the evaluation says, for every bundle, store and surroundings. -/
theorem computes_evaluated_state
    (manager : LifecycleManager)
    (surroundings : Surroundings World)
    (bundle : Bundle)
    (store : Store)
    (world : World) :
    manager.AgreesWithEvaluation surroundings bundle store world := by
  have prompts (context : LifecycleContext) (space : context.space = manager.configuration.space) :
      bundle.promptState? manager.configuration.space =
        if (bundle.evaluateState context).IsPrompt then some (bundle.evaluateState context)
        else none :=
    space ▸ bundle.promptState?_eq context
  -- A failure of a bundle is that of a bundle without a prompt state.
  have fails (failure : BundleError) (context : LifecycleContext)
      (space : context.space = manager.configuration.space)
      (failed : bundle.promptState? manager.configuration.space = none →
        manager.computed surroundings bundle store world = .error failure) :
      manager.computed surroundings bundle store world = .error failure ↔
        ¬ (bundle.evaluateState context).IsPrompt := by
    constructor
    · intro failing prompt
      rw [computed_of_prompt ((prompts context space).trans (if_pos prompt))] at failing
      cases failing
    · intro notPrompt
      exact failed ((prompts context space).trans (if_neg notPrompt))
  constructor
  case evaluated =>
    intro server controller told reserved
    have prompt := prompts (manager.contextWith server
      (decide (bundle.address = ⟨store.space, controller.spec.activeBundle⟩)) store) rfl
    split at prompt
    · exact computed_of_prompt prompt
    · rw [computed_of_told prompt told, Store.isActive_eq_ok reserved]
      rfl
  case prompt =>
    intro context space prompt
    exact computed_of_prompt ((prompts context space).trans (if_pos prompt))
  case silent =>
    intro context space
    rw [requests_compute_eq_nil_iff, prompts context space]
    split <;> simp [*]
  case untold =>
    intro failure context space untold
    exact fails failure context space fun notPrompt => computed_of_untold notPrompt untold
  case uncontrolled =>
    intro server failure context space told uncontrolled
    refine fails failure context space fun notPrompt => ?_
    rw [computed_of_told notPrompt told, Store.isActive, uncontrolled]
    rfl

end LifecycleManager

namespace ComputationExample

/-- A manager of the standard configuration. -/
def manager : LifecycleManager := .ofConfiguration .standard

/-- Surroundings in which nothing can be reached. -/
def unreachable : Surroundings Unit where
  serverVersion _ world := (.error (.serverVersion "connection refused"), world)
  pull reference world := (.error (.registry reference "connection refused"), world)

/-- The context of a bundle on a server of version 1.20. -/
def context : LifecycleContext :=
  manager.contextWith ⟨"1", "20"⟩ false (.empty .standard)

/-- Without a server and a controller, the state of a bundle with another name than that of a
version is computed nevertheless, and that of a bundle for a server is not. -/
theorem malformed_computed_unreached :
    manager.computed unreachable (.named "eksa-packages" "v1-21") (.empty .standard) () =
        .ok .invalidVersion ∧
      manager.computed unreachable (.named "eksa-packages" "v1-21-1001") (.empty .standard) () =
        .error (.serverVersion "connection refused") :=
  ⟨(LifecycleManager.computes_evaluated_state manager unreachable _ _ ()).prompt context rfl
      (by decide),
    ((LifecycleManager.computes_evaluated_state manager unreachable _ _ ()).untold _ context rfl
      rfl).2 (by decide)⟩

end ComputationExample
end BundleTrust
