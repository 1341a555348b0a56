import BundleTrust.Proofs.Controller.CarefulTicks
import BundleTrust.Proofs.Controller.TickOutcome

/-!
# The choice of the operator

Any number of ticks run at once, on documents of any age, and an operator and others use the
store beside them (`Fleet`).  What a tick asks of the store in their midst never changes the
bundle that a stored controller has in use (`operator_choice_kept`).

What is true of a fleet after every step is that its ticks are careful and that the documents
that they left came from stored states (`Fleet.Sound`).
-/

namespace BundleTrust

namespace Store

/-! ## What a careful request does to a stored controller -/

section Requests

variable {store : Store} {states : List StoredDocument} {address : Address}
  {stored controller : Controller}

/-- A spec that is written over a state in which no bundle is in use does not change a bundle
that is in use. -/
theorem Ledger.activeBundle_saveController
    (ledger : store.Ledger states)
    (careful : (ManagerRequest.store (.saveController controller)).IsCareful states)
    (isStored : store.controller? address = some stored)
    (chosen : stored.spec.activeBundle ≠ "") :
    (store.saveController controller).2.controller? address = some stored := by
  obtain ⟨base, isState, sameAddress, sameVersion, vacant⟩ := careful
  obtain ⟨version, given, -⟩ := ledger.issued _ isState
  have carried : controller.metadata.resourceVersion = some version := sameVersion ▸ given
  have write := store.conditionalWrite_saveController controller
  have found := ledger.present _ isState
  obtain ⟨present, isPresent⟩ := Option.isSome_iff_exists.1 found
  have place : (StoredDocument.controller base).place =
      (StoredDocument.controller controller).place :=
    congrArg (Place.mk .controller) sameAddress
  rw [place] at isPresent
  by_cases current : present.version = some version
  · -- The state that is written over is the one that the document came from.
    have isBase : present = .controller base :=
      ledger.eq_of_version (ledger.current _ _ isPresent) isState (current.trans given.symm)
    have based : ∀ expected, controller.metadata.resourceVersion = some expected →
        present.version = some expected := by
      rintro expected same
      rw [current, ← carried, same]
    obtain ⟨written, -, samePlace, stores⟩ := write.current present isPresent based
    have elsewhere : written.place ≠ ⟨.controller, address⟩ := by
      intro here
      rw [← samePlace, here, isBase, find?_eq_controller_iff, isStored] at isPresent
      cases isPresent
      exact chosen vacant
    have after := stores.find? ⟨.controller, address⟩
    rw [if_neg elsewhere, find?_eq_controller_iff.2 isStored] at after
    exact find?_eq_controller_iff.1 after
  · have refused := (write.stale present version isPresent carried current).2
    change (store.saveController controller).2 = store.advance at refused
    rw [refused]
    exact isStored

/-- A careful request does not change a bundle that a stored controller has in use. -/
theorem Ledger.activeBundle_answer
    {request : StoreRequest}
    (ledger : store.Ledger states)
    (careful : (ManagerRequest.store request).IsCareful states)
    (isStored : store.controller? address = some stored)
    (chosen : stored.spec.activeBundle ≠ "") :
    ∃ after, (store.answer request).2.controller? address = some after ∧
      after.spec.activeBundle = stored.spec.activeBundle := by
  have unchanged (same : (store.answer request).2.controllers = store.controllers) :
      ∃ after, (store.answer request).2.controller? address = some after ∧
        after.spec.activeBundle = stored.spec.activeBundle :=
    ⟨stored, (controller?_congr same address).trans isStored, rfl⟩
  cases request with
  | createBundle bundle => exact unchanged (store.controllers_createBundle bundle)
  | saveBundleStatus bundle => exact unchanged (store.controllers_saveBundleStatus bundle)
  | saveController controller =>
      exact ⟨stored, ledger.activeBundle_saveController careful isStored chosen, rfl⟩
  | saveControllerStatus controller =>
      have spec := store.spec_saveControllerStatus controller address
      rw [isStored, Option.map_some, Option.map_eq_some_iff] at spec
      obtain ⟨after, isAfter, same⟩ := spec
      exact ⟨after, isAfter, congrArg ControllerSpec.activeBundle same⟩
  | ensureSpace name => exact unchanged (store.controllers_ensureSpace name)
  | listBundles | isActive bundle | activeBundle => exact unchanged rfl

end Requests

end Store

/-! ## Fleets of ticks -/

/-- A tick that runs: what is left of its plan. -/
abbrev RunningTick : Type := Plan (Except BundleError Requeue × Controller)

/-- Ticks that run beside each other and beside others that use the store. -/
structure Fleet where
  /-- The store. -/
  store : Store
  /-- Every document state that was stored so far.  What the store returned is one of them. -/
  states : List StoredDocument
  /-- The documents that ticks left when they ended. -/
  left : List Controller
  /-- The ticks that run. -/
  running : List RunningTick

/-- Whether the reply to a request does not come from a store in one step.  The active bundle is
found in two steps, with the name of the bundle read in the first one. -/
def ManagerRequest.IsUnsettled : ManagerRequest → Prop
  | .serverVersion _ | .pull _ | .store .activeBundle => True
  | .store _ => False

namespace Fleet

/-- A new store and no ticks. -/
def start (configuration : Configuration) : Fleet := ⟨.empty configuration, [], [], []⟩

/-- The store carries out an operation. -/
def perform (fleet : Fleet) (operation : StoreOperation) : Fleet :=
  { fleet with
    store := fleet.store.perform operation
    states := fleet.states ++ (fleet.store.written? operation).toList }

/-- What happens next. -/
inductive Step (fleet : Fleet) : Fleet → Prop where
  /-- The operator, or anyone else, uses the store. -/
  | operate (operation : StoreOperation) : Step fleet (fleet.perform operation)
  /-- A tick begins with a document that the store returned or another tick left. -/
  | begin (configuration : Configuration) (controller : Controller)
      (known : .controller controller ∈ fleet.states ∨ controller ∈ fleet.left) :
      Step fleet
        { fleet with
          running := (Controller.reconcile configuration).plan controller :: fleet.running }
  /-- The store answers a tick. -/
  | answer {before after : List RunningTick} {request : StoreRequest}
      {next : Except BundleError request.Result → RunningTick}
      (runs : fleet.running = before ++ .ask (.store request) next :: after) :
      Step fleet
        { fleet.perform (.request request) with
          running := before ++ next (fleet.store.answer request).1 :: after }
  /-- A tick gets a reply that does not come from the store in one step, whatever it is. -/
  | reply {before after : List RunningTick} {request : ManagerRequest}
      {next : request.Reply → RunningTick}
      (runs : fleet.running = before ++ .ask request next :: after)
      (isUnsettled : request.IsUnsettled)
      (reply : request.Reply) :
      Step fleet { fleet with running := before ++ next reply :: after }
  /-- A tick ends and leaves its document. -/
  | finish {before after : List RunningTick} {answer : Except BundleError Requeue}
      {controller : Controller}
      (runs : fleet.running = before ++ .done (answer, controller) :: after) :
      Step fleet
        { fleet with
          running := before ++ after
          left := controller :: fleet.left }

/-- The fleets that may come of a new store. -/
inductive Reachable (configuration : Configuration) : Fleet → Prop where
  | start : Reachable configuration (start configuration)
  | step {fleet next : Fleet} (reachable : Reachable configuration fleet)
      (step : Step fleet next) : Reachable configuration next

/-- The store is in order with the states that were stored, the ticks are careful, and the
documents that they left came from stored states. -/
structure Sound (fleet : Fleet) : Prop where
  ledger : fleet.store.Ledger fleet.states
  left : ∀ controller ∈ fleet.left, controller.CameFrom fleet.states
  running : ∀ tick ∈ fleet.running, Plan.IsCareful fleet.states tick

theorem sound_start (configuration : Configuration) : (start configuration).Sound :=
  ⟨Store.ledger_empty configuration, by simp [start], by simp [start]⟩

section Soundness

variable {fleet next : Fleet}

/-- Any reply that does not come from a store in one step tells of no stored controller. -/
theorem isTrue_of_isUnsettled
    {request : ManagerRequest}
    (isUnsettled : request.IsUnsettled)
    (states : List StoredDocument)
    (reply : request.Reply) :
    request.IsTrue states reply := by
  unfold ManagerRequest.IsUnsettled at isUnsettled
  split at isUnsettled
  · trivial
  · trivial
  · trivial
  · cases isUnsettled

/-- Ticks stay careful while the store is used beside them. -/
theorem Sound.perform
    (sound : fleet.Sound)
    (operation : StoreOperation) :
    (fleet.perform operation).Sound := by
  have grown := List.subset_append_left fleet.states (fleet.store.written? operation).toList
  refine ⟨sound.ledger.perform operation, fun controller isLeft => ?_, fun tick isRunning => ?_⟩
  · exact (sound.left controller isLeft).mono grown
  · exact (sound.running tick isRunning).mono (fun grown => .mono grown) (fun grown => .mono grown)
      grown

/-- Every step keeps a fleet sound. -/
theorem Sound.step
    (sound : fleet.Sound)
    (step : Step fleet next) :
    next.Sound := by
  cases step with
  | operate operation => exact sound.perform operation
  | begin configuration controller known =>
      have came : controller.CameFrom fleet.states := known.elim .of_mem (sound.left controller)
      refine ⟨sound.ledger, sound.left, fun tick isRunning => ?_⟩
      rcases List.mem_cons.1 isRunning with rfl | old
      · exact Controller.careful_reconcile configuration _ _ came
      · exact sound.running tick old
  | @answer before after request goesOn runs =>
      have performed := sound.perform (.request request)
      have careful := sound.running
      rw [runs, List.forall_mem_append, List.forall_mem_cons] at careful
      have others := performed.running
      change ∀ tick ∈ fleet.running, _ at others
      rw [runs, List.forall_mem_append, List.forall_mem_cons] at others
      refine ⟨performed.ledger, performed.left, ?_⟩
      refine List.forall_mem_append.2 ⟨others.1, List.forall_mem_cons.2 ⟨?_, others.2.2⟩⟩
      -- The tick goes on with a true reply, after what it wrote is entered.
      exact careful.2.1.2 _ _ (List.subset_append_left _ _) (fleet.store.isTrue_answer _ request)
  | @reply before after request goesOn runs isUnsettled reply =>
      have careful := sound.running
      rw [runs, List.forall_mem_append, List.forall_mem_cons] at careful
      refine ⟨sound.ledger, sound.left, ?_⟩
      refine List.forall_mem_append.2 ⟨careful.1, List.forall_mem_cons.2 ⟨?_, careful.2.2⟩⟩
      exact careful.2.1.2 reply _ (List.Subset.refl _) (isTrue_of_isUnsettled isUnsettled _ reply)
  | @finish before after answer controller runs =>
      have careful := sound.running
      rw [runs, List.forall_mem_append, List.forall_mem_cons] at careful
      refine ⟨sound.ledger, ?_, List.forall_mem_append.2 ⟨careful.1, careful.2.2⟩⟩
      exact List.forall_mem_cons.2 ⟨careful.2.1, sound.left⟩

/-- Every run of a fleet keeps it sound. -/
theorem Reachable.sound
    {configuration : Configuration}
    (reachable : Reachable configuration fleet) :
    fleet.Sound := by
  induction reachable with
  | start => exact sound_start configuration
  | step _ step ih => exact ih.step step

/-- A step carries out at most one operation of the store. -/
theorem Step.exists_run (step : Step fleet next) :
    ∃ operations, next.store = fleet.store.run operations := by
  cases step with
  | operate operation => exact ⟨[operation], rfl⟩
  | @answer before after request goesOn runs => exact ⟨[.request request], rfl⟩
  | begin | reply | finish => exact ⟨[], rfl⟩

/-- The store of a fleet comes of a run of operations. -/
theorem Reachable.exists_run
    {configuration : Configuration}
    (reachable : Reachable configuration fleet) :
    ∃ operations, fleet.store = (Store.empty configuration).run operations := by
  induction reachable with
  | start => exact ⟨[], rfl⟩
  | step _ step ih =>
      obtain ⟨earlier, ran⟩ := ih
      obtain ⟨operations, runs⟩ := step.exists_run
      exact ⟨earlier ++ operations, by rw [runs, ran, Store.run_append]⟩

end Soundness

/-! ### One tick among others -/

section Tick

variable {configuration : Configuration} {store : Store} {states : List StoredDocument}
  {left : List Controller} {others : List RunningTick} {tick : RunningTick}

/-- The tick that began last gets a reply that does not come from the store in one step. -/
theorem Reachable.reply
    {request : ManagerRequest}
    {next : request.Reply → RunningTick}
    {reply : request.Reply}
    (reachable : Reachable configuration ⟨store, states, left, .ask request next :: others⟩)
    (isUnsettled : request.IsUnsettled)
    (goesOn : next reply = tick) :
    Reachable configuration ⟨store, states, left, tick :: others⟩ :=
  goesOn ▸ reachable.step (@Step.reply _ [] others request next rfl isUnsettled reply)

/-- The store answers the tick that began last. -/
theorem Reachable.answer
    {request : StoreRequest}
    {next : Except BundleError request.Result → RunningTick}
    {reply : Except BundleError request.Result}
    (reachable : Reachable configuration
      ⟨store, states, left, .ask (.store request) next :: others⟩)
    (replied : (store.answer request).1 = reply)
    (goesOn : next reply = tick) :
    Reachable configuration
      ⟨store.perform (.request request), states ++ (store.written? (.request request)).toList,
        left, tick :: others⟩ :=
  goesOn ▸ replied ▸ reachable.step (@Step.answer _ [] others request next rfl)

end Tick

end Fleet

/-- Whatever a running tick asks of the store next, in any run of any number of ticks beside an
operator, a stored controller keeps the bundle that it has in use.  The store has given no more
versions by then than operations were carried out. -/
theorem operator_choice_kept
    {configuration : Configuration}
    {fleet : Fleet}
    {request : StoreRequest}
    {next : Except BundleError request.Result → RunningTick}
    {address : Address}
    {stored : Controller}
    (reachable : Fleet.Reachable configuration fleet)
    (runs : .ask (.store request) next ∈ fleet.running)
    (isStored : fleet.store.controller? address = some stored)
    (chosen : stored.spec.activeBundle ≠ "") :
    (∃ after, (fleet.store.answer request).2.controller? address = some after ∧
        after.spec.activeBundle = stored.spec.activeBundle) ∧
      ∃ operations, fleet.store = (Store.empty configuration).run operations ∧
        fleet.store.revision ≤ operations.length := by
  constructor
  · have sound := reachable.sound
    have careful := (sound.running _ runs).1
    exact sound.ledger.activeBundle_answer careful isStored chosen
  · obtain ⟨operations, ran⟩ := reachable.exists_run
    refine ⟨operations, ran, ?_⟩
    rw [ran]
    simpa [Store.empty] using (Store.empty configuration).revision_run_le operations

namespace TickExample

/-- The controller with a bundle that an operator chooses. -/
def chosen : Controller :=
  (Controller.named Configuration.standard.space
    Configuration.standard.controllerName).withActiveBundle "v1-21-1000"

/-- The tick of a new controller that finds its newest bundle, request by request, until it is
about to take the bundle into use. -/
theorem exists_adopting_plan :
    ∃ onVersion, (Controller.reconcile .standard).plan controller =
        .ask (.serverVersion controller.name) onVersion ∧
      ∃ onPull, onVersion (.ok ⟨"1", "21"⟩) =
          .ask (.pull (latestReference controller.spec.source.baseReference ⟨"1", "21"⟩)) onPull ∧
        ∃ onList, onPull (.ok artifact) = .ask (.store .listBundles) onList ∧
          ∃ onCreate, onList (.ok []) =
              .ask (.store (.createBundle (latest.inSpace "eksa-packages"))) onCreate ∧
            ∃ onSave, ∀ created, onCreate (.ok created) =
              .ask (.store (.saveController (controller.withActiveBundle latest.name))) onSave := by
  rw [Controller.reconcile_eq]
  refine ⟨_, rfl, _, rfl, ?_⟩
  dsimp only
  rw [Except.bind, bundleOfArtifact_artifact]
  exact ⟨_, rfl, _, rfl, _, fun created => rfl⟩

/-- A tick is about to take the newest bundle into use when an operator chooses another one. -/
theorem choice_kept_from_adopting :
    ∃ fleet next, Fleet.Reachable .standard fleet ∧
      .ask (.store (.saveController (controller.withActiveBundle latest.name))) next ∈
        fleet.running ∧
      ∃ stored, fleet.store.controller? controller.address = some stored ∧
        stored.spec.activeBundle = "v1-21-1000" ∧
        ∃ after, (fleet.store.answer (.saveController
              (controller.withActiveBundle latest.name))).2.controller? controller.address =
            some after ∧
          after.spec.activeBundle = "v1-21-1000" := by
  obtain ⟨onVersion, planned, onPull, pulls, onList, lists, onCreate, creates, onSave, saves⟩ :=
    exists_adopting_plan
  have begun : Fleet.Reachable .standard
      ⟨store, [.controller controller], [], [(Controller.reconcile .standard).plan controller]⟩ :=
    (Fleet.Reachable.start.step (.operate (.putController _))).step
      (.begin .standard controller (.inl (List.mem_singleton.2 rfl)))
  rw [planned] at begun
  have nothing : (store.answer .listBundles).1 = .ok [] :=
    congrArg Except.ok List.mergeSort_nil
  have saving := ((begun.reply trivial pulls).reply trivial lists).answer nothing creates
  have adopting := (saving.answer rfl (saves _)).step (.operate (.putController chosen))
  have isStored : ((store.register (latest.inSpace "eksa-packages")).putController
      chosen).2.controller? controller.address = some (chosen.withVersion "3") := by decide
  obtain ⟨⟨after, isAfter, kept⟩, -⟩ := operator_choice_kept adopting (List.mem_singleton.2 rfl)
    isStored (by decide)
  exact ⟨_, onSave, adopting, List.mem_singleton.2 rfl, _, isStored, rfl, after, isAfter, kept⟩

end TickExample

end BundleTrust
