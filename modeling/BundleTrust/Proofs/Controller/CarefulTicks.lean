import BundleTrust.Controller.Tick
import BundleTrust.Proofs.Manager.Conduct

/-!
# Ticks are careful

A tick writes the spec of a controller only to take a bundle into use, and only over a stored
state in which none is in use, if its document came from a stored state (`Tick.Careful`).  It
may work on a document of any age, and it leaves one that came from a stored state as well,
also when it fails.
-/

namespace BundleTrust

/-- A document of a controller came from a stored state, which it carries the address and the
version of.  If no bundle is in use in the document, none was in use in that state. -/
def Controller.CameFrom (states : List StoredDocument) (controller : Controller) : Prop :=
  ∃ base, .controller base ∈ states ∧ base.address = controller.address ∧
    base.metadata.resourceVersion = controller.metadata.resourceVersion ∧
    (controller.spec.activeBundle = "" → base.spec.activeBundle = "")

/-- A spec is written only over a stored state in which no bundle is in use. -/
def ManagerRequest.IsCareful (states : List StoredDocument) : ManagerRequest → Prop
  | .store (.saveController controller) =>
      ∃ base, .controller base ∈ states ∧ base.address = controller.address ∧
        base.metadata.resourceVersion = controller.metadata.resourceVersion ∧
        base.spec.activeBundle = ""
  | _ => True

section Growth

variable {states later : List StoredDocument}

theorem Controller.CameFrom.mono
    {controller : Controller}
    (grown : states ⊆ later)
    (came : controller.CameFrom states) :
    controller.CameFrom later := by
  obtain ⟨base, isState, same⟩ := came
  exact ⟨base, grown isState, same⟩

theorem Controller.CameFrom.of_mem
    {controller : Controller}
    (isState : .controller controller ∈ states) :
    controller.CameFrom states :=
  ⟨controller, isState, rfl, rfl, id⟩

theorem ManagerRequest.IsCareful.mono
    {request : ManagerRequest}
    (grown : states ⊆ later)
    (careful : request.IsCareful states) :
    request.IsCareful later := by
  unfold IsCareful at *
  split at careful
  · obtain ⟨base, isState, same⟩ := careful
    exact ⟨base, grown isState, same⟩
  · trivial

end Growth

/-- A running tick makes careful requests only, and leaves a document that came from a stored
state. -/
abbrev Plan.IsCareful {Answer : Type} (states : List StoredDocument)
    (plan : Plan (Except BundleError Answer × Controller)) : Prop :=
  plan.Abides (fun states request => request.IsCareful states)
    (fun states ended => ended.2.CameFrom states) states

namespace Tick

/-- A part of a tick is careful with every document that came from a stored state. -/
def Careful {Answer : Type} (part : Tick Answer) : Prop :=
  ∀ states controller, controller.CameFrom states →
    Plan.IsCareful states (Reconciliation.plan part controller)

/-! ## Combinations of careful parts -/

section Combinations

variable {Answer Next : Type}

theorem Careful.pure (answer : Answer) : Careful (pure answer) :=
  fun _ _ came => came

theorem Careful.throw (failure : BundleError) : Careful (throw failure : Tick Answer) :=
  fun _ _ came => came

theorem Careful.get : Careful get :=
  fun _ _ came => came

theorem Careful.ask
    {request : ManagerRequest}
    (careful : ∀ states, request.IsCareful states) :
    Careful (Reconciliation.ask request) :=
  fun states _ came => ⟨careful states, fun _ _ grown _ => came.mono grown⟩

theorem Careful.demand
    {request : ManagerRequest}
    (careful : ∀ states, request.IsCareful states) :
    Careful (Reconciliation.demand request) :=
  fun states _ came => ⟨careful states, fun _ _ grown _ => came.mono grown⟩

theorem Careful.pullBundle (reference : String) :
    Careful (Reconciliation.pullBundle reference) :=
  fun _ _ came => ⟨trivial, fun _ _ grown _ => came.mono grown⟩

theorem Careful.bind
    {first : Tick Answer}
    {next : Answer → Tick Next}
    (careful : Careful first)
    (goesOn : ∀ answer, Careful (next answer)) :
    Careful (first >>= next) := by
  intro states controller came
  refine Plan.Abides.bind (careful states controller came) fun later ended cameLater => ?_
  obtain ⟨outcome, left⟩ := ended
  cases outcome with
  | ok answer => exact goesOn answer later left cameLater
  | error failure => exact cameLater

/-- A part that begins with the document may depend on where that came from. -/
theorem Careful.get_bind
    {next : Controller → Tick Next}
    (careful : ∀ states controller, controller.CameFrom states →
      Plan.IsCareful states ((next controller).plan controller)) :
    Careful (MonadState.get >>= next) :=
  careful

theorem Careful.tryCatch
    {attempt : Tick Answer}
    {handle : BundleError → Tick Answer}
    (careful : Careful attempt)
    (handles : ∀ failure, Careful (handle failure)) :
    Careful (tryCatch attempt handle) := by
  intro states controller came
  refine Plan.Abides.bind (careful states controller came) fun later ended cameLater => ?_
  obtain ⟨outcome, left⟩ := ended
  cases outcome with
  | ok answer => exact cameLater
  | error failure => exact handles failure later left cameLater

theorem Careful.ite
    {condition : Prop}
    [Decidable condition]
    {first second : Tick Answer}
    (isTrue : Careful first)
    (isFalse : Careful second) :
    Careful (if condition then first else second) := by
  split
  · exact isTrue
  · exact isFalse

end Combinations

/-! ## The parts -/

/-- A status is changed in the document without a look at its version or its bundle. -/
theorem careful_modify_withStatus (state : ControllerState) (detail : String) :
    Careful (modify (Controller.withStatus · state detail)) :=
  fun _ _ came => came

theorem careful_saveStatus : Careful saveStatus := by
  intro states controller came
  refine ⟨trivial, fun reply later grown isTrue => ?_⟩
  cases reply with
  | ok stored => exact .of_mem (isTrue stored rfl)
  | error failure => exact came.mono grown

theorem careful_settle (earlier : ControllerStatus) (state : ControllerState) (detail : String) :
    Careful (settle earlier state detail) :=
  (careful_modify_withStatus state detail).bind fun _ =>
    .ite (.pure ()) careful_saveStatus

theorem careful_disconnect (failure : BundleError) : Careful (disconnect failure) :=
  Careful.get.bind fun _ => .ite (careful_settle _ _ _) (.pure ())

theorem careful_register (latest : Bundle) : Careful (register latest) := by
  refine .bind (.demand fun _ => trivial) fun known => .ite (.pure ()) ?_
  exact .bind (.demand fun _ => trivial) fun _ => .pure ()

theorem careful_restoreActive (space : String) : Careful (restoreActive space) := by
  refine .bind .get fun controller => .ite (.pure ()) ?_
  refine .bind (.ask fun _ => trivial) fun reply => ?_
  split
  · exact .pure ()
  · refine .bind (.pullBundle _) fun pulled => ?_
    cases pulled with
    | error failure => exact .throw failure
    | ok bundle => exact .bind (.demand fun _ => trivial) fun _ => .pure ()
  · exact .throw _

/-- Where no bundle is in use in the document, none is in use in the state that it came from, and
the spec is written over that state or not at all. -/
theorem careful_adopt (latest : String) : Careful (adopt latest) := by
  refine .get_bind fun states controller came => ?_
  split
  · exact came
  · next unused =>
      obtain ⟨base, isState, address, version, used⟩ := came
      have vacant : base.spec.activeBundle = "" := used (by simpa using unused)
      refine ⟨⟨base, isState, address, version, vacant⟩, fun reply later grown isTrue => ?_⟩
      cases reply with
      | ok stored => exact ⟨stored, isTrue stored rfl, rfl, rfl, id⟩
      | error failure => exact ⟨base, grown isState, address, version, fun _ => vacant⟩

theorem careful_advance (configuration : Configuration) (latest : String) :
    Careful (advance configuration latest) := by
  refine .bind .get fun controller => ?_
  dsimp only
  cases controller.status.state with
  | active =>
      refine .bind (.demand fun _ => trivial) fun _ => ?_
      exact .bind (careful_restoreActive _) fun _ => .ite (careful_settle _ _ _) (.pure ())
  | upgradeAvailable => exact .ite (careful_settle _ _ _) (.pure ())
  | disconnected => exact careful_settle _ _ _
  | ignored => exact careful_settle _ _ _
  | unset => exact .bind (careful_adopt latest) fun _ => careful_settle _ _ _
  | unknown => exact .bind (careful_adopt latest) fun _ => careful_settle _ _ _

theorem careful_managed (configuration : Configuration) : Careful (managed configuration) := by
  refine .bind .get fun controller => ?_
  refine .bind (.ask fun _ => trivial) fun found => ?_
  cases found with
  | error failure => exact .bind (careful_disconnect failure) fun _ => .pure _
  | ok server =>
      refine .bind (.pullBundle _) fun pulled => ?_
      cases pulled with
      | error failure => exact .bind (careful_disconnect failure) fun _ => .pure _
      | ok latest =>
          refine .bind (careful_register _) fun _ => ?_
          exact .bind (careful_advance configuration _) fun _ => .bind .get fun _ => .pure _

theorem careful_unmanaged : Careful unmanaged := by
  refine .get_bind fun states controller came => ?_
  split
  · exact Careful.bind careful_saveStatus (fun _ => .pure _) states (controller.withStatus _ _) came
  · exact came

end Tick

/-- A tick is careful, whatever its configuration. -/
theorem Controller.careful_reconcile (configuration : Configuration) :
    Tick.Careful (reconcile configuration) := by
  rw [reconcile_eq]
  refine .bind .get fun controller => .ite Tick.careful_unmanaged ?_
  refine .tryCatch (Tick.careful_managed configuration) fun failure => ?_
  exact .ite (.pure _) (.throw failure)

end BundleTrust
