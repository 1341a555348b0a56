import BundleTrust.Manager.Plan

/-!
# Executing reconciliations

A reconciliation of a document is executed against a respondent with a state.  What it does
is what its parts do one after the other, up to the first failure.
-/

namespace BundleTrust

/-- What every answer of a respondent keeps, a run of a script keeps. -/
theorem Script.run_preserves
    {Request : Type}
    {Reply : Request → Type}
    {Answer State : Type}
    {respond : (request : Request) → State → Reply request × State}
    (invariant : State → Prop)
    (preserves : ∀ request state, invariant state → invariant (respond request state).2)
    (script : Script Request Reply Answer)
    {state : State}
    (holds : invariant state) :
    invariant (script.run respond state).2 := by
  induction script generalizing state with
  | done answer => exact holds
  | ask request next ih => exact ih _ (preserves request state holds)

namespace Reconciliation

variable {Held Answer Next State : Type}
  (respond : (request : ManagerRequest) → State → request.Reply × State)

/-- Execute a reconciliation of a document against a respondent. -/
def execute (reconciliation : Reconciliation Held Answer) (held : Held) (state : State) :
    (Except BundleError Answer × Held) × State :=
  (reconciliation.plan held).run respond state

section Parts

variable (held : Held) (state : State)

@[simp] theorem execute_pure (answer : Answer) :
    execute respond (pure answer) held state = ((.ok answer, held), state) := rfl

@[simp] theorem execute_throw (failure : BundleError) :
    execute respond (throw failure : Reconciliation Held Answer) held state =
      ((.error failure, held), state) := rfl

@[simp] theorem execute_get :
    execute respond (get : Reconciliation Held Held) held state = ((.ok held, held), state) := rfl

@[simp] theorem execute_set (other : Held) :
    execute respond (set other : Reconciliation Held PUnit) held state =
      ((.ok ⟨⟩, other), state) := rfl

@[simp] theorem execute_modify (change : Held → Held) :
    execute respond (modify change : Reconciliation Held PUnit) held state =
      ((.ok ⟨⟩, change held), state) := rfl

@[simp] theorem execute_ask (request : ManagerRequest) :
    @execute Held (no_index request.Reply) State respond (ask request) held state =
      ((.ok (respond request state).1, held), (respond request state).2) := rfl

@[simp] theorem execute_demand (request : ManagerRequest) :
    @execute Held (no_index request.Result) State respond (demand request) held state =
      (((respond request state).1, held), (respond request state).2) := rfl

@[simp] theorem execute_pullBundle (reference : String) :
    execute respond (pullBundle reference) held state =
      ((.ok ((respond (.pull reference) state).1.bind (bundleOfArtifact reference)), held),
        (respond (.pull reference) state).2) := rfl

/-- A reconciliation goes on with the answer of its first part, unless that fails. -/
theorem execute_bind
    (first : Reconciliation Held Answer)
    (next : Answer → Reconciliation Held Next) :
    execute respond (first >>= next) held state =
      match execute respond first held state with
      | ((.ok answer, held), state) => execute respond (next answer) held state
      | ((.error failure, held), state) => ((.error failure, held), state) := by
  refine (Script.run_bind respond (first.plan held) _ state).trans ?_
  rw [execute]
  rcases (first.plan held).run respond state with ⟨⟨_ | _, _⟩, _⟩ <;> rfl

/-- A function of the answer of a reconciliation. -/
@[simp] theorem execute_map
    (change : Answer → Next)
    (first : Reconciliation Held Answer) :
    execute respond (change <$> first) held state =
      (((execute respond first held state).1.1.map change,
        (execute respond first held state).1.2), (execute respond first held state).2) := by
  refine (Script.run_bind respond (first.plan held) _ state).trans ?_
  rw [execute]
  rcases (first.plan held).run respond state with ⟨⟨_ | _, _⟩, _⟩ <;> rfl

/-- A failure of an attempt is handled with the document and in the state that it left. -/
theorem execute_tryCatch
    (attempt : Reconciliation Held Answer)
    (handle : BundleError → Reconciliation Held Answer) :
    execute respond (tryCatch attempt handle) held state =
      match execute respond attempt held state with
      | ((.ok answer, held), state) => ((.ok answer, held), state)
      | ((.error failure, held), state) => execute respond (handle failure) held state := by
  refine (Script.run_bind respond (attempt.plan held) _ state).trans ?_
  rw [execute]
  rcases (attempt.plan held).run respond state with ⟨⟨_ | _, _⟩, _⟩ <;> rfl

end Parts

end Reconciliation

end BundleTrust
