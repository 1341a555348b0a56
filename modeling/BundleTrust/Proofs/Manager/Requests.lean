import BundleTrust.Proofs.Manager.Execution

/-!
# The requests of a run

A run of a script makes its requests one after the other, each in the state that the earlier
ones left.  The list of these pairs says when something was asked, which the outcome of the run
does not: a run of a reconciliation makes the requests of its first part and then, unless that
failed, those of what follows (`Reconciliation.requests_bind`).
-/

namespace BundleTrust

namespace Script

variable {Request : Type} {Reply : Request → Type} {Answer Next State : Type}
  (respond : (request : Request) → State → Reply request × State)

/-- The requests of a run, each with the state that it is made in. -/
def requests : Script Request Reply Answer → State → List (Request × State)
  | .done _, _ => []
  | .ask request next, state =>
      (request, state) ::
        (next (respond request state).1).requests (respond request state).2

/-- The requests of a script that goes on are those of the one script and then of the other. -/
theorem requests_bind
    (script : Script Request Reply Answer)
    (second : Answer → Script Request Reply Next)
    (state : State) :
    (script.bind second).requests respond state =
      script.requests respond state ++
        (second (script.run respond state).1).requests respond (script.run respond state).2 := by
  induction script generalizing state with
  | done answer => rfl
  | ask request next ih => simp only [bind, requests, run, ih, List.cons_append]

variable {respond}

/-- What every request of a run keeps in the state that it is made in, the run keeps. -/
theorem run_preserves_of_requests
    {script : Script Request Reply Answer}
    {state : State}
    (invariant : State → Prop)
    (preserves : ∀ entry ∈ script.requests respond state,
      invariant entry.2 → invariant (respond entry.1 entry.2).2)
    (holds : invariant state) :
    invariant (script.run respond state).2 := by
  induction script generalizing state with
  | done answer => exact holds
  | ask request next ih =>
      obtain ⟨first, rest⟩ := List.forall_mem_cons.1 preserves
      exact ih _ rest (first holds)

end Script

namespace Reconciliation

variable {Held Answer Next State : Type}
  (respond : (request : ManagerRequest) → State → request.Reply × State)

/-- The requests of a reconciliation of a document, each with the state that it is made in. -/
def requests (reconciliation : Reconciliation Held Answer) (held : Held) (state : State) :
    List (ManagerRequest × State) :=
  (reconciliation.plan held).requests respond state

variable (held : Held) (state : State)

@[simp] theorem requests_pure (answer : Answer) :
    requests respond (pure answer) held state = [] := rfl

@[simp] theorem requests_throw (failure : BundleError) :
    requests respond (throw failure : Reconciliation Held Answer) held state = [] := rfl

@[simp] theorem requests_get :
    requests respond (get : Reconciliation Held Held) held state = [] := rfl

@[simp] theorem requests_set (other : Held) :
    requests respond (set other : Reconciliation Held PUnit) held state = [] := rfl

@[simp] theorem requests_modify (change : Held → Held) :
    requests respond (modify change : Reconciliation Held PUnit) held state = [] := rfl

@[simp] theorem requests_ask (request : ManagerRequest) :
    @requests Held (no_index request.Reply) State respond (ask request) held state =
      [(request, state)] := rfl

@[simp] theorem requests_demand (request : ManagerRequest) :
    @requests Held (no_index request.Result) State respond (demand request) held state =
      [(request, state)] := rfl

@[simp] theorem requests_pullBundle (reference : String) :
    requests respond (pullBundle reference) held state = [(.pull reference, state)] := rfl

/-- A reconciliation makes the requests of its first part and then, unless that fails, those of
what follows. -/
theorem requests_bind
    (first : Reconciliation Held Answer)
    (next : Answer → Reconciliation Held Next) :
    requests respond (first >>= next) held state =
      requests respond first held state ++
        match execute respond first held state with
        | ((.ok answer, held), state) => requests respond (next answer) held state
        | ((.error _, _), _) => [] := by
  refine (Script.requests_bind respond (first.plan held) _ state).trans ?_
  rw [requests, execute]
  rcases (first.plan held).run respond state with ⟨⟨_ | _, _⟩, _⟩ <;> rfl

/-- A part that asks nothing adds no requests. -/
theorem requests_bind_of_silent
    {held : Held}
    {state : State}
    {first : Reconciliation Held Answer}
    {next : Answer → Reconciliation Held Next}
    (silent : ∀ answer held state, requests respond (next answer) held state = []) :
    requests respond (first >>= next) held state = requests respond first held state := by
  rw [requests_bind]
  split
  · rw [silent, List.append_nil]
  · exact List.append_nil _

/-- An attempt makes its requests and then, if it fails, those of the handler. -/
theorem requests_tryCatch
    (attempt : Reconciliation Held Answer)
    (handle : BundleError → Reconciliation Held Answer) :
    requests respond (tryCatch attempt handle) held state =
      requests respond attempt held state ++
        match execute respond attempt held state with
        | ((.ok _, _), _) => []
        | ((.error failure, held), state) => requests respond (handle failure) held state := by
  refine (Script.requests_bind respond (attempt.plan held) _ state).trans ?_
  rw [requests, execute]
  rcases (attempt.plan held).run respond state with ⟨⟨_ | _, _⟩, _⟩ <;> rfl

end Reconciliation

end BundleTrust
