import BundleTrust.Proofs.Lifecycle.Computation
import BundleTrust.Proofs.Manager.Keeping

/-!
# Calls that fail

A call of the manager may fail while it computes the state of the bundle, or as the store refuses to
save that state.  In the first case the bundle that was given is left as it was.  In the second one
it is left in the state that was not saved, so that the next call that computes this state takes it
for saved and asks for nothing (`LifecycleManager.failed_call_intact_iff`).

Nothing is assumed of the store, of the cluster and of other writers: whatever they do between two
requests is up to the respondent.
-/

namespace BundleTrust

/-- The bundle in another state. -/
def Bundle.inState (bundle : Bundle) (state : BundleState) : Bundle :=
  { bundle with state := some state }

@[simp] theorem Bundle.state_inState (bundle : Bundle) (state : BundleState) :
    (bundle.inState state).state = some state := rfl

/-- A request to save the state of a bundle. -/
def ManagerRequest.IsSave : ManagerRequest → Prop
  | .store (.saveBundleStatus _) => True
  | _ => False

namespace LifecycleManager

open Reconciliation

variable {Moment : Type}

/-- To compute a state changes nothing that is held, and asks for no save. -/
theorem keeps_compute {Held : Type} (manager : LifecycleManager) (bundle : Bundle) :
    Keeps ManagerRequest.IsSave (manager.compute bundle : Reconciliation Held BundleState) := by
  refine .ite (.pure _) (.ite (.pure _) ?_)
  refine .bind (.demand id) fun server => ?_
  refine .bind (.demand id) fun isActive => ?_
  exact .bind (.demand id) fun bundles => .pure _

section Calls

variable (manager : LifecycleManager) (respond : Respondent Moment) (bundle : Bundle)
  (now : Moment)

/-- What the manager computes for a bundle with any respondent. -/
def derived : Except BundleError BundleState :=
  (Reconciliation.execute respond (manager.compute bundle) bundle now).1.1

/-- A call for a bundle asks for a save. -/
def AsksToSave : Prop :=
  ∃ entry ∈ Reconciliation.requests respond manager.reconcile bundle now, entry.1.IsSave

/-- A call computes the state and saves it, unless the bundle has it already. -/
theorem execute_reconcile :
    Reconciliation.execute respond manager.reconcile bundle now =
      match Reconciliation.execute respond (manager.compute bundle) bundle now with
      | ((.error failure, _), after) => ((.error failure, bundle), after)
      | ((.ok state, _), after) =>
          if bundle.state = some state then ((.ok ⟨state, false⟩, bundle), after)
          else
            match respond (.store (.saveBundleStatus (bundle.inState state))) after with
            | (.ok stored, last) => ((.ok ⟨state, true⟩, stored), last)
            | (.error failure, last) => ((.error failure, bundle.inState state), last) := by
  have same := (manager.keeps_compute bundle).held_eq respond bundle now
  simp only [reconcile, execute_bind, execute_get]
  rcases ended : Reconciliation.execute respond (manager.compute bundle) bundle now with
    ⟨⟨failure | state, held⟩, after⟩
  · rw [ended] at same
    rw [show held = bundle from same]
  · rw [ended] at same
    obtain rfl : held = bundle := same
    simp only
    split
    · rfl
    · simp only [execute_bind, execute_set, execute_demand, Bundle.inState]
      rcases respond (.store (.saveBundleStatus _)) after with ⟨failure | stored, last⟩ <;> rfl

/-- A call asks for a save exactly if it computes another state than the bundle has. -/
theorem asksToSave_iff :
    manager.AsksToSave respond bundle now ↔
      ∃ state, manager.derived respond bundle now = .ok state ∧ bundle.state ≠ some state := by
  have unasked := (manager.keeps_compute bundle).unasked respond bundle now
  simp only [AsksToSave, reconcile, requests_bind _ _ _ get, requests_get, execute_get,
    List.nil_append, requests_bind _ _ _ (manager.compute bundle), List.mem_append, derived]
  rcases Reconciliation.execute respond (manager.compute bundle) bundle now with
    ⟨⟨failure | state, held⟩, after⟩
  · simpa using unasked
  · by_cases unchanged : bundle.state = some state
    · simpa [unchanged] using unasked
    · simp only [unchanged, ↓reduceIte, requests_bind _ _ _ (set _), requests_set, execute_set,
        List.nil_append]
      rw [requests_bind_of_silent _ fun _ _ _ => rfl, requests_demand]
      exact iff_of_true ⟨_, .inr (List.mem_singleton.2 rfl), trivial⟩ ⟨state, rfl, unchanged⟩

end Calls

section Failures

variable {manager : LifecycleManager} {respond : Respondent Moment} {bundle : Bundle} {now : Moment}

/-- A call fails with the computation of the state, or with the save of another state than the
bundle has. -/
theorem left_of_failed
    {failure : BundleError}
    (failed : (Reconciliation.execute respond manager.reconcile bundle now).1.1 = .error failure) :
    manager.derived respond bundle now = .error failure ∧
        (Reconciliation.execute respond manager.reconcile bundle now).1.2 = bundle ∨
      ∃ state, manager.derived respond bundle now = .ok state ∧ bundle.state ≠ some state ∧
        (Reconciliation.execute respond manager.reconcile bundle now).1.2 =
          bundle.inState state := by
  rw [execute_reconcile] at failed ⊢
  rw [derived]
  rcases ended : Reconciliation.execute respond (manager.compute bundle) bundle now with
    ⟨⟨failure' | state, held⟩, after⟩
  · rw [ended] at failed
    cases failed
    exact .inl ⟨rfl, rfl⟩
  · by_cases unchanged : bundle.state = some state
    · simp [ended, unchanged] at failed
    · simp only [ended, unchanged, ↓reduceIte] at failed ⊢
      rcases replied : respond (.store (.saveBundleStatus (bundle.inState state))) after with
        ⟨refusal | stored, last⟩
      · exact .inr ⟨state, rfl, unchanged, rfl⟩
      · rw [replied] at failed
        cases failed

/-- A call that computes the state that the bundle has tells that nothing has changed. -/
theorem reconcile_of_unchanged
    {state : BundleState}
    (computed : manager.derived respond bundle now = .ok state)
    (unchanged : bundle.state = some state) :
    (Reconciliation.execute respond manager.reconcile bundle now).1 =
      (.ok ⟨state, false⟩, bundle) := by
  rw [execute_reconcile]
  rw [derived] at computed
  rcases ended : Reconciliation.execute respond (manager.compute bundle) bundle now with
    ⟨⟨failure | state', held⟩, after⟩
  · rw [ended] at computed
    cases computed
  · rw [ended] at computed
    cases computed
    simp [unchanged]

end Failures

/-- What a failed call leaves of a bundle, and what comes of the next call for it. -/
structure FailedCall (manager : LifecycleManager) (respond : Respondent Moment) (bundle : Bundle)
    (now : Moment) (left : Bundle) : Prop where
  /-- The bundle is left as it was exactly if the call failed while it computed the state. -/
  intact_iff : left = bundle ↔ ∃ failure, manager.derived respond bundle now = .error failure
  /-- If a state was computed, that is another one than the bundle had, and the bundle is left in
  it. -/
  refused : ∀ state, manager.derived respond bundle now = .ok state →
    bundle.state ≠ some state ∧ left = bundle.inState state
  /-- The next call then asks for a save only if it computes yet another state. -/
  retried_iff : ∀ state, manager.derived respond bundle now = .ok state →
    ∀ {Later : Type} (replies : Respondent Later) (later : Later),
      (manager.AsksToSave replies left later ↔
        ∃ other, manager.derived replies left later = .ok other ∧ other ≠ state)
  /-- If it computes the same one, it tells that nothing has changed. -/
  forgotten : ∀ state, manager.derived respond bundle now = .ok state →
    ∀ {Later : Type} (replies : Respondent Later) (later : Later),
      manager.derived replies left later = .ok state →
      (Reconciliation.execute replies manager.reconcile left later).1 = (.ok ⟨state, false⟩, left)

/-- A failed call leaves the bundle as it was unless the state that it computed could not be
saved. -/
theorem failed_call_intact_iff
    {manager : LifecycleManager}
    {respond : Respondent Moment}
    {bundle : Bundle}
    {now : Moment}
    {failure : BundleError}
    (failed : (Reconciliation.execute respond manager.reconcile bundle now).1.1 = .error failure) :
    manager.FailedCall respond bundle now
      (Reconciliation.execute respond manager.reconcile bundle now).1.2 := by
  rcases left_of_failed failed with ⟨uncomputed, left⟩ | ⟨state, computed, different, left⟩
  · rw [left]
    refine ⟨iff_of_true rfl ⟨failure, uncomputed⟩, ?_, ?_, ?_⟩ <;>
      · intro state computed
        cases uncomputed.symm.trans computed
  · rw [left]
    have only {other : BundleState} (computed' : manager.derived respond bundle now = .ok other) :
        other = state :=
      Except.ok.inj (computed'.symm.trans computed)
    constructor
    case intact_iff =>
      refine iff_of_false (fun same => different ?_) ?_
      · rw [← same, Bundle.state_inState]
      · rintro ⟨failure', uncomputed⟩
        cases computed.symm.trans uncomputed
    case refused =>
      intro other computed'
      cases only computed'
      exact ⟨different, rfl⟩
    case retried_iff =>
      intro other computed' Later replies later
      cases only computed'
      simp only [asksToSave_iff, Bundle.state_inState, ne_eq, Option.some.injEq, eq_comm]
    case forgotten =>
      intro other computed' Later replies later again
      cases only computed'
      exact reconcile_of_unchanged again rfl

end LifecycleManager

namespace StaleBundleExample

open ComputationExample (manager unreachable)

/-- A bundle of another namespace, as it was created. -/
def bundle : Bundle := (Bundle.named "default" "v1-21-1001").withVersion "1"

/-- A store in which someone else has written over the bundle since. -/
def store : Store :=
  (Store.empty .standard).run
    [.request (.createBundle (.named "default" "v1-21-1001")),
      .request (.saveBundleStatus (.named "default" "v1-21-1001"))]

/-- The call for the bundle is refused, and leaves it in the state that was to be saved. -/
theorem refused_save_left :
    (Reconciliation.execute unreachable.respond manager.reconcile bundle (store, ())).1.2 =
        bundle.inState .ignored ∧
      bundle.inState .ignored ≠ bundle := by
  have refused :
      (Reconciliation.execute unreachable.respond manager.reconcile bundle (store, ())).1.1 =
        .error (.conflict .bundle "v1-21-1001" "1") := by
    decide
  have call := LifecycleManager.failed_call_intact_iff refused
  exact ⟨(call.refused .ignored rfl).2, by decide⟩

/-- The call fails and does not leave the bundle as it was.  The next call with what it left tells
that nothing has changed, while the stored bundle has no state still. -/
theorem refused_save_not_retried :
    let call := Reconciliation.execute unreachable.respond manager.reconcile bundle (store, ())
    let next := Reconciliation.execute unreachable.respond manager.reconcile call.1.2 call.2
    call.1.1 = .error (.conflict .bundle "v1-21-1001" "1") ∧ call.1.2 ≠ bundle ∧
      next.1 = (.ok ⟨.ignored, false⟩, call.1.2) ∧
      (next.2.1.bundle? bundle.address).map Bundle.state = some none := by
  decide

end StaleBundleExample
end BundleTrust
