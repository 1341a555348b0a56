import BundleTrust.Proofs.Lifecycle.States

/-!
# Reconciling the bundles of a store

A call of the manager for a bundle that was just read brings its state up to date and changes
nothing else (`LifecycleManager.Manages.exists_reconciles`).  What is computed for a bundle does not
depend on the states that are stored, so that earlier calls make no difference to later ones: after
any number of calls each bundle that was visited is in the state that was computed for it at the
start, and the others are as they were (`LifecycleManager.Follows`).  Schedules that cover the store
therefore end alike, and after one of them no call writes anything
(`LifecycleManager.visits_settle`).
-/

namespace BundleTrust
namespace LifecycleManager

open Reconciliation

variable {World : Type}

/-! ## One call -/

/-- Reconcile a bundle against a store and surroundings. -/
abbrev call (manager : LifecycleManager) (surroundings : Surroundings World) (bundle : Bundle)
    (now : Store × World) : (Except BundleError LifecycleUpdate × Bundle) × Store × World :=
  Reconciliation.execute surroundings.respond manager.reconcile bundle now

/-- A call brings the state of a bundle up to date, and tells whether it was another one. -/
structure Reconciles (manager : LifecycleManager) (surroundings : Surroundings World)
    (bundle : Bundle) (state : BundleState) (now : Store × World) : Prop where
  /-- What is told: the bundle has changed unless it was in that state before. -/
  answer : (manager.call surroundings bundle now).1.1 =
    .ok ⟨state, decide (bundle.state ≠ some state)⟩
  /-- What is written: nothing if it was.  The bundle is then held as it is stored. -/
  updates : now.1.UpdatesState bundle state (manager.call surroundings bundle now).2.1
    (manager.call surroundings bundle now).1.2

section Call

variable {manager : LifecycleManager} {surroundings : Surroundings World} {server : ServerVersion}
  {controller : Controller} {now : Store × World} {bundle : Bundle}

/-- A call for a bundle that is held as it is stored gives it the state that is computed for
it. -/
theorem Manages.exists_reconciles
    (manages : manager.Manages surroundings server now.1 controller)
    (stored : now.1.bundle? bundle.address = some bundle) :
    ∃ state, manager.computed surroundings bundle now.1 now.2 = .ok state ∧
      manager.Reconciles surroundings bundle state now := by
  obtain ⟨store, world⟩ := now
  obtain ⟨last, executed⟩ := manages.exists_execute_compute bundle bundle world
  refine ⟨_, manages.computed_eq bundle world, ?_⟩
  -- From here on it does not matter which state it is.
  generalize bundle.evaluateState (manager.contextIn server controller store bundle) = state
    at executed
  have ended : manager.call surroundings bundle (store, world) =
      ((.ok ⟨state, decide (bundle.state ≠ some state)⟩, (store.updateState bundle state).1),
        (store.updateState bundle state).2, last) := by
    simp only [call, reconcile, execute_bind, execute_get, executed]
    by_cases same : bundle.state = some state
    · simp [same, Store.updateState]
    · simp [same, Store.updateState, execute_bind, Surroundings.respond, Store.answer,
        Store.saveBundleStatus_of_stored stored, Except.map]
  constructor
  · rw [ended]
  · rw [ended]
    exact Store.updatesState_updateState stored state

end Call

/-! ## Any number of calls -/

/-- Read the bundle at an address, if there is one, and reconcile it. -/
def visit (manager : LifecycleManager) (surroundings : Surroundings World) (now : Store × World)
    (address : Address) : Store × World :=
  match now.1.bundle? address with
  | none => now
  | some bundle => (manager.call surroundings bundle now).2

/-- Visit the addresses of a schedule one after the other. -/
def visits (manager : LifecycleManager) (surroundings : Surroundings World)
    (schedule : List Address) (now : Store × World) : Store × World :=
  schedule.foldl (manager.visit surroundings) now

/-- A bundle is in the state that was computed for it at the start. -/
def IsSettled (manager : LifecycleManager) (surroundings : Surroundings World)
    (start : Store × World) (bundle : Bundle) : Prop :=
  ∃ state, bundle.state = some state ∧
    manager.computedAt surroundings bundle.address start.1 start.2 = some (.ok state)

/-- What a store has become after visits: the bundles that were visited are settled, and all else
is as it was at the start. -/
structure Follows (manager : LifecycleManager) (surroundings : Surroundings World)
    (start : Store × World) (visited : List Address) (now : Store) : Prop where
  /-- Contents, controllers and namespaces are as at the start. -/
  same : now.SameUpToStates start.1
  /-- A bundle that was visited is settled. -/
  settled : ∀ address ∈ visited, ∀ bundle, now.bundle? address = some bundle →
    manager.IsSettled surroundings start bundle
  /-- A bundle that was not visited is as at the start. -/
  unvisited : ∀ address ∉ visited, now.bundle? address = start.1.bundle? address

section Visits

variable {manager : LifecycleManager} {surroundings : Surroundings World} {server : ServerVersion}
  {controller : Controller} {start now : Store × World} {address : Address} {bundle : Bundle}
  {visited schedule : List Address}

theorem visit_of_absent (absent : now.1.bundle? address = none) :
    manager.visit surroundings now address = now := by
  rw [visit, absent]

theorem visit_of_stored (stored : now.1.bundle? address = some bundle) :
    manager.visit surroundings now address = (manager.call surroundings bundle now).2 := by
  rw [visit, stored]

/-- As long as nothing but states has changed, a call gives a bundle the state that was computed
for it at the start. -/
theorem Manages.exists_reconciles_of_same
    (manages : manager.Manages surroundings server start.1 controller)
    (same : now.1.SameUpToStates start.1)
    (stored : now.1.bundle? bundle.address = some bundle) :
    ∃ state, manager.computedAt surroundings bundle.address start.1 start.2 = some (.ok state) ∧
      manager.Reconciles surroundings bundle state now := by
  obtain ⟨state, computed, reconciles⟩ :=
    (manages.of_sameSetting same.toSameSetting).exists_reconciles stored
  refine ⟨state, ?_, reconciles⟩
  rw [← manages.computedAt_congr same bundle.address start.2 now.2, computedAt, stored]
  exact congrArg some computed

theorem follows_start : manager.Follows surroundings start [] start.1 :=
  ⟨.refl start.1, fun _ isVisited => absurd isVisited List.not_mem_nil, fun _ _ => rfl⟩

/-- One more visit. -/
theorem Follows.visit
    (follows : manager.Follows surroundings start visited now.1)
    (manages : manager.Manages surroundings server start.1 controller)
    (address : Address) :
    manager.Follows surroundings start (address :: visited)
      (manager.visit surroundings now address).1 := by
  cases stored : now.1.bundle? address with
  | none =>
      rw [visit_of_absent stored]
      refine ⟨follows.same, fun other isVisited bundle found => ?_,
        fun other notVisited => follows.unvisited other (List.not_mem_of_not_mem_cons notVisited)⟩
      rcases List.mem_cons.1 isVisited with rfl | before
      · cases stored.symm.trans found
      · exact follows.settled other before bundle found
  | some bundle =>
      cases Shelf.address_of_get? stored
      obtain ⟨state, computed, -, updates⟩ := manages.exists_reconciles_of_same follows.same stored
      rw [visit_of_stored stored]
      refine ⟨(updates.sameUpToStates stored).trans follows.same,
        fun other isVisited written found => ?_, fun other notVisited => ?_⟩
      · by_cases here : other = bundle.address
        · cases here
          cases updates.stored.symm.trans found
          refine ⟨state, updates.state_eq, ?_⟩
          rw [Bundle.address_eq_of_content_eq updates.content_eq, computed]
        · rw [updates.others other here] at found
          exact follows.settled other ((List.mem_cons.1 isVisited).resolve_left here) written found
      · obtain ⟨elsewhere, before⟩ := not_or.1 (mt List.mem_cons.2 notVisited)
        rw [updates.others other elsewhere, follows.unvisited other before]

/-- Any number of visits. -/
theorem Follows.visits
    (follows : manager.Follows surroundings start visited now.1)
    (manages : manager.Manages surroundings server start.1 controller)
    (schedule : List Address) :
    manager.Follows surroundings start (schedule.reverse ++ visited)
      (manager.visits surroundings schedule now).1 := by
  induction schedule generalizing now visited with
  | nil => exact follows
  | cons address rest ih =>
      rw [List.reverse_cons, List.append_assoc]
      exact ih (follows.visit manages address)

/-- Where all bundles are settled, visits write nothing. -/
theorem Manages.visits_of_settled
    (manages : manager.Manages surroundings server start.1 controller)
    (same : now.1.SameUpToStates start.1)
    (settled : ∀ bundle ∈ now.1.bundles.items, manager.IsSettled surroundings start bundle)
    (schedule : List Address) :
    (manager.visits surroundings schedule now).1 = now.1 := by
  induction schedule generalizing now with
  | nil => rfl
  | cons address rest ih =>
      -- The store stays exactly as it is, though the surroundings have been asked.
      have unwritten : (manager.visit surroundings now address).1 = now.1 := by
        cases stored : now.1.bundle? address with
        | none => rw [visit_of_absent stored]
        | some bundle =>
            cases Shelf.address_of_get? stored
            obtain ⟨state, computed, -, updates⟩ := manages.exists_reconciles_of_same same stored
            obtain ⟨given, isGiven, computed'⟩ := settled bundle (Shelf.mem_items_iff.2 stored)
            cases computed.symm.trans computed'
            rw [visit_of_stored stored]
            exact (updates.unwritten isGiven).2
      exact (ih (unwritten ▸ same) (unwritten ▸ settled)).trans unwritten

end Visits

/-! ## Confluence -/

/-- A schedule covers a store if it has the address of every bundle. -/
def Covers (schedule : List Address) (store : Store) : Prop :=
  ∀ bundle ∈ store.bundles.items, bundle.address ∈ schedule

/-- What comes of visiting the bundles of a store in the order of a schedule. -/
structure Settles (manager : LifecycleManager) (surroundings : Surroundings World)
    (start : Store × World) (schedule : List Address) : Prop where
  /-- Every call succeeds and brings its bundle to the state that was computed for it at the
  start. -/
  calls : ∀ before address after bundle,
    schedule = before ++ address :: after →
    (manager.visits surroundings before start).1.bundle? address = some bundle →
    ∃ state, manager.computedAt surroundings address start.1 start.2 = some (.ok state) ∧
      manager.Reconciles surroundings bundle state (manager.visits surroundings before start)
  /-- In the end nothing has changed but states and versions. -/
  same : (manager.visits surroundings schedule start).1.SameUpToStates start.1
  /-- A bundle that is not on the schedule has not changed at all. -/
  unvisited : ∀ address ∉ schedule,
    (manager.visits surroundings schedule start).1.bundle? address = start.1.bundle? address
  /-- A schedule that covers the store ends with every bundle in the state that was computed for it
  at the start. -/
  settled : Covers schedule start.1 → ∀ old ∈ start.1.bundles.items, ∃ state kept,
    manager.computed surroundings old start.1 start.2 = .ok state ∧
      (manager.visits surroundings schedule start).1.bundle? old.address = some kept ∧
      kept.content = old.content ∧ kept.state = some state
  /-- Two of them end with the same bundles up to versions. -/
  confluent : ∀ other, Covers schedule start.1 → Covers other start.1 → ∀ address,
    ((manager.visits surroundings schedule start).1.bundle? address).map
        (fun bundle => (bundle.content, bundle.state)) =
      ((manager.visits surroundings other start).1.bundle? address).map
        fun bundle => (bundle.content, bundle.state)
  /-- After it, visits write nothing. -/
  idempotent : Covers schedule start.1 → ∀ more,
    (manager.visits surroundings (schedule ++ more) start).1 =
      (manager.visits surroundings schedule start).1

section Settling

variable {manager : LifecycleManager} {surroundings : Surroundings World} {server : ServerVersion}
  {controller : Controller} {start : Store × World} {schedule other : List Address}

theorem visits_append (first second : List Address) (now : Store × World) :
    manager.visits surroundings (first ++ second) now =
      manager.visits surroundings second (manager.visits surroundings first now) :=
  List.foldl_append

/-- After a schedule nothing has changed but the states of the bundles on it. -/
theorem Manages.follows_visits
    (manages : manager.Manages surroundings server start.1 controller)
    (schedule : List Address) :
    manager.Follows surroundings start schedule.reverse
      (manager.visits surroundings schedule start).1 := by
  have follows : manager.Follows surroundings start (schedule.reverse ++ []) _ :=
    follows_start.visits manages schedule
  rwa [List.append_nil] at follows

/-- After a schedule that covers the store, every bundle is settled. -/
theorem Manages.isSettled_of_covers
    (manages : manager.Manages surroundings server start.1 controller)
    (covers : Covers schedule start.1)
    {bundle : Bundle}
    (stored : bundle ∈ (manager.visits surroundings schedule start).1.bundles.items) :
    manager.IsSettled surroundings start bundle := by
  have follows := manages.follows_visits schedule
  have found := Shelf.mem_items_iff.1 stored
  by_cases visited : bundle.address ∈ schedule.reverse
  · exact follows.settled bundle.address visited bundle found
  · have atStart := (follows.unvisited bundle.address visited).symm.trans found
    exact absurd (List.mem_reverse.2 (covers bundle (Shelf.mem_items_iff.2 atStart))) visited

/-- What a covering schedule makes of a bundle. -/
theorem Manages.exists_settled
    (manages : manager.Manages surroundings server start.1 controller)
    (covers : Covers schedule start.1)
    {old : Bundle}
    (stored : start.1.bundle? old.address = some old) :
    ∃ state kept, manager.computed surroundings old start.1 start.2 = .ok state ∧
      (manager.visits surroundings schedule start).1.bundle? old.address = some kept ∧
      kept.content = old.content ∧ kept.state = some state := by
  have contents := (manages.follows_visits schedule).same.contents old.address
  rw [stored, Option.map_some, Option.map_eq_some_iff] at contents
  obtain ⟨kept, isKept, content⟩ := contents
  have address : kept.address = old.address := Shelf.address_of_get? isKept
  obtain ⟨state, isState, computed⟩ := manages.isSettled_of_covers covers
    (Shelf.mem_items_iff.2 (address ▸ isKept))
  rw [address, computedAt, stored] at computed
  exact ⟨state, kept, Option.some.inj computed, isKept, content, isState⟩

end Settling

/-- Visits settle the bundles of a store, in whatever order and however often each of them is
visited. -/
theorem visits_settle
    {manager : LifecycleManager}
    {surroundings : Surroundings World}
    {server : ServerVersion}
    {controller : Controller}
    {start : Store × World}
    (manages : manager.Manages surroundings server start.1 controller)
    (schedule : List Address) :
    manager.Settles surroundings start schedule where
  calls before address after bundle _ stored := by
    cases Shelf.address_of_get? stored
    exact manages.exists_reconciles_of_same (manages.follows_visits before).same stored
  same := (manages.follows_visits schedule).same
  unvisited address notListed :=
    (manages.follows_visits schedule).unvisited address (mt List.mem_reverse.1 notListed)
  settled covers old stored := manages.exists_settled covers (Shelf.mem_items_iff.1 stored)
  confluent other covers covers' address := by
    cases stored : start.1.bundle? address with
    | none =>
        have absent (schedule : List Address) :
            (manager.visits surroundings schedule start).1.bundle? address = none := by
          have contents := (manages.follows_visits schedule).same.contents address
          rwa [stored, Option.map_none, Option.map_eq_none_iff] at contents
        rw [absent, absent]
    | some old =>
        cases Shelf.address_of_get? stored
        obtain ⟨state, kept, computed, isKept, content, isState⟩ :=
          manages.exists_settled covers stored
        obtain ⟨state', kept', computed', isKept', content', isState'⟩ :=
          manages.exists_settled covers' stored
        cases computed.symm.trans computed'
        rw [isKept, isKept', Option.map_some, Option.map_some, content, content', isState, isState']
  idempotent covers more := by
    rw [visits_append]
    exact manages.visits_of_settled (manages.follows_visits schedule).same
      (fun _ stored => manages.isSettled_of_covers covers stored) more

end LifecycleManager

namespace StatesExample

/-- A schedule that visits the newer bundle twice. -/
def schedule : List Address :=
  [⟨"eksa-packages", "v1-21-1004"⟩, bundle.address, ⟨"eksa-packages", "v1-21-1004"⟩]

/-- It leaves the signed bundle with an upgrade. -/
theorem signed_bundle_settles :
    ∃ kept, (manager.visits TickExample.surroundings schedule (store, ())).1.bundle?
        bundle.address = some kept ∧
      kept.content = bundle.content ∧ kept.state = some .upgradeAvailable := by
  have covers : LifecycleManager.Covers schedule store := by
    intro stored isStored
    have addresses : store.bundles.items.map Bundle.address ⊆ schedule := by decide
    exact addresses (List.mem_map_of_mem isStored)
  have settles : manager.Settles TickExample.surroundings (store, ()) schedule :=
    LifecycleManager.visits_settle manages_store schedule
  obtain ⟨state, kept, computed, isKept, content, isState⟩ := settles.settled covers _ mem_store
  cases computed.symm.trans
    ((manages_store.computed_of_named rfl (by decide) (by decide) isSigned_stored ()).1
      hasUpgrade_store)
  exact ⟨kept, isKept, content, isState⟩

end StatesExample

end BundleTrust
