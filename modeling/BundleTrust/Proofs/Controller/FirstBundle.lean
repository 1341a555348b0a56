import BundleTrust.Proofs.Controller.TickOutcome

/-!
# The first bundle of a controller

A new controller, without a state and without a bundle in use, ticks again and again, with no
other writer.  Its first bundle is taken into use by a tick that finds it without a state, and
there is only one such tick: the first one.

* If the first tick finds the newest bundle, that bundle is in use ever after.
* If it does not, no bundle is ever taken into use, and the first tick that finds the newest
  bundle makes the controller active without one (`active_with_bundle_iff`).
-/

namespace BundleTrust

/-- Whether a state was derived that has a meaning. -/
def ControllerStatus.HasState (status : ControllerStatus) : Prop :=
  status.state ≠ .unset ∧ status.state ≠ .unknown

theorem ControllerStatus.HasState.disconnected
    {status : ControllerStatus}
    (hasState : status.HasState)
    (failure : BundleError) :
    (status.disconnected failure).HasState := by
  unfold ControllerStatus.disconnected
  split
  · simp [HasState]
  · exact hasState

theorem Controller.hasState_statusAfter (controller : Controller) (latest : String) :
    (controller.statusAfter latest).HasState := by
  unfold statusAfter
  cases state : controller.status.state with
  | active | upgradeAvailable =>
      dsimp only
      split <;> simp [ControllerStatus.HasState, state]
  | disconnected | ignored | unset | unknown => simp [ControllerStatus.HasState]

/-- A controller as it is held between two ticks, with its store and the world around. -/
structure Scene (World : Type) where
  /-- The controller that is held. -/
  controller : Controller
  /-- The store. -/
  store : Store
  /-- The world. -/
  world : World

namespace Scene

variable {World : Type}

/-- The newest bundle, as the next tick finds it. -/
def latest (surroundings : Surroundings World) (scene : Scene World) : Except BundleError Bundle :=
  (surroundings.findLatest scene.controller scene.world).1

/-- A scene after one tick. -/
def next (configuration : Configuration) (surroundings : Surroundings World)
    (scene : Scene World) : Scene World :=
  let ended := surroundings.tick configuration scene.controller scene.store scene.world
  ⟨ended.1.2, ended.2.1, ended.2.2⟩

/-- A scene after a number of ticks. -/
def after (configuration : Configuration) (surroundings : Surroundings World)
    (scene : Scene World) : (ticks : Nat) → Scene World
  | 0 => scene
  | ticks + 1 => (scene.after configuration surroundings ticks).next configuration surroundings

/-- The controller of a scene is managed and held as it is stored. -/
abbrev IsHeld (configuration : Configuration) (scene : Scene World) : Prop :=
  HeldAsStored configuration scene.controller scene.store

/-- A controller came from one scene into another one with a spec and a status. -/
structure Moves (configuration : Configuration) (scene next : Scene World)
    (spec : ControllerSpec) (status : ControllerStatus) : Prop where
  isHeld : next.IsHeld configuration
  address_eq : next.controller.address = scene.controller.address
  spec_eq : next.controller.spec = spec
  status_eq : next.controller.status = status

/-- A controller has a state but no bundle in use. -/
structure WithoutBundle (scene : Scene World) : Prop where
  unused : scene.controller.spec.activeBundle = ""
  hasState : scene.controller.status.HasState

section Ticks

variable {configuration : Configuration} {surroundings : Surroundings World}
  {scene : Scene World}

theorem moves_of_tickEnds
    {answer : Except BundleError Requeue}
    {spec : ControllerSpec}
    {status : ControllerStatus}
    {bundles : List Bundle}
    {last : World}
    (isHeld : scene.IsHeld configuration)
    (ends : surroundings.TickEnds configuration scene.controller scene.store scene.world answer
      spec status bundles last) :
    scene.Moves configuration (scene.next configuration surroundings) spec status := by
  obtain ⟨written, after, ended, settles, -⟩ := ends
  have isFor : (surroundings.tick configuration scene.controller scene.store
      scene.world).2.1.IsFor configuration :=
    surroundings.isFor_execute isHeld.isFor _ _ _
  rw [ended] at isFor
  have next_eq : scene.next configuration surroundings = ⟨written, after, last⟩ := by
    rw [next, ended]
  rw [next_eq]
  exact ⟨isHeld.of_updates isFor settles.toUpdates, settles.address_eq, settles.spec_eq,
    settles.status_eq⟩

/-- The controller stays disconnected, or becomes so, where the newest bundle is not found. -/
theorem moves_of_error
    {failure : BundleError}
    (isHeld : scene.IsHeld configuration)
    (failed : scene.latest surroundings = .error failure) :
    scene.Moves configuration (scene.next configuration surroundings) scene.controller.spec
      (scene.controller.status.disconnected failure) :=
  moves_of_tickEnds isHeld (surroundings.tickEnds_of_unreachable scene.world isHeld
    (Prod.ext failed rfl))

/-- The controller moves on where the newest bundle is found, or it keeps the bundle that it
has in use. -/
theorem moves_of_ok
    {latest : Bundle}
    (isHeld : scene.IsHeld configuration)
    (found : scene.latest surroundings = .ok latest) :
    scene.Moves configuration (scene.next configuration surroundings)
        (scene.controller.specAfter latest.name) (scene.controller.statusAfter latest.name) ∨
      scene.controller.spec.activeBundle ≠ "" ∧
        scene.Moves configuration (scene.next configuration surroundings) scene.controller.spec
          scene.controller.status := by
  have foundIn : surroundings.findLatest scene.controller scene.world =
      (.ok latest, (surroundings.findLatest scene.controller scene.world).2) := Prod.ext found rfl
  rcases restored : surroundings.findMissing scene.controller
      (scene.store.register (latest.inSpace scene.controller.space))
      (surroundings.findLatest scene.controller scene.world).2 with ⟨failure | missing, last⟩
  · -- Only a bundle that is in use can be missing.
    refine .inr ⟨fun unused => ?_, moves_of_tickEnds isHeld
      (surroundings.tickEnds_of_notRestored scene.world isHeld foundIn restored)⟩
    rw [Surroundings.findMissing, if_neg fun both => both.2.1 unused] at restored
    cases restored
  · exact .inl (moves_of_tickEnds isHeld
      (surroundings.tickEnds_of_advanced scene.world isHeld foundIn restored))

/-- After a tick the controller is held as it is stored, at the same address. -/
theorem exists_moves (isHeld : scene.IsHeld configuration) (surroundings : Surroundings World) :
    ∃ spec status,
      scene.Moves configuration (scene.next configuration surroundings) spec status := by
  cases found : scene.latest surroundings with
  | error failure => exact ⟨_, _, moves_of_error isHeld found⟩
  | ok latest => exact (moves_of_ok isHeld found).elim (⟨_, _, ·⟩) (⟨_, _, ·.2⟩)

/-- After any number of ticks the controller is stored as it is held, at the same address. -/
theorem isHeld_after
    (isHeld : scene.IsHeld configuration)
    (surroundings : Surroundings World)
    (ticks : Nat) :
    (scene.after configuration surroundings ticks).IsHeld configuration ∧
      (scene.after configuration surroundings ticks).controller.address =
        scene.controller.address := by
  induction ticks with
  | zero => exact ⟨isHeld, rfl⟩
  | succ ticks ih =>
      obtain ⟨spec, status, moves⟩ := exists_moves ih.1 surroundings
      exact ⟨moves.isHeld, moves.address_eq.trans ih.2⟩

/-! ### With a bundle -/

/-- A bundle that is in use stays in use. -/
theorem activeBundle_next
    (isHeld : scene.IsHeld configuration)
    (used : scene.controller.spec.activeBundle ≠ "") :
    (scene.next configuration surroundings).controller.spec.activeBundle =
      scene.controller.spec.activeBundle := by
  cases found : scene.latest surroundings with
  | error failure => rw [(moves_of_error isHeld found).spec_eq]
  | ok latest =>
      rcases moves_of_ok isHeld found with moves | ⟨_, moves⟩
      · rw [moves.spec_eq, Controller.specAfter, if_neg fun both => used both.2]
      · rw [moves.spec_eq]

/-! ### Without a bundle -/

/-- A controller with a state takes no bundle into use. -/
theorem WithoutBundle.next
    (isHeld : scene.IsHeld configuration)
    (without : scene.WithoutBundle) :
    (scene.next configuration surroundings).WithoutBundle := by
  cases found : scene.latest surroundings with
  | error failure =>
      have moves := moves_of_error isHeld found
      refine ⟨by rw [moves.spec_eq, without.unused], ?_⟩
      rw [moves.status_eq]
      exact without.hasState.disconnected failure
  | ok latest =>
      rcases moves_of_ok isHeld found with moves | ⟨used, _⟩
      · refine ⟨?_, by rw [moves.status_eq]; exact Controller.hasState_statusAfter _ _⟩
        rw [moves.spec_eq, Controller.specAfter,
          if_neg fun both => both.1.elim without.hasState.1 without.hasState.2, without.unused]
      · exact absurd without.unused used

/-! ### A new controller -/

/-- A managed controller without a state and without a bundle in use is held as it is stored. -/
structure IsNew (configuration : Configuration) (scene : Scene World) : Prop where
  isHeld : scene.IsHeld configuration
  state_eq : scene.controller.status.state = .unset
  unused : scene.controller.spec.activeBundle = ""

theorem IsNew.isHeld_after
    (isNew : scene.IsNew configuration)
    (surroundings : Surroundings World)
    (ticks : Nat) :
    (scene.after configuration surroundings ticks).IsHeld configuration :=
  (Scene.isHeld_after isNew.isHeld surroundings ticks).1

/-- The first tick of a new controller takes the newest bundle into use if it finds it. -/
theorem IsNew.moves_of_ok
    {latest : Bundle}
    (isNew : scene.IsNew configuration)
    (found : scene.latest surroundings = .ok latest) :
    scene.Moves configuration (scene.next configuration surroundings)
      { scene.controller.spec with activeBundle := latest.name } ⟨.active, ""⟩ := by
  rcases Scene.moves_of_ok isNew.isHeld found with moves | ⟨used, _⟩
  · simpa [Controller.specAfter, Controller.statusAfter, isNew.state_eq, isNew.unused] using moves
  · exact absurd isNew.unused used

/-- A bundle that the first tick takes into use is in use ever after. -/
theorem IsNew.activeBundle_after
    {latest : Bundle}
    (isNew : scene.IsNew configuration)
    (found : scene.latest surroundings = .ok latest)
    (named : latest.name ≠ "")
    (ticks : Nat) :
    (scene.after configuration surroundings (ticks + 1)).controller.spec.activeBundle =
      latest.name := by
  induction ticks with
  | zero => exact congrArg _ (isNew.moves_of_ok found).spec_eq
  | succ ticks ih =>
      have isHeld := isNew.isHeld_after surroundings (ticks + 1)
      exact (activeBundle_next isHeld (ih ▸ named)).trans ih

/-- While the newest bundle is not found, a controller that was never active is disconnected. -/
theorem disconnected_next
    (isHeld : scene.IsHeld configuration)
    (unreached : scene.controller.status.state = .unset ∨
      scene.controller.status.state = .disconnected)
    (failed : ∀ latest, scene.latest surroundings ≠ .ok latest) :
    (scene.next configuration surroundings).controller.status.state = .disconnected ∧
      (scene.next configuration surroundings).controller.spec.activeBundle =
        scene.controller.spec.activeBundle := by
  cases found : scene.latest surroundings with
  | error failure =>
      have moves := moves_of_error isHeld found
      refine ⟨?_, congrArg _ moves.spec_eq⟩
      rw [moves.status_eq, ControllerStatus.disconnected]
      rcases unreached with state | state <;> simp [state]
  | ok latest => exact absurd found (failed latest)

/-- If the first tick does not find the newest bundle, no tick takes a bundle into use. -/
theorem IsNew.withoutBundle_after
    (isNew : scene.IsNew configuration)
    (failed : ∀ latest, scene.latest surroundings ≠ .ok latest)
    (ticks : Nat) :
    (scene.after configuration surroundings (ticks + 1)).WithoutBundle := by
  induction ticks with
  | zero =>
      obtain ⟨state, same⟩ := disconnected_next isNew.isHeld (.inl isNew.state_eq) failed
      exact ⟨same.trans isNew.unused, by rw [ControllerStatus.HasState, after, after, state]; simp⟩
  | succ ticks ih => exact ih.next (isNew.isHeld_after surroundings (ticks + 1))

/-- Until the newest bundle is found for the first time, a new controller is disconnected. -/
theorem IsNew.disconnected_after
    (isNew : scene.IsNew configuration)
    {ticks : Nat}
    (failed : ∀ earlier ≤ ticks, ∀ latest,
      (scene.after configuration surroundings earlier).latest surroundings ≠ .ok latest) :
    (scene.after configuration surroundings (ticks + 1)).controller.status.state =
      .disconnected := by
  induction ticks with
  | zero =>
      exact (disconnected_next isNew.isHeld (.inl isNew.state_eq) (failed 0 (Nat.le_refl 0))).1
  | succ ticks ih =>
      have state := ih fun earlier le => failed earlier (Nat.le_succ_of_le le)
      exact (disconnected_next (isNew.isHeld_after surroundings (ticks + 1)) (.inr state)
        (failed (ticks + 1) (Nat.le_refl _))).1

/-- The first tick that finds the newest bundle after one that did not makes the controller
active without a bundle. -/
theorem IsNew.active_without_bundle
    {latest : Bundle}
    {ticks : Nat}
    (isNew : scene.IsNew configuration)
    (failed : ∀ earlier ≤ ticks, ∀ latest,
      (scene.after configuration surroundings earlier).latest surroundings ≠ .ok latest)
    (found : (scene.after configuration surroundings (ticks + 1)).latest surroundings =
      .ok latest) :
    (scene.after configuration surroundings (ticks + 2)).controller.status.state = .active ∧
      (scene.after configuration surroundings (ticks + 2)).controller.spec.activeBundle = "" := by
  have state := isNew.disconnected_after failed
  have unused := (isNew.withoutBundle_after (failed 0 (Nat.zero_le ticks)) ticks).unused
  refine ⟨?_, (isNew.withoutBundle_after (failed 0 (Nat.zero_le ticks)) (ticks + 1)).unused⟩
  rcases Scene.moves_of_ok (isNew.isHeld_after surroundings (ticks + 1)) found with
    moves | ⟨used, _⟩
  · rw [after, moves.status_eq, Controller.statusAfter, state]
  · exact absurd unused used

/-- If the first tick does not find the newest bundle and the controller is never active without
one, no tick finds it: the first tick that did would make the controller active. -/
theorem IsNew.never_found
    (isNew : scene.IsNew configuration)
    (failed : ∀ latest, scene.latest surroundings ≠ .ok latest)
    (always : ∀ ticks,
      (scene.after configuration surroundings ticks).controller.status.state = .active →
        (scene.after configuration surroundings ticks).controller.spec.activeBundle ≠ "")
    (ticks : Nat) :
    ∀ latest, (scene.after configuration surroundings ticks).latest surroundings ≠ .ok latest := by
  induction ticks using Nat.strongRecOn with
  | ind ticks ih =>
      intro latest found
      cases ticks with
      | zero => exact failed latest found
      | succ ticks =>
          obtain ⟨state, unused⟩ := isNew.active_without_bundle
            (fun earlier le => ih earlier (Nat.lt_succ_of_le le)) found
          exact always (ticks + 2) state unused

end Ticks

end Scene

/-- A store has a controller at an address, which has a bundle in use if it is active. -/
def Store.ActiveWithBundle (store : Store) (address : Address) : Prop :=
  ∃ stored, store.controller? address = some stored ∧
    (stored.status.state = .active → stored.spec.activeBundle ≠ "")

/-- What is stored of a controller that is held as it is stored. -/
theorem Scene.activeWithBundle_iff {World : Type}
    {configuration : Configuration}
    {scene : Scene World}
    (isHeld : scene.IsHeld configuration) :
    scene.store.ActiveWithBundle scene.controller.address ↔
      (scene.controller.status.state = .active → scene.controller.spec.activeBundle ≠ "") := by
  rw [Store.ActiveWithBundle, isHeld.stored]
  simp

/-- A new controller is stored with a bundle in use whenever it is active exactly if the first
tick finds a newest bundle with a name or no tick ever finds one. -/
theorem active_with_bundle_iff {World : Type}
    {configuration : Configuration}
    {start : Scene World}
    (surroundings : Surroundings World)
    (isNew : start.IsNew configuration) :
    (∀ ticks, (start.after configuration surroundings ticks).store.ActiveWithBundle
        start.controller.address) ↔
      (∃ latest, start.latest surroundings = .ok latest ∧ latest.name ≠ "") ∨
        ∀ ticks latest,
          (start.after configuration surroundings ticks).latest surroundings ≠ .ok latest := by
  have stored (ticks : Nat) : (start.after configuration surroundings ticks).store.ActiveWithBundle
        start.controller.address ↔ _ :=
    (Scene.isHeld_after isNew.isHeld surroundings ticks).2 ▸
      Scene.activeWithBundle_iff (Scene.isHeld_after isNew.isHeld surroundings ticks).1
  simp only [stored]
  constructor
  · intro always
    by_cases found : ∃ latest, start.latest surroundings = .ok latest
    · obtain ⟨latest, found⟩ := found
      have moves := isNew.moves_of_ok found
      refine .inl ⟨latest, found, fun unnamed => ?_⟩
      exact always 1 (congrArg _ moves.status_eq) ((congrArg _ moves.spec_eq).trans unnamed)
    · exact .inr (isNew.never_found (not_exists.1 found) always)
  · rintro (⟨latest, found, named⟩ | never) ticks active
    · cases ticks with
      | zero => rw [Scene.after, isNew.state_eq] at active; cases active
      | succ ticks => rw [isNew.activeBundle_after found named ticks]; exact named
    · cases ticks with
      | zero => rw [Scene.after, isNew.state_eq] at active; cases active
      | succ ticks =>
          rw [isNew.disconnected_after fun earlier _ => never earlier] at active
          cases active

namespace TickExample

/-- The new controller in its store. -/
def start {World : Type} (world : World) : Scene World := ⟨controller, store, world⟩

theorem isNew_start {World : Type} (world : World) : (start world).IsNew .standard :=
  ⟨heldAsStored, rfl, rfl⟩

/-- A controller that finds its newest bundle at once has it in use whenever it is active. -/
theorem always_active_with_bundle :
    (start ()).IsNew .standard ∧
      ∀ ticks, ((start ()).after .standard surroundings ticks).store.ActiveWithBundle
        (start ()).controller.address := by
  have found : (start ()).latest surroundings = .ok latest := by
    simp only [Scene.latest, Surroundings.findLatest, surroundings, Surroundings.pullBundle,
      Except.bind, bundleOfArtifact_artifact]
  exact ⟨isNew_start (), (active_with_bundle_iff surroundings (isNew_start ())).2
    (.inl ⟨latest, found, by decide⟩)⟩

/-- Surroundings in which the version of the server is not found at the first time. -/
def lateSurroundings : Surroundings Bool where
  serverVersion _ asked :=
    (if asked then .ok ⟨"1", "21"⟩ else .error (.serverVersion "connection refused"), true)
  pull _ asked := (.ok artifact, asked)

theorem latest_lateSurroundings (scene : Scene Bool) :
    scene.latest lateSurroundings =
      if scene.world then .ok latest else .error (.serverVersion "connection refused") := by
  cases world : scene.world <;>
    simp [Scene.latest, Surroundings.findLatest, lateSurroundings, Surroundings.pullBundle,
      Except.bind, bundleOfArtifact_artifact, world]

/-- A new controller whose first tick fails becomes active without a bundle, although every newest
bundle that is found has a name. -/
theorem late_active_without_bundle :
    (start false).IsNew .standard ∧
      (∀ ticks latest, ((start false).after .standard lateSurroundings ticks).latest
        lateSurroundings = .ok latest → latest.name ≠ "") ∧
      ¬ ∀ ticks, ((start false).after .standard lateSurroundings ticks).store.ActiveWithBundle
        (start false).controller.address := by
  refine ⟨isNew_start false, fun ticks bundle found => ?_, fun always => ?_⟩
  · rw [latest_lateSurroundings] at found
    split at found
    · cases found
      decide
    · cases found
  · have unfound : ∀ earlier ≤ 0, ∀ bundle, ((start false).after .standard lateSurroundings
        earlier).latest lateSurroundings ≠ .ok bundle := by
      intro earlier le bundle found
      rw [Nat.le_zero.1 le, latest_lateSurroundings] at found
      cases found
    have asked : ((start false).after .standard lateSurroundings 1).world = true := by
      decide +kernel
    have found : ((start false).after .standard lateSurroundings (0 + 1)).latest
        lateSurroundings = .ok latest := by
      rw [latest_lateSurroundings, asked, if_pos rfl]
    obtain ⟨state, unused⟩ := (isNew_start false).active_without_bundle unfound found
    obtain ⟨isHeld, address⟩ := Scene.isHeld_after (isNew_start false).isHeld lateSurroundings 2
    have stored := always 2
    rw [← address, Scene.activeWithBundle_iff isHeld] at stored
    rw [Nat.zero_add] at state unused
    exact stored state unused

end TickExample

end BundleTrust
