import BundleTrust.Proofs.Controller.FirstBundle

/-!
# Convergence

A controller ticks again and again, with no other writer, and every tick finds the same newest
bundle and can pull the one in use.  Whatever the controller and the store are at first, two
ticks are enough (`ticks_converge`).

* The first tick stores the newest bundle and leads to one of the two states in which bundles
  are compared, active and upgrade available.  After it the bundle in use is not changed.
* The second tick tells these two states apart by whether the newest bundle is in use.  The
  bundle in use is restored at most by this tick.
* Every later tick writes nothing: the scene is settled, and a settled scene stays as it is.
-/

namespace BundleTrust

namespace Store

variable {store after : Store}

/-- Storing bundles at addresses that are taken changes no bundle. -/
theorem Gains.bundle?_eq
    {bundles : List Bundle}
    (gains : store.Gains bundles after)
    (taken : ∀ bundle ∈ bundles, (store.bundle? bundle.address).isSome)
    (address : Address) :
    after.bundle? address = store.bundle? address := by
  cases found : after.bundle? address with
  | none =>
      cases stored : store.bundle? address with
      | none => rfl
      | some bundle => rw [gains.kept address bundle stored] at found; cases found
  | some bundle =>
      rcases gains.origin address bundle found with stored | ⟨gained, isGained, rfl, _⟩
      · exact stored.symm
      · obtain ⟨old, stored⟩ := Option.isSome_iff_exists.1 (taken gained isGained)
        rw [gains.kept _ old stored] at found
        exact stored.trans found |>.symm

/-- Stores with the same bundles and the same controllers have the same documents. -/
theorem find?_congr
    (sameBundles : ∀ address, after.bundle? address = store.bundle? address)
    (sameControllers : after.controllers = store.controllers)
    (place : Place) :
    after.find? place = store.find? place := by
  simp only [find?, sameBundles, controller?_congr sameControllers]

end Store

/-- The states in which the bundle in use is compared with the newest one. -/
def ControllerState.Compares (state : ControllerState) : Prop :=
  state = .active ∨ state = .upgradeAvailable

namespace Controller

/-- The state of a controller tells whether the newest bundle is in use. -/
def Settled (controller : Controller) (latest : String) : Prop :=
  controller.status.state =
    if controller.spec.activeBundle = latest then .active else .upgradeAvailable

/-- Once the newest bundle was found, bundles are compared. -/
theorem compares_statusAfter (controller : Controller) (latest : String) :
    (controller.statusAfter latest).state.Compares := by
  unfold statusAfter
  cases state : controller.status.state with
  | active | upgradeAvailable =>
      dsimp only
      split <;> simp [ControllerState.Compares, state]
  | disconnected | ignored | unset | unknown => exact .inl rfl

variable {controller : Controller} {latest : String}

/-- No bundle is taken into use where bundles are compared. -/
theorem specAfter_of_compares (compares : controller.status.state.Compares) :
    controller.specAfter latest = controller.spec := by
  rcases compares with state | state <;> simp [specAfter, state]

/-- A comparison of bundles settles the state. -/
theorem state_statusAfter_of_compares (compares : controller.status.state.Compares) :
    (controller.statusAfter latest).state =
      if controller.spec.activeBundle = latest then .active else .upgradeAvailable := by
  rcases compares with state | state <;>
    simp only [statusAfter, state, eq_comm (a := latest)] <;>
    split <;> simp [state]

theorem Settled.compares (settled : controller.Settled latest) :
    controller.status.state.Compares := by
  rw [Settled] at settled
  split at settled
  · exact .inl settled
  · exact .inr settled

/-- A settled state is kept, with what there is to say about it. -/
theorem Settled.statusAfter_eq (settled : controller.Settled latest) :
    controller.statusAfter latest = controller.status := by
  rw [Settled] at settled
  split at settled
  · next newest => simp [statusAfter, settled, newest]
  · next other => simp [statusAfter, settled, Ne.symm other]

end Controller

namespace Scene

variable {World : Type} {configuration : Configuration} {surroundings : Surroundings World}
  {scene : Scene World} {latest : Bundle}

/-- The next tick finds a newest bundle and can pull the bundle in use. -/
structure Sees (surroundings : Surroundings World) (latest : Bundle) (scene : Scene World) :
    Prop where
  /-- The newest bundle is found. -/
  latest_eq : scene.latest surroundings = .ok latest
  /-- If a bundle is in use, the registry has one with its reference. -/
  serves : scene.controller.spec.activeBundle ≠ "" →
    ∃ bundle, (surroundings.pullBundle scene.controller.activeReference
      (surroundings.findLatest scene.controller scene.world).2).1 = .ok bundle

/-- A bundle is stored in the namespace of the controller. -/
def Has (scene : Scene World) (bundle : Bundle) : Prop :=
  (scene.store.bundle? (bundle.inSpace scene.controller.space).address).isSome

/-- The newest bundle is stored and the controller is settled. -/
structure Settled (configuration : Configuration) (latest : Bundle) (scene : Scene World) :
    Prop where
  isHeld : scene.IsHeld configuration
  has : scene.Has latest
  settled : scene.controller.Settled latest.name

/-- The bundle in use is not missing or can be restored. -/
theorem Sees.exists_missing
    (sees : scene.Sees surroundings latest)
    (store : Store) :
    ∃ missing, (surroundings.findMissing scene.controller store
      (surroundings.findLatest scene.controller scene.world).2).1 = .ok missing := by
  unfold Surroundings.findMissing
  split
  · next misses =>
      obtain ⟨bundle, pulled⟩ := sees.serves misses.2.1
      exact ⟨some bundle, by rw [pulled]; rfl⟩
  · exact ⟨none, rfl⟩

/-- A tick that sees the newest bundle moves the controller on and stores that bundle. -/
theorem Sees.moves
    (isHeld : scene.IsHeld configuration)
    (sees : scene.Sees surroundings latest) :
    scene.Moves configuration (scene.next configuration surroundings)
        (scene.controller.specAfter latest.name) (scene.controller.statusAfter latest.name) ∧
      (scene.next configuration surroundings).Has latest := by
  obtain ⟨missing, restored⟩ := sees.exists_missing
    (scene.store.register (latest.inSpace scene.controller.space))
  have ends := surroundings.tickEnds_of_advanced scene.world isHeld
    (Prod.ext sees.latest_eq rfl) (Prod.ext restored rfl)
  have moves := moves_of_tickEnds isHeld ends
  refine ⟨moves, ?_⟩
  obtain ⟨written, after, ended, -, gains⟩ := ends
  have space : (scene.next configuration surroundings).controller.space = scene.controller.space :=
    congrArg Address.space moves.address_eq
  rw [Has, space, next, ended]
  exact gains.isStored _ List.mem_cons_self

/-- Two ticks that see the newest bundle settle the controller. -/
theorem Sees.settled
    (isHeld : scene.IsHeld configuration)
    (sees : scene.Sees surroundings latest)
    (seesNext : (scene.next configuration surroundings).Sees surroundings latest) :
    ((scene.next configuration surroundings).next configuration surroundings).Settled
        configuration latest ∧
      ((scene.next configuration surroundings).next configuration
          surroundings).controller.spec =
        (scene.next configuration surroundings).controller.spec := by
  obtain ⟨first, -⟩ := sees.moves isHeld
  obtain ⟨second, has⟩ := seesNext.moves first.isHeld
  have compares : (scene.next configuration surroundings).controller.status.state.Compares := by
    rw [first.status_eq]
    exact scene.controller.compares_statusAfter latest.name
  have spec := second.spec_eq.trans (Controller.specAfter_of_compares compares)
  refine ⟨⟨second.isHeld, has, ?_⟩, spec⟩
  rw [Controller.Settled, spec, second.status_eq]
  exact Controller.state_statusAfter_of_compares compares

/-- Nothing is missing in a settled scene: the bundle in use of an active controller is the
newest one. -/
theorem Settled.findMissing_eq
    (settled : scene.Settled configuration latest)
    (world : World) :
    surroundings.findMissing scene.controller
      (scene.store.register (latest.inSpace scene.controller.space)) world = (.ok none, world) := by
  refine if_neg fun ⟨active, _, missing⟩ => ?_
  have newest : scene.controller.spec.activeBundle = latest.name := by
    have state := settled.settled
    rw [Controller.Settled, active] at state
    split at state
    · assumption
    · cases state
  have stored := (scene.store.gains_createBundle (latest.inSpace scene.controller.space)).isStored
    _ List.mem_cons_self
  rw [Controller.activeAddress, newest] at missing
  exact absurd missing (Option.isSome_iff_ne_none.1 stored)

/-- A settled scene stays as it is: its next tick writes nothing. -/
theorem Settled.next
    (settled : scene.Settled configuration latest)
    (found : scene.latest surroundings = .ok latest) :
    (scene.next configuration surroundings).Settled configuration latest ∧
      (scene.next configuration surroundings).controller = scene.controller ∧
      ∀ place, (scene.next configuration surroundings).store.find? place =
        scene.store.find? place := by
  have ends := surroundings.tickEnds_of_advanced scene.world settled.isHeld (Prod.ext found rfl)
    (settled.findMissing_eq _)
  have isHeld := (moves_of_tickEnds settled.isHeld ends).isHeld
  obtain ⟨written, after, ended, settles, gains⟩ := ends
  rw [Controller.specAfter_of_compares settled.settled.compares,
    settled.settled.statusAfter_eq] at settles
  obtain ⟨rfl, sameControllers⟩ := settles.unwritten rfl rfl
  have sameBundles := gains.bundle?_eq fun bundle isGained => by
    rw [List.mem_singleton.1 isGained]
    exact settled.has
  rw [Scene.next, ended] at isHeld ⊢
  exact ⟨⟨isHeld, by rw [Has, sameBundles]; exact settled.has, settled.settled⟩, rfl,
    Store.find?_congr sameBundles sameControllers⟩

/-- Whatever number of ticks see the newest bundle, a settled scene stays as it is. -/
theorem Settled.after
    (settled : scene.Settled configuration latest)
    (found : ∀ ticks, (scene.after configuration surroundings ticks).latest surroundings =
      .ok latest)
    (ticks : Nat) :
    (scene.after configuration surroundings ticks).Settled configuration latest ∧
      (scene.after configuration surroundings ticks).controller = scene.controller ∧
      ∀ place, (scene.after configuration surroundings ticks).store.find? place =
        scene.store.find? place := by
  induction ticks with
  | zero => exact ⟨settled, rfl, fun _ => rfl⟩
  | succ ticks ih =>
      obtain ⟨stays, sameController, sameDocuments⟩ := ih
      obtain ⟨staysNext, sameNext, sameDocumentsNext⟩ := stays.next (found ticks)
      exact ⟨staysNext, sameNext.trans sameController,
        fun place => (sameDocumentsNext place).trans (sameDocuments place)⟩

/-- The ticks after some ticks. -/
theorem after_add
    (configuration : Configuration)
    (surroundings : Surroundings World)
    (scene : Scene World)
    (first second : Nat) :
    (scene.after configuration surroundings first).after configuration surroundings second =
      scene.after configuration surroundings (second + first) := by
  induction second with
  | zero => rw [Nat.zero_add]; rfl
  | succ second ih => rw [Nat.succ_add]; exact congrArg _ ih

/-- From some scene on, a controller comes to rest within two ticks. -/
structure ConvergesTo (configuration : Configuration) (surroundings : Surroundings World)
    (latest : Bundle) (start : Scene World) (settled : Controller) : Prop where
  /-- The state tells whether the newest bundle is in use. -/
  state_eq : settled.status.state =
    if settled.spec.activeBundle = latest.name then .active else .upgradeAvailable
  /-- After the first tick the bundle in use is never changed. -/
  chosen : ∀ ticks, ∃ stored,
    (start.after configuration surroundings (ticks + 1)).store.controller?
        start.controller.address = some stored ∧
      stored.spec.activeBundle = settled.spec.activeBundle
  /-- After the second tick the controller is never changed. -/
  settles : ∀ ticks,
    (start.after configuration surroundings (ticks + 2)).store.controller?
      start.controller.address = some settled
  /-- After the second tick no document is changed, nor is its version. -/
  unchanged : ∀ ticks place,
    (start.after configuration surroundings (ticks + 2)).store.find? place =
      (start.after configuration surroundings 2).store.find? place

end Scene

/-- A controller that is held as it is stored comes to rest within two ticks if every tick finds
the same newest bundle and can pull the bundle in use. -/
theorem ticks_converge {World : Type}
    {configuration : Configuration}
    {start : Scene World}
    {latest : Bundle}
    (surroundings : Surroundings World)
    (isHeld : start.IsHeld configuration)
    (steady : ∀ ticks,
      (start.after configuration surroundings ticks).Sees surroundings latest) :
    ∃ settled, start.ConvergesTo configuration surroundings latest settled := by
  obtain ⟨settled, sameSpec⟩ := (steady 0).settled isHeld (steady 1)
  have found (ticks : Nat) : ((start.after configuration surroundings 2).after configuration
      surroundings ticks).latest surroundings = .ok latest := by
    rw [Scene.after_add]
    exact (steady (ticks + 2)).latest_eq
  have rests (ticks : Nat) := settled.after found ticks
  have same (ticks : Nat) :
      (start.after configuration surroundings (ticks + 2)).controller =
        (start.after configuration surroundings 2).controller :=
    Scene.after_add configuration surroundings start 2 ticks ▸ (rests ticks).2.1
  have stored (ticks : Nat) :
      (start.after configuration surroundings ticks).store.controller? start.controller.address =
        some (start.after configuration surroundings ticks).controller := by
    obtain ⟨held, address⟩ := Scene.isHeld_after isHeld surroundings ticks
    rw [← address, held.stored]
  refine ⟨(start.after configuration surroundings 2).controller, settled.settled,
    fun ticks => ⟨_, stored (ticks + 1), ?_⟩, fun ticks => by rw [stored, same],
    fun ticks => Scene.after_add configuration surroundings start 2 ticks ▸ (rests ticks).2.2⟩
  cases ticks with
  | zero => exact congrArg _ sameSpec.symm
  | succ ticks => rw [same]

namespace TickExample

/-- A controller with a bundle in use that is not the newest one, after an outage. -/
def strandedController : Controller :=
  { controller with
    spec := { controller.spec with activeBundle := "v1-21-1000" }
    status := ⟨.disconnected, "connection refused"⟩ }

/-- A store in which there is nothing but that controller: its bundle is missing. -/
def stranded : Scene Unit :=
  ⟨strandedController, ((Store.empty .standard).putController strandedController).2, ()⟩

theorem sees_latest (scene : Scene Unit) : scene.Sees surroundings latest := by
  refine ⟨congrArg Prod.fst (findLatest_surroundings _), fun _ => ⟨latest, ?_⟩⟩
  simp only [surroundings, Surroundings.pullBundle, Except.bind, bundleOfArtifact_artifact]

/-- After the outage the controller comes to rest, although its bundle has to be restored and the
newest one is not known. -/
theorem stranded_converges :
    stranded.IsHeld .standard ∧
      (∀ ticks, (stranded.after .standard surroundings ticks).Sees surroundings latest) ∧
      ∃ settled, stranded.ConvergesTo .standard surroundings latest settled := by
  have isHeld : stranded.IsHeld .standard := ⟨⟨rfl, rfl⟩, by decide, by decide⟩
  exact ⟨isHeld, fun _ => sees_latest _,
    ticks_converge surroundings isHeld fun _ => sees_latest _⟩

end TickExample

end BundleTrust
