import BundleTrust.Proofs.Controller.Registration
import BundleTrust.Proofs.Controller.Resolution
import Mathlib.Data.List.Perm.Subperm

/-!
# What ticks add

A tick only adds bundles, and at most two: the newest one under its own name and the bundle in use
under the name that the controller has for it (`TickAdditions`).  A tick that answers with the
interval, where this is not the short one, found the newest bundle and has everything in place that
the controller needs (`InPlace`).
-/

namespace BundleTrust

namespace Store

variable {store after : Store}

/-- A store gains no more bundles than were to be stored. -/
theorem Gains.length_le
    {bundles : List Bundle}
    (gains : store.Gains bundles after) :
    after.bundles.items.length ≤ store.bundles.items.length + bundles.length := by
  have once : (after.bundles.items.map Bundle.address).Nodup := by
    refine List.pairwise_map.2 (after.bundles.pairwise_items.imp fun before same => ?_)
    rw [same] at before
    exact Address.not_isBefore_self _ before
  have known : after.bundles.items.map Bundle.address ⊆
      store.bundles.items.map Bundle.address ++ bundles.map Bundle.address := by
    intro address isAddress
    obtain ⟨bundle, isBundle, rfl⟩ := List.mem_map.1 isAddress
    rcases gains.origin _ bundle (Shelf.mem_items_iff.1 isBundle) with
      before | ⟨gained, isGained, address, -⟩
    · exact List.mem_append_left _ (List.mem_map.2 ⟨bundle, Shelf.mem_items_iff.2 before, rfl⟩)
    · exact List.mem_append_right _ (List.mem_map.2 ⟨gained, isGained, address⟩)
  simpa using (List.subperm_of_subset once known).length_le

theorem mem_spaces_ensureSpace (store : Store) (name : String) :
    name ∈ (store.ensureSpace name).spaces := by
  unfold ensureSpace
  split
  · next known => exact List.contains_iff_mem.1 known
  · exact List.mem_cons_self

@[simp] theorem spaces_register (store : Store) (bundle : Bundle) :
    (store.register bundle).spaces = store.spaces := by
  unfold register createBundle
  split <;> rfl

@[simp] theorem spaces_restore
    (store : Store)
    (controller : Controller)
    (missing : Option Bundle) :
    (store.restore controller missing).spaces = store.spaces := by
  cases missing with
  | none => rfl
  | some bundle => exact store.spaces_register _

@[simp] theorem spaces_updateStatus
    (store : Store)
    (controller : Controller)
    (status : ControllerStatus) :
    (store.updateStatus controller status).2.spaces = store.spaces := by
  unfold updateStatus
  split <;> rfl

end Store

/-- What a controller needs is in place: the newest bundle is listed, and for an active controller
there is the namespace of its cluster, and the bundle in use is found. -/
structure InPlace (configuration : Configuration) (controller : Controller) (latest : Bundle)
    (after : Store) : Prop where
  /-- A bundle of the name of the newest one is listed. -/
  listed : ∃ bundle ∈ after.listBundles, bundle.name = latest.name
  /-- The namespace of the cluster exists. -/
  opened : controller.status.state = .active → configuration.clusterSpace controller ∈ after.spaces
  /-- The active bundle is found. -/
  resolves : controller.status.state = .active → controller.spec.activeBundle ≠ "" →
    ∃ bundle, after.activeBundle = .ok bundle

namespace Surroundings

variable {World : Type} {surroundings : Surroundings World} {configuration : Configuration}
  {controller : Controller} {store : Store} {world between last : World} {latest : Bundle}
  {missing : Option Bundle} {failure : BundleError}

/-- A tick leaves the store that of the configuration. -/
theorem isFor_tick (held : HeldAsStored configuration controller store) :
    (surroundings.tick configuration controller store world).2.1.IsFor configuration :=
  surroundings.isFor_execute held.isFor _ controller world

/-- A tick of an active controller ensures the namespace of its cluster, if the newest bundle is
found and the bundle in use could be restored. -/
theorem mem_spaces_of_restored
    (held : HeldAsStored configuration controller store)
    (found : surroundings.findLatest controller world = (.ok latest, between))
    (restored : surroundings.findMissing controller
      (store.register (latest.inSpace controller.space)) between = (.ok missing, last))
    (active : controller.status.state = .active) :
    configuration.clusterSpace controller ∈
      (surroundings.tick configuration controller store world).2.1.spaces := by
  have advancing := Tick.execute_advance_of_active surroundings between latest.name
    (heldAsStored_register held (latest.inSpace controller.space)) active
  rw [restored] at advancing
  have managed := Tick.execute_managed surroundings world held
  rw [found] at managed
  simp only [advancing] at managed
  rw [surroundings.tick_eq world held, managed]
  simpa using Store.mem_spaces_ensureSpace _ _

/-- Then the active bundle of the store is found. -/
theorem exists_activeBundle_of_restored
    (held : HeldAsStored configuration controller store)
    (found : surroundings.findLatest controller world = (.ok latest, between))
    (restored : surroundings.findMissing controller
      (store.register (latest.inSpace controller.space)) between = (.ok missing, last))
    (active : controller.status.state = .active)
    (used : controller.spec.activeBundle ≠ "") :
    ∃ bundle, (surroundings.tick configuration controller store world).2.1.activeBundle =
      .ok bundle := by
  have isStored := isSome_active_of_restored held found restored active used
  have isFor : (surroundings.tick configuration controller store world).2.1.IsFor configuration :=
    isFor_tick held
  obtain ⟨written, after, ended, settles, -⟩ :=
    surroundings.tickEnds_of_advanced world held found restored
  rw [ended] at isFor
  rw [ended] at isStored ⊢
  have heldAfter := held.of_updates isFor settles.toUpdates
  have address : written.activeAddress =
      ⟨configuration.space, controller.spec.activeBundle⟩ := by
    rw [Controller.activeAddress, heldAfter.space_eq, settles.spec_eq]
    simp [Controller.specAfter, active]
  obtain ⟨bundle, isBundle⟩ := Option.isSome_iff_exists.1 isStored
  exact ⟨bundle, by rw [heldAfter.activeBundle_eq, address, isBundle]⟩

/-- If the newest bundle is found, one of its name is listed after the tick. -/
theorem exists_listed_of_found
    (held : HeldAsStored configuration controller store)
    (found : surroundings.findLatest controller world = (.ok latest, between)) :
    ∃ bundle ∈ (surroundings.tick configuration controller store world).2.1.listBundles,
      bundle.name = latest.name := by
  rw [Store.exists_mem_listBundles_iff, (isFor_tick held).space]
  exact isSome_latest_tick held found

/-- A tick puts everything in place if the newest bundle is found and the bundle in use is not
missing or could be restored. -/
theorem inPlace_of_restored
    (held : HeldAsStored configuration controller store)
    (found : surroundings.findLatest controller world = (.ok latest, between))
    (restored : surroundings.findMissing controller
      (store.register (latest.inSpace controller.space)) between = (.ok missing, last)) :
    InPlace configuration controller latest
      (surroundings.tick configuration controller store world).2.1 where
  listed := exists_listed_of_found held found
  opened := mem_spaces_of_restored held found restored
  resolves := exists_activeBundle_of_restored held found restored

/-- The interval does not depend on the bundle in use. -/
theorem interval_specAfter (controller : Controller) (name : String) :
    (controller.specAfter name).interval = controller.spec.interval := by
  unfold Controller.specAfter
  split <;> rfl

/-- A tick stores two bundles or less. -/
theorem exists_gains_atMostTwo
    (held : HeldAsStored configuration controller store) :
    ∃ bundles : List Bundle, bundles.length ≤ 2 ∧
      store.Gains bundles (surroundings.tick configuration controller store world).2.1 := by
  rcases found : surroundings.findLatest controller world with ⟨failure | latest, between⟩
  · obtain ⟨written, after, ended, -, gains⟩ :=
      surroundings.tickEnds_of_unreachable world held found
    exact ⟨[], by simp, by rwa [ended]⟩
  · rcases restored : surroundings.findMissing controller
      (store.register (latest.inSpace controller.space)) between with ⟨failure | missing, last⟩
    · obtain ⟨written, after, ended, -, gains⟩ :=
        surroundings.tickEnds_of_notRestored world held found restored
      exact ⟨[latest.inSpace controller.space], by simp, by rwa [ended]⟩
    · obtain ⟨written, after, ended, -, gains⟩ :=
        surroundings.tickEnds_of_advanced world held found restored
      refine ⟨latest.inSpace controller.space :: controller.restored missing, ?_, by rwa [ended]⟩
      cases missing <;> simp [Controller.restored]

/-- A tick that answers with an interval other than the short one found the newest bundle, and the
bundle in use is not missing or could be restored. -/
theorem exists_restored_of_answer
    (held : HeldAsStored configuration controller store)
    (different : controller.spec.interval ≠ controller.spec.shortInterval)
    (answered : (surroundings.tick configuration controller store world).1.1 =
      .ok (.after controller.spec.interval)) :
    ∃ latest between missing last,
      surroundings.findLatest controller world = (.ok latest, between) ∧
      surroundings.findMissing controller (store.register (latest.inSpace controller.space))
        between = (.ok missing, last) := by
  rcases found : surroundings.findLatest controller world with ⟨failure | latest, between⟩
  · obtain ⟨written, after, ended, -, -⟩ := surroundings.tickEnds_of_unreachable world held found
    rw [ended] at answered
    cases different (Requeue.after.inj (Except.ok.inj answered)).symm
  · rcases restored : surroundings.findMissing controller
      (store.register (latest.inSpace controller.space)) between with ⟨failure | missing, last⟩
    · obtain ⟨written, after, ended, -, -⟩ :=
        surroundings.tickEnds_of_notRestored world held found restored
      rw [ended] at answered
      cases retryable : failure.isRetryable with
      | true =>
          rw [retryable, if_pos rfl] at answered
          cases different (Requeue.after.inj (Except.ok.inj answered)).symm
      | false =>
          rw [retryable, if_neg Bool.false_ne_true] at answered
          cases answered
    · exact ⟨latest, between, missing, last, rfl, restored⟩

end Surroundings

/-- What a tick adds, and what is in place after it. -/
structure TickAdditions {World : Type} (configuration : Configuration)
    (surroundings : Surroundings World) (controller : Controller) (store : Store)
    (world : World) : Prop where
  /-- Every bundle that was stored is stored unchanged. -/
  kept : ∀ address bundle,
    store.bundle? address = some bundle →
    (surroundings.tick configuration controller store world).2.1.bundle? address = some bundle
  /-- Every bundle that was not stored is from the registry, in the namespace of the manager, under
  the name that it is obtained under: the newest one under its own, the bundle in use under that
  which the controller has for it. -/
  added : ∀ address bundle,
    store.bundle? address = none →
    (surroundings.tick configuration controller store world).2.1.bundle? address = some bundle →
    address.space = configuration.space ∧
      ∃ pulled, surroundings.Obtains controller world pulled address.name
  /-- There are at most two of them. -/
  atMostTwo : (surroundings.tick configuration controller store world).2.1.bundles.items.length ≤
    store.bundles.items.length + 2
  /-- After an answer with the interval, where it is not the short one, everything is in place for
  the newest bundle that was found. -/
  answered : (surroundings.tick configuration controller store world).1.1 =
      .ok (.after controller.spec.interval) →
    controller.spec.interval ≠ controller.spec.shortInterval →
    ∃ latest between, surroundings.findLatest controller world = (.ok latest, between) ∧
      InPlace configuration controller latest
        (surroundings.tick configuration controller store world).2.1
  /-- Whatever the intervals are, the answer is the interval and everything is in place if the
  newest bundle is found and the bundle in use is not missing or could be restored. -/
  restored : ∀ latest between missing last,
    surroundings.findLatest controller world = (.ok latest, between) →
    surroundings.findMissing controller (store.register (latest.inSpace controller.space))
      between = (.ok missing, last) →
    (surroundings.tick configuration controller store world).1.1 =
        .ok (.after controller.spec.interval) ∧
      InPlace configuration controller latest
        (surroundings.tick configuration controller store world).2.1

/-- Every tick of a managed controller that is held as it is stored adds like that, in any
surroundings. -/
theorem tick_only_adds {World : Type}
    {configuration : Configuration}
    {controller : Controller}
    {store : Store}
    (surroundings : Surroundings World)
    (world : World)
    (held : HeldAsStored configuration controller store) :
    TickAdditions configuration surroundings controller store world where
  kept := by
    obtain ⟨bundles, gains, -⟩ := surroundings.exists_gains_tick held.isFor
    exact gains.kept
  added := by
    intro address bundle absent isStored
    obtain ⟨pulled, version, obtains, rfl⟩ :=
      Surroundings.exists_obtained held.isFor absent isStored
    have here := Shelf.address_of_get? isStored
    exact ⟨(congrArg Address.space here).symm, pulled, obtains⟩
  atMostTwo := by
    obtain ⟨bundles, two, gains⟩ := Surroundings.exists_gains_atMostTwo held
    exact Nat.le_trans gains.length_le (Nat.add_le_add_left two _)
  answered answer different := by
    obtain ⟨latest, between, missing, last, found, restored⟩ :=
      Surroundings.exists_restored_of_answer held different answer
    exact ⟨latest, between, found, Surroundings.inPlace_of_restored held found restored⟩
  restored latest between missing last found restored := by
    obtain ⟨written, after, ended, -, -⟩ :=
      surroundings.tickEnds_of_advanced world held found restored
    refine ⟨?_, Surroundings.inPlace_of_restored held found restored⟩
    rw [ended, Surroundings.interval_specAfter]

namespace TickExample

/-- An active controller with an interval, whose bundle is not the newest one. -/
def activeController (interval : Option Duration) : Controller :=
  { controller with
    spec := { controller.spec with
      activeBundle := "v1-21-1000", upgradeCheckInterval := interval }
    status := ⟨.active, ""⟩ }

/-- A store in which there is nothing but that controller: its bundle is missing. -/
def activeStore (interval : Option Duration) : Store :=
  ((Store.empty .standard).putController (activeController interval)).2

/-- Where the registry has both bundles, both are added and everything is in place. -/
theorem missing_restored :
    (surroundings.tick .standard (activeController none) (activeStore none) ()).1.1 =
        .ok (.after ControllerSpec.standardInterval) ∧
      InPlace .standard (activeController none) latest
        (surroundings.tick .standard (activeController none) (activeStore none) ()).2.1 := by
  have held : HeldAsStored .standard (activeController none) (activeStore none) :=
    ⟨⟨rfl, rfl⟩, by decide, by decide⟩
  have additions := tick_only_adds surroundings () held
  have restored : surroundings.findMissing (activeController none)
      ((activeStore none).register (latest.inSpace (activeController none).space)) () =
        (.ok (some latest), ()) := by
    rw [Surroundings.findMissing, if_pos (by decide)]
    simp only [surroundings, Surroundings.pullBundle, Except.bind, bundleOfArtifact_artifact]
    rfl
  obtain ⟨answer, -⟩ := additions.restored _ _ _ _ (findLatest_surroundings _) restored
  obtain ⟨newest, between, found, inPlace⟩ := additions.answered answer (by decide)
  cases (findLatest_surroundings _).symm.trans found
  exact ⟨answer, inPlace⟩

/-- A registry that has nothing but the newest bundle. -/
def onlyLatest : Surroundings Unit :=
  { surroundings with
    pull := fun reference world =>
      (if reference = "public.ecr.aws/eks-anywhere/eks-anywhere-packages-bundles:v1-21-latest" then
          .ok artifact
        else .error (.registry reference "not found"), world) }

/-- The interval that is the short one, too. -/
def hourly : Option Duration := some ControllerSpec.standardShortInterval

/-- With that interval a tick that could not restore the bundle in use answers with the interval. -/
theorem answered_without_bundle :
    HeldAsStored .standard (activeController hourly) (activeStore hourly) ∧
      (onlyLatest.tick .standard (activeController hourly) (activeStore hourly) ()).1.1 =
        .ok (.after (activeController hourly).spec.interval) ∧
      (onlyLatest.tick .standard (activeController hourly) (activeStore hourly)
          ()).2.1.activeBundle =
        .error (.notFound .bundle "eksa-packages" "v1-21-1000") :=
  ⟨⟨⟨rfl, rfl⟩, by decide, by decide⟩, by decide +kernel, by decide +kernel⟩

end TickExample

end BundleTrust
