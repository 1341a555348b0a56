import BundleTrust.Proofs.Controller.FirstBundle

/-!
# The notice of an upgrade

An active controller whose newest bundle is another one than it has in use has an upgrade available,
and its status names that bundle.  The status then stays as it is until the bundle in use is the
newest one: bundles that are published meanwhile are stored but not named.  So the notice that is
stored after a tick is that of the bundle that was the newest one when the upgrade became available
(`upgrade_notice`).

One tick gives a notice or keeps one (`Scene.available_next`).  Over the ticks of a controller that
had no state at first, every notice was given by some tick and kept by those after it
(`Scene.exists_noticed`).  A controller with a notice is not written by a tick that does not find
the bundle in use as the newest one (`Scene.unwritten_of_available`), and is active again after one
that does (`Scene.moves_of_taken`).
-/

namespace BundleTrust

/-- The status of a controller that an upgrade to a bundle is available for. -/
def ControllerStatus.noticeOf (bundle : Bundle) : ControllerStatus :=
  ⟨.upgradeAvailable, bundle.name ++ " available"⟩

/-- A notice tells the name of its bundle. -/
theorem ControllerStatus.detail_noticeOf_eq_iff (bundle : Bundle) (name : String) :
    (noticeOf bundle).detail = name ++ " available" ↔ bundle.name = name :=
  String.append_left_inj _

/-- How an upgrade is available for a controller that has found its newest bundle: it was not the
one in use, and an active controller has got its notice, or there was one already. -/
theorem Controller.available_statusAfter
    {controller : Controller}
    {latest : Bundle}
    (available : (controller.statusAfter latest.name).state = .upgradeAvailable) :
    latest.name ≠ controller.spec.activeBundle ∧
      controller.specAfter latest.name = controller.spec ∧
      (controller.status.state = .active ∧
          controller.statusAfter latest.name = .noticeOf latest ∨
        controller.status.state = .upgradeAvailable ∧
          controller.statusAfter latest.name = controller.status) := by
  unfold statusAfter at available ⊢
  cases state : controller.status.state with
  | active =>
      by_cases newest : latest.name = controller.spec.activeBundle
      · simp [state, newest] at available
      · exact ⟨newest, if_neg (by simp [state]), .inl ⟨rfl, if_neg newest⟩⟩
  | upgradeAvailable =>
      by_cases newest : latest.name = controller.spec.activeBundle
      · simp [state, newest] at available
      · exact ⟨newest, if_neg (by simp [state]), .inr ⟨rfl, if_neg newest⟩⟩
  | disconnected | ignored | unset | unknown => simp [state] at available

/-- An upgrade that is available stays so where the newest bundle is not found. -/
theorem ControllerStatus.disconnected_of_available
    {status : ControllerStatus}
    (available : status.state = .upgradeAvailable)
    (failure : BundleError) :
    status.disconnected failure = status := by
  simp [disconnected, available]

section Available

variable {controller : Controller} (available : controller.status.state = .upgradeAvailable)
  (latest : String)

include available

/-- An upgrade that is available is not taken by a tick. -/
theorem Controller.specAfter_of_available : controller.specAfter latest = controller.spec := by
  simp [specAfter, available]

/-- An upgrade that is available stays so until the newest bundle is the one in use. -/
theorem Controller.statusAfter_of_available :
    controller.statusAfter latest =
      if latest = controller.spec.activeBundle then ⟨.active, ""⟩ else controller.status := by
  simp only [statusAfter, available]

end Available

namespace Scene

variable {World : Type} {configuration : Configuration} {surroundings : Surroundings World}
  {scene start : Scene World}

/-! ## One tick -/

section Inactive

variable {latest : Bundle} (isHeld : scene.IsHeld configuration)
  (inactive : scene.controller.status.state ≠ .active)
  (found : scene.latest surroundings = .ok latest)

include isHeld inactive found

/-- A controller that is not active moves on where its newest bundle is found: no bundle is missing
that could not be restored. -/
theorem tickEnds_of_inactive :
    surroundings.TickEnds configuration scene.controller scene.store scene.world
      (.ok (.after (scene.controller.specAfter latest.name).interval))
      (scene.controller.specAfter latest.name) (scene.controller.statusAfter latest.name)
      [latest.inSpace scene.controller.space]
      (surroundings.findLatest scene.controller scene.world).2 :=
  surroundings.tickEnds_of_advanced scene.world isHeld (Prod.ext found rfl)
    (if_neg fun both => inactive both.1)

theorem moves_of_inactive :
    scene.Moves configuration (scene.next configuration surroundings)
      (scene.controller.specAfter latest.name) (scene.controller.statusAfter latest.name) :=
  moves_of_tickEnds isHeld (tickEnds_of_inactive isHeld inactive found)

theorem answer_of_inactive :
    (surroundings.tick configuration scene.controller scene.store scene.world).1.1 =
      .ok (.after (scene.controller.specAfter latest.name).interval) := by
  obtain ⟨written, after, ended, -⟩ := tickEnds_of_inactive isHeld inactive found
  rw [ended]

end Inactive

/-- A controller is not written by a tick that leaves its spec and its status as they are. -/
theorem unwritten_of_tickEnds
    {answer : Except BundleError Requeue}
    {bundles : List Bundle}
    {last : World}
    (ends : surroundings.TickEnds configuration scene.controller scene.store scene.world answer
      scene.controller.spec scene.controller.status bundles last) :
    (scene.next configuration surroundings).store.controllers = scene.store.controllers := by
  obtain ⟨written, after, ended, settles, -⟩ := ends
  rw [next, ended]
  exact (settles.unwritten rfl rfl).2

section Available

variable (isHeld : scene.IsHeld configuration)
  (available : scene.controller.status.state = .upgradeAvailable)

include isHeld available

/-- While the bundle in use is not found as the newest one, a controller that an upgrade is
available for is not written. -/
theorem unwritten_of_available
    (other : ∀ latest, scene.latest surroundings = .ok latest →
      latest.name ≠ scene.controller.spec.activeBundle) :
    (scene.next configuration surroundings).store.controllers = scene.store.controllers := by
  cases found : scene.latest surroundings with
  | error failure =>
      have ends := surroundings.tickEnds_of_unreachable scene.world isHeld (Prod.ext found rfl)
      rw [ControllerStatus.disconnected_of_available available] at ends
      exact unwritten_of_tickEnds ends
  | ok latest =>
      have ends := tickEnds_of_inactive isHeld (by simp [available]) found
      rw [Controller.specAfter_of_available available,
        Controller.statusAfter_of_available available, if_neg (other latest found)] at ends
      exact unwritten_of_tickEnds ends

/-- Once the bundle in use is the newest one, the controller is active, without a notice. -/
theorem moves_of_taken
    {latest : Bundle}
    (found : scene.latest surroundings = .ok latest)
    (taken : latest.name = scene.controller.spec.activeBundle) :
    scene.Moves configuration (scene.next configuration surroundings) scene.controller.spec
      ⟨.active, ""⟩ := by
  have moves := moves_of_inactive isHeld (by simp [available]) found
  rwa [Controller.specAfter_of_available available,
    Controller.statusAfter_of_available available, if_pos taken] at moves

end Available

/-- The next tick gives the notice of the newest bundle. -/
structure Notices (configuration : Configuration) (surroundings : Surroundings World)
    (scene : Scene World) (latest : Bundle) : Prop where
  /-- The controller is active. -/
  wasActive : scene.controller.status.state = .active
  /-- The bundle is the newest one. -/
  found : scene.latest surroundings = .ok latest
  /-- Its notice is the status then. -/
  status_eq : (scene.next configuration surroundings).controller.status = .noticeOf latest

/-- The next tick keeps the notice that there is. -/
structure KeepsNotice (configuration : Configuration) (surroundings : Surroundings World)
    (scene : Scene World) : Prop where
  /-- An upgrade is available already. -/
  wasAvailable : scene.controller.status.state = .upgradeAvailable
  /-- The status stays. -/
  status_eq : (scene.next configuration surroundings).controller.status = scene.controller.status

/-- What the next tick does if an upgrade is available after it. -/
structure MakesAvailable (configuration : Configuration) (surroundings : Surroundings World)
    (scene : Scene World) : Prop where
  /-- It gives a notice or keeps one. -/
  notices_or_keeps : (∃ latest, scene.Notices configuration surroundings latest) ∨
    scene.KeepsNotice configuration surroundings
  /-- The same bundle stays in use. -/
  spec_eq : (scene.next configuration surroundings).controller.spec = scene.controller.spec
  /-- The newest bundle is another one. -/
  name_ne : ∀ latest, scene.latest surroundings = .ok latest →
    latest.name ≠ scene.controller.spec.activeBundle

theorem makesAvailable_of_error
    {failure : BundleError}
    (isHeld : scene.IsHeld configuration)
    (failed : scene.latest surroundings = .error failure)
    (available : (scene.next configuration surroundings).controller.status.state =
      .upgradeAvailable) :
    scene.MakesAvailable configuration surroundings := by
  have moves := moves_of_error isHeld failed
  have kept : scene.controller.status.disconnected failure = scene.controller.status := by
    rw [moves.status_eq] at available
    unfold ControllerStatus.disconnected at available ⊢
    split at available
    · cases available
    · next unaffected => exact if_neg unaffected
  rw [kept] at moves
  refine ⟨.inr ⟨moves.status_eq ▸ available, moves.status_eq⟩, moves.spec_eq, ?_⟩
  intro latest found
  cases failed.symm.trans found

theorem makesAvailable_of_ok
    {latest : Bundle}
    (isHeld : scene.IsHeld configuration)
    (found : scene.latest surroundings = .ok latest)
    (available : (scene.next configuration surroundings).controller.status.state =
      .upgradeAvailable) :
    scene.MakesAvailable configuration surroundings := by
  have moves : scene.Moves configuration (scene.next configuration surroundings)
      (scene.controller.specAfter latest.name) (scene.controller.statusAfter latest.name) := by
    by_cases active : scene.controller.status.state = .active
    · refine (moves_of_ok isHeld found).resolve_right fun ⟨_, stays⟩ => ?_
      rw [stays.status_eq, active] at available
      cases available
    · exact moves_of_inactive isHeld active found
  obtain ⟨other, sameSpec, notice⟩ :=
    Controller.available_statusAfter (moves.status_eq ▸ available)
  constructor
  case notices_or_keeps =>
    rcases notice with given | kept
    · exact .inl ⟨latest, given.1, found, moves.status_eq.trans given.2⟩
    · exact .inr ⟨kept.1, moves.status_eq.trans kept.2⟩
  case spec_eq => exact moves.spec_eq.trans sameSpec
  case name_ne =>
    intro latest' found'
    cases found.symm.trans found'
    exact other

/-- A tick after which an upgrade is available gives a notice or keeps one. -/
theorem available_next
    (isHeld : scene.IsHeld configuration)
    (available : (scene.next configuration surroundings).controller.status.state =
      .upgradeAvailable) :
    scene.MakesAvailable configuration surroundings := by
  cases found : scene.latest surroundings with
  | error failure => exact makesAvailable_of_error isHeld found available
  | ok latest => exact makesAvailable_of_ok isHeld found available

/-! ## The run -/

/-- The notice of a bundle was given at one tick and is there still after a later one. -/
structure NoticedSince (configuration : Configuration) (surroundings : Surroundings World)
    (start : Scene World) (since ticks : Nat) (noticed : Bundle) : Prop where
  /-- The tick that gave the notice is no later one. -/
  since_le : since ≤ ticks
  /-- It gave the notice of its newest bundle. -/
  notices : (start.after configuration surroundings since).Notices configuration surroundings
    noticed
  /-- The notice was there after every tick since. -/
  status_eq : ∀ tick, since ≤ tick → tick ≤ ticks →
    (start.after configuration surroundings (tick + 1)).controller.status = .noticeOf noticed
  /-- The newest bundle was not in use at any of them. -/
  name_ne : ∀ tick, since ≤ tick → tick ≤ ticks → ∀ latest,
    (start.after configuration surroundings tick).latest surroundings = .ok latest →
    latest.name ≠
      (start.after configuration surroundings (ticks + 1)).controller.spec.activeBundle

/-- A tick that gives a notice starts a new one. -/
theorem NoticedSince.of_notices
    {ticks : Nat}
    {noticed : Bundle}
    (makes : (start.after configuration surroundings ticks).MakesAvailable configuration
      surroundings)
    (notices : (start.after configuration surroundings ticks).Notices configuration surroundings
      noticed) :
    NoticedSince configuration surroundings start ticks ticks noticed := by
  refine ⟨Nat.le_refl _, notices, fun tick le ge => ?_, fun tick le ge => ?_⟩
  · obtain rfl := Nat.le_antisymm ge le
    exact notices.status_eq
  · obtain rfl := Nat.le_antisymm ge le
    rw [after, makes.spec_eq]
    exact makes.name_ne

/-- A notice that the next tick keeps is there still after it. -/
theorem NoticedSince.succ
    {since ticks : Nat}
    {noticed : Bundle}
    (noticedSince : NoticedSince configuration surroundings start since ticks noticed)
    (makes : (start.after configuration surroundings (ticks + 1)).MakesAvailable configuration
      surroundings)
    (keeps : (start.after configuration surroundings (ticks + 1)).KeepsNotice configuration
      surroundings) :
    NoticedSince configuration surroundings start since (ticks + 1) noticed := by
  have le := noticedSince.since_le
  refine ⟨Nat.le_succ_of_le le, noticedSince.notices, fun tick since_le tick_le => ?_,
    fun tick since_le tick_le => ?_⟩
  · rcases Nat.le_succ_iff.1 tick_le with earlier | rfl
    · exact noticedSince.status_eq tick since_le earlier
    · exact keeps.status_eq.trans (noticedSince.status_eq ticks le (Nat.le_refl _))
  · rw [after, makes.spec_eq]
    rcases Nat.le_succ_iff.1 tick_le with earlier | rfl
    · exact noticedSince.name_ne tick since_le earlier
    · exact makes.name_ne

/-- An upgrade is available for a controller that had no state at first since some tick gave the
notice of it. -/
theorem exists_noticed
    (isHeld : start.IsHeld configuration)
    (unset : start.controller.status.state = .unset)
    {ticks : Nat}
    (available : (start.after configuration surroundings (ticks + 1)).controller.status.state =
      .upgradeAvailable) :
    ∃ since noticed, NoticedSince configuration surroundings start since ticks noticed := by
  induction ticks with
  | zero =>
      have makes := available_next isHeld available
      rcases makes.notices_or_keeps with ⟨noticed, notices⟩ | keeps
      · exact ⟨0, noticed, .of_notices makes notices⟩
      · cases unset.symm.trans keeps.wasAvailable
  | succ ticks ih =>
      have makes := available_next (isHeld_after isHeld surroundings (ticks + 1)).1 available
      rcases makes.notices_or_keeps with ⟨noticed, notices⟩ | keeps
      · exact ⟨ticks + 1, noticed, .of_notices makes notices⟩
      · obtain ⟨since, noticed, noticedSince⟩ := ih keeps.wasAvailable
        exact ⟨since, noticed, noticedSince.succ makes keeps⟩

/-- After any number of ticks the controller is found in the store where it was at first. -/
theorem stored_after
    (isHeld : start.IsHeld configuration)
    (surroundings : Surroundings World)
    (ticks : Nat) :
    (start.after configuration surroundings ticks).store.controller? start.controller.address =
      some (start.after configuration surroundings ticks).controller := by
  obtain ⟨isHeldNow, address⟩ := isHeld_after isHeld surroundings ticks
  exact address ▸ isHeldNow.stored

end Scene

/-- The notice of a bundle that is stored after a tick, and since which tick it is. -/
structure UpgradeNotice {World : Type} (configuration : Configuration)
    (surroundings : Surroundings World) (start : Scene World) (since ticks : Nat) (noticed : Bundle)
    (stored : Controller) : Prop where
  /-- The tick that gave the notice is no later one. -/
  since_le : since ≤ ticks
  /-- The controller was active before it. -/
  wasActive : ∃ active, (start.after configuration surroundings since).store.controller?
    start.controller.address = some active ∧ active.status.state = .active
  /-- It found that bundle as the newest one. -/
  found : (start.after configuration surroundings since).latest surroundings = .ok noticed
  /-- The notice has been stored after every tick since. -/
  kept : ∀ tick, since ≤ tick → tick ≤ ticks →
    ∃ kept, (start.after configuration surroundings (tick + 1)).store.controller?
      start.controller.address = some kept ∧ kept.status = .noticeOf noticed
  /-- The newest bundle was not in use at any of these ticks. -/
  name_ne : ∀ tick, since ≤ tick → tick ≤ ticks → ∀ latest,
    (start.after configuration surroundings tick).latest surroundings = .ok latest →
    latest.name ≠ stored.spec.activeBundle
  /-- The detail names the bundle. -/
  detail_eq : stored.status.detail = noticed.name ++ " available"
  /-- It names the newest bundle of the last tick only if that has the same name. -/
  current_iff : ∀ latest, (start.after configuration surroundings ticks).latest surroundings =
    .ok latest → (stored.status.detail = latest.name ++ " available" ↔ noticed.name = latest.name)
  /-- Where the next tick does not find the bundle in use as the newest one, it writes no
  controller. -/
  unwritten : (∀ latest, (start.after configuration surroundings (ticks + 1)).latest surroundings =
      .ok latest → latest.name ≠ stored.spec.activeBundle) →
    (start.after configuration surroundings (ticks + 2)).store.controllers =
      (start.after configuration surroundings (ticks + 1)).store.controllers
  /-- Where it does, the controller is active again, without a detail. -/
  taken : ∀ latest, (start.after configuration surroundings (ticks + 1)).latest surroundings =
      .ok latest → latest.name = stored.spec.activeBundle →
    ∃ active, (start.after configuration surroundings (ticks + 2)).store.controller?
      start.controller.address = some active ∧
        active.spec = stored.spec ∧ active.status = ⟨.active, ""⟩

/-- Whenever an upgrade is available for a controller that had no state at first, its detail names
the bundle that was the newest one at the tick that made it available, and stays until a tick finds
the bundle in use as the newest one. -/
theorem upgrade_notice {World : Type}
    {configuration : Configuration}
    {start : Scene World}
    (surroundings : Surroundings World)
    (isHeld : start.IsHeld configuration)
    (unset : start.controller.status.state = .unset)
    {ticks : Nat}
    {stored : Controller}
    (isStored : (start.after configuration surroundings (ticks + 1)).store.controller?
      start.controller.address = some stored)
    (available : stored.status.state = .upgradeAvailable) :
    ∃ since noticed,
      UpgradeNotice configuration surroundings start since ticks noticed stored := by
  have storedAfter := Scene.stored_after isHeld surroundings
  have isHeldNow := (Scene.isHeld_after isHeld surroundings (ticks + 1)).1
  cases (storedAfter (ticks + 1)).symm.trans isStored
  obtain ⟨since, noticed, noticedSince⟩ := Scene.exists_noticed isHeld unset available
  have isNotice := noticedSince.status_eq ticks noticedSince.since_le (Nat.le_refl _)
  refine ⟨since, noticed, ?_⟩
  constructor
  case since_le => exact noticedSince.since_le
  case wasActive => exact ⟨_, storedAfter since, noticedSince.notices.wasActive⟩
  case found => exact noticedSince.notices.found
  case kept =>
    intro tick le ge
    exact ⟨_, storedAfter (tick + 1), noticedSince.status_eq tick le ge⟩
  case name_ne => exact noticedSince.name_ne
  case detail_eq => exact congrArg ControllerStatus.detail isNotice
  case current_iff =>
    intro latest _
    rw [isNotice]
    exact ControllerStatus.detail_noticeOf_eq_iff noticed latest.name
  case unwritten => exact Scene.unwritten_of_available isHeldNow available
  case taken =>
    intro latest found newest
    have moves := Scene.moves_of_taken isHeldNow available found newest
    exact ⟨_, storedAfter (ticks + 2), moves.spec_eq, moves.status_eq⟩

namespace PublicationExample

open TickExample (start isNew_start)

/-- The newest bundle as a tick finds it, by the number of ticks so far. -/
def published : Nat → Bundle
  | 0 => .named "" "v1-21-1001"
  | 1 => .named "" "v1-21-1002"
  | _ => .named "" "v1-21-1003"

/-- That bundle as an artifact. -/
def artifact (ticks : Nat) : List UInt8 :=
  Text.octets ("metadata:\n  name: " ++ (published ticks).name ++ "\nspec:\n  packages: []\n")

theorem bundleOfArtifact_artifact (ticks : Nat) (reference : String) :
    bundleOfArtifact reference (artifact ticks) = .ok (published ticks) := by
  have decoded : bundleOfArtifact "" (artifact ticks) = .ok (published ticks) :=
    match ticks with
    | 0 | 1 => by decide +kernel
    | _ + 2 => (by decide +kernel : bundleOfArtifact "" (artifact 2) = .ok (published 2))
  exact bundleOfArtifact_eq_ok decoded reference

/-- Surroundings in which a newer bundle is published before each of the first three ticks. -/
def surroundings : Surroundings Nat where
  serverVersion _ ticks := (.ok ⟨"1", "21"⟩, ticks + 1)
  pull _ ticks := (.ok (artifact (ticks - 1)), ticks)

theorem findLatest_surroundings (controller : Controller) (ticks : Nat) :
    surroundings.findLatest controller ticks = (.ok (published ticks), ticks + 1) := by
  simp only [Surroundings.findLatest, surroundings, Surroundings.pullBundle, Except.bind,
    bundleOfArtifact_artifact, Nat.add_sub_cancel]

/-- A scene after a tick that has found the newest bundle. -/
def moved (scene : Scene Nat) : Scene Nat :=
  let latest := published scene.world
  let ended := surroundings.execute (Tick.advance .standard latest.name) scene.controller
    (scene.store.register (latest.inSpace scene.controller.space)) (scene.world + 1)
  ⟨ended.1.2, ended.2.1, ended.2.2⟩

theorem next_eq_moved
    {scene : Scene Nat}
    (isHeld : scene.IsHeld .standard) :
    scene.next .standard surroundings = moved scene := by
  have managed := Tick.execute_managed surroundings scene.world isHeld
  simp only [findLatest_surroundings] at managed
  rw [Scene.next, surroundings.tick_eq scene.world isHeld, managed, moved]
  rcases surroundings.execute (Tick.advance .standard _) scene.controller _ _ with
    ⟨⟨failure | answer, written⟩, after, last⟩ <;> rfl

/-- The scene after a number of ticks. -/
def run : (ticks : Nat) → Scene Nat
  | 0 => start 0
  | ticks + 1 => moved (run ticks)

theorem after_start (ticks : Nat) : (start 0).after .standard surroundings ticks = run ticks := by
  induction ticks with
  | zero => rfl
  | succ ticks ih =>
      rw [Scene.after, next_eq_moved ((isNew_start 0).isHeld_after surroundings ticks), ih, run]

theorem isHeld_run (ticks : Nat) : (run ticks).IsHeld .standard :=
  after_start ticks ▸ (isNew_start 0).isHeld_after surroundings ticks

theorem latest_run (ticks : Nat) :
    (run ticks).latest surroundings = .ok (published (run ticks).world) := by
  rw [Scene.latest, findLatest_surroundings]

/-- The notice that is stored after the third tick is that of the second one. -/
theorem notice_of_second :
    UpgradeNotice .standard surroundings (start 0) 1 2 (published 1) (run 3).controller := by
  have isHeld : (start 0).IsHeld .standard := (isNew_start 0).isHeld
  have isStored : ((start 0).after .standard surroundings 3).store.controller?
      (start 0).controller.address = some (run 3).controller := by
    rw [after_start]
    decide
  obtain ⟨since, noticed, notice⟩ :=
    upgrade_notice surroundings isHeld rfl isStored (by decide)
  have only : ∀ since ≤ 2, (run since).controller.status.state = .active → since = 1 := by decide
  obtain rfl : since = 1 := by
    obtain ⟨active, isActive, state⟩ := notice.wasActive
    cases (Scene.stored_after isHeld surroundings since).symm.trans isActive
    exact only since notice.since_le (after_start since ▸ state)
  obtain rfl : noticed = published 1 := by
    have found := notice.found
    rw [after_start, latest_run] at found
    exact (Except.ok.inj found).symm
  exact notice

/-- After the third tick, which has an answer, the notice is stored still that the second one gave,
although the third one found a newer bundle. -/
theorem stale_notice :
    ∃ before, before = (start 0).after .standard surroundings 2 ∧
      (before.latest surroundings).map Bundle.name = .ok "v1-21-1003" ∧
      (surroundings.tick .standard before.controller before.store before.world).1.1 =
        .ok (.after ControllerSpec.standardInterval) ∧
      (((start 0).after .standard surroundings 3).store.controller?
        (start 0).controller.address).map Controller.status =
          some ⟨.upgradeAvailable, "v1-21-1002 available"⟩ := by
  have inactive : (run 2).controller.status.state ≠ .active := by decide
  refine ⟨run 2, (after_start 2).symm, ?_, ?_, ?_⟩
  · rw [latest_run]
    decide
  · rw [Scene.answer_of_inactive (isHeld_run 2) inactive (latest_run 2)]
    decide
  · rw [after_start]
    decide

end PublicationExample
end BundleTrust
