import BundleTrust.Controller.Tick
import BundleTrust.Proofs.Lifecycle.Computation
import BundleTrust.Proofs.Manager.Keeping

/-!
# The document that a tick leaves

A tick holds a document of a controller and may write it: to take a bundle into use, and to move the
status.  Others write in between, so that either write may be refused.  The document that a tick
leaves is the one that it held unless it wrote, and what came of its last write if it did: the
stored document if that was accepted, and the offered one if it was refused
(`Controller.reconcile_heldThrough`).  So a refused write leaves a document that is not stored.

The parts of a tick that write nothing keep the document (`Reconciliation.Keeps`); what is left is
put together from those that write (`Tick.Tracks.bind`).
-/

namespace BundleTrust

/-! ## Writes of a controller -/

/-- A write of a controller and the reply to it. -/
structure ControllerWrite where
  /-- The document that was to be stored. -/
  offered : Controller
  /-- The document that was stored, unless the write was refused. -/
  reply : Except BundleError Controller

namespace ControllerWrite

/-- The write was refused. -/
def IsRefused (write : ControllerWrite) : Prop := write.reply.toOption = none

instance (write : ControllerWrite) : Decidable write.IsRefused :=
  inferInstanceAs (Decidable (_ = _))

@[simp] theorem not_isRefused_ok (offered stored : Controller) :
    ¬ (ControllerWrite.mk offered (.ok stored)).IsRefused := nofun

/-- What came of the write: the stored document, or the offered one if it was refused. -/
def left (write : ControllerWrite) : Controller := write.reply.toOption.getD write.offered

end ControllerWrite

namespace ManagerRequest

/-- A request to write a controller. -/
def IsControllerWrite : ManagerRequest → Prop
  | .store (.saveController _) | .store (.saveControllerStatus _) => True
  | _ => False

/-- The write of a controller that a request is, with its reply. -/
def controllerWrite? : (request : ManagerRequest) → request.Reply → Option ControllerWrite
  | .store (.saveController controller), reply => some ⟨controller, reply⟩
  | .store (.saveControllerStatus controller), reply => some ⟨controller, reply⟩
  | _, _ => none

theorem controllerWrite?_eq_none
    {request : ManagerRequest}
    (other : ¬ request.IsControllerWrite)
    (reply : request.Reply) :
    request.controllerWrite? reply = none := by
  unfold controllerWrite?
  split
  · exact absurd trivial other
  · exact absurd trivial other
  · rfl

end ManagerRequest

namespace Controller

/-- The document that is held after writes, if each leaves what came of it. -/
def heldAfter (entry : Controller) (writes : List ControllerWrite) : Controller :=
  writes.foldl (fun _ write => write.left) entry

/-- The document that was stored by the last one of the writes that was not refused. -/
def storedAfter (entry : Controller) (writes : List ControllerWrite) : Controller :=
  writes.foldl (fun earlier write => write.reply.toOption.getD earlier) entry

/-- Through its writes the document that was held at first became another one: the one that they
leave, and none but the last one was refused. -/
structure HeldThrough (entry held : Controller) (writes : List ControllerWrite) : Prop where
  /-- The document is what came of the last write. -/
  held_eq : held = entry.heldAfter writes
  /-- A write that another one follows was accepted. -/
  accepted : writes.Pairwise fun earlier _ => ¬ earlier.IsRefused

namespace HeldThrough

variable {entry between held : Controller} {writes more : List ControllerWrite}

theorem nil : HeldThrough held held [] := ⟨rfl, .nil⟩

/-- After one write the document is what came of it, whatever was held before. -/
theorem single (write : ControllerWrite) : HeldThrough entry write.left [write] :=
  ⟨rfl, List.pairwise_singleton _ _⟩

theorem append
    (through : HeldThrough entry between writes)
    (accepted : ∀ write ∈ writes, ¬ write.IsRefused)
    (onward : HeldThrough between held more) :
    HeldThrough entry held (writes ++ more) := by
  constructor
  case held_eq =>
    rw [onward.held_eq, through.held_eq, heldAfter, heldAfter, heldAfter, List.foldl_append]
  case accepted =>
    exact List.pairwise_append.2
      ⟨through.accepted, onward.accepted, fun write isWrite _ _ => accepted write isWrite⟩

/-- The document is the one that was stored last, unless a refused write offered another one. -/
theorem eq_storedAfter_iff (through : HeldThrough entry held writes) :
    held = entry.storedAfter writes ↔
      ∀ write ∈ writes, write.IsRefused → write.offered = entry.storedAfter writes := by
  rw [through.held_eq]
  rcases List.eq_nil_or_concat writes with rfl | ⟨front, last, rfl⟩
  · simp [heldAfter, storedAfter]
  · rw [List.concat_eq_append] at through ⊢
    have earlier (write : ControllerWrite) (isWrite : write ∈ front) : ¬ write.IsRefused :=
      (List.pairwise_append.1 through.accepted).2.2 write isWrite last (List.mem_singleton.2 rfl)
    have only : (∀ write ∈ front ++ [last], write.IsRefused →
        write.offered = entry.storedAfter (front ++ [last])) ↔
          (last.IsRefused → last.offered = entry.storedAfter (front ++ [last])) := by
      simp only [List.mem_append, List.mem_singleton]
      exact ⟨fun all => all last (.inr rfl), fun all write isWrite refused =>
        isWrite.elim (fun isWrite => absurd refused (earlier write isWrite))
          fun isLast => isLast ▸ all (isLast ▸ refused)⟩
    rw [only]
    simp only [heldAfter, storedAfter, List.foldl_append, List.foldl_cons, List.foldl_nil,
      ControllerWrite.left, ControllerWrite.IsRefused]
    cases last.reply.toOption <;> simp

end HeldThrough
end Controller

namespace Tick

open Reconciliation

variable {Moment Answer Next : Type}

/-- The writes of a part of a tick of a controller, with their replies. -/
def writes (respond : Respondent Moment) (part : Tick Answer) (held : Controller) (now : Moment) :
    List ControllerWrite :=
  (requests respond part held now).filterMap fun entry =>
    entry.1.controllerWrite? (respond entry.1 entry.2).1

section Writes

variable (respond : Respondent Moment) (held : Controller) (now : Moment)

@[simp] theorem writes_pure (answer : Answer) : writes respond (pure answer) held now = [] := rfl

@[simp] theorem writes_get : writes respond get held now = [] := rfl

@[simp] theorem writes_set (other : Controller) : writes respond (set other) held now = [] := rfl

@[simp] theorem writes_demand (request : ManagerRequest) :
    @writes Moment (no_index request.Result) respond (demand request) held now =
      (request.controllerWrite? (respond request now).1).toList := by
  rw [writes, requests_demand, List.filterMap_cons]
  cases request.controllerWrite? (respond request now).1 <;> rfl

end Writes

/-- The writes of the first part come before those of what follows. -/
theorem writes_bind
    (respond : Respondent Moment)
    (first : Tick Answer)
    (next : Answer → Tick Next)
    (held : Controller)
    (now : Moment) :
    writes respond (first >>= next) held now =
      writes respond first held now ++
        match execute respond first held now with
        | ((.ok answer, left), after) => writes respond (next answer) left after
        | ((.error _, _), _) => [] := by
  rw [writes, requests_bind, List.filterMap_append]
  refine congrArg _ ?_
  rcases execute respond first held now with ⟨⟨failure | answer, left⟩, after⟩ <;> rfl

/-- A part that may not write a controller does not. -/
theorem writes_of_keeps
    {part : Tick Answer}
    (keeps : Keeps ManagerRequest.IsControllerWrite part)
    (respond : Respondent Moment)
    (held : Controller)
    (now : Moment) :
    writes respond part held now = [] :=
  List.filterMap_eq_nil_iff.2 fun entry isAsked =>
    entry.1.controllerWrite?_eq_none (keeps.unasked respond held now entry isAsked) _

/-- Whatever the replies are, a part of a tick goes on from a document that another one became
through its writes, and all of its writes were accepted if it does not fail. -/
structure Tracks (part : Tick Answer) (entry held : Controller) : Prop where
  /-- The document is what came of the writes of the part. -/
  through : ∀ {Moment : Type} (respond : Respondent Moment) (now : Moment),
    entry.HeldThrough (execute respond part held now).1.2 (writes respond part held now)
  /-- A part that has an answer was refused nothing. -/
  accepted : ∀ {Moment : Type} (respond : Respondent Moment) (now : Moment) (answer : Answer),
    (execute respond part held now).1.1 = .ok answer →
      ∀ write ∈ writes respond part held now, ¬ write.IsRefused

namespace Tracks

variable {part first : Tick Answer} {next : Answer → Tick Next} {entry held : Controller}

/-- A part that keeps the document writes nothing. -/
theorem of_keeps (keeps : Keeps ManagerRequest.IsControllerWrite part) : Tracks part held held := by
  constructor
  case through =>
    intro Moment respond now
    rw [keeps.held_eq, writes_of_keeps keeps]
    exact .nil
  case accepted =>
    intro Moment respond now answer _
    simp [writes_of_keeps keeps]

/-- A first part may leave another document than came of its writes, if what follows goes on with
that instead. -/
theorem bind_of_ends
    (ends : ∀ {Moment : Type} (respond : Respondent Moment) (now : Moment),
      match execute respond first held now with
      | ((.error _, left), _) => entry.HeldThrough left (writes respond first held now)
      | ((.ok answer, left), _) => ∃ between,
          entry.HeldThrough between (writes respond first held now) ∧
            (∀ write ∈ writes respond first held now, ¬ write.IsRefused) ∧
            Tracks (next answer) between left) :
    Tracks (first >>= next) entry held := by
  constructor
  case through =>
    intro Moment respond now
    have ends := ends respond now
    rw [execute_bind, writes_bind]
    rcases ended : execute respond first held now with ⟨⟨failure | answer, left⟩, after⟩
    · rw [ended] at ends
      rwa [List.append_nil]
    · rw [ended] at ends
      obtain ⟨between, through, accepted, tracks⟩ := ends
      exact through.append accepted (tracks.through respond after)
  case accepted =>
    intro Moment respond now final isFinal write isWrite
    have ends := ends respond now
    rw [execute_bind] at isFinal
    rw [writes_bind, List.mem_append] at isWrite
    rcases ended : execute respond first held now with ⟨⟨failure | answer, left⟩, after⟩
    · rw [ended] at isFinal
      cases isFinal
    · rw [ended] at isFinal ends isWrite
      obtain ⟨between, through, accepted, tracks⟩ := ends
      exact isWrite.elim (accepted write) (tracks.accepted respond after final isFinal write)

/-- What follows goes on from the document that the first part left. -/
theorem bind
    (tracks : Tracks first entry held)
    (goesOn : ∀ answer left, Tracks (next answer) left left) :
    Tracks (first >>= next) entry held := by
  refine bind_of_ends fun respond now => ?_
  have through := tracks.through respond now
  have accepted := tracks.accepted respond now
  rcases ended : execute respond first held now with ⟨⟨failure | answer, left⟩, after⟩
  · rwa [ended] at through
  · rw [ended] at through accepted
    exact ⟨left, through, accepted answer rfl, goesOn answer left⟩

/-- What follows a part that keeps the document goes on from the same one. -/
theorem bind_of_keeps
    (keeps : Keeps ManagerRequest.IsControllerWrite first)
    (goesOn : ∀ answer, Tracks (next answer) held held) :
    Tracks (first >>= next) held held := by
  refine bind_of_ends fun respond now => ?_
  have same := keeps.held_eq respond held now
  rw [writes_of_keeps keeps]
  rcases ended : execute respond first held now with ⟨⟨failure | answer, left⟩, after⟩
  · rw [ended] at same
    exact same ▸ .nil
  · rw [ended] at same
    exact ⟨held, .nil, by simp, same ▸ goesOn answer⟩

/-- After a part that asks nothing the next one starts with the document that it left. -/
theorem bind_of_done
    {answer : Answer}
    {other : Controller}
    (isDone : first.plan held = .done (.ok answer, other))
    (goesOn : Tracks (next answer) entry other) :
    Tracks (first >>= next) entry held := by
  have ended {Moment : Type} (respond : Respondent Moment) (now : Moment) :
      execute respond first held now = ((.ok answer, other), now) := by
    rw [execute, isDone]
    rfl
  have silent {Moment : Type} (respond : Respondent Moment) (now : Moment) :
      writes respond first held now = [] := by
    rw [writes, requests, isDone]
    rfl
  constructor
  case through =>
    intro Moment respond now
    rw [execute_bind, writes_bind, ended, silent]
    exact goesOn.through respond now
  case accepted =>
    intro Moment respond now
    rw [execute_bind, writes_bind, ended, silent]
    exact goesOn.accepted respond now

/-- To hold another document is to go on from that one. -/
theorem set (other : Controller) : Tracks (set other) other held :=
  ⟨fun _ _ => .nil, fun _ _ _ _ => by simp⟩

end Tracks

/-! ## The parts of a tick -/

section Parts

variable {entry held : Controller}

/-- The status is written once, and what is left is what came of that. -/
theorem tracks_saveStatus : Tracks saveStatus entry held := by
  refine .bind_of_done rfl (.bind_of_ends fun respond now => ?_)
  simp only [execute_demand, writes_demand, ManagerRequest.controllerWrite?]
  rcases respond (.store (.saveControllerStatus held)) now with ⟨failure | stored, after⟩
  · exact .single ⟨held, .error failure⟩
  · exact ⟨stored, .single ⟨held, .ok stored⟩, by simp, .set stored⟩

/-- A status other than the earlier one is given to the document, and then written. -/
theorem tracks_settle_of_ne
    {earlier : ControllerStatus}
    {state : ControllerState}
    {detail : String}
    (different : earlier ≠ ⟨state, detail⟩) :
    Tracks (settle earlier state detail) entry held := by
  refine .bind_of_done rfl ?_
  rw [if_neg different]
  exact tracks_saveStatus

theorem tracks_settle
    {earlier : ControllerStatus}
    (isEarlier : held.status = earlier)
    (state : ControllerState)
    (detail : String) :
    Tracks (settle earlier state detail) held held := by
  by_cases same : earlier = ⟨state, detail⟩
  · have kept : held.withStatus state detail = held := by
      rw [Controller.withStatus, ← same, ← isEarlier]
    refine .bind_of_done rfl ?_
    change Tracks _ held (held.withStatus state detail)
    rw [kept, if_pos same]
    exact .of_keeps (.pure _)
  · exact tracks_settle_of_ne same

theorem tracks_disconnect (failure : BundleError) : Tracks (disconnect failure) held held := by
  refine .bind_of_done rfl ?_
  split
  · exact tracks_settle rfl _ _
  · exact .of_keeps (.pure _)

section Adopt

variable (respond : Respondent Moment) (now : Moment) (latest : String)

theorem execute_adopt_of_unused (unused : held.spec.activeBundle.isEmpty) :
    execute respond (adopt latest) held now =
      match respond (.store (.saveController (held.withActiveBundle latest))) now with
      | (.ok stored, after) => ((.ok (), { stored with status := held.status }), after)
      | (.error failure, after) => ((.error failure, held.withActiveBundle latest), after) := by
  simp only [adopt, execute_bind, execute_get, unused, Bool.not_true, Bool.false_eq_true,
    ↓reduceIte, execute_set, execute_demand]
  rcases respond (.store (.saveController (held.withActiveBundle latest))) now with
    ⟨failure | stored, after⟩ <;> rfl

theorem writes_adopt_of_unused (unused : held.spec.activeBundle.isEmpty) :
    writes respond (adopt latest) held now =
      [⟨held.withActiveBundle latest,
        (respond (.store (.saveController (held.withActiveBundle latest))) now).1⟩] := by
  simp only [adopt, writes_bind, execute_get, writes_get, unused, Bool.not_true,
    Bool.false_eq_true, ↓reduceIte, execute_set, writes_set, execute_demand, writes_demand,
    ManagerRequest.controllerWrite?]
  rcases respond (.store (.saveController (held.withActiveBundle latest))) now with
    ⟨failure | stored, after⟩ <;> rfl

end Adopt

/-- A bundle is taken into use by two writes.  Between them the document that is held has its
earlier status, which need not be the stored one; the second write offers another status. -/
theorem tracks_adopt_settle
    {earlier : ControllerStatus}
    (isEarlier : held.status = earlier)
    (latest : String)
    (different : earlier ≠ ⟨.active, ""⟩) :
    Tracks (adopt latest >>= fun _ => settle earlier .active "") held held := by
  refine .bind_of_ends fun respond now => ?_
  by_cases unused : held.spec.activeBundle.isEmpty
  · rw [execute_adopt_of_unused respond now latest unused,
      writes_adopt_of_unused respond now latest unused]
    rcases respond (.store (.saveController (held.withActiveBundle latest))) now with
      ⟨failure | stored, after⟩
    · exact .single ⟨held.withActiveBundle latest, .error failure⟩
    · exact ⟨stored, .single ⟨held.withActiveBundle latest, .ok stored⟩, by simp,
        tracks_settle_of_ne different⟩
  · have used : (!held.spec.activeBundle.isEmpty) = true := by simpa using unused
    have ended : execute respond (adopt latest) held now = ((.ok (), held), now) := by
      simp only [adopt, execute_bind, execute_get, used, ↓reduceIte, execute_pure]
    have silent : writes respond (adopt latest) held now = [] := by
      simp only [adopt, writes_bind, execute_get, writes_get, used, ↓reduceIte, writes_pure,
        List.append_nil]
    rw [ended, silent]
    exact ⟨held, .nil, by simp, tracks_settle isEarlier _ _⟩

theorem keeps_register (latest : Bundle) :
    Keeps ManagerRequest.IsControllerWrite (register latest) := by
  refine .bind (.demand id) fun known => .ite (.pure _) ?_
  exact .bind (.demand id) fun stored => .pure _

theorem keeps_restoreActive (space : String) :
    Keeps ManagerRequest.IsControllerWrite (restoreActive space) := by
  refine .bind .get fun controller => .ite (.pure _) (.bind (.ask id) fun reply => ?_)
  split
  · exact .pure _
  · refine .bind (.pullBundle id) fun pulled => ?_
    split
    · exact .throw _
    · exact .bind (.demand id) fun stored => .pure _
  · exact .throw _

theorem tracks_advance (configuration : Configuration) (latest : String) :
    Tracks (advance configuration latest) held held := by
  refine .bind_of_done rfl ?_
  dsimp only
  cases state : held.status.state with
  | active =>
      refine .bind_of_keeps (.demand id) fun _ => .bind_of_keeps (keeps_restoreActive _) fun _ => ?_
      split
      · exact tracks_settle rfl _ _
      · exact .of_keeps (.pure _)
  | upgradeAvailable =>
      dsimp only
      split
      · exact tracks_settle rfl _ _
      · exact .of_keeps (.pure _)
  | disconnected => exact tracks_settle rfl _ _
  | ignored => exact tracks_settle rfl _ _
  | unset => exact tracks_adopt_settle rfl latest fun same => by simp [same] at state
  | unknown => exact tracks_adopt_settle rfl latest fun same => by simp [same] at state

theorem tracks_managed (configuration : Configuration) :
    Tracks (managed configuration) held held := by
  have disconnected (failure : BundleError) (interval : Duration) :
      Tracks (disconnect failure >>= fun _ => pure (Requeue.after interval)) held held :=
    (tracks_disconnect failure).bind fun _ _ => .of_keeps (.pure _)
  refine .bind_of_done rfl (.bind_of_keeps (.ask id) fun server => ?_)
  split
  · exact disconnected _ _
  · refine .bind_of_keeps (.pullBundle id) fun latest => ?_
    split
    · exact disconnected _ _
    · refine .bind_of_keeps (keeps_register _) fun _ => (tracks_advance _ _).bind fun _ _ => ?_
      exact .of_keeps (.bind .get fun _ => .pure _)

theorem tracks_unmanaged : Tracks unmanaged held held := by
  refine .bind_of_done rfl ?_
  split
  · exact .bind_of_done rfl (tracks_saveStatus.bind fun _ _ => .of_keeps (.pure _))
  · exact .of_keeps (.pure _)

end Parts

/-- An attempt whose failure is handled without a write leaves what came of its writes. -/
theorem heldThrough_tryCatch
    {attempt : Tick Answer}
    {handle : BundleError → Tick Answer}
    {entry held : Controller}
    (tracks : Tracks attempt entry held)
    (keeps : ∀ failure, Keeps ManagerRequest.IsControllerWrite (handle failure))
    (respond : Respondent Moment)
    (now : Moment) :
    entry.HeldThrough (execute respond (tryCatch attempt handle) held now).1.2
      (writes respond (tryCatch attempt handle) held now) := by
  have through := tracks.through respond now
  rw [execute_tryCatch, writes, requests_tryCatch, List.filterMap_append]
  rcases ended : execute respond attempt held now with ⟨⟨failure | answer, left⟩, after⟩
  · rw [ended] at through
    change entry.HeldThrough (execute respond (handle failure) left after).1.2
      (writes respond attempt held now ++ writes respond (handle failure) left after)
    rwa [(keeps failure).held_eq, writes_of_keeps (keeps failure), List.append_nil]
  · rw [ended] at through
    rwa [List.filterMap_nil, List.append_nil]

end Tick

/-- Whatever the store, the cluster and the registries reply to a tick, the document that it leaves
is what came of its writes, and of those none but the last one was refused.  So the document is the
one that was stored last unless a refused write offered another one. -/
theorem Controller.reconcile_heldThrough
    {Moment : Type}
    (configuration : Configuration)
    (respond : Respondent Moment)
    (entry : Controller)
    (now : Moment) :
    let left := (Reconciliation.execute respond (reconcile configuration) entry now).1.2
    let writes := Tick.writes respond (reconcile configuration) entry now
    entry.HeldThrough left writes ∧
      (left = entry.storedAfter writes ↔
        ∀ write ∈ writes, write.IsRefused → write.offered = entry.storedAfter writes) := by
  intro left writes
  have through : entry.HeldThrough left writes := by
    subst left writes
    simp only [reconcile_eq, Reconciliation.execute_bind, Reconciliation.execute_get,
      Tick.writes_bind, Tick.writes_get, List.nil_append]
    split
    · exact Tick.tracks_unmanaged.through respond now
    · refine Tick.heldThrough_tryCatch (Tick.tracks_managed configuration) ?_ respond now
      exact fun failure => .ite (.pure _) (.throw _)
  exact ⟨through, through.eq_storedAfter_iff⟩

namespace StaleControllerExample

open ComputationExample (unreachable)

/-- An active controller. -/
def controller : Controller :=
  { Controller.named "eksa-packages" "eksa-packages-bundle-controller" with
    spec := { ControllerSpec.standard with activeBundle := "v1-21-1001" }
    status := ⟨.active, ""⟩ }

/-- The controller as it was stored at first. -/
def held : Controller := controller.withVersion "1"

/-- A store in which someone else has written over the controller since. -/
def store : Store :=
  (Store.empty .standard).run [.putController controller, .request (.saveController controller)]

/-- A tick of the stale controller is refused all that it writes, and leaves the status that was
offered instead of the document that it held at first. -/
theorem refused_status_left :
    let tick := Reconciliation.execute unreachable.respond (Controller.reconcile .standard) held
      (store, ())
    let writes := Tick.writes unreachable.respond (Controller.reconcile .standard) held (store, ())
    tick.1.1 = .ok (.after ControllerSpec.standardShortInterval) ∧
      (∀ write ∈ writes, write.IsRefused) ∧ held.storedAfter writes = held ∧
      tick.1.2 = held.withStatus .disconnected "getting server version: connection refused" ∧
      tick.1.2 ≠ held ∧
      (tick.2.1.controller? controller.address).map Controller.status = some ⟨.active, ""⟩ := by
  decide

end StaleControllerExample
end BundleTrust
