import BundleTrust.Proofs.Store.Writeback

/-!
# What a store keeps

A store gives every document that it writes a version, and it changes of a bundle nothing else
than its state.  What a bundle is without its state and its version is its content, and what a
controller is without its status and its version is the content of that.

* No bundle is ever removed, and the content of a bundle stays as the bundle was created.
* The status of a controller and its content change only by operations that are for them.
* Every document is filed at the address that it gives itself, which is the one that the operation
  that wrote it was about.
* An operation that fails changes no document and no namespace.

All of it is read off one inversion of an operation that writes (`Store.puts_of_written?`), and
carried over runs (`Store.keepsContents`).
-/

namespace BundleTrust

/-- What a bundle is without its state and its version. -/
def Bundle.content (bundle : Bundle) : Bundle :=
  { bundle with state := none, metadata := { bundle.metadata with resourceVersion := none } }

/-- What a controller is without its status and its version. -/
def Controller.content (controller : Controller) : Controller :=
  { controller with
    status := ⟨.unset, ""⟩
    metadata := { controller.metadata with resourceVersion := none } }

@[simp] theorem Bundle.content_withVersion (bundle : Bundle) (version : String) :
    (bundle.withVersion version).content = bundle.content := rfl

/-- Controllers with one content have one spec. -/
theorem Controller.spec_eq_of_content_eq
    {left right : Controller}
    (same : left.content = right.content) :
    left.spec = right.spec := by
  have specs := congrArg Controller.spec same
  exact specs

/-- Bundles with one content have one address. -/
theorem Bundle.address_eq_of_content_eq
    {left right : Bundle}
    (same : left.content = right.content) :
    left.address = right.address := by
  have addresses := congrArg Bundle.address same
  exact addresses

namespace StoreOperation

/-- Where an operation writes if it writes: at the address of the document that it is given. -/
def target? : StoreOperation → Option Place
  | .request (.createBundle bundle) | .request (.saveBundleStatus bundle) =>
      some ⟨.bundle, bundle.address⟩
  | .request (.saveController controller) | .request (.saveControllerStatus controller)
  | .putController controller => some ⟨.controller, controller.address⟩
  | _ => none

/-- The address of the controller of which an operation is to write the spec, and with it
everything but the status. -/
def specTarget? : StoreOperation → Option Address
  | .request (.saveController controller) | .putController controller => some controller.address
  | _ => none

/-- The address of the controller of which an operation is to write the status. -/
def statusTarget? : StoreOperation → Option Address
  | .request (.saveControllerStatus controller) | .putController controller =>
      some controller.address
  | _ => none

end StoreOperation

namespace Store

/-! ## What an operation writes -/

/-- An operation puts a document in a store: the one that it is given, or the one that is stored
with the part replaced that the operation is for. -/
inductive Puts (store : Store) : StoreOperation → StoredDocument → Prop where
  /-- A bundle is created as it is given, where there is none. -/
  | created (bundle : Bundle) (absent : store.bundle? bundle.address = none) :
      Puts store (.request (.createBundle bundle)) (.bundle (bundle.withVersion store.nextVersion))
  /-- A stored bundle gets the state that is given. -/
  | state (bundle old : Bundle) (stored : store.bundle? bundle.address = some old) :
      Puts store (.request (.saveBundleStatus bundle))
        (.bundle ({ old with state := bundle.state }.withVersion store.nextVersion))
  /-- A controller is stored as it is given, with the status that is stored. -/
  | spec (controller old : Controller)
      (stored : store.controller? controller.address = some old) :
      Puts store (.request (.saveController controller))
        (.controller ({ controller with status := old.status }.withVersion store.nextVersion))
  /-- A stored controller gets the status that is given. -/
  | status (controller old : Controller)
      (stored : store.controller? controller.address = some old) :
      Puts store (.request (.saveControllerStatus controller))
        (.controller ({ old with status := controller.status }.withVersion store.nextVersion))
  /-- A controller is stored as it is given. -/
  | whole (controller : Controller) :
      Puts store (.putController controller)
        (.controller (controller.withVersion store.nextVersion))

section Operation

variable {store : Store} {operation : StoreOperation} {document : StoredDocument}

/-- An operation that writes ends with what it writes. -/
theorem outcome_of_written?
    (written : store.written? operation = some document) :
    store.outcome operation = .ok (some document) := by
  rw [written?] at written
  cases ended : store.outcome operation with
  | error failure => rw [ended] at written; cases written
  | ok answer => rw [ended] at written; exact congrArg Except.ok written

/-- A write over a stored document that is carried out ends with what is written over it. -/
theorem exists_of_overwrite {Item : Type}
    {kind : ResourceKind}
    {address : Address}
    {stored : Option Item}
    {versionOf : Item → Option String}
    {incoming : Option String}
    {write : Item → Item × Store}
    {wrap : Item → Option StoredDocument}
    (accepted : (store.overwrite kind address stored versionOf incoming write).1.map wrap =
      .ok (some document)) :
    ∃ old, stored = some old ∧ wrap (write old).1 = some document := by
  unfold overwrite at accepted
  split at accepted
  · cases accepted
  · next old =>
      split at accepted
      · cases accepted
      · exact ⟨old, rfl, Except.ok.inj accepted⟩

/-- What an operation stores is the document that it puts there. -/
theorem puts_of_written?
    (written : store.written? operation = some document) :
    store.Puts operation document := by
  have ended := outcome_of_written? written
  cases operation with
  | request request =>
      cases request with
      | createBundle bundle =>
          simp only [outcome, createBundle] at ended
          cases stored : store.bundle? bundle.address with
          | some old => rw [stored] at ended; cases ended
          | none => rw [stored] at ended; cases ended; exact .created bundle stored
      | saveBundleStatus bundle =>
          obtain ⟨old, stored, same⟩ := exists_of_overwrite ended
          cases same
          exact .state bundle old stored
      | saveController controller =>
          obtain ⟨old, stored, same⟩ := exists_of_overwrite ended
          cases same
          exact .spec controller old stored
      | saveControllerStatus controller =>
          obtain ⟨old, stored, same⟩ := exists_of_overwrite ended
          cases same
          exact .status controller old stored
      | ensureSpace name => cases ended
      | listBundles => cases ended
      | isActive bundle => cases (written?_of_answer rfl).symm.trans written
      | activeBundle => cases (written?_of_answer rfl).symm.trans written
  | putController controller => cases ended; exact .whole controller
  | getBundle address => cases ended
  | getController address => cases ended
  | listSpaces => cases ended

/-- What is put in a store is filed where the operation is to write. -/
theorem Puts.target?_eq (puts : store.Puts operation document) :
    operation.target? = some document.place := by
  cases puts with
  | created bundle absent => rfl
  | state bundle old stored =>
      have same : old.address = bundle.address := Shelf.address_of_get? stored
      exact congrArg (fun address => some (Place.mk .bundle address)) same.symm
  | spec controller old stored => rfl
  | status controller old stored =>
      have same : old.address = controller.address := Shelf.address_of_get? stored
      exact congrArg (fun address => some (Place.mk .controller address)) same.symm
  | whole controller => rfl

/-- What is at a place after an operation was stored there by it, or it was there before. -/
theorem find?_perform
    (store : Store)
    (operation : StoreOperation)
    (place : Place) :
    (∃ document, store.written? operation = some document ∧ document.place = place ∧
        (store.perform operation).find? place = some document) ∨
      (store.perform operation).find? place = store.find? place := by
  rcases store.storesOrKeeps operation with ⟨document, written, stores⟩ | ⟨-, keeps⟩
  · by_cases here : document.place = place
    · exact .inl ⟨document, written, here, by rw [stores.find?, if_pos here]⟩
    · exact .inr (by rw [stores.find?, if_neg here])
  · exact .inr (keeps.find? place)

/-- What an operation stores is found at its place afterwards. -/
theorem find?_of_written?
    (written : store.written? operation = some document) :
    (store.perform operation).find? document.place = some document := by
  rcases store.storesOrKeeps operation with ⟨_, same, stores⟩ | ⟨silent, -⟩
  · cases written.symm.trans same
    rw [stores.find?, if_pos rfl]
  · cases written.symm.trans silent

/-- Every document is filed at the address that it gives itself. -/
theorem place_of_find? {place : Place} (found : store.find? place = some document) :
    document.place = place := by
  obtain ⟨kind, address⟩ := place
  cases kind with
  | bundle =>
      obtain ⟨bundle, stored, rfl⟩ := Option.map_eq_some_iff.1 found
      exact congrArg (Place.mk .bundle) (Shelf.address_of_get? stored)
  | controller =>
      obtain ⟨controller, stored, rfl⟩ := Option.map_eq_some_iff.1 found
      exact congrArg (Place.mk .controller) (Shelf.address_of_get? stored)
  | other name => cases found

end Operation

/-! ## What an operation leaves -/

section Frame

variable {store : Store} {address : Address}

/-- No operation removes a bundle or changes its content. -/
theorem exists_bundle?_perform
    {old : Bundle}
    (stored : store.bundle? address = some old)
    (operation : StoreOperation) :
    ∃ kept, (store.perform operation).bundle? address = some kept ∧
      kept.content = old.content := by
  rcases store.find?_perform operation ⟨.bundle, address⟩ with
    ⟨document, written, here, after⟩ | same
  · have puts := puts_of_written? written
    have target := puts.target?_eq
    rw [here] at target
    cases puts with
    | created bundle absent =>
        cases target
        cases absent.symm.trans stored
    | state bundle found isFound =>
        cases target
        cases isFound.symm.trans stored
        exact ⟨_, find?_eq_bundle_iff.1 after, rfl⟩
    | spec | status | whole => cases target
  · exact ⟨old, find?_eq_bundle_iff.1 (same.trans (find?_eq_bundle_iff.2 stored)), rfl⟩

/-- An operation writes the spec of the controller at an address. -/
def WritesSpec (store : Store) (operation : StoreOperation) (address : Address) : Prop :=
  operation.specTarget? = some address ∧ (store.written? operation).isSome

instance (store : Store) (operation : StoreOperation) (address : Address) :
    Decidable (store.WritesSpec operation address) :=
  inferInstanceAs (Decidable (_ ∧ _))

/-- An operation writes the status of the controller at an address. -/
def WritesStatus (store : Store) (operation : StoreOperation) (address : Address) : Prop :=
  operation.statusTarget? = some address ∧ (store.written? operation).isSome

/-- No operation removes a controller, and its content and its status change only by operations
that write them. -/
theorem exists_controller?_perform
    {old : Controller}
    (stored : store.controller? address = some old)
    (operation : StoreOperation) :
    ∃ kept, (store.perform operation).controller? address = some kept ∧
      (¬ store.WritesSpec operation address → kept.content = old.content) ∧
      (¬ store.WritesStatus operation address → kept.status = old.status) := by
  rcases store.find?_perform operation ⟨.controller, address⟩ with
    ⟨document, written, here, after⟩ | same
  · have puts := puts_of_written? written
    have target := puts.target?_eq
    have isWritten : (store.written? operation).isSome := by rw [written]; rfl
    rw [here] at target
    cases puts with
    | created | state => cases target
    | spec controller found isFound =>
        cases target
        cases isFound.symm.trans stored
        exact ⟨_, find?_eq_controller_iff.1 after, fun leaves => absurd ⟨rfl, isWritten⟩ leaves,
          fun _ => rfl⟩
    | status controller found isFound =>
        cases target
        cases isFound.symm.trans stored
        exact ⟨_, find?_eq_controller_iff.1 after, fun _ => rfl,
          fun leaves => absurd ⟨rfl, isWritten⟩ leaves⟩
    | whole controller =>
        cases target
        exact ⟨_, find?_eq_controller_iff.1 after, fun leaves => absurd ⟨rfl, isWritten⟩ leaves,
          fun leaves => absurd ⟨rfl, isWritten⟩ leaves⟩
  · exact ⟨old, find?_eq_controller_iff.1 (same.trans (find?_eq_controller_iff.2 stored)),
      fun _ => rfl, fun _ => rfl⟩

/-- An operation that fails changes no document and no namespace. -/
theorem sameContents_of_outcome
    {operation : StoreOperation}
    {failure : BundleError}
    (failed : store.outcome operation = .error failure) :
    store.SameContents (store.perform operation) := by
  -- A conditional write that fails is refused, and a version is given away.
  have refused {document : StoredDocument} (write : store.ConditionalWrite operation document) :
      store.SameContents (store.perform operation) := by
    rcases write.ends with ⟨_, _, after⟩ | ⟨_, accepted, _⟩
    · rw [after]
      exact ⟨rfl, rfl, rfl⟩
    · cases accepted.symm.trans failed
  cases operation with
  | request request =>
      cases request with
      | createBundle bundle =>
          simp only [outcome, createBundle] at failed
          cases stored : store.bundle? bundle.address with
          | none => rw [stored] at failed; cases failed
          | some old =>
              simp only [perform, answer, createBundle, stored]
              exact ⟨rfl, rfl, rfl⟩
      | saveBundleStatus bundle => exact refused (store.conditionalWrite_saveBundleStatus bundle)
      | saveController controller =>
          exact refused (store.conditionalWrite_saveController controller)
      | saveControllerStatus controller =>
          exact refused (store.conditionalWrite_saveControllerStatus controller)
      | ensureSpace name => cases failed
      | listBundles => cases failed
      | isActive bundle => exact ⟨rfl, rfl, rfl⟩
      | activeBundle => exact ⟨rfl, rfl, rfl⟩
  | putController controller => cases failed
  | getBundle address => cases failed
  | getController address => cases failed
  | listSpaces => cases failed

end Frame

/-! ## Runs -/

section Run

variable {store : Store} {address : Address}

/-- No run removes a bundle or changes its content. -/
theorem exists_bundle?_run
    {old : Bundle}
    (stored : store.bundle? address = some old)
    (operations : List StoreOperation) :
    ∃ kept, (store.run operations).bundle? address = some kept ∧ kept.content = old.content := by
  induction operations generalizing store old with
  | nil => exact ⟨old, stored, rfl⟩
  | cons operation rest ih =>
      obtain ⟨between, isBetween, first⟩ := exists_bundle?_perform stored operation
      obtain ⟨kept, isKept, second⟩ := ih isBetween
      exact ⟨kept, isKept, second.trans first⟩

/-- A bundle that was created is stored, with the content that it was created with. -/
theorem exists_bundle?_created
    {bundle written : Bundle}
    (created : (store.createBundle bundle).1 = .ok written) :
    ∃ kept, (store.perform (.request (.createBundle bundle))).bundle? bundle.address = some kept ∧
      kept.content = bundle.content := by
  have stores : store.written? (.request (.createBundle bundle)) = some (.bundle written) :=
    written?_of_outcome (congrArg (Except.map _) created)
  have found := find?_of_written? stores
  cases puts_of_written? stores with
  | created _ absent => exact ⟨_, find?_eq_bundle_iff.1 found, rfl⟩

/-- No operation of a run writes the spec of the controller at an address. -/
def LeavesSpec (store : Store) (address : Address) : List StoreOperation → Prop
  | [] => True
  | operation :: rest =>
      ¬ store.WritesSpec operation address ∧ (store.perform operation).LeavesSpec address rest

/-- The content of a controller stays until its spec is written. -/
theorem exists_controller?_run
    {old : Controller}
    {operations : List StoreOperation}
    (stored : store.controller? address = some old)
    (leaves : store.LeavesSpec address operations) :
    ∃ kept, (store.run operations).controller? address = some kept ∧
      kept.content = old.content := by
  induction operations generalizing store old with
  | nil => exact ⟨old, stored, rfl⟩
  | cons operation rest ih =>
      obtain ⟨between, isBetween, first, -⟩ := exists_controller?_perform stored operation
      obtain ⟨kept, isKept, second⟩ := ih isBetween leaves.2
      exact ⟨kept, isKept, second.trans (first leaves.1)⟩

end Run

/-- What every run of a store keeps. -/
structure KeepsContents (start : Store) (operations : List StoreOperation) : Prop where
  /-- A bundle that is stored at some time is stored ever after with the same content. -/
  bundles : ∀ before after address old,
    operations = before ++ after →
    (start.run before).bundle? address = some old →
    ∃ kept, (start.run operations).bundle? address = some kept ∧ kept.content = old.content
  /-- So is a bundle that was created, with the content that it was created with. -/
  created : ∀ before bundle after written,
    operations = before ++ .request (.createBundle bundle) :: after →
    ((start.run before).createBundle bundle).1 = .ok written →
    ∃ kept, (start.run operations).bundle? bundle.address = some kept ∧
      kept.content = bundle.content
  /-- No operation removes a controller or changes its content or its status, unless the operation
  writes that. -/
  controllers : ∀ before operation after address old,
    operations = before ++ operation :: after →
    (start.run before).controller? address = some old →
    ∃ kept, ((start.run before).perform operation).controller? address = some kept ∧
      (¬ (start.run before).WritesSpec operation address → kept.content = old.content) ∧
      (¬ (start.run before).WritesStatus operation address → kept.status = old.status)
  /-- An operation that stores a document stores it at the address that the operation names. -/
  targets : ∀ before operation after document,
    operations = before ++ operation :: after →
    (start.run before).written? operation = some document →
    operation.target? = some document.place ∧
      ((start.run before).perform operation).find? document.place = some document
  /-- Every document is filed under the address that it gives itself, and found there. -/
  filed : (∀ place document,
      (start.run operations).find? place = some document → document.place = place) ∧
    (∀ entry ∈ (start.run operations).bundles.entries,
      entry.1 = entry.2.address ∧ (start.run operations).bundle? entry.1 = some entry.2) ∧
    ∀ entry ∈ (start.run operations).controllers.entries,
      entry.1 = entry.2.address ∧ (start.run operations).controller? entry.1 = some entry.2
  /-- An operation that fails changes no document and no namespace. -/
  failures : ∀ before operation after failure,
    operations = before ++ operation :: after →
    (start.run before).outcome operation = .error failure →
    (start.run before).SameContents ((start.run before).perform operation)

/-- Every run keeps what is stored, except what its operations are for. -/
theorem keepsContents (start : Store) (operations : List StoreOperation) :
    start.KeepsContents operations where
  bundles := by
    rintro before after address old rfl stored
    rw [run_append]
    exact exists_bundle?_run stored after
  created := by
    rintro before bundle after written rfl accepted
    obtain ⟨new, isNew, first⟩ := exists_bundle?_created accepted
    obtain ⟨kept, isKept, second⟩ := exists_bundle?_run isNew after
    rw [run_append, run_cons]
    exact ⟨kept, isKept, second.trans first⟩
  controllers := by
    rintro before operation after address old - stored
    exact exists_controller?_perform stored operation
  targets := by
    rintro before operation after document - written
    exact ⟨(puts_of_written? written).target?_eq, find?_of_written? written⟩
  filed := ⟨fun _ _ found => place_of_find? found, fun _ => Shelf.filed_and_found,
    fun _ => Shelf.filed_and_found⟩
  failures := fun _ _ _ _ _ failed => sameContents_of_outcome failed

/-- A bundle with a package keeps it when its state is written by one who has it without. -/
theorem package_survives_state :
    let bundle : Bundle :=
      { Bundle.named "eksa-packages" "v1-21-1001" with packages := [⟨"hello", ⟨"", "hello", []⟩⟩] }
    let create : StoreOperation := .request (.createBundle bundle)
    let write : StoreOperation :=
      .request (.saveBundleStatus { bundle with packages := [], state := some .active })
    ∃ kept, ((empty .standard).run [create, write]).bundle? bundle.address = some kept ∧
      kept.content = bundle.content ∧ kept.state = some .active := by
  intro bundle create write
  obtain ⟨kept, isKept, same⟩ := (keepsContents (empty .standard) [create, write]).created []
    bundle [write] (bundle.withVersion "1") rfl (by decide)
  have written : (((empty .standard).run [create, write]).bundle? bundle.address).map Bundle.state =
      some (some .active) := by decide
  rw [isKept] at written
  exact ⟨kept, isKept, same, Option.some.inj written⟩

end Store
end BundleTrust
