import BundleTrust.Store.Request

/-!
# Runs of a store

Any number of clients use a store at once, and the store carries out one operation after
the other.  Whatever the clients do and however their operations interleave, what the store
sees is a list of operations, each with arguments that may come from earlier replies; a
statement about all such lists is one about all interleavings.

An operation stores at most one document, which then carries the next version
(`Store.storesOrKeeps`).  A conditional write is refused unless the stored document has the
version that the write carries (`Store.conditionalWrite_of_carried`).
-/

namespace BundleTrust

/-- What a client may ask of a store. -/
inductive StoreOperation where
  /-- What managers ask for. -/
  | request (request : StoreRequest)
  /-- Store a controller whatever is stored. -/
  | putController (controller : Controller)
  /-- Look up a bundle. -/
  | getBundle (address : Address)
  /-- Look up a controller. -/
  | getController (address : Address)
  /-- List the namespaces. -/
  | listSpaces

/-- A document of a store. -/
inductive StoredDocument where
  /-- A bundle. -/
  | bundle (bundle : Bundle)
  /-- A controller. -/
  | controller (controller : Controller)
  deriving DecidableEq, Repr

/-- Where a document is kept: with the documents of its kind, at its address. -/
structure Place where
  /-- The kind of the document. -/
  kind : ResourceKind
  /-- Its address. -/
  address : Address
  deriving DecidableEq, Repr

namespace StoredDocument

/-- The place of a document. -/
def place : StoredDocument → Place
  | .bundle stored => ⟨.bundle, stored.address⟩
  | .controller stored => ⟨.controller, stored.address⟩

/-- The version that a document carries. -/
def version : StoredDocument → Option String
  | .bundle stored => stored.metadata.resourceVersion
  | .controller stored => stored.metadata.resourceVersion

end StoredDocument

namespace StoreOperation

/-- The document of a conditional write, which carries the version that the write is based
on: the state of a bundle, a controller without its status, or the status of a controller. -/
def carried? : StoreOperation → Option StoredDocument
  | .request (.saveBundleStatus bundle) => some (.bundle bundle)
  | .request (.saveController controller) => some (.controller controller)
  | .request (.saveControllerStatus controller) => some (.controller controller)
  | _ => none

end StoreOperation

namespace Store

/-- The document at a place. -/
def find? (store : Store) (place : Place) : Option StoredDocument :=
  match place.kind with
  | .bundle => (store.bundle? place.address).map .bundle
  | .controller => (store.controller? place.address).map .controller
  | .other _ => none

/-- The store after an operation. -/
def perform (store : Store) : StoreOperation → Store
  | .request request => (store.answer request).2
  | .putController controller => (store.putController controller).2
  | .getBundle _ | .getController _ | .listSpaces => store

/-- The store after a list of operations. -/
def run (store : Store) (operations : List StoreOperation) : Store :=
  operations.foldl perform store

/-- What comes of an operation: a failure, or the document that it stores, if it stores one. -/
def outcome (store : Store) : StoreOperation → Except BundleError (Option StoredDocument)
  | .request (.createBundle bundle) => (store.createBundle bundle).1.map (some <| .bundle ·)
  | .request (.saveBundleStatus bundle) =>
      (store.saveBundleStatus bundle).1.map (some <| .bundle ·)
  | .request (.saveController controller) =>
      (store.saveController controller).1.map (some <| .controller ·)
  | .request (.saveControllerStatus controller) =>
      (store.saveControllerStatus controller).1.map (some <| .controller ·)
  | .request request => (store.answer request).1.map fun _ => none
  | .putController controller => .ok (some (.controller (store.putController controller).1))
  | .getBundle _ | .getController _ | .listSpaces => .ok none

/-- The document that an operation stores, if it stores one. -/
def written? (store : Store) (operation : StoreOperation) : Option StoredDocument :=
  (store.outcome operation).toOption.join

/-- Every document state that a list of operations stores, in the order of the writes. -/
def writes (store : Store) : List StoreOperation → List StoredDocument
  | [] => []
  | operation :: rest =>
      (store.written? operation).toList ++ (store.perform operation).writes rest

/-- Two stores hold the same documents and namespaces. -/
def SameContents (left right : Store) : Prop :=
  left.bundles = right.bundles ∧ left.controllers = right.controllers ∧
    left.spaces = right.spaces

@[simp] theorem run_nil (store : Store) : store.run [] = store := rfl

@[simp] theorem run_cons
    (store : Store)
    (operation : StoreOperation)
    (rest : List StoreOperation) :
    store.run (operation :: rest) = (store.perform operation).run rest := rfl

/-- Running two lists after each other is running their concatenation. -/
@[simp] theorem run_append
    (store : Store)
    (first second : List StoreOperation) :
    store.run (first ++ second) = (store.run first).run second :=
  List.foldl_append

/-- The writes of two lists after each other. -/
theorem writes_append
    (store : Store)
    (first second : List StoreOperation) :
    store.writes (first ++ second) = store.writes first ++ (store.run first).writes second := by
  induction first generalizing store with
  | nil => rfl
  | cons operation rest ih => simp [writes, ih]

/-- An operation stores the document that comes of it. -/
theorem written?_of_outcome
    {store : Store}
    {operation : StoreOperation}
    {answer : Option StoredDocument}
    (outcome_eq : store.outcome operation = .ok answer) :
    store.written? operation = answer := by
  rw [written?, outcome_eq]
  rfl

theorem find?_eq_bundle_iff {store : Store} {address : Address} {bundle : Bundle} :
    store.find? ⟨.bundle, address⟩ = some (.bundle bundle) ↔
      store.bundle? address = some bundle := by
  simp [Store.find?]

theorem find?_eq_controller_iff {store : Store} {address : Address} {controller : Controller} :
    store.find? ⟨.controller, address⟩ = some (.controller controller) ↔
      store.controller? address = some controller := by
  simp [Store.find?]

/-! ## What one operation does -/

/-- A store came from another one by storing a document at its place, with the next version. -/
structure Stores (store after : Store) (document : StoredDocument) : Prop where
  /-- One version was given. -/
  revision : after.revision = store.revision + 1
  /-- The document carries it. -/
  version : document.version = some store.nextVersion
  /-- The document is kept at its place and nothing else changed. -/
  find? : ∀ place, after.find? place =
    if document.place = place then some document else store.find? place

/-- A store came from another one without a change of documents; a version may have been
given away. -/
structure Keeps (store after : Store) : Prop where
  /-- Versions are not taken back. -/
  revision_le : store.revision ≤ after.revision
  /-- At most one version was given away. -/
  revision_le_succ : after.revision ≤ store.revision + 1
  /-- Every place keeps its document. -/
  find? : ∀ place, after.find? place = store.find? place

theorem Keeps.refl (store : Store) : store.Keeps store :=
  ⟨Nat.le_refl _, Nat.le_succ _, fun _ => rfl⟩

theorem keeps_advance (store : Store) : store.Keeps store.advance :=
  ⟨Nat.le_succ _, Nat.le_refl _, fun _ => rfl⟩

theorem stores_bundle
    (store : Store)
    {bundle : Bundle}
    {key : Address}
    (version : bundle.metadata.resourceVersion = some store.nextVersion)
    (named : bundle.address = key) :
    store.Stores { store.advance with bundles := store.bundles.put key bundle named }
      (.bundle bundle) := by
  subst named
  refine ⟨rfl, version, fun ⟨kind, address⟩ => ?_⟩
  cases kind with
  | bundle =>
      by_cases here : bundle.address = address <;>
        simp [Store.find?, bundle?, StoredDocument.place, here]
  | controller => simp [Store.find?, controller?, StoredDocument.place, advance]
  | other name => simp [Store.find?, StoredDocument.place]

theorem stores_controller
    (store : Store)
    {controller : Controller}
    {key : Address}
    (version : controller.metadata.resourceVersion = some store.nextVersion)
    (named : controller.address = key) :
    store.Stores { store.advance with controllers := store.controllers.put key controller named }
      (.controller controller) := by
  subst named
  refine ⟨rfl, version, fun ⟨kind, address⟩ => ?_⟩
  cases kind with
  | bundle => simp [Store.find?, bundle?, StoredDocument.place, advance]
  | controller =>
      by_cases here : controller.address = address <;>
        simp [Store.find?, controller?, StoredDocument.place, here]
  | other name => simp [Store.find?, StoredDocument.place]

/-! ## Conditional writes -/

/-- How a conditional write of a document ends. -/
structure ConditionalWrite (store : Store) (operation : StoreOperation)
    (document : StoredDocument) : Prop where
  /-- It is refused where nothing is stored. -/
  absent : store.find? document.place = none →
    store.outcome operation =
        .error (.notFound document.place.kind document.place.address.space
          document.place.address.name) ∧
      store.perform operation = store.advance
  /-- It is refused if the stored document has another version than the one it carries. -/
  stale : ∀ stored expected, store.find? document.place = some stored →
    document.version = some expected → stored.version ≠ some expected →
    store.outcome operation =
        .error (.conflict document.place.kind document.place.address.name expected) ∧
      store.perform operation = store.advance
  /-- It is carried out at the place of the document otherwise. -/
  current : ∀ stored, store.find? document.place = some stored →
    (∀ expected, document.version = some expected → stored.version = some expected) →
    ∃ written, store.outcome operation = .ok (some written) ∧
      written.place = document.place ∧ store.Stores (store.perform operation) written

/-- An operation that writes over what is stored at the place of its document is a conditional
write of that document. -/
theorem ConditionalWrite.of_overwrite {Item : Type}
    {store : Store}
    {operation : StoreOperation}
    {document : StoredDocument}
    {stored : Option Item}
    {versionOf : Item → Option String}
    {write : Item → Item × Store}
    (wrap : Item → StoredDocument)
    (version_wrap : ∀ item, (wrap item).version = versionOf item)
    (found : store.find? document.place = stored.map wrap)
    (outcome_eq : store.outcome operation =
      (store.overwrite document.place.kind document.place.address stored versionOf
        document.version write).1.map fun item => some (wrap item))
    (perform_eq : store.perform operation =
      (store.overwrite document.place.kind document.place.address stored versionOf
        document.version write).2)
    (writes : ∀ old, stored = some old → (wrap (write old).1).place = document.place ∧
      store.Stores (write old).2 (wrap (write old).1)) :
    store.ConditionalWrite operation document := by
  constructor
  · intro absent
    rw [found, Option.map_eq_none_iff] at absent
    rw [outcome_eq, perform_eq, absent, overwrite_of_absent]
    exact ⟨rfl, rfl⟩
  · intro document expected present carried different
    rw [found, Option.map_eq_some_iff] at present
    obtain ⟨old, rfl, rfl⟩ := present
    rw [version_wrap] at different
    rw [outcome_eq, perform_eq, carried, overwrite_of_stale different]
    exact ⟨rfl, rfl⟩
  · intro document present based
    rw [found, Option.map_eq_some_iff] at present
    obtain ⟨old, rfl, rfl⟩ := present
    simp only [version_wrap] at based
    rw [outcome_eq, perform_eq, overwrite_of_current based]
    exact ⟨_, rfl, writes old rfl⟩

theorem conditionalWrite_saveBundleStatus
    (store : Store)
    (bundle : Bundle) :
    store.ConditionalWrite (.request (.saveBundleStatus bundle)) (.bundle bundle) := by
  refine .of_overwrite .bundle (fun _ => rfl) rfl rfl rfl fun old found => ?_
  have found : store.bundles.get? bundle.address = some old := found
  have address : old.address = bundle.address := Shelf.address_of_get? found
  refine ⟨congrArg (Place.mk .bundle) address, ?_⟩
  rw [Shelf.revise_eq_put found]
  exact store.stores_bundle rfl _

theorem conditionalWrite_saveController
    (store : Store)
    (controller : Controller) :
    store.ConditionalWrite (.request (.saveController controller)) (.controller controller) := by
  refine .of_overwrite .controller (fun _ => rfl) rfl rfl rfl fun old found => ⟨rfl, ?_⟩
  have found : store.controllers.get? controller.address = some old := found
  rw [Shelf.revise_eq_put found]
  exact store.stores_controller rfl _

theorem conditionalWrite_saveControllerStatus
    (store : Store)
    (controller : Controller) :
    store.ConditionalWrite (.request (.saveControllerStatus controller))
      (.controller controller) := by
  refine .of_overwrite .controller (fun _ => rfl) rfl rfl rfl fun old found => ?_
  have found : store.controllers.get? controller.address = some old := found
  have address : old.address = controller.address := Shelf.address_of_get? found
  refine ⟨congrArg (Place.mk .controller) address, ?_⟩
  rw [Shelf.revise_eq_put found]
  exact store.stores_controller rfl _

/-- Every operation that carries a document is a conditional write of it. -/
theorem conditionalWrite_of_carried
    (store : Store)
    {operation : StoreOperation}
    {document : StoredDocument}
    (carried : operation.carried? = some document) :
    store.ConditionalWrite operation document := by
  unfold StoreOperation.carried? at carried
  split at carried
  · cases carried
    exact store.conditionalWrite_saveBundleStatus _
  · cases carried
    exact store.conditionalWrite_saveController _
  · cases carried
    exact store.conditionalWrite_saveControllerStatus _
  · cases carried

/-! ## Any operation -/

/-- An operation stores a document or keeps all of them. -/
def StoresOrKeeps (store : Store) (operation : StoreOperation) : Prop :=
  (∃ document, store.written? operation = some document ∧
      store.Stores (store.perform operation) document) ∨
    store.written? operation = none ∧ store.Keeps (store.perform operation)

/-- A conditional write is refused, or it stores a document at the place of the one it carries. -/
theorem ConditionalWrite.ends
    {store : Store}
    {operation : StoreOperation}
    {document : StoredDocument}
    (write : store.ConditionalWrite operation document) :
    (∃ failure, store.outcome operation = .error failure ∧
        store.perform operation = store.advance) ∨
      ∃ written, store.outcome operation = .ok (some written) ∧
        written.place = document.place ∧ store.Stores (store.perform operation) written := by
  cases found : store.find? document.place with
  | none => exact .inl ⟨_, write.absent found⟩
  | some stored =>
      by_cases based : ∀ expected, document.version = some expected →
          stored.version = some expected
      · exact .inr (write.current stored found based)
      · obtain ⟨expected, unmet⟩ := Classical.not_forall.1 based
        obtain ⟨carried, different⟩ := Classical.not_imp.1 unmet
        exact .inl ⟨_, write.stale stored expected found carried different⟩

theorem ConditionalWrite.storesOrKeeps
    {store : Store}
    {operation : StoreOperation}
    {document : StoredDocument}
    (write : store.ConditionalWrite operation document) :
    store.StoresOrKeeps operation := by
  rcases write.ends with ⟨failure, refused, after⟩ | ⟨written, accepted, _, stores⟩
  · exact .inr ⟨by rw [written?, refused]; rfl, after ▸ store.keeps_advance⟩
  · exact .inl ⟨written, written?_of_outcome accepted, stores⟩

theorem storesOrKeeps_createBundle
    (store : Store)
    (bundle : Bundle) :
    store.StoresOrKeeps (.request (.createBundle bundle)) := by
  unfold StoresOrKeeps
  simp only [written?, outcome, perform, answer, createBundle]
  cases store.bundle? bundle.address with
  | none => exact .inl ⟨_, rfl, store.stores_bundle rfl _⟩
  | some stored => exact .inr ⟨rfl, .refl store⟩

/-- Creating a namespace changes no document. -/
theorem keeps_ensureSpace
    (store : Store)
    (name : String) :
    store.Keeps (store.ensureSpace name) := by
  unfold ensureSpace
  split
  · exact .refl store
  · exact ⟨Nat.le_refl _, Nat.le_succ _, fun _ => rfl⟩

/-- A question that yields no document stores none. -/
theorem written?_of_answer
    {store : Store}
    {operation : StoreOperation}
    {Answer : Type}
    {answer : Except BundleError Answer}
    (outcome_eq : store.outcome operation = answer.map fun _ => none) :
    store.written? operation = none := by
  rw [written?, outcome_eq]
  cases answer <;> rfl

/-- Whatever is asked of a store, it stores one document or keeps all of them. -/
theorem storesOrKeeps
    (store : Store)
    (operation : StoreOperation) :
    store.StoresOrKeeps operation := by
  cases operation with
  | request request =>
      cases request with
      | createBundle bundle => exact store.storesOrKeeps_createBundle bundle
      | saveBundleStatus bundle =>
          exact (store.conditionalWrite_saveBundleStatus bundle).storesOrKeeps
      | saveController controller =>
          exact (store.conditionalWrite_saveController controller).storesOrKeeps
      | saveControllerStatus controller =>
          exact (store.conditionalWrite_saveControllerStatus controller).storesOrKeeps
      | ensureSpace name => exact .inr ⟨rfl, store.keeps_ensureSpace name⟩
      | listBundles => exact .inr ⟨rfl, .refl store⟩
      | isActive bundle => exact .inr ⟨written?_of_answer rfl, .refl store⟩
      | activeBundle => exact .inr ⟨written?_of_answer rfl, .refl store⟩
  | putController controller => exact .inl ⟨_, rfl, store.stores_controller rfl _⟩
  | getBundle address => exact .inr ⟨rfl, .refl store⟩
  | getController address => exact .inr ⟨rfl, .refl store⟩
  | listSpaces => exact .inr ⟨rfl, .refl store⟩

end Store
end BundleTrust
