import BundleTrust.Proofs.Store.Run
import Mathlib.Data.List.Pairwise

/-!
# Versions guard every update

Every document state that a store ever holds has a version of its own, and a conditional
write that succeeds replaces the one state that its version was given to.  So of several
clients that read a document and write it back at most one succeeds, and each of the others
is told of a conflict (`Store.no_lost_update`).

The invariant is a ledger of all states stored so far (`Store.Ledger`): what the store holds
is in it, its versions are numerals up to the counter of the store, and they differ.
-/

namespace BundleTrust
namespace Store

/-- A version that the store has given already. -/
def Issued (store : Store) (version : String) : Prop :=
  ∃ number ≤ store.revision, version = Text.decimal number

/-- The next version is a new one. -/
theorem not_issued_nextVersion (store : Store) : ¬ store.Issued store.nextVersion := by
  rintro ⟨number, atMost, same⟩
  have next : store.revision + 1 = number := Text.decimal_injective same
  omega

/-- Versions stay given. -/
theorem Issued.mono
    {store after : Store}
    {version : String}
    (issued : store.Issued version)
    (atMost : store.revision ≤ after.revision) :
    after.Issued version := by
  obtain ⟨number, bound, rfl⟩ := issued
  exact ⟨number, Nat.le_trans bound atMost, rfl⟩

/-- An operation takes no version back and gives at most one. -/
theorem revision_perform
    (store : Store)
    (operation : StoreOperation) :
    store.revision ≤ (store.perform operation).revision ∧
      (store.perform operation).revision ≤ store.revision + 1 := by
  rcases store.storesOrKeeps operation with ⟨document, _, stores⟩ | ⟨_, keeps⟩
  · have revision := stores.revision
    omega
  · exact ⟨keeps.revision_le, keeps.revision_le_succ⟩

/-- A run gives at most one version for every operation. -/
theorem revision_run_le
    (store : Store)
    (operations : List StoreOperation) :
    (store.run operations).revision ≤ store.revision + operations.length := by
  induction operations generalizing store with
  | nil => exact Nat.le_refl _
  | cons operation rest ih =>
      have first := (store.revision_perform operation).2
      have others := ih (store.perform operation)
      rw [run_cons, List.length_cons]
      omega

/-! ## The ledger of a run -/

/-- A store and the list of all document states that were stored so far. -/
structure Ledger (store : Store) (states : List StoredDocument) : Prop where
  /-- Every state was given a version. -/
  issued : ∀ state ∈ states, ∃ version, state.version = some version ∧ store.Issued version
  /-- No version was given twice. -/
  distinct : states.Pairwise fun earlier later => earlier.version ≠ later.version
  /-- What is stored now is one of the states. -/
  current : ∀ place state, store.find? place = some state → state ∈ states
  /-- No document was removed. -/
  present : ∀ state ∈ states, (store.find? state.place).isSome

/-- The ledger of a store that was not used yet. -/
theorem ledger_empty (configuration : Configuration) : (empty configuration).Ledger [] := by
  refine ⟨by simp, .nil, fun ⟨kind, address⟩ state found => ?_, by simp⟩
  cases kind <;> cases found

namespace Ledger

variable {store after : Store} {states : List StoredDocument} {operation : StoreOperation}

/-- Two states with one version are one state. -/
theorem eq_of_version
    (ledger : store.Ledger states)
    {left right : StoredDocument}
    (isLeft : left ∈ states)
    (isRight : right ∈ states)
    (same : left.version = right.version) :
    left = right := by
  have symmetric : Std.Symm fun first second : StoredDocument =>
      first.version ≠ second.version := ⟨fun _ _ unequal => unequal.symm⟩
  by_contra different
  exact ledger.distinct.forall isLeft isRight different same

/-- A document that is stored is entered. -/
theorem of_stores
    (ledger : store.Ledger states)
    {document : StoredDocument}
    (stores : store.Stores after document) :
    after.Ledger (states ++ [document]) := by
  have advanced : store.revision ≤ after.revision := by rw [stores.revision]; omega
  constructor
  · intro state isState
    rcases List.mem_append.1 isState with old | new
    · obtain ⟨version, carried, issued⟩ := ledger.issued state old
      exact ⟨version, carried, issued.mono advanced⟩
    · rw [List.mem_singleton.1 new]
      exact ⟨_, stores.version, store.revision + 1, Nat.le_of_eq stores.revision.symm, rfl⟩
  · refine List.pairwise_append.2 ⟨ledger.distinct, List.pairwise_singleton _ _, ?_⟩
    intro state old new isNew same
    obtain ⟨version, carried, issued⟩ := ledger.issued state old
    rw [List.mem_singleton.1 isNew, stores.version, carried] at same
    exact store.not_issued_nextVersion (Option.some.inj same ▸ issued)
  · intro place state found
    rw [stores.find?] at found
    split at found
    · exact List.mem_append_right _ (List.mem_singleton.2 (Option.some.inj found).symm)
    · exact List.mem_append_left _ (ledger.current place state found)
  · intro state isState
    rw [stores.find?]
    split
    · rfl
    · next elsewhere =>
        rcases List.mem_append.1 isState with old | new
        · exact ledger.present state old
        · exact absurd (congrArg _ (List.mem_singleton.1 new).symm) elsewhere

/-- The ledger stays as it is where all documents are kept. -/
theorem of_keeps
    (ledger : store.Ledger states)
    (keeps : store.Keeps after) :
    after.Ledger states := by
  constructor
  · intro state isState
    obtain ⟨version, carried, issued⟩ := ledger.issued state isState
    exact ⟨version, carried, issued.mono keeps.revision_le⟩
  · exact ledger.distinct
  · intro place state found
    rw [keeps.find?] at found
    exact ledger.current place state found
  · intro state isState
    rw [keeps.find?]
    exact ledger.present state isState

/-- Every operation enters what it stores. -/
theorem perform
    (ledger : store.Ledger states)
    (operation : StoreOperation) :
    (store.perform operation).Ledger (states ++ (store.written? operation).toList) := by
  rcases store.storesOrKeeps operation with ⟨document, written, stores⟩ | ⟨silent, keeps⟩
  · rw [written]
    exact ledger.of_stores stores
  · rw [silent, Option.toList_none, List.append_nil]
    exact ledger.of_keeps keeps

/-- Every run enters what it stores. -/
theorem run
    (ledger : store.Ledger states)
    (operations : List StoreOperation) :
    (store.run operations).Ledger (states ++ store.writes operations) := by
  induction operations generalizing store states with
  | nil => simpa [writes] using ledger
  | cons operation rest ih =>
      have rest := ih (ledger.perform operation)
      rwa [List.append_assoc] at rest

end Ledger

/-! ## Stale versions -/

/-- What is stored at a place has another version than a given one, which was given before. -/
structure Superseded (store : Store) (place : Place) (version : String) : Prop where
  /-- The version will not be given again. -/
  issued : store.Issued version
  /-- A document is stored at the place, and its version is another one. -/
  replaced : ∃ current, store.find? place = some current ∧ current.version ≠ some version

/-- A superseded version stays superseded, whatever is done next. -/
theorem Superseded.perform
    {store : Store}
    {place : Place}
    {version : String}
    (superseded : store.Superseded place version)
    (operation : StoreOperation) :
    (store.perform operation).Superseded place version := by
  refine ⟨superseded.issued.mono (store.revision_perform operation).1, ?_⟩
  obtain ⟨current, found, different⟩ := superseded.replaced
  rcases store.storesOrKeeps operation with ⟨document, _, stores⟩ | ⟨_, keeps⟩
  · by_cases here : document.place = place
    · refine ⟨document, by rw [stores.find?, if_pos here], ?_⟩
      rw [stores.version]
      rintro same
      exact store.not_issued_nextVersion (Option.some.inj same ▸ superseded.issued)
    · exact ⟨current, by rw [stores.find?, if_neg here, found], different⟩
  · exact ⟨current, by rw [keeps.find?, found], different⟩

/-- A superseded version stays superseded in every run. -/
theorem Superseded.run
    {store : Store}
    {place : Place}
    {version : String}
    (superseded : store.Superseded place version)
    (operations : List StoreOperation) :
    (store.run operations).Superseded place version := by
  induction operations generalizing store with
  | nil => exact superseded
  | cons operation rest ih => exact ih (superseded.perform operation)

/-- How a conditional write is refused that is based on a superseded version. -/
structure Conflicts (store : Store) (operation : StoreOperation) (place : Place)
    (version : String) : Prop where
  /-- The writer is told of the conflict. -/
  outcome : store.outcome operation =
    .error (.conflict place.kind place.address.name version)
  /-- Nothing is changed. -/
  unchanged : store.SameContents (store.perform operation)

/-- A conditional write that is based on a superseded version is refused. -/
theorem Superseded.conflicts
    {store : Store}
    {operation : StoreOperation}
    {document : StoredDocument}
    {version : String}
    (superseded : store.Superseded document.place version)
    (carried : operation.carried? = some document)
    (based : document.version = some version) :
    store.Conflicts operation document.place version := by
  obtain ⟨current, found, different⟩ := superseded.replaced
  obtain ⟨refused, after⟩ :=
    (store.conditionalWrite_of_carried carried).stale current version found based different
  exact ⟨refused, after ▸ ⟨rfl, rfl, rfl⟩⟩

/-- A conditional write of a document that was read before either succeeds or conflicts, and
either way the version that it is based on is superseded afterwards. -/
theorem Ledger.superseded_of_write
    {store : Store}
    {states : List StoredDocument}
    {operation : StoreOperation}
    {base document : StoredDocument}
    {version : String}
    (ledger : store.Ledger states)
    (read : base ∈ states)
    (baseVersion : base.version = some version)
    (carried : operation.carried? = some document)
    (samePlace : document.place = base.place)
    (based : document.version = some version) :
    ((∃ written, store.outcome operation = .ok (some written)) ∨
        store.Conflicts operation base.place version) ∧
      (store.perform operation).Superseded base.place version := by
  obtain ⟨found, isFound⟩ := Option.isSome_iff_exists.1 (ledger.present base read)
  obtain ⟨_, sameVersion, issued⟩ := ledger.issued base read
  cases sameVersion.symm.trans baseVersion
  by_cases current : found.version = some version
  · have write := (store.conditionalWrite_of_carried carried).current found
      (samePlace ▸ isFound) (by rw [based]; rintro _ ⟨⟩; exact current)
    obtain ⟨written, accepted, place, stores⟩ := write
    refine ⟨.inl ⟨written, accepted⟩, issued.mono (store.revision_perform operation).1, written,
      by rw [stores.find?, if_pos (place.trans samePlace)], ?_⟩
    rw [stores.version]
    rintro same
    exact store.not_issued_nextVersion (Option.some.inj same ▸ issued)
  · have superseded : store.Superseded base.place version := ⟨issued, found, isFound, current⟩
    exact ⟨.inr (samePlace ▸ (samePlace.symm ▸ superseded).conflicts carried based),
      superseded.perform operation⟩

/-! ## No lost update -/

/-- No update of a run is lost. -/
structure NoLostUpdate (start : Store) (operations : List StoreOperation) : Prop where
  /-- The counter of versions does not run ahead of the operations. -/
  revision_le : (start.run operations).revision ≤ operations.length
  /-- Every document state that is stored is given a version. -/
  versioned : ∀ state ∈ start.writes operations, ∃ version, state.version = some version
  /-- No version is given to two document states. -/
  assignedOnce : (start.writes operations).Pairwise fun earlier later =>
    earlier.version ≠ later.version
  /-- A conditional write that succeeds replaces the one state that its version was given to. -/
  replacesItsBase : ∀ before operation after carried version written,
    operations = before ++ operation :: after →
    operation.carried? = some carried →
    carried.version = some version →
    (start.run before).outcome operation = .ok (some written) →
    ∃ base ∈ start.writes before, base.version = some version ∧
      (start.run before).find? carried.place = some base ∧
      ∀ state ∈ start.writes operations, state.version = some version → state = base
  /-- Of two clients that write back what they read with one version at most one succeeds, and
  another one is told of a conflict and changes nothing. -/
  oneWriterWins : ∀ before first between second after base mine theirs version,
    operations = before ++ first :: (between ++ second :: after) →
    base ∈ start.writes before →
    base.version = some version →
    first.carried? = some mine →
    mine.place = base.place →
    mine.version = some version →
    second.carried? = some theirs →
    theirs.place = base.place →
    theirs.version = some version →
    ((∃ written, (start.run before).outcome first = .ok (some written)) ∨
        (start.run before).Conflicts first base.place version) ∧
      (start.run (before ++ first :: between)).Conflicts second base.place version

/-- A conditional write that succeeds replaces the document whose version it carries. -/
theorem base_of_outcome
    {store : Store}
    {operation : StoreOperation}
    {carried written : StoredDocument}
    {version : String}
    (isCarried : operation.carried? = some carried)
    (based : carried.version = some version)
    (accepted : store.outcome operation = .ok (some written)) :
    ∃ base, store.find? carried.place = some base ∧ base.version = some version := by
  have write := store.conditionalWrite_of_carried isCarried
  cases found : store.find? carried.place with
  | none =>
      rw [(write.absent found).1] at accepted
      cases accepted
  | some base =>
      refine ⟨base, rfl, ?_⟩
      by_contra different
      rw [(write.stale base version found based different).1] at accepted
      cases accepted

/-- No update is lost in any run of a new store, however many clients use it and however
their operations interleave. -/
theorem no_lost_update
    (configuration : Configuration)
    (operations : List StoreOperation) :
    (empty configuration).NoLostUpdate operations := by
  have ledgerOf : ∀ operations, ((empty configuration).run operations).Ledger
      ((empty configuration).writes operations) := (ledger_empty configuration).run
  constructor
  · simpa [empty] using (empty configuration).revision_run_le operations
  · intro state isState
    obtain ⟨version, given, _⟩ := (ledgerOf operations).issued state isState
    exact ⟨version, given⟩
  · exact (ledgerOf operations).distinct
  · rintro before operation after carried version written rfl isCarried based accepted
    obtain ⟨base, found, given⟩ := base_of_outcome isCarried based accepted
    have earlier := (ledgerOf before).current _ base found
    refine ⟨base, earlier, given, found, fun state isState same => ?_⟩
    refine (ledgerOf _).eq_of_version isState ?_ (same.trans given.symm)
    rw [writes_append]
    exact List.mem_append_left _ earlier
  · rintro before first between second after base mine theirs version rfl read given isMine
      myPlace myVersion isTheirs theirPlace theirVersion
    obtain ⟨fate, superseded⟩ :=
      (ledgerOf before).superseded_of_write read given isMine myPlace myVersion
    refine ⟨fate, ?_⟩
    rw [run_append, run_cons, ← theirPlace]
    exact ((theirPlace.symm ▸ superseded).run between).conflicts isTheirs theirVersion

/-- Two clients read a new bundle and write back a state: the first one is served and the
second one is told of a conflict. -/
theorem second_state_conflicts :
    let bundle := (Bundle.named "eksa-packages" "v1-21-1001").withVersion "1"
    let create : StoreOperation := .request (.createBundle bundle)
    let first : StoreOperation := .request (.saveBundleStatus { bundle with state := some .active })
    let second : StoreOperation :=
      .request (.saveBundleStatus { bundle with state := some .inactive })
    let store := (empty .standard).perform create
    store.written? first =
        some (.bundle { bundle.withVersion "2" with state := some .active }) ∧
      (store.perform first).Conflicts second (StoredDocument.bundle bundle).place "1" := by
  intro bundle create first second store
  have created : (empty .standard).written? create = some (.bundle bundle) := by decide
  refine ⟨by decide, ?_⟩
  exact ((no_lost_update .standard [create, first, second]).oneWriterWins [create] first []
    second [] (.bundle bundle) _ _ "1" rfl (by simp [writes, created]) rfl rfl rfl rfl rfl rfl
    rfl).2

end Store
end BundleTrust
