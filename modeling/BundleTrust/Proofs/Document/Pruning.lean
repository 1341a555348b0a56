import BundleTrust.Document.Path

/-!
# Pruning documents

A document without a set of places is described at once, with every place named by its path
in the whole document; no place moves while others are taken out.  Prunings by places that
keys alone lead to can be taken one after the other.
-/

namespace BundleTrust
namespace Document

mutual

/-- A document without the values at excluded paths below its root. -/
def without (isExcluded : FieldPath → Bool) : Document → Document
  | .list items => .list (withoutItems isExcluded 0 items)
  | .mapping members => .mapping (withoutMembers isExcluded members)
  | document => document

/-- The items of a list from an index on, without the values at excluded paths. -/
def withoutItems (isExcluded : FieldPath → Bool) (index : Nat) : List Document → List Document
  | [] => []
  | item :: items =>
      if isExcluded [.position index] then withoutItems isExcluded (index + 1) items
      else
        item.without (fun path => isExcluded (.position index :: path)) ::
          withoutItems isExcluded (index + 1) items

/-- The members of a mapping without the values at excluded paths. -/
def withoutMembers (isExcluded : FieldPath → Bool) : Members → Members
  | [] => []
  | (key, value) :: members =>
      if isExcluded [.key key] then withoutMembers isExcluded members
      else
        (key, value.without fun path => isExcluded (.key key :: path)) ::
          withoutMembers isExcluded members

end

variable {isExcluded isExcluded' : FieldPath → Bool}

/-! ## Shape and order -/

@[simp] theorem isMapping_without (document : Document) :
    (document.without isExcluded).isMapping = document.isMapping := by
  cases document <;> simp [without, isMapping, asMapping?]

/-- A key is found in a pruned mapping unless its path is excluded. -/
@[simp] theorem get?_withoutMembers (members : Members) (key : String) :
    Members.get? (withoutMembers isExcluded members) key =
      if isExcluded [.key key] then none
      else (Members.get? members key).map fun value =>
        value.without fun path => isExcluded (.key key :: path) := by
  induction members with
  | nil => simp [withoutMembers]
  | cons member members ih =>
      obtain ⟨name, value⟩ := member
      rw [withoutMembers]
      by_cases here : key = name
      · subst here
        by_cases excluded : isExcluded [.key key] <;> simp [excluded, ih]
      · by_cases excluded : isExcluded [.key name] <;> simp [excluded, ih, here]

theorem get?_without (document : Document) (key : String) :
    (document.without isExcluded).get? key =
      if isExcluded [.key key] then none
      else (document.get? key).map fun value =>
        value.without fun path => isExcluded (.key key :: path) := by
  cases document with
  | mapping members => exact get?_withoutMembers members key
  | _ => simp [without, get?]

/-- Pruning does not change what text a value is. -/
@[simp] theorem asText?_without (document : Document) :
    (document.without isExcluded).asText? = document.asText? := by
  cases document <;> simp [without, asText?]

@[simp] theorem bind_asText?_without (found : Option Document) :
    (found.map fun value => value.without isExcluded).bind asText? = found.bind asText? := by
  cases found with
  | none => rfl
  | some value => exact asText?_without value

/-- Every key of a pruned mapping was there before. -/
theorem key_mem_of_mem_withoutMembers
    {members : Members}
    {member : String × Document}
    (isMember : member ∈ withoutMembers isExcluded members) :
    ∃ value, (member.1, value) ∈ members := by
  induction members with
  | nil => simp [withoutMembers] at isMember
  | cons head members ih =>
      obtain ⟨name, value⟩ := head
      rw [withoutMembers] at isMember
      split at isMember
      · obtain ⟨old, isOld⟩ := ih isMember
        exact ⟨old, List.mem_cons_of_mem _ isOld⟩
      · cases List.mem_cons.1 isMember with
        | inl same =>
            subst same
            exact ⟨value, List.mem_cons_self⟩
        | inr later =>
            obtain ⟨old, isOld⟩ := ih later
            exact ⟨old, List.mem_cons_of_mem _ isOld⟩

/-- Pruning keeps the order of keys. -/
theorem ascending_withoutMembers
    {members : Members}
    (ascending : Members.Ascending members) :
    Members.Ascending (withoutMembers isExcluded members) := by
  induction members with
  | nil => simpa [withoutMembers] using ascending
  | cons head members ih =>
      obtain ⟨name, value⟩ := head
      obtain ⟨below, inner⟩ := List.pairwise_cons.1 ascending
      rw [withoutMembers]
      split
      · exact ih inner
      · refine List.pairwise_cons.2 ⟨fun member isMember => ?_, ih inner⟩
        obtain ⟨old, isOld⟩ := key_mem_of_mem_withoutMembers isMember
        exact below (member.1, old) isOld

mutual

/-- Pruning keeps the keys of every mapping in order. -/
theorem Sorted.without : (document : Document) → (isExcluded : FieldPath → Bool) →
    document.Sorted → (document.without isExcluded).Sorted
  | .null, _, _ | .boolean _, _, _ | .integer _, _, _ | .real _, _, _ | .text _, _, _ => by
      simp [Document.without, Sorted]
  | .list items, isExcluded, sorted => by
      rw [Document.without, Sorted]
      rw [Sorted] at sorted
      exact sortedItems_without items isExcluded 0 sorted
  | .mapping members, isExcluded, sorted => by
      rw [Document.without, Sorted]
      rw [Sorted] at sorted
      exact ⟨ascending_withoutMembers sorted.1,
        sortedMembers_without members isExcluded sorted.2⟩

theorem sortedItems_without : (items : List Document) → (isExcluded : FieldPath → Bool) →
    (index : Nat) → SortedItems items → SortedItems (withoutItems isExcluded index items)
  | [], _, _, _ => by simp [withoutItems, SortedItems]
  | item :: items, isExcluded, index, sorted => by
      rw [SortedItems] at sorted
      rw [withoutItems]
      split
      · exact sortedItems_without items isExcluded (index + 1) sorted.2
      · rw [SortedItems]
        exact ⟨Sorted.without item _ sorted.1,
          sortedItems_without items isExcluded (index + 1) sorted.2⟩

theorem sortedMembers_without : (members : Members) → (isExcluded : FieldPath → Bool) →
    SortedMembers members → SortedMembers (withoutMembers isExcluded members)
  | [], _, _ => by simp [withoutMembers, SortedMembers]
  | (key, value) :: members, isExcluded, sorted => by
      rw [SortedMembers] at sorted
      rw [withoutMembers]
      split
      · exact sortedMembers_without members isExcluded sorted.2
      · rw [SortedMembers]
        exact ⟨Sorted.without value _ sorted.1,
          sortedMembers_without members isExcluded sorted.2⟩

end

/-! ## Prunings that take nothing out -/

mutual

/-- A document without nothing is the document. -/
@[simp] theorem without_false : (document : Document) →
    (document.without fun _ => false) = document
  | .null | .boolean _ | .integer _ | .real _ | .text _ => by simp [without]
  | .list items => by rw [without, withoutItems_false items 0]
  | .mapping members => by rw [without, withoutMembers_false members]

theorem withoutItems_false : (items : List Document) → (index : Nat) →
    withoutItems (fun _ => false) index items = items
  | [], _ => by simp [withoutItems]
  | item :: items, index => by
      rw [withoutItems, if_neg Bool.false_ne_true, without_false item,
        withoutItems_false items (index + 1)]

theorem withoutMembers_false : (members : Members) →
    withoutMembers (fun _ => false) members = members
  | [] => by simp [withoutMembers]
  | (key, value) :: members => by
      rw [withoutMembers, if_neg Bool.false_ne_true, without_false value,
        withoutMembers_false members]

end

/-- What is taken out of a list depends only on the paths that start with its positions. -/
theorem withoutItems_congr
    {items : List Document}
    {index : Nat}
    (alike : ∀ place path, index ≤ place →
      isExcluded (.position place :: path) = isExcluded' (.position place :: path)) :
    withoutItems isExcluded index items = withoutItems isExcluded' index items := by
  induction items generalizing index with
  | nil => simp [withoutItems]
  | cons item items ih =>
      have later := ih fun place path after => alike place path (Nat.le_of_succ_le after)
      simp only [withoutItems, alike index _ (Nat.le_refl index), later]

/-- What is taken out of a mapping depends only on the paths that start with its keys. -/
theorem withoutMembers_congr
    {members : Members}
    (alike : ∀ key path, isExcluded (.key key :: path) = isExcluded' (.key key :: path)) :
    withoutMembers isExcluded members = withoutMembers isExcluded' members := by
  induction members with
  | nil => simp [withoutMembers]
  | cons member members ih => simp only [withoutMembers, alike, ih]

/-! ## Values that stay -/

/-- With a path, everything below it is excluded. -/
def Closed (isExcluded : FieldPath → Bool) : Prop :=
  ∀ path step, isExcluded path = true → isExcluded (path ++ [step]) = true

theorem Closed.below
    (closed : Closed isExcluded)
    (step : PathStep) :
    Closed fun path => isExcluded (step :: path) :=
  fun path next => closed (step :: path) next

theorem Closed.append
    (closed : Closed isExcluded)
    {path : FieldPath}
    (extension : FieldPath)
    (excluded : isExcluded path = true) :
    isExcluded (path ++ extension) = true := by
  induction extension generalizing path with
  | nil => simpa using excluded
  | cons step extension ih => simpa using ih (closed path step excluded)

/-- A value under keys is found in a pruned document unless its path is excluded. -/
theorem at?_without
    (document : Document)
    (closed : Closed isExcluded)
    (key : String)
    (keys : List String) :
    (document.without isExcluded).at? (FieldPath.ofKeys (key :: keys)) =
      if isExcluded (FieldPath.ofKeys (key :: keys)) then none
      else (document.at? (FieldPath.ofKeys (key :: keys))).map fun value =>
        value.without fun path => isExcluded (FieldPath.ofKeys (key :: keys) ++ path) := by
  induction keys generalizing document key isExcluded with
  | nil =>
      by_cases excluded : isExcluded [.key key] <;>
        simp [FieldPath.ofKeys, get?_without, excluded, Option.map_eq_bind]
  | cons next keys ih =>
      have inside := fun value : Document => ih value (closed.below (.key key)) next
      simp only [FieldPath.ofKeys, List.map_cons] at inside ⊢
      rw [at?_key, get?_without]
      by_cases excluded : isExcluded [.key key]
      · have deeper := closed.append (.key next :: keys.map PathStep.key) excluded
        simp only [List.singleton_append] at deeper
        simp [excluded, deeper]
      · rw [if_neg excluded, Option.bind_map, at?_key]
        cases document.get? key with
        | none => simp
        | some value => simpa using inside value

/-! ## Places that keys alone lead to -/

/-- Keys alone lead to the excluded places: a path that goes through a list is excluded only
if the path to the list is. -/
def ByKeys (isExcluded : FieldPath → Bool) : Prop :=
  ∀ before index after,
    isExcluded (before ++ .position index :: after) = true → isExcluded before = true

theorem ByKeys.below
    (byKeys : ByKeys isExcluded)
    (step : PathStep) :
    ByKeys fun path => isExcluded (step :: path) :=
  fun before index after => byKeys (step :: before) index after

theorem ByKeys.position_eq_false
    (byKeys : ByKeys isExcluded)
    (root : isExcluded [] = false)
    (index : Nat)
    (path : FieldPath) :
    isExcluded (.position index :: path) = false := by
  have toRoot := byKeys [] index path
  simp only [List.nil_append, root] at toRoot
  simpa using toRoot

/-- Pruning by keys does not take items out of a list at the root. -/
theorem ByKeys.withoutItems_eq
    (byKeys : ByKeys isExcluded)
    (root : isExcluded [] = false)
    (items : List Document)
    (index : Nat) :
    withoutItems isExcluded index items = items := by
  calc
    withoutItems isExcluded index items = withoutItems (fun _ => false) index items :=
      withoutItems_congr fun place path _ => byKeys.position_eq_false root place path
    _ = items := withoutItems_false items index

mutual

/-- Pruning by keys before or after any pruning is one pruning. -/
theorem without_without : (document : Document) → (isExcluded isExcluded' : FieldPath → Bool) →
    ByKeys isExcluded' → isExcluded' [] = false →
    (document.without isExcluded).without isExcluded' =
        document.without (fun path => isExcluded path || isExcluded' path) ∧
      (document.without isExcluded').without isExcluded =
        document.without (fun path => isExcluded path || isExcluded' path)
  | .null, _, _, _, _ | .boolean _, _, _, _, _ | .integer _, _, _, _, _ | .real _, _, _, _, _
  | .text _, _, _, _, _ => by simp [without]
  | .list items, isExcluded, isExcluded', byKeys, root => by
      have both : withoutItems isExcluded 0 items =
          withoutItems (fun path => isExcluded path || isExcluded' path) 0 items :=
        withoutItems_congr (by simp [byKeys.position_eq_false root])
      simp only [without, byKeys.withoutItems_eq root, both, and_self]
  | .mapping members, isExcluded, isExcluded', byKeys, _ => by
      have both := withoutMembers_withoutMembers members isExcluded isExcluded' byKeys
      simp only [without, both, and_self]

theorem withoutMembers_withoutMembers : (members : Members) →
    (isExcluded isExcluded' : FieldPath → Bool) → ByKeys isExcluded' →
    withoutMembers isExcluded' (withoutMembers isExcluded members) =
        withoutMembers (fun path => isExcluded path || isExcluded' path) members ∧
      withoutMembers isExcluded (withoutMembers isExcluded' members) =
        withoutMembers (fun path => isExcluded path || isExcluded' path) members
  | [], _, _, _ => by simp [withoutMembers]
  | (key, value) :: members, isExcluded, isExcluded', byKeys => by
      have rest := withoutMembers_withoutMembers members isExcluded isExcluded' byKeys
      by_cases excluded : isExcluded [.key key] <;> by_cases excluded' : isExcluded' [.key key]
      · simp [withoutMembers, excluded, excluded', rest]
      · simp [withoutMembers, excluded, excluded', rest]
      · simp [withoutMembers, excluded, excluded', rest]
      · have inside := without_without value (fun path => isExcluded (.key key :: path)) _
          (byKeys.below (.key key)) (by simpa using excluded')
        simp [withoutMembers, excluded, excluded', rest, inside]

end

end Document
end BundleTrust
