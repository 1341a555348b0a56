import BundleTrust.Number.Binary64

/-!
# Generic documents

The value a manifest denotes once its text has been read: null, truth values, numbers,
texts, lists and mappings.  A mapping is a list of members; `Document.Sorted` says that
every mapping lists its keys in strictly ascending order, which is the form in which
manifests are kept, and `Document.sortKeys` brings a document into it.
-/

namespace BundleTrust

/-- A whole number that fits sixty-four bits, signed or unsigned. -/
structure WideInteger where
  /-- The number. -/
  value : Int
  /-- It is at least the least signed number. -/
  lower : -9223372036854775808 ≤ value
  /-- It is at most the greatest unsigned number. -/
  upper : value < 18446744073709551616
  deriving DecidableEq, Repr

namespace WideInteger

/-- The wide integer of a number in range. -/
def ofInt? (value : Int) : Option WideInteger :=
  if bounds : -9223372036854775808 ≤ value ∧ value < 18446744073709551616 then
    some ⟨value, bounds.1, bounds.2⟩
  else none

end WideInteger

/-- A generic document. -/
inductive Document where
  /-- No value. -/
  | null
  /-- A truth value. -/
  | boolean (value : Bool)
  /-- A whole number. -/
  | integer (value : WideInteger)
  /-- A finite floating-point number. -/
  | real (value : Number.Binary64)
  /-- A text. -/
  | text (value : String)
  /-- A list. -/
  | list (items : List Document)
  /-- A mapping from keys to values. -/
  | mapping (members : List (String × Document))
  deriving Repr, Inhabited

/-- The members of a mapping. -/
abbrev Members := List (String × Document)

namespace Document

mutual

/-- Decide whether two documents are equal. -/
def decideEq : (left right : Document) → Decidable (left = right)
  | .null, .null => isTrue rfl
  | .boolean left, .boolean right => decidable_of_iff (left = right) (by simp)
  | .integer left, .integer right => decidable_of_iff (left = right) (by simp)
  | .real left, .real right => decidable_of_iff (left = right) (by simp)
  | .text left, .text right => decidable_of_iff (left = right) (by simp)
  | .list left, .list right =>
      have := decideItemsEq left right
      decidable_of_iff (left = right) (by simp)
  | .mapping left, .mapping right =>
      have := decideMembersEq left right
      decidable_of_iff (left = right) (by simp)
  | .null, .boolean _ | .null, .integer _ | .null, .real _ | .null, .text _ | .null, .list _
  | .null, .mapping _ | .boolean _, .null | .boolean _, .integer _ | .boolean _, .real _
  | .boolean _, .text _ | .boolean _, .list _ | .boolean _, .mapping _ | .integer _, .null
  | .integer _, .boolean _ | .integer _, .real _ | .integer _, .text _ | .integer _, .list _
  | .integer _, .mapping _ | .real _, .null | .real _, .boolean _ | .real _, .integer _
  | .real _, .text _ | .real _, .list _ | .real _, .mapping _ | .text _, .null
  | .text _, .boolean _ | .text _, .integer _ | .text _, .real _ | .text _, .list _
  | .text _, .mapping _ | .list _, .null | .list _, .boolean _ | .list _, .integer _
  | .list _, .real _ | .list _, .text _ | .list _, .mapping _ | .mapping _, .null
  | .mapping _, .boolean _ | .mapping _, .integer _ | .mapping _, .real _ | .mapping _, .text _
  | .mapping _, .list _ => isFalse (by simp)

/-- Decide whether two lists of documents are equal. -/
def decideItemsEq : (left right : List Document) → Decidable (left = right)
  | [], [] => isTrue rfl
  | left :: lefts, right :: rights =>
      have := decideEq left right
      have := decideItemsEq lefts rights
      decidable_of_iff (left = right ∧ lefts = rights) (by simp)
  | [], _ :: _ | _ :: _, [] => isFalse (by simp)

/-- Decide whether two lists of members are equal. -/
def decideMembersEq : (left right : Members) → Decidable (left = right)
  | [], [] => isTrue rfl
  | (leftKey, left) :: lefts, (rightKey, right) :: rights =>
      have := decideEq left right
      have := decideMembersEq lefts rights
      decidable_of_iff ((leftKey = rightKey ∧ left = right) ∧ lefts = rights) (by simp)
  | [], _ :: _ | _ :: _, [] => isFalse (by simp)

end

instance : DecidableEq Document := decideEq

end Document

namespace Members

/-- The value of a key. -/
def get? {Value : Type} (members : List (String × Value)) (key : String) : Option Value :=
  members.lookup key

/-- Give a key a value: in place of the key's old value, else before the first greater key. -/
def insert {Value : Type} (key : String) (value : Value) :
    List (String × Value) → List (String × Value)
  | [] => [(key, value)]
  | (other, old) :: rest =>
      if key = other then (key, value) :: rest
      else if key < other then (key, value) :: (other, old) :: rest
      else (other, old) :: insert key value rest

/-- Drop a key. -/
def erase {Value : Type} (key : String) (members : List (String × Value)) :
    List (String × Value) :=
  members.filter fun member => member.1 ≠ key

/-- Change the values of a key. -/
def modify {Value : Type} (key : String) (change : Value → Value)
    (members : List (String × Value)) : List (String × Value) :=
  members.map fun member => if member.1 = key then (member.1, change member.2) else member

/-- Members in ascending order of their keys; of two members with one key the later one. -/
def ofList {Value : Type} (members : List (String × Value)) : List (String × Value) :=
  members.foldl (fun sorted member => insert member.1 member.2 sorted) []

/-- Members in strictly ascending order of their keys. -/
def Ascending {Value : Type} (members : List (String × Value)) : Prop :=
  members.Pairwise fun left right => left.1 < right.1

/-- A member after an insertion was inserted or there before. -/
theorem mem_of_mem_insert {Value : Type}
    {key : String}
    {value : Value}
    {members : List (String × Value)}
    {member : String × Value}
    (isMember : member ∈ insert key value members) :
    member = (key, value) ∨ member ∈ members := by
  induction members with
  | nil => simpa [insert] using isMember
  | cons head rest ih =>
      simp only [insert] at isMember
      split at isMember
      · simp only [List.mem_cons] at isMember ⊢; grind
      · split at isMember
        · simpa using isMember
        · simp only [List.mem_cons] at isMember ⊢; grind

/-- Insertion keeps the order. -/
theorem Ascending.insert {Value : Type}
    (key : String)
    (value : Value)
    {members : List (String × Value)}
    (ascending : Ascending members) :
    Ascending (Members.insert key value members) := by
  induction members with
  | nil => simp [Members.insert, Ascending]
  | cons head rest ih =>
      obtain ⟨below, inner⟩ := List.pairwise_cons.1 ascending
      simp only [Members.insert]
      split
      · exact List.pairwise_cons.2 ⟨by grind, inner⟩
      · split
        · exact List.pairwise_cons.2 ⟨by simp only [List.mem_cons]; grind, ascending⟩
        · refine List.pairwise_cons.2 ⟨fun member isMember => ?_, ih inner⟩
          rcases mem_of_mem_insert isMember with rfl | old
          · grind
          · exact below member old

/-- The members of a list come in ascending order. -/
theorem ascending_ofList {Value : Type} (members : List (String × Value)) :
    Ascending (ofList members) := by
  suffices ∀ sorted : List (String × Value), Ascending sorted →
      Ascending (members.foldl (fun sorted member => insert member.1 member.2 sorted) sorted) from
    this [] List.Pairwise.nil
  induction members with
  | nil => exact fun _ ascending => ascending
  | cons head rest ih => exact fun sorted ascending => ih _ (ascending.insert head.1 head.2)

/-- Nothing is in the order that was not in the list. -/
theorem mem_of_mem_ofList {Value : Type}
    {members : List (String × Value)}
    {member : String × Value}
    (isMember : member ∈ ofList members) :
    member ∈ members := by
  suffices ∀ sorted : List (String × Value),
      member ∈ members.foldl (fun sorted member => insert member.1 member.2 sorted) sorted →
        member ∈ sorted ∨ member ∈ members by
    simpa using this [] isMember
  clear isMember
  induction members with
  | nil => exact fun _ isMember => .inl isMember
  | cons head rest ih =>
      intro sorted isMember
      rcases ih _ isMember with early | late
      · rcases mem_of_mem_insert early with rfl | old
        · exact .inr List.mem_cons_self
        · exact .inl old
      · exact .inr (List.mem_cons_of_mem _ late)

section Lookup

variable {Value : Type} {members : List (String × Value)} {key other : String}

@[simp] theorem get?_nil : get? ([] : List (String × Value)) key = none := rfl

@[simp] theorem get?_cons (member : String × Value) :
    get? (member :: members) key = if key = member.1 then some member.2 else get? members key := by
  rw [get?, List.lookup_cons, get?]
  by_cases here : key = member.1
  · simp [here]
  · have different : (key == member.1) = false := by simpa using here
    simp [here, different]

/-- Looking up a key after an insertion. -/
@[simp] theorem get?_insert (value : Value) :
    get? (insert other value members) key =
      if key = other then some value else get? members key := by
  induction members with
  | nil => simp [insert]
  | cons head rest ih =>
      obtain ⟨name, old⟩ := head
      simp only [insert]
      split
      · next same =>
          subst same
          by_cases here : key = other <;> simp [here]
      · next different =>
          split
          · simp
          · by_cases here : key = name
            · have kept : name ≠ other := fun same => different same.symm
              simp [here, kept]
            · simp [here, ih]

/-- Of two values that are given to a key the later one stays. -/
theorem insert_insert (key : String) (value old : Value) (members : List (String × Value)) :
    insert key value (insert key old members) = insert key value members := by
  induction members with
  | nil => simp [insert]
  | cons member members ih =>
      obtain ⟨other, kept⟩ := member
      by_cases here : key = other
      · simp [insert, here]
      · by_cases before : key < other
        · simp [insert, here, before]
        · simp [insert, here, before, ih]

@[simp] theorem erase_nil : erase key ([] : List (String × Value)) = [] := rfl

@[simp] theorem erase_cons (member : String × Value) :
    erase key (member :: members) =
      if member.1 = key then erase key members else member :: erase key members := by
  by_cases here : member.1 = key <;> simp [erase, here]

@[simp] theorem modify_nil (change : Value → Value) :
    modify key change ([] : List (String × Value)) = [] := rfl

@[simp] theorem modify_cons (change : Value → Value) (member : String × Value) :
    modify key change (member :: members) =
      (member.1, if member.1 = key then change member.2 else member.2) ::
        modify key change members := by
  by_cases here : member.1 = key <;> simp [modify, here]

/-- Looking up a key after another one or the same was dropped. -/
@[simp] theorem get?_erase :
    get? (erase other members) key = if key = other then none else get? members key := by
  induction members with
  | nil => simp
  | cons head rest ih =>
      by_cases dropped : head.1 = other <;> by_cases here : key = head.1 <;> simp_all

/-- Looking up a key after the values of another one or of the same were changed. -/
@[simp] theorem get?_modify (change : Value → Value) :
    get? (modify other change members) key =
      if key = other then (get? members key).map change else get? members key := by
  induction members with
  | nil => simp
  | cons head rest ih =>
      rw [modify_cons, get?_cons, get?_cons, ih]
      by_cases here : key = head.1
      · by_cases changed : head.1 = other <;> simp [here, changed]
      · simp [here]

/-- Looking up a key among the members whose keys pass a test. -/
@[simp] theorem get?_filter (test : String → Bool) :
    get? (members.filter fun member => test member.1) key =
      if test key then get? members key else none := by
  induction members with
  | nil => simp
  | cons head rest ih =>
      by_cases kept : test head.1 <;> by_cases here : key = head.1 <;> simp_all

/-- A value that is found is that of a member. -/
theorem mem_of_get?
    {value : Value}
    (found : get? members key = some value) :
    (key, value) ∈ members := by
  induction members with
  | nil => simp at found
  | cons head rest ih =>
      rw [get?_cons] at found
      split at found
      · next here =>
          obtain rfl := Option.some.inj found
          exact here ▸ List.mem_cons_self
      · exact List.mem_cons_of_mem _ (ih found)

/-- A key below all keys is not found. -/
theorem get?_eq_none_of_lt
    (below : ∀ member ∈ members, key < member.1) :
    get? members key = none := by
  induction members with
  | nil => rfl
  | cons head rest ih =>
      have first := below head List.mem_cons_self
      have different : key ≠ head.1 := fun same => String.lt_irrefl _ (same ▸ first)
      rw [get?_cons, if_neg different]
      exact ih fun member isMember => below member (List.mem_cons_of_mem _ isMember)

end Lookup

section Order

variable {Value : Type} {members others : List (String × Value)}

/-- Members in order that answer every lookup alike are the same. -/
theorem Ascending.ext
    (ascending : Ascending members)
    (ascending' : Ascending others)
    (alike : ∀ key, get? members key = get? others key) :
    members = others := by
  induction members generalizing others with
  | nil =>
      cases others with
      | nil => rfl
      | cons head rest => simpa using alike head.1
  | cons head rest ih =>
      cases others with
      | nil => simpa using alike head.1
      | cons head' rest' =>
          obtain ⟨below, inner⟩ := List.pairwise_cons.1 ascending
          obtain ⟨below', inner'⟩ := List.pairwise_cons.1 ascending'
          -- Neither first key is missing on the other side, so neither is below the other.
          have sameKey : head.1 = head'.1 := by
            have found := alike head.1
            have found' := alike head'.1
            rw [get?_cons, if_pos rfl, get?_cons] at found
            rw [get?_cons, get?_cons, if_pos rfl] at found'
            by_cases same : head.1 = head'.1
            · exact same
            · rw [if_neg same] at found
              rw [if_neg fun equal => same equal.symm] at found'
              have above := below' _ (mem_of_get? found.symm)
              have above' := below _ (mem_of_get? found')
              exact absurd above' (String.lt_asymm above)
          have sameValue : head.2 = head'.2 := by
            simpa [sameKey] using alike head'.1
          have sameRest : rest = rest' := by
            refine ih inner inner' fun key => ?_
            have found := alike key
            rw [get?_cons, get?_cons, sameKey, sameValue] at found
            split at found
            · next here =>
                subst here
                rw [get?_eq_none_of_lt (sameKey ▸ below), get?_eq_none_of_lt below']
            · exact found
          rw [sameRest, Prod.ext sameKey sameValue]

/-- Some of the members in order are in order. -/
theorem Ascending.filter
    (ascending : Ascending members)
    (test : String × Value → Bool) :
    Ascending (members.filter test) :=
  ascending.sublist List.filter_sublist

/-- Dropping a key keeps the order. -/
theorem Ascending.erase
    (ascending : Ascending members)
    (key : String) :
    Ascending (Members.erase key members) :=
  ascending.filter _

/-- Changing values keeps the order. -/
theorem Ascending.modify
    (ascending : Ascending members)
    (key : String)
    (change : Value → Value) :
    Ascending (Members.modify key change members) := by
  refine List.Pairwise.map _ (fun left right below => ?_) ascending
  grind

/-- A key above all others is inserted at the end. -/
theorem insert_of_gt
    {key : String}
    {value : Value}
    (above : ∀ member ∈ members, member.1 < key) :
    insert key value members = members ++ [(key, value)] := by
  induction members with
  | nil => rfl
  | cons head rest ih =>
      have first := above head List.mem_cons_self
      have different : key ≠ head.1 := fun same => String.lt_irrefl _ (same ▸ first)
      rw [insert, if_neg different, if_neg (String.lt_asymm first),
        ih fun member isMember => above member (List.mem_cons_of_mem _ isMember)]
      rfl

/-- A key that is not there is inserted somewhere between the members. -/
theorem insert_of_get?_none
    {key : String}
    (value : Value)
    (missing : get? members key = none) :
    ∃ before after, members = before ++ after ∧
      insert key value members = before ++ (key, value) :: after := by
  induction members with
  | nil => exact ⟨[], [], rfl, rfl⟩
  | cons head rest ih =>
      obtain ⟨name, old⟩ := head
      rw [get?_cons] at missing
      split at missing
      · contradiction
      · next different =>
          rw [insert, if_neg different]
          split
          · exact ⟨[], (name, old) :: rest, rfl, rfl⟩
          · obtain ⟨before, after, isRest, inserted⟩ := ih missing
            exact ⟨(name, old) :: before, after, by rw [isRest]; rfl, by rw [inserted]; rfl⟩

/-- A key that is there is inserted in its place. -/
theorem insert_of_get?_some
    {key : String}
    {old : Value}
    (value : Value)
    (ascending : Ascending members)
    (found : get? members key = some old) :
    ∃ before after, members = before ++ (key, old) :: after ∧
      insert key value members = before ++ (key, value) :: after := by
  induction members with
  | nil => simp at found
  | cons head rest ih =>
      obtain ⟨below, inner⟩ := List.pairwise_cons.1 ascending
      obtain ⟨name, first⟩ := head
      rw [get?_cons] at found
      split at found
      · next here =>
          obtain rfl := Option.some.inj found
          subst here
          exact ⟨[], rest, rfl, by rw [insert, if_pos rfl]; rfl⟩
      · next different =>
          have later : name < key := below (key, old) (mem_of_get? found)
          obtain ⟨before, after, isRest, inserted⟩ := ih inner found
          refine ⟨(name, first) :: before, after, by rw [isRest]; rfl, ?_⟩
          rw [insert, if_neg different, if_neg (String.lt_asymm later), inserted]
          rfl

/-- Members in order stay as they are when they are put in order. -/
theorem ofList_of_ascending
    (ascending : Ascending members) :
    ofList members = members := by
  suffices ∀ sorted : List (String × Value), Ascending (sorted ++ members) →
      members.foldl (fun sorted member => insert member.1 member.2 sorted) sorted =
        sorted ++ members from this [] ascending
  clear ascending
  induction members with
  | nil => simp
  | cons head rest ih =>
      intro sorted ascending
      have above : ∀ member ∈ sorted, member.1 < head.1 := fun member isMember =>
        (List.pairwise_append.1 ascending).2.2 member isMember head List.mem_cons_self
      have longer : Ascending ((sorted ++ [head]) ++ rest) := by simpa using ascending
      rw [List.foldl_cons, insert_of_gt above, ih _ longer, List.append_assoc]
      rfl

end Order

end Members

namespace Document

/-- The empty mapping. -/
def empty : Document := .mapping []

/-- The value of a key of a mapping. -/
def get? (document : Document) (key : String) : Option Document :=
  match document with
  | .mapping members => Members.get? members key
  | _ => none

/-- The text that a document is. -/
def asText? : Document → Option String
  | .text value => some value
  | _ => none

/-- The members of a document that is a mapping. -/
def asMapping? : Document → Option Members
  | .mapping members => some members
  | _ => none

/-- Whether a document is a mapping. -/
def isMapping (document : Document) : Bool :=
  document.asMapping?.isSome

theorem isMapping_iff {document : Document} :
    document.isMapping = true ↔ ∃ members, document = .mapping members := by
  cases document <;> simp [isMapping, asMapping?]

/-- A document with a key is a mapping. -/
theorem isMapping_of_get?
    {document value : Document}
    {key : String}
    (found : document.get? key = some value) :
    document.isMapping = true := by
  cases document <;> first | rfl | cases found

/-- A document that is not a mapping has no keys. -/
theorem get?_of_not_isMapping
    {document : Document}
    (noMapping : document.isMapping = false)
    (key : String) :
    document.get? key = none := by
  cases document <;> first | rfl | cases noMapping

/-- Change the members of a mapping; other documents stay as they are. -/
def changeMembers (change : Members → Members) : Document → Document
  | .mapping members => .mapping (change members)
  | document => document

/-- Change the metadata of a document where both are mappings. -/
def changeMetadata (change : Members → Members) (document : Document) : Document :=
  document.changeMembers (Members.modify "metadata" (changeMembers change))

mutual

/-- A document with the members of every mapping in ascending order of their keys. -/
def sortKeys : Document → Document
  | .list items => .list (sortKeysInItems items)
  | .mapping members => .mapping (Members.ofList (sortKeysInMembers members))
  | document => document

/-- The items of a list, each with its keys sorted. -/
def sortKeysInItems : List Document → List Document
  | [] => []
  | item :: items => item.sortKeys :: sortKeysInItems items

/-- The members of a mapping in their order, each with the keys of its value sorted. -/
def sortKeysInMembers : Members → Members
  | [] => []
  | (key, value) :: members => (key, value.sortKeys) :: sortKeysInMembers members

end

mutual

/-- Every mapping lists its keys in strictly ascending order. -/
def Sorted : Document → Prop
  | .list items => SortedItems items
  | .mapping members => Members.Ascending members ∧ SortedMembers members
  | _ => True

/-- Every item of a list is sorted. -/
def SortedItems : List Document → Prop
  | [] => True
  | item :: items => item.Sorted ∧ SortedItems items

/-- Every value of a mapping is sorted. -/
def SortedMembers : Members → Prop
  | [] => True
  | (_, value) :: members => value.Sorted ∧ SortedMembers members

end

theorem sortedItems_iff {items : List Document} :
    SortedItems items ↔ ∀ item ∈ items, item.Sorted := by
  induction items with
  | nil => simp [SortedItems]
  | cons item items ih => simp [SortedItems, ih]

theorem sortedMembers_iff {members : Members} :
    SortedMembers members ↔ ∀ member ∈ members, member.2.Sorted := by
  induction members with
  | nil => simp [SortedMembers]
  | cons member members ih => simp [SortedMembers, ih]

mutual

/-- A document with its keys in order stays as it is when they are put in order. -/
theorem sortKeys_of_sorted : (document : Document) → document.Sorted →
    document.sortKeys = document
  | .null, _ | .boolean _, _ | .integer _, _ | .real _, _ | .text _, _ => by simp [sortKeys]
  | .list items, sorted => by
      simp only [Sorted] at sorted
      rw [sortKeys, sortKeysInItems_of_sorted items sorted]
  | .mapping members, sorted => by
      simp only [Sorted] at sorted
      rw [sortKeys, sortKeysInMembers_of_sorted members sorted.2,
        Members.ofList_of_ascending sorted.1]

theorem sortKeysInItems_of_sorted : (items : List Document) → SortedItems items →
    sortKeysInItems items = items
  | [], _ => by simp [sortKeysInItems]
  | item :: items, sorted => by
      simp only [SortedItems] at sorted
      rw [sortKeysInItems, sortKeys_of_sorted item sorted.1,
        sortKeysInItems_of_sorted items sorted.2]

theorem sortKeysInMembers_of_sorted : (members : Members) → SortedMembers members →
    sortKeysInMembers members = members
  | [], _ => by simp [sortKeysInMembers]
  | (key, value) :: members, sorted => by
      simp only [SortedMembers] at sorted
      rw [sortKeysInMembers, sortKeys_of_sorted value sorted.1,
        sortKeysInMembers_of_sorted members sorted.2]

end

/-- Sorted values make up a sorted mapping once their keys are put in order. -/
theorem Sorted.ofList
    {members : Members}
    (sorted : SortedMembers members) :
    (mapping (Members.ofList members)).Sorted := by
  rw [Sorted]
  refine ⟨Members.ascending_ofList members, sortedMembers_iff.2 fun member isMember => ?_⟩
  exact sortedMembers_iff.1 sorted member (Members.mem_of_mem_ofList isMember)

mutual

/-- Putting keys in order gives a sorted document. -/
theorem sorted_sortKeys : (document : Document) → document.sortKeys.Sorted
  | .null | .boolean _ | .integer _ | .real _ | .text _ => by simp [sortKeys, Sorted]
  | .list items => by
      rw [sortKeys, Sorted]
      exact sortedItems_sortKeysInItems items
  | .mapping members => by
      rw [sortKeys]
      exact Sorted.ofList (sortedMembers_sortKeysInMembers members)

theorem sortedItems_sortKeysInItems : (items : List Document) →
    SortedItems (sortKeysInItems items)
  | [] => by simp [sortKeysInItems, SortedItems]
  | item :: items => by
      rw [sortKeysInItems, SortedItems]
      exact ⟨sorted_sortKeys item, sortedItems_sortKeysInItems items⟩

theorem sortedMembers_sortKeysInMembers : (members : Members) →
    SortedMembers (sortKeysInMembers members)
  | [] => by simp [sortKeysInMembers, SortedMembers]
  | (key, value) :: members => by
      rw [sortKeysInMembers, SortedMembers]
      exact ⟨sorted_sortKeys value, sortedMembers_sortKeysInMembers members⟩

end

/-- A document is sorted when putting its keys in order changes nothing. -/
theorem sorted_iff {document : Document} :
    document.Sorted ↔ document.sortKeys = document :=
  ⟨sortKeys_of_sorted document, fun same => same ▸ sorted_sortKeys document⟩

instance (document : Document) : Decidable document.Sorted :=
  decidable_of_iff _ sorted_iff.symm

/-- Sorted mappings that answer every lookup alike are the same. -/
theorem Sorted.ext
    {document other : Document}
    (sorted : document.Sorted)
    (sorted' : other.Sorted)
    (isMapping : document.isMapping = true)
    (isMapping' : other.isMapping = true)
    (alike : ∀ key, document.get? key = other.get? key) :
    document = other := by
  obtain ⟨members, rfl⟩ := isMapping_iff.1 isMapping
  obtain ⟨others, rfl⟩ := isMapping_iff.1 isMapping'
  rw [Sorted] at sorted sorted'
  exact congrArg mapping (sorted.1.ext sorted'.1 alike)

/-- The values of a sorted mapping are sorted. -/
theorem Sorted.of_get?
    {members : Members}
    {key : String}
    {value : Document}
    (sorted : SortedMembers members)
    (found : Members.get? members key = some value) :
    value.Sorted :=
  sortedMembers_iff.1 sorted _ (Members.mem_of_get? found)

end Document

end BundleTrust
