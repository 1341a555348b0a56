/-!
# Shelves

A shelf files documents under addresses: one under every address, in the order of the addresses.
A document gives itself an address too.  Whoever puts a document on a shelf names the address to
file it under, and shows that it is the one that the document gives itself.
-/

namespace BundleTrust

/-- Where a document is kept. -/
structure Address where
  /-- The namespace. -/
  space : String
  /-- The name in the namespace. -/
  name : String
  deriving DecidableEq, Repr

namespace Address

/-- The order of addresses: by the namespace, then by the name. -/
def IsBefore (left right : Address) : Prop :=
  left.space < right.space ∨ left.space = right.space ∧ left.name < right.name

instance (left right : Address) : Decidable (left.IsBefore right) :=
  inferInstanceAs (Decidable (_ ∨ _))

/-- No address is before itself. -/
theorem not_isBefore_self (address : Address) : ¬ address.IsBefore address := by
  simp only [IsBefore]
  grind

/-- One address is before another if it is before one that is before the other. -/
theorem IsBefore.trans
    {left middle right : Address}
    (first : left.IsBefore middle)
    (second : middle.IsBefore right) :
    left.IsBefore right := by
  simp only [IsBefore] at *
  grind

/-- Of two different addresses one is before the other. -/
theorem isBefore_of_not
    {left right : Address}
    (notBefore : ¬ left.IsBefore right)
    (different : left ≠ right) :
    right.IsBefore left := by
  obtain ⟨leftSpace, leftName⟩ := left
  obtain ⟨rightSpace, rightName⟩ := right
  simp only [IsBefore, ne_eq, Address.mk.injEq] at *
  grind

end Address

/-- Documents that are filed under addresses. -/
@[ext] structure Shelf (Item : Type) (address : Item → Address) where
  /-- The documents, each with the address that it is filed under. -/
  entries : List (Address × Item)
  /-- They come in the order of these addresses. -/
  ascending : entries.Pairwise fun left right => left.1.IsBefore right.1
  /-- Every document is filed under the address that it gives itself. -/
  filed : ∀ entry ∈ entries, address entry.2 = entry.1

namespace Shelf

section Entries

variable {Item : Type} {entry : Address × Item} {entries : List (Address × Item)}

/-- Enter a document among others: in place of the one under its address, else before the first
one with a greater address. -/
def place (key : Address) (item : Item) : List (Address × Item) → List (Address × Item)
  | [] => [(key, item)]
  | other :: rest =>
      if key = other.1 then (key, item) :: rest
      else if key.IsBefore other.1 then (key, item) :: other :: rest
      else other :: place key item rest

/-- An entry with its document revised if it is the one under an address. -/
def reviseAt (wanted : Address) (change : Item → Item) (entry : Address × Item) :
    Address × Item :=
  (entry.1, if entry.1 = wanted then change entry.2 else entry.2)

/-- An entry after an insertion was inserted or there before. -/
theorem mem_of_mem_place
    {key : Address}
    {item : Item}
    (isEntry : entry ∈ place key item entries) :
    entry = (key, item) ∨ entry ∈ entries := by
  induction entries with
  | nil => simpa [place] using isEntry
  | cons head rest ih =>
      simp only [place] at isEntry
      split at isEntry
      · simp only [List.mem_cons] at isEntry ⊢; grind
      · split at isEntry
        · simpa using isEntry
        · simp only [List.mem_cons] at isEntry ⊢; grind

/-- Insertion keeps the order. -/
theorem pairwise_place
    (key : Address)
    (item : Item)
    (ascending : entries.Pairwise fun left right => left.1.IsBefore right.1) :
    (place key item entries).Pairwise fun left right => left.1.IsBefore right.1 := by
  induction entries with
  | nil => simp [place]
  | cons head rest ih =>
      obtain ⟨below, inner⟩ := List.pairwise_cons.1 ascending
      simp only [place]
      split
      · next same =>
          exact List.pairwise_cons.2 ⟨fun entry isEntry => same ▸ below entry isEntry, inner⟩
      · next different =>
          split
          · next isBefore =>
              refine List.pairwise_cons.2 ⟨fun entry isEntry => ?_, ascending⟩
              rcases List.mem_cons.1 isEntry with rfl | isEntry
              · exact isBefore
              · exact isBefore.trans (below entry isEntry)
          · next notBefore =>
              refine List.pairwise_cons.2 ⟨fun entry isEntry => ?_, ih inner⟩
              rcases mem_of_mem_place isEntry with rfl | old
              · exact Address.isBefore_of_not notBefore different
              · exact below entry old

/-- Looking up an address after an insertion. -/
theorem find?_place
    (key : Address)
    (item : Item)
    (entries : List (Address × Item))
    (wanted : Address) :
    (place key item entries).find? (fun entry => entry.1 = wanted) =
      if key = wanted then some (key, item) else entries.find? fun entry => entry.1 = wanted := by
  induction entries with
  | nil => by_cases here : key = wanted <;> simp [place, here]
  | cons head rest ih =>
      simp only [place]
      split
      · next same => by_cases here : key = wanted <;> simp_all
      · split
        · by_cases here : key = wanted <;> simp [here]
        · by_cases here : head.1 = wanted
          · have different : key ≠ wanted := by rintro rfl; simp_all
            simp [here, different]
          · simp [here, ih]

/-- In the order of addresses an entry is the only one under its address. -/
theorem find?_of_mem
    (ascending : entries.Pairwise fun left right => left.1.IsBefore right.1)
    (isEntry : entry ∈ entries) :
    entries.find? (fun other => other.1 = entry.1) = some entry := by
  induction entries with
  | nil => cases isEntry
  | cons head rest ih =>
      obtain ⟨below, inner⟩ := List.pairwise_cons.1 ascending
      rcases List.mem_cons.1 isEntry with rfl | isRest
      · simp
      · have different : head.1 ≠ entry.1 := fun same =>
          entry.1.not_isBefore_self (same ▸ below entry isRest)
        simp [different, ih inner isRest]

/-- Revising the document under an address is entering the revised one. -/
theorem map_reviseAt
    {old : Item}
    {wanted : Address}
    (change : Item → Item)
    (ascending : entries.Pairwise fun left right => left.1.IsBefore right.1)
    (isEntry : (wanted, old) ∈ entries) :
    entries.map (reviseAt wanted change) = place wanted (change old) entries := by
  induction entries with
  | nil => cases isEntry
  | cons head rest ih =>
      obtain ⟨below, inner⟩ := List.pairwise_cons.1 ascending
      rcases List.mem_cons.1 isEntry with rfl | isRest
      · have others : rest.map (reviseAt wanted change) = rest := by
          refine (List.map_congr_left fun entry isEntry => ?_).trans (List.map_id _)
          have different : entry.1 ≠ wanted := fun same =>
            wanted.not_isBefore_self (same ▸ below entry isEntry)
          simp [reviseAt, different]
        simp [place, reviseAt, others]
      · have isBefore : head.1.IsBefore wanted := below _ isRest
        have different : head.1 ≠ wanted := by
          rintro rfl
          exact head.1.not_isBefore_self isBefore
        have notBefore : ¬ wanted.IsBefore head.1 := fun back =>
          wanted.not_isBefore_self (back.trans isBefore)
        simp only [List.map_cons, place, reviseAt, different, Ne.symm different, notBefore,
          ↓reduceIte, ih inner isRest]

end Entries

section Shelves

variable {Item : Type} {address : Item → Address} {shelf : Shelf Item address} {item : Item}
  {wanted : Address}

/-- The shelf without documents. -/
def empty : Shelf Item address :=
  ⟨[], List.Pairwise.nil, by simp⟩

/-- The documents, in the order of their addresses. -/
def items (shelf : Shelf Item address) : List Item :=
  shelf.entries.map Prod.snd

/-- The document under an address. -/
def get? (shelf : Shelf Item address) (wanted : Address) : Option Item :=
  (shelf.entries.find? fun entry => entry.1 = wanted).map Prod.snd

/-- File a document under the address that it gives itself, in place of the one that is there. -/
def put (shelf : Shelf Item address) (key : Address) (item : Item) (named : address item = key) :
    Shelf Item address where
  entries := place key item shelf.entries
  ascending := pairwise_place key item shelf.ascending
  filed entry isEntry := by
    rcases mem_of_mem_place isEntry with rfl | old
    · exact named
    · exact shelf.filed entry old

/-- Revise the document under an address, if there is one, so that it keeps its address. -/
def revise (shelf : Shelf Item address) (wanted : Address) (change : Item → Item)
    (keeps : ∀ item, address item = wanted → address (change item) = wanted) :
    Shelf Item address where
  entries := shelf.entries.map (reviseAt wanted change)
  ascending := List.pairwise_map.2 shelf.ascending
  filed entry isEntry := by
    obtain ⟨old, isOld, rfl⟩ := List.mem_map.1 isEntry
    have filed := shelf.filed old isOld
    simp only [reviseAt]
    split
    · next here => exact (keeps old.2 (filed.trans here)).trans here.symm
    · exact filed

@[simp] theorem get?_empty (wanted : Address) :
    (empty : Shelf Item address).get? wanted = none := rfl

/-- The document that is found under an address is entered there. -/
theorem get?_eq_some_iff : shelf.get? wanted = some item ↔ (wanted, item) ∈ shelf.entries := by
  constructor
  · intro found
    obtain ⟨⟨key, item⟩, isEntry, rfl⟩ := Option.map_eq_some_iff.1 found
    have same : key = wanted := by simpa using List.find?_some isEntry
    exact same ▸ List.mem_of_find?_eq_some isEntry
  · intro isEntry
    rw [get?, find?_of_mem shelf.ascending isEntry, Option.map_some]

/-- A document that is found under an address gives itself that address. -/
theorem address_of_get? (found : shelf.get? wanted = some item) : address item = wanted :=
  shelf.filed _ (get?_eq_some_iff.1 found)

/-- An entry is filed under the address that its document gives itself, and found there. -/
theorem filed_and_found
    {entry : Address × Item}
    (isEntry : entry ∈ shelf.entries) :
    entry.1 = address entry.2 ∧ shelf.get? entry.1 = some entry.2 :=
  ⟨(shelf.filed entry isEntry).symm, get?_eq_some_iff.2 isEntry⟩

/-- What is on a shelf is what is found under its own address. -/
theorem mem_items_iff : item ∈ shelf.items ↔ shelf.get? (address item) = some item := by
  rw [get?_eq_some_iff, items, List.mem_map]
  constructor
  · rintro ⟨entry, isEntry, rfl⟩
    rwa [shelf.filed entry isEntry]
  · intro isEntry
    exact ⟨_, isEntry, rfl⟩

/-- The documents come in the order of the addresses that they give themselves. -/
theorem pairwise_items (shelf : Shelf Item address) :
    shelf.items.Pairwise fun left right => (address left).IsBefore (address right) := by
  refine List.pairwise_map.2 (shelf.ascending.imp_of_mem fun {left right} isLeft isRight => ?_)
  rw [shelf.filed left isLeft, shelf.filed right isRight]
  exact id

/-- There is a document under an address if one on the shelf gives itself that address. -/
theorem isSome_get? (shelf : Shelf Item address) (wanted : Address) :
    (shelf.get? wanted).isSome = shelf.items.any fun item => address item = wanted := by
  rw [Bool.eq_iff_iff, Option.isSome_iff_exists, List.any_eq_true]
  constructor
  · rintro ⟨item, found⟩
    have same := address_of_get? found
    exact ⟨item, mem_items_iff.2 (same ▸ found), decide_eq_true same⟩
  · rintro ⟨item, isItem, same⟩
    exact ⟨item, of_decide_eq_true same ▸ mem_items_iff.1 isItem⟩

/-- Filing a document changes what is under its address and nothing else. -/
@[simp] theorem get?_put
    (shelf : Shelf Item address)
    (key : Address)
    (item : Item)
    (named : address item = key)
    (wanted : Address) :
    (shelf.put key item named).get? wanted =
      if key = wanted then some item else shelf.get? wanted := by
  rw [get?, put, find?_place]
  split <;> rfl

/-- Revising the document under an address changes no other one. -/
@[simp] theorem get?_revise
    (shelf : Shelf Item address)
    (change : Item → Item)
    (keeps : ∀ item, address item = wanted → address (change item) = wanted)
    (key : Address) :
    (shelf.revise wanted change keeps).get? key =
      (shelf.get? key).map fun item => if key = wanted then change item else item := by
  have sameKeys : (fun entry => decide (entry.1 = key)) ∘ reviseAt wanted change =
      fun entry : Address × Item => decide (entry.1 = key) := rfl
  rw [get?, revise, List.find?_map, sameKeys, get?, Option.map_map, Option.map_map]
  cases isFound : shelf.entries.find? fun entry => entry.1 = key with
  | none => rfl
  | some entry =>
      have same : entry.1 = key := by simpa using List.find?_some isFound
      simp [reviseAt, same]

/-- Revising the document under an address is filing the revised one there. -/
theorem revise_eq_put
    {old : Item}
    {change : Item → Item}
    {keeps : ∀ item, address item = wanted → address (change item) = wanted}
    (found : shelf.get? wanted = some old) :
    shelf.revise wanted change keeps =
      shelf.put wanted (change old) (keeps old (address_of_get? found)) :=
  Shelf.ext (map_reviseAt change shelf.ascending (get?_eq_some_iff.1 found))

end Shelves

end Shelf

end BundleTrust
