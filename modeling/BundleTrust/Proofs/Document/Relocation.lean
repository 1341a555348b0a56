import BundleTrust.Proofs.Document.Deletion

/-!
# Deleting places all at once

A filter deletes places one after the other, and every deletion in a list moves the items after
it.  What comes of it is the document without all listed places at once, each named by its path
in the whole document (`deletes_at_once`).  Where the values that stay are found afterwards is
said by `FieldPath.relocate`: keys stay as they are, and a position goes down by the number of
items before it that are deleted.
-/

namespace BundleTrust

open Document

namespace FieldPath

variable {isExcluded : FieldPath → Bool}

/-! ## Where places go -/

/-- How many of the items from a position on, up to some number of them, are excluded. -/
def excludedItems (isExcluded : FieldPath → Bool) (start number : Nat) : Nat :=
  (List.range' start number).countP fun place => isExcluded [.position place]

@[simp] theorem excludedItems_zero (start : Nat) : excludedItems isExcluded start 0 = 0 := rfl

theorem excludedItems_succ (start number : Nat) :
    excludedItems isExcluded start (number + 1) =
      excludedItems isExcluded (start + 1) number +
        if isExcluded [.position start] then 1 else 0 := by
  rw [excludedItems, List.range'_succ, List.countP_cons, ← excludedItems]

theorem excludedItems_le (isExcluded : FieldPath → Bool) (start number : Nat) :
    excludedItems isExcluded start number ≤ number := by
  have counted : excludedItems isExcluded start number ≤ (List.range' start number).length :=
    List.countP_le_length
  rwa [List.length_range'] at counted

/-- The path to a value after excluded places were deleted. -/
def relocate (isExcluded : FieldPath → Bool) : FieldPath → FieldPath
  | [] => []
  | .key name :: rest =>
      .key name :: relocate (fun path => isExcluded (.key name :: path)) rest
  | .position index :: rest =>
      .position (index - excludedItems isExcluded 0 index) ::
        relocate (fun path => isExcluded (.position index :: path)) rest

/-- Neither a path nor a place on the way to it is excluded. -/
def Survives (isExcluded : FieldPath → Bool) (path : FieldPath) : Prop :=
  ∀ place, place ≠ [] → place <+: path → isExcluded place = false

theorem survives_nil : Survives isExcluded [] := by
  intro place nonempty onTheWay
  exact absurd (List.prefix_nil.1 onTheWay) nonempty

/-- A path survives if its first step does and the rest survives below it. -/
theorem survives_cons_iff {step : PathStep} {rest : FieldPath} :
    Survives isExcluded (step :: rest) ↔
      isExcluded [step] = false ∧ Survives (fun path => isExcluded (step :: path)) rest := by
  constructor
  · intro survives
    refine ⟨survives [step] (by simp) (by simp), fun place _ onTheWay => ?_⟩
    exact survives (step :: place) (by simp) (List.prefix_cons_inj step |>.2 onTheWay)
  · rintro ⟨first, below⟩ place nonempty onTheWay
    obtain ⟨head, place, rfl⟩ := List.exists_cons_of_ne_nil nonempty
    obtain ⟨rfl, inside⟩ := List.cons_prefix_cons.1 onTheWay
    cases place with
    | nil => exact first
    | cons next place => exact below (next :: place) (by simp) inside

instance decidableSurvives :
    (isExcluded : FieldPath → Bool) → (path : FieldPath) → Decidable (Survives isExcluded path)
  | _, [] => isTrue survives_nil
  | isExcluded, step :: rest =>
      have := decidableSurvives (fun path => isExcluded (step :: path)) rest
      decidable_of_iff _ survives_cons_iff.symm

/-- Paths are excluded with what they lead through. -/
def Closes (isExcluded isExcluded' : FieldPath → Bool) : Prop :=
  ∀ path, isExcluded' path = true ↔
    ∃ place, place ≠ [] ∧ place <+: path ∧ isExcluded place = true

theorem Closes.first_eq
    {isExcluded' : FieldPath → Bool}
    (closes : Closes isExcluded isExcluded')
    (step : PathStep) :
    isExcluded' [step] = isExcluded [step] := by
  rw [Bool.eq_iff_iff, closes]
  constructor
  · rintro ⟨place, nonempty, onTheWay, excluded⟩
    obtain ⟨head, place, rfl⟩ := List.exists_cons_of_ne_nil nonempty
    obtain ⟨rfl, inside⟩ := List.cons_prefix_cons.1 onTheWay
    rwa [List.prefix_nil.1 inside] at excluded
  · exact fun excluded => ⟨[step], by simp, by simp, excluded⟩

/-- Below a step that is not excluded nothing changes in that. -/
theorem Closes.below
    {isExcluded' : FieldPath → Bool}
    (closes : Closes isExcluded isExcluded')
    {step : PathStep}
    (kept : isExcluded [step] = false) :
    Closes (fun path => isExcluded (step :: path)) fun path => isExcluded' (step :: path) := by
  intro path
  rw [closes]
  constructor
  · rintro ⟨place, nonempty, onTheWay, excluded⟩
    obtain ⟨head, place, rfl⟩ := List.exists_cons_of_ne_nil nonempty
    obtain ⟨rfl, inside⟩ := List.cons_prefix_cons.1 onTheWay
    refine ⟨place, ?_, inside, excluded⟩
    rintro rfl
    rw [kept] at excluded
    cases excluded
  · rintro ⟨place, -, onTheWay, excluded⟩
    exact ⟨step :: place, by simp, List.prefix_cons_inj step |>.2 onTheWay, excluded⟩

/-- What extends one of some paths leads through one of them. -/
theorem closes_extendsAny
    {paths : List FieldPath}
    (nonempty : ∀ path ∈ paths, path ≠ []) :
    Closes (fun path => decide (path ∈ paths)) (extendsAny paths) := by
  intro path
  rw [extendsAny, List.any_eq_true]
  constructor
  · rintro ⟨listed, isListed, prolongs⟩
    exact ⟨listed, nonempty listed isListed, List.isPrefixOf_iff_prefix.1 prolongs,
      decide_eq_true isListed⟩
  · rintro ⟨place, -, onTheWay, isListed⟩
    exact ⟨place, of_decide_eq_true isListed, List.isPrefixOf_iff_prefix.2 onTheWay⟩

end FieldPath

namespace Document

open FieldPath

variable {isExcluded : FieldPath → Bool}

/-! ## What is below an excluded place -/

mutual

/-- It does not matter whether what is below an excluded place is excluded, too. -/
theorem without_of_closes : (document : Document) → {isExcluded isExcluded' : FieldPath → Bool} →
    Closes isExcluded isExcluded' →
    document.without isExcluded' = document.without isExcluded
  | .null, _, _, _ | .boolean _, _, _, _ | .integer _, _, _, _ | .real _, _, _, _
  | .text _, _, _, _ => by simp [without]
  | .list items, _, _, closes => by
      rw [without, without, withoutItems_of_closes items 0 closes]
  | .mapping members, _, _, closes => by
      rw [without, without, withoutMembers_of_closes members closes]

theorem withoutItems_of_closes : (items : List Document) → (index : Nat) →
    {isExcluded isExcluded' : FieldPath → Bool} → Closes isExcluded isExcluded' →
    withoutItems isExcluded' index items = withoutItems isExcluded index items
  | [], _, _, _, _ => by simp [withoutItems]
  | item :: items, index, isExcluded, _, closes => by
      have later := withoutItems_of_closes items (index + 1) closes
      cases excluded : isExcluded [.position index] with
      | true => simp [withoutItems, closes.first_eq, excluded, later]
      | false =>
          have inside := without_of_closes item (closes.below excluded)
          simp [withoutItems, closes.first_eq, excluded, later, inside]

theorem withoutMembers_of_closes : (members : Members) →
    {isExcluded isExcluded' : FieldPath → Bool} → Closes isExcluded isExcluded' →
    withoutMembers isExcluded' members = withoutMembers isExcluded members
  | [], _, _, _ => by simp [withoutMembers]
  | (key, value) :: members, isExcluded, _, closes => by
      have later := withoutMembers_of_closes members closes
      cases excluded : isExcluded [.key key] with
      | true => simp [withoutMembers, closes.first_eq, excluded, later]
      | false =>
          have inside := without_of_closes value (closes.below excluded)
          simp [withoutMembers, closes.first_eq, excluded, later, inside]

end

/-! ## What stays, and where -/

/-- An item that is not excluded comes after those before it that are not excluded either. -/
theorem getElem?_withoutItems
    {items : List Document}
    {start number : Nat}
    (kept : isExcluded [.position (start + number)] = false) :
    (withoutItems isExcluded start items)[number - excludedItems isExcluded start number]? =
      items[number]?.map fun item =>
        item.without fun path => isExcluded (.position (start + number) :: path) := by
  induction items generalizing start number with
  | nil => simp [withoutItems]
  | cons item items ih =>
      cases number with
      | zero =>
          rw [Nat.add_zero] at kept
          simp [withoutItems, kept]
      | succ number =>
          have shifted : start + (number + 1) = start + 1 + number := by omega
          have atMost := excludedItems_le isExcluded (start + 1) number
          rw [shifted] at kept ⊢
          rw [excludedItems_succ, List.getElem?_cons_succ, ← ih kept, withoutItems]
          cases isExcluded [.position start] with
          | true => simp
          | false =>
              have further : number + 1 - excludedItems isExcluded (start + 1) number =
                  number - excludedItems isExcluded (start + 1) number + 1 := by omega
              simp [further]

/-- Every item of a pruned list is one that was not excluded. -/
theorem exists_of_getElem?_withoutItems
    {items : List Document}
    {start place : Nat}
    {value : Document}
    (found : (withoutItems isExcluded start items)[place]? = some value) :
    ∃ number item, isExcluded [.position (start + number)] = false ∧
      place = number - excludedItems isExcluded start number ∧ items[number]? = some item ∧
      value = item.without fun path => isExcluded (.position (start + number) :: path) := by
  induction items generalizing start place with
  | nil => simp [withoutItems] at found
  | cons item items ih =>
      -- What is found in the rest is one further in the whole list.
      have later : ∀ {place}, (withoutItems isExcluded (start + 1) items)[place]? = some value →
          ∃ number item, isExcluded [.position (start + (number + 1))] = false ∧
            place = number - excludedItems isExcluded (start + 1) number ∧
            items[number]? = some item ∧
            value = item.without fun path =>
              isExcluded (.position (start + (number + 1)) :: path) := by
        intro place found
        obtain ⟨number, item, kept, here, isItem, isValue⟩ := ih found
        have shifted : start + 1 + number = start + (number + 1) := by omega
        rw [shifted] at kept isValue
        exact ⟨number, item, kept, here, isItem, isValue⟩
      rw [withoutItems] at found
      cases excluded : isExcluded [.position start] with
      | true =>
          rw [excluded, if_pos rfl] at found
          obtain ⟨number, item, kept, rfl, isItem, isValue⟩ := later found
          refine ⟨number + 1, item, kept, ?_, isItem, isValue⟩
          simp [excludedItems_succ, excluded]
      | false =>
          rw [excluded, if_neg Bool.false_ne_true] at found
          cases place with
          | zero =>
              exact ⟨0, item, excluded, rfl, rfl, (Option.some.inj found).symm⟩
          | succ place =>
              obtain ⟨number, item, kept, rfl, isItem, isValue⟩ := later found
              have atMost := excludedItems_le isExcluded (start + 1) number
              refine ⟨number + 1, item, kept, ?_, isItem, isValue⟩
              simp only [excludedItems_succ, excluded, Bool.false_eq_true, ↓reduceIte]
              omega

/-- What survives is found at its new place, without what is excluded below it. -/
theorem at?_relocate
    {path : FieldPath}
    (document : Document)
    (survives : path.Survives isExcluded) :
    (document.without isExcluded).at? (path.relocate isExcluded) =
      (document.at? path).map fun value =>
        value.without fun below => isExcluded (path ++ below) := by
  induction path generalizing document isExcluded with
  | nil => simp [relocate]
  | cons step rest ih =>
      obtain ⟨kept, below⟩ := survives_cons_iff.1 survives
      cases step with
      | key name =>
          rw [relocate, at?_key, at?_key, get?_without, kept, if_neg Bool.false_ne_true]
          cases document.get? name with
          | none => rfl
          | some value => exact ih value below
      | position index =>
          cases document with
          | list items =>
              have kept' : isExcluded [.position (0 + index)] = false := by simpa using kept
              rw [relocate, without, at?, at?, getElem?_withoutItems kept']
              cases items[index]? with
              | none => rfl
              | some item =>
                  simpa using ih item below
          | _ => simp [relocate, without, at?]

/-- What is found in a pruned document survived and is found there at its new place. -/
theorem exists_of_at?_without
    {place : FieldPath}
    {document value : Document}
    (found : (document.without isExcluded).at? place = some value) :
    ∃ path original, path.Survives isExcluded ∧ path.relocate isExcluded = place ∧
      document.at? path = some original ∧
      value = original.without fun below => isExcluded (path ++ below) := by
  induction place generalizing document isExcluded with
  | nil =>
      refine ⟨[], document, survives_nil, rfl, at?_nil document, ?_⟩
      simpa using found.symm
  | cons step rest ih =>
      cases step with
      | key name =>
          rw [at?_key, get?_without] at found
          split at found
          · cases found
          · next kept =>
              rw [Option.bind_map, Option.bind_eq_some_iff] at found
              obtain ⟨held, isHeld, below⟩ := found
              obtain ⟨path, original, survives, rfl, isOriginal, isValue⟩ := ih below
              refine ⟨.key name :: path, original,
                survives_cons_iff.2 ⟨by simpa using kept, survives⟩, rfl, ?_, isValue⟩
              rw [at?_key, isHeld]
              exact isOriginal
      | position index =>
          cases document with
          | list items =>
              rw [without, at?, Option.bind_eq_some_iff] at found
              obtain ⟨held, isHeld, below⟩ := found
              obtain ⟨number, item, kept, rfl, isItem, rfl⟩ :=
                exists_of_getElem?_withoutItems isHeld
              rw [Nat.zero_add] at kept below
              obtain ⟨path, original, survives, rfl, isOriginal, isValue⟩ := ih below
              refine ⟨.position number :: path, original,
                survives_cons_iff.2 ⟨kept, survives⟩, rfl, ?_, isValue⟩
              rw [at?, isItem]
              exact isOriginal
          | _ => simp [without, at?] at found

end Document

namespace DocumentFilter

open FieldPath

/-- Deleting places leaves the document without all of them at once, in whatever order and however
often they are listed; and what is found afterwards is what survived, at its new place. -/
theorem deletes_at_once
    {paths : List FieldPath}
    (nonempty : ∀ path ∈ paths, path ≠ [])
    (document : Document) :
    (DocumentFilter.mk paths none).apply document =
        document.without (fun path => decide (path ∈ paths)) ∧
      (∀ others : List FieldPath, (∀ path, path ∈ others ↔ path ∈ paths) →
        (DocumentFilter.mk others none).apply document =
          (DocumentFilter.mk paths none).apply document) ∧
      ∀ place value,
        ((DocumentFilter.mk paths none).apply document).at? place = some value ↔
          ∃ path original,
            path.Survives (fun path => decide (path ∈ paths)) ∧
            path.relocate (fun path => decide (path ∈ paths)) = place ∧
            document.at? path = some original ∧
            value = original.without fun below => decide (path ++ below ∈ paths) := by
  have atOnce : ∀ {listed : List FieldPath}, (∀ path ∈ listed, path ≠ []) →
      (DocumentFilter.mk listed none).apply document =
        document.without fun path => decide (path ∈ listed) := by
    intro listed below
    exact (deleteAll_descending below document).trans
      (without_of_closes document (closes_extendsAny below))
  refine ⟨atOnce nonempty, fun others same => ?_, fun place value => ?_⟩
  · rw [atOnce fun path isListed => nonempty path ((same path).1 isListed), atOnce nonempty]
    exact congrArg document.without (funext fun path => decide_eq_decide.2 (same path))
  · rw [atOnce nonempty]
    refine ⟨exists_of_at?_without, ?_⟩
    rintro ⟨path, original, survives, rfl, isOriginal, rfl⟩
    rw [at?_relocate document survives, isOriginal, Option.map_some]

end DocumentFilter

namespace RelocationExample

/-- A mapping with a list of four items. -/
def listed : Document :=
  .mapping
    [("items", .list [.text "first", .mapping [("kept", .text "second"), ("left", .null)],
      .text "third", .text "fourth"])]

/-- Several items of one list, one of them twice and one with a place below it, a member of an
item that stays, and places that are not there. -/
def overlapping : List FieldPath :=
  [[.key "items", .position 0], [.key "items", .position 2, .key "kept"],
    [.key "items", .position 1, .key "left"], [.key "items", .position 2],
    [.key "items", .position 0], [.key "items", .position 7], [.position 0]]

theorem overlapping_deleted_at_once :
    (∀ path ∈ overlapping, path ≠ []) ∧
      (DocumentFilter.mk overlapping none).apply listed =
        .mapping [("items", .list [.mapping [("kept", .text "second")], .text "fourth"])] ∧
      (DocumentFilter.mk overlapping.reverse none).apply listed =
        (DocumentFilter.mk overlapping none).apply listed ∧
      ((DocumentFilter.mk overlapping none).apply listed).at? [.key "items", .position 1] =
        some (.text "fourth") := by
  have nonempty : ∀ path ∈ overlapping, path ≠ [] := by decide
  obtain ⟨atOnce, sameForAll, found⟩ := DocumentFilter.deletes_at_once nonempty listed
  refine ⟨nonempty, atOnce.trans (by decide), sameForAll _ fun _ => List.mem_reverse, ?_⟩
  -- The fourth item is the second one of the two that stay.
  exact (found _ _).2
    ⟨[.key "items", .position 3], .text "fourth", by decide, by decide, by decide, by decide⟩

end RelocationExample

end BundleTrust
