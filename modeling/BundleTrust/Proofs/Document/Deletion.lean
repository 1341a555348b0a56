import BundleTrust.Document.Filter
import BundleTrust.Proofs.Document.Pruning

/-!
# Deleting places one after the other

Deletions in descending order of their paths never move a place that is still to be
deleted.  A filter's deletions therefore leave the document without every place that
extends one of its paths.
-/

namespace BundleTrust
namespace FieldPath

/-! ## The order of paths -/

/-- A path does not come after its extensions. -/
theorem compareWith_append_isLE (path extension : FieldPath) :
    (path.compareWith (path ++ extension)).isLE := by
  induction path with
  | nil => cases extension <;> rfl
  | cons step path ih =>
      have same : step.compareWith step = .eq := Std.ReflCmp.compare_self
      rw [List.cons_append, compareWith, same]
      exact ih

/-- A path before another one comes before what extends the other. -/
theorem compareWith_eq_lt_of_isPrefixOf
    {path other extended : FieldPath}
    (before : path.compareWith other = .lt)
    (prolongs : other.isPrefixOf extended = true) :
    path.compareWith extended = .lt := by
  obtain ⟨extension, rfl⟩ := List.isPrefixOf_iff_prefix.1 prolongs
  exact Std.TransCmp.lt_of_lt_of_isLE before (compareWith_append_isLE other extension)

end FieldPath

namespace Document

variable {isExcluded : FieldPath → Bool}

/-! ## One deletion -/

/-- Taking the item at a place out of a pruned list that keeps every item up to there. -/
theorem eraseIdx_withoutItems
    {items : List Document}
    {start target : Nat}
    (reached : start ≤ target)
    (kept : ∀ place, place ≤ target → isExcluded [.position place] = false) :
    (withoutItems isExcluded start items).eraseIdx (target - start) =
      withoutItems (fun path => isExcluded path || [.position target].isPrefixOf path)
        start items := by
  induction items generalizing start with
  | nil => simp [withoutItems]
  | cons item items ih =>
      have keptHere := kept start reached
      cases Nat.eq_or_lt_of_le reached with
      | inl here =>
          subst here
          have later : withoutItems isExcluded (start + 1) items =
              withoutItems (fun path => isExcluded path || [.position start].isPrefixOf path)
                (start + 1) items :=
            withoutItems_congr fun place path after => by
              have apart : start ≠ place := by omega
              simp [apart, List.isPrefixOf]
          simp [withoutItems, keptHere, later, List.isPrefixOf]
      | inr further =>
          have apart : (PathStep.position target == .position start) = false := by
            simpa using Nat.ne_of_gt further
          have distance : target - start = (target - (start + 1)) + 1 := by omega
          have later := ih further
          rw [distance]
          simp [withoutItems, keptHere, apart, later, List.isPrefixOf]

/-- Changing the item at a place of a pruned list that keeps every item up to there. -/
theorem modify_withoutItems
    {items : List Document}
    {start target : Nat}
    {rest : FieldPath}
    {change : Document → Document}
    (reached : start ≤ target)
    (kept : ∀ place, place ≤ target → isExcluded [.position place] = false)
    (deeper : rest ≠ [])
    (changes : ∀ item : Document,
      change (item.without fun path => isExcluded (.position target :: path)) =
        item.without fun path => isExcluded (.position target :: path) || rest.isPrefixOf path) :
    (withoutItems isExcluded start items).modify (target - start) change =
      withoutItems (fun path => isExcluded path || (.position target :: rest).isPrefixOf path)
        start items := by
  induction items generalizing start with
  | nil => simp [withoutItems]
  | cons item items ih =>
      have keptHere := kept start reached
      cases Nat.eq_or_lt_of_le reached with
      | inl here =>
          subst here
          have later : withoutItems isExcluded (start + 1) items =
              withoutItems
                (fun path => isExcluded path || (.position start :: rest).isPrefixOf path)
                (start + 1) items :=
            withoutItems_congr fun place path after => by
              have apart : start ≠ place := by omega
              simp [apart, List.isPrefixOf]
          simp [withoutItems, keptHere, later, changes, List.isPrefixOf]
      | inr further =>
          have apart : (PathStep.position target == .position start) = false := by
            simpa using Nat.ne_of_gt further
          have distance : target - start = (target - (start + 1)) + 1 := by omega
          have later := ih further
          rw [distance]
          simp [withoutItems, keptHere, apart, later, List.isPrefixOf]

/-- Dropping a key of a pruned mapping. -/
theorem erase_withoutMembers (members : Members) (key : String) :
    Members.erase key (withoutMembers isExcluded members) =
      withoutMembers (fun path => isExcluded path || [.key key].isPrefixOf path) members := by
  induction members with
  | nil => simp [withoutMembers]
  | cons member members ih =>
      obtain ⟨name, value⟩ := member
      by_cases excluded : isExcluded [.key name]
      · simp [withoutMembers, excluded, ih]
      · by_cases here : key = name
        · subst here
          simp [withoutMembers, excluded, ih, List.isPrefixOf]
        · have apart : (PathStep.key key == .key name) = false := by simpa using here
          have other : name ≠ key := fun same => here same.symm
          simp [withoutMembers, excluded, ih, List.isPrefixOf, apart, other]

/-- Changing the value of a key of a pruned mapping. -/
theorem modify_withoutMembers
    {members : Members}
    {key : String}
    {rest : FieldPath}
    {change : Document → Document}
    (deeper : rest ≠ [])
    (changes : ∀ value : Document,
      change (value.without fun path => isExcluded (.key key :: path)) =
        value.without fun path => isExcluded (.key key :: path) || rest.isPrefixOf path) :
    Members.modify key change (withoutMembers isExcluded members) =
      withoutMembers (fun path => isExcluded path || (.key key :: rest).isPrefixOf path)
        members := by
  induction members with
  | nil => simp [withoutMembers]
  | cons member members ih =>
      obtain ⟨name, value⟩ := member
      by_cases excluded : isExcluded [.key name]
      · simp [withoutMembers, excluded, ih]
      · by_cases here : key = name
        · subst here
          simp [withoutMembers, excluded, ih, changes, List.isPrefixOf]
        · have apart : (PathStep.key key == .key name) = false := by simpa using here
          have other : name ≠ key := fun same => here same.symm
          simp [withoutMembers, excluded, ih, List.isPrefixOf, apart, other]

/-- Where every excluded place comes after a path through a list, the items up to the one on
the path are kept. -/
theorem kept_of_before
    {target : Nat}
    {rest : FieldPath}
    (before : ∀ excluded, isExcluded excluded = true →
      FieldPath.compareWith (.position target :: rest) excluded = .lt)
    (place : Nat)
    (reached : place ≤ target) :
    isExcluded [.position place] = false := by
  apply Bool.eq_false_iff.2
  intro excluded
  have order := before _ excluded
  simp only [FieldPath.compareWith, PathStep.compareWith] at order
  cases Nat.eq_or_lt_of_le reached with
  | inl same =>
      subst same
      cases rest <;> simp [FieldPath.compareWith] at order
  | inr below => simp [Nat.compare_eq_gt.2 below] at order

/-- Deleting a place before all excluded ones is excluding what extends its path as well. -/
theorem deleteAt_without
    {path : FieldPath}
    (nonempty : path ≠ [])
    (document : Document)
    (before : ∀ excluded, isExcluded excluded = true → path.compareWith excluded = .lt) :
    deleteAt path (document.without isExcluded) =
      document.without fun other => isExcluded other || path.isPrefixOf other := by
  induction path generalizing document isExcluded with
  | nil => exact absurd rfl nonempty
  | cons step rest ih =>
      -- What is excluded below the first step comes after the rest of the path.
      have beforeBelow : ∀ excluded, isExcluded (step :: excluded) = true →
          FieldPath.compareWith rest excluded = .lt := by
        intro excluded isExcludedBelow
        have order := before _ isExcludedBelow
        have same : step.compareWith step = .eq := Std.ReflCmp.compare_self
        rwa [FieldPath.compareWith, same] at order
      cases document with
      | list items =>
          cases step with
          | key name =>
              have same : withoutItems isExcluded 0 items =
                  withoutItems (fun other => isExcluded other ||
                    (PathStep.key name :: rest).isPrefixOf other) 0 items :=
                withoutItems_congr fun _ _ _ => by simp [List.isPrefixOf]
              cases rest <;> simp [without, deleteAt, same]
          | position target =>
              have kept := kept_of_before before
              cases rest with
              | nil =>
                  rw [without, deleteAt, without]
                  exact congrArg list (eraseIdx_withoutItems (Nat.zero_le target) kept)
              | cons next rest =>
                  have deeper : next :: rest ≠ [] := List.cons_ne_nil next rest
                  rw [without, deleteAt, without]
                  exact congrArg list (modify_withoutItems (Nat.zero_le target) kept deeper
                    fun item => ih deeper item beforeBelow)
      | mapping members =>
          cases step with
          | key name =>
              cases rest with
              | nil => rw [without, deleteAt, without, erase_withoutMembers]
              | cons next rest =>
                  have deeper : next :: rest ≠ [] := List.cons_ne_nil next rest
                  rw [without, deleteAt, without, modify_withoutMembers deeper]
                  exact fun value => ih deeper value beforeBelow
          | position target =>
              have same : withoutMembers isExcluded members =
                  withoutMembers (fun other => isExcluded other ||
                    (PathStep.position target :: rest).isPrefixOf other) members :=
                withoutMembers_congr fun _ _ => by simp [List.isPrefixOf]
              cases rest <;> simp [without, deleteAt, same]
      | _ => cases step <;> cases rest <;> simp [without, deleteAt]

end Document

/-- Whether a path extends one of some paths. -/
def FieldPath.extendsAny (paths : List FieldPath) (path : FieldPath) : Bool :=
  paths.any fun excluded => excluded.isPrefixOf path

theorem FieldPath.extendsAny_append (paths others : List FieldPath) (path : FieldPath) :
    extendsAny (paths ++ others) path = (extendsAny paths path || extendsAny others path) := by
  rw [extendsAny, List.any_append, ← extendsAny, ← extendsAny]

/-- With a path, everything below it extends one of some paths. -/
theorem FieldPath.closed_extendsAny (paths : List FieldPath) :
    Document.Closed (extendsAny paths) := by
  intro path step excluded
  obtain ⟨listed, isListed, prolongs⟩ := List.any_eq_true.1 excluded
  refine List.any_eq_true.2 ⟨listed, isListed, ?_⟩
  obtain ⟨extension, rfl⟩ := List.isPrefixOf_iff_prefix.1 prolongs
  rw [List.append_assoc]
  exact List.isPrefixOf_iff_prefix.2 (List.prefix_append _ _)

/-- Keys alone lead to what extends paths of keys. -/
theorem FieldPath.byKeys_extendsAny
    {paths : List FieldPath}
    (keysOnly : ∀ path ∈ paths, ∀ index, .position index ∉ path) :
    Document.ByKeys (extendsAny paths) := by
  intro before index after excluded
  obtain ⟨listed, isListed, prolongs⟩ := List.any_eq_true.1 excluded
  refine List.any_eq_true.2 ⟨listed, isListed, ?_⟩
  obtain ⟨extension, whole⟩ := List.isPrefixOf_iff_prefix.1 prolongs
  refine List.isPrefixOf_iff_prefix.2 ?_
  -- A listed path that reached beyond the part before the position would hold the position.
  cases List.append_eq_append_iff.1 whole with
  | inl shorter =>
      obtain ⟨middle, rfl, -⟩ := shorter
      exact List.prefix_append _ _
  | inr longer =>
      obtain ⟨middle, rfl, tail⟩ := longer
      cases middle with
      | nil => simp
      | cons step middle =>
          obtain ⟨rfl, -⟩ := List.cons.inj tail
          exact absurd (by simp) (keysOnly _ isListed index)

namespace DocumentFilter

open Document FieldPath

/-! ## The order of deletions -/

@[simp] theorem mem_dropRepeats {paths : List FieldPath} {path : FieldPath} :
    path ∈ dropRepeats paths ↔ path ∈ paths := by
  fun_induction dropRepeats paths with
  | case1 => rfl
  | case2 => rfl
  | case3 first rest ih => simp [ih]
  | case4 first next rest _ ih => simp [ih]

/-- Dropping repeated neighbours makes a descending list strictly descending. -/
theorem pairwise_dropRepeats
    {paths : List FieldPath}
    (order : paths.Pairwise fun left right => right.atMost left) :
    (dropRepeats paths).Pairwise fun left right => right.compareWith left = .lt := by
  fun_induction dropRepeats paths with
  | case1 => exact List.Pairwise.nil
  | case2 => exact List.pairwise_singleton _ _
  | case3 first rest ih => exact ih (List.pairwise_cons.1 order).2
  | case4 first next rest different ih =>
      obtain ⟨above, inner⟩ := List.pairwise_cons.1 order
      refine List.pairwise_cons.2 ⟨fun path isLater => ?_, ih inner⟩
      have stepDown : next.compareWith first = .lt :=
        compareWith_eq_lt_of_atMost (above next List.mem_cons_self) fun same => different same.symm
      cases List.mem_cons.1 (mem_dropRepeats.1 isLater) with
      | inl same => exact same ▸ stepDown
      | inr isRest =>
          have below := (List.pairwise_cons.1 inner).1 path isRest
          rw [atMost_eq_isLE] at below
          exact Std.TransCmp.lt_of_isLE_of_lt below stepDown

@[simp] theorem mem_descending {paths : List FieldPath} {path : FieldPath} :
    path ∈ descending paths ↔ path ∈ paths := by
  simp [descending]

theorem pairwise_descending (paths : List FieldPath) :
    (descending paths).Pairwise fun left right => right.compareWith left = .lt := by
  refine pairwise_dropRepeats (List.pairwise_mergeSort ?_ ?_ paths)
  · intro left middle right first second
    exact atMost_trans second first
  · intro left right
    exact atMost_total right left

/-! ## All deletions -/

/-- Deletions in descending order leave a pruned document without what extends their
paths. -/
theorem deleteAll_without
    {isExcluded : FieldPath → Bool}
    {paths : List FieldPath}
    (nonempty : ∀ path ∈ paths, path ≠ [])
    (order : paths.Pairwise fun left right => right.compareWith left = .lt)
    (before : ∀ path ∈ paths, ∀ excluded, isExcluded excluded = true →
      path.compareWith excluded = .lt)
    (document : Document) :
    deleteAll paths (document.without isExcluded) =
      document.without fun path => isExcluded path || extendsAny paths path := by
  induction paths generalizing isExcluded with
  | nil => simp [deleteAll, extendsAny]
  | cons first rest ih =>
      obtain ⟨above, inner⟩ := List.pairwise_cons.1 order
      have first_before := before first List.mem_cons_self
      have one := deleteAt_without (nonempty first List.mem_cons_self) document first_before
      have others : deleteAll rest
          (document.without fun path => isExcluded path || first.isPrefixOf path) =
          document.without fun path =>
            (isExcluded path || first.isPrefixOf path) || extendsAny rest path := by
        refine ih (fun path isRest => nonempty path (List.mem_cons_of_mem _ isRest)) inner ?_
        intro path isRest excluded isExcludedNow
        cases Bool.or_eq_true_iff.1 isExcludedNow with
        | inl earlier => exact before path (List.mem_cons_of_mem _ isRest) excluded earlier
        | inr prolongs => exact compareWith_eq_lt_of_isPrefixOf (above path isRest) prolongs
      rw [deleteAll, List.foldl_cons, one, ← deleteAll, others]
      simp [extendsAny, Bool.or_assoc]

/-- A filter's deletions leave the document without what extends one of their paths. -/
theorem deleteAll_descending
    {paths : List FieldPath}
    (nonempty : ∀ path ∈ paths, path ≠ [])
    (document : Document) :
    deleteAll (descending paths) document = document.without (extendsAny paths) := by
  have all : deleteAll (descending paths) (document.without fun _ => false) =
      document.without fun path => false || extendsAny (descending paths) path :=
    deleteAll_without (fun path isListed => nonempty path (mem_descending.1 isListed))
      (pairwise_descending paths) (fun _ _ _ never => absurd never Bool.false_ne_true) document
  have sameMembers : (fun path => false || extendsAny (descending paths) path) =
      extendsAny paths := by
    funext path
    rw [Bool.eq_iff_iff]
    simp [extendsAny]
  rwa [without_false, sameMembers] at all

end DocumentFilter
end BundleTrust
