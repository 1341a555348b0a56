import BundleTrust.Bundle.Lookup
import Mathlib.Data.Prod.Lex
import Mathlib.Order.WithBot

/-!
# The newest first

Names are compared by the rank of what they spell: versions by their numbers, the greatest first,
and after all versions the names that spell none, which share one rank
(`compareNewestFirst_eq_compare`).  Ranks are in a linear order, so the comparison is a total
preorder, and there is one way only to put items in its order and keep the order of those that are
not told apart (`IsNewestFirst.unique`).  That is how bundles are sorted.
-/

namespace BundleTrust

/-! ## Ranks -/

namespace BundleVersion

/-- The numbers of a version, in the order in which they count. -/
def numbers (version : BundleVersion) : ℕ ×ₗ ℕ ×ₗ ℕ :=
  toLex (version.major, toLex (version.minor, version.sequence))

theorem numbers_injective : Function.Injective numbers := by
  intro left right same
  have majors := congrArg (fun numbers => (ofLex numbers).1) same
  have minors := congrArg (fun numbers => (ofLex (ofLex numbers).2).1) same
  have sequences := congrArg (fun numbers => (ofLex (ofLex numbers).2).2) same
  exact BundleVersion.ext majors minors sequences

/-- Versions are compared by their numbers. -/
theorem compareWith_eq_compare (left right : BundleVersion) :
    left.compareWith right = compare left.numbers right.numbers := by
  simp only [Prod.Lex.compare_def, compareLex, compareOn]
  rfl

/-- Of two versions for one server version the one with the greater numbers has the greater number
of the bundle. -/
theorem sequence_le_of_numbers_le
    {left right : BundleVersion}
    (below : left.numbers ≤ right.numbers)
    (sameMinor : left.isSameMinor right = true) :
    left.sequence ≤ right.sequence := by
  simp only [isSameMinor, Bool.and_eq_true, beq_iff_eq] at sameMinor
  simpa [numbers, Prod.Lex.toLex_le_toLex, sameMinor] using below

end BundleVersion

/-- The place of what a name spells: versions by their numbers, the greatest first, and after them
the names that spell none. -/
def spellingRank : Option BundleVersion → WithTop (ℕ ×ₗ ℕ ×ₗ ℕ)ᵒᵈ
  | some version => (OrderDual.toDual version.numbers : (ℕ ×ₗ ℕ ×ₗ ℕ)ᵒᵈ)
  | none => ⊤

theorem spellingRank_injective : Function.Injective spellingRank := by
  rintro (_ | left) (_ | right) same
  · rfl
  · cases same
  · cases same
  · exact congrArg some (BundleVersion.numbers_injective (WithTop.coe_injective same))

/-- One name comes no later than another by its rank if it spells a version that is not older, or
the other spells none. -/
theorem spellingRank_le_iff {left right : Option BundleVersion} :
    spellingRank left ≤ spellingRank right ↔
      (left = none → right = none) ∧
        ∀ newer ∈ left, ∀ older ∈ right, older.numbers ≤ newer.numbers := by
  cases left <;> cases right <;> simp [spellingRank]

/-- Names are compared by the ranks of what they spell. -/
theorem compareNewestFirst_eq_compare (left right : String) :
    compareNewestFirst left right =
      compare (spellingRank (BundleVersion.parse? left))
        (spellingRank (BundleVersion.parse? right)) := by
  rw [compareNewestFirst]
  cases BundleVersion.parse? left with
  | none =>
      cases BundleVersion.parse? right with
      | none => exact (compare_eq_iff_eq.2 rfl).symm
      | some right => exact (compare_gt_iff_gt.2 (WithTop.coe_lt_top _)).symm
  | some left =>
      cases BundleVersion.parse? right with
      | none => exact (compare_lt_iff_lt.2 (WithTop.coe_lt_top _)).symm
      | some right =>
          calc
            right.compareWith left = cmp right.numbers left.numbers := by
              rw [right.compareWith_eq_compare, cmp_eq_compare]
            _ = cmp (OrderDual.toDual left.numbers) (OrderDual.toDual right.numbers) :=
              (cmp_toDual left.numbers right.numbers).symm
            _ = cmp (spellingRank (some left)) (spellingRank (some right)) :=
              (WithTop.coe_strictMono.cmp_map_eq _ _).symm
            _ = compare (spellingRank (some left)) (spellingRank (some right)) :=
              cmp_eq_compare _ _

/-- The comparison of names is a total preorder. -/
instance : Std.TransCmp compareNewestFirst := by
  have ranked : compareNewestFirst =
      compareOn fun name => spellingRank (BundleVersion.parse? name) :=
    funext fun left => funext fun right => compareNewestFirst_eq_compare left right
  rw [ranked]
  infer_instance

/-- A name comes no later than another one if its rank is no greater. -/
theorem compareNewestFirst_ne_gt_iff {left right : String} :
    compareNewestFirst left right ≠ .gt ↔
      spellingRank (BundleVersion.parse? left) ≤ spellingRank (BundleVersion.parse? right) := by
  rw [compareNewestFirst_eq_compare]
  exact compare_le_iff_le

/-- Names that are not told apart spell the same version, or none. -/
theorem compareNewestFirst_eq_eq_iff {left right : String} :
    compareNewestFirst left right = .eq ↔
      BundleVersion.parse? left = BundleVersion.parse? right := by
  rw [compareNewestFirst_eq_compare, compare_eq_iff_eq]
  exact spellingRank_injective.eq_iff

/-! ## Lists in order -/

section Classes

variable {Item Class Key : Type} [DecidableEq Class] {classOf : Item → Class}
  {left right : List Item}

/-- Lists with the same parts of one class each have the same items. -/
theorem mem_of_filter_eq
    {item : Item}
    (same : ∀ wanted, left.filter (fun item => classOf item = wanted) =
      right.filter fun item => classOf item = wanted)
    (isMember : item ∈ left) :
    item ∈ right := by
  have ofClass : item ∈ left.filter fun other => classOf other = classOf item :=
    List.mem_filter.2 ⟨isMember, decide_eq_true rfl⟩
  rw [same] at ofClass
  exact (List.mem_filter.1 ofClass).1

/-- A list in the order of a key is determined by its parts of one class each, if the key tells
all classes apart. -/
theorem eq_of_filter_eq [LinearOrder Key]
    {key : Class → Key}
    (injective : Function.Injective key)
    (ascending : left.Pairwise fun first second => key (classOf first) ≤ key (classOf second))
    (ascending' : right.Pairwise fun first second => key (classOf first) ≤ key (classOf second))
    (same : ∀ wanted, left.filter (fun item => classOf item = wanted) =
      right.filter fun item => classOf item = wanted) :
    left = right := by
  induction left generalizing right with
  | nil =>
      cases right with
      | nil => rfl
      | cons other others =>
          have isMember := mem_of_filter_eq (fun wanted => (same wanted).symm)
            (List.mem_cons_self (a := other))
          exact absurd isMember List.not_mem_nil
  | cons item items ih =>
      have isMember := mem_of_filter_eq same List.mem_cons_self
      cases right with
      | nil => exact absurd isMember List.not_mem_nil
      | cons other others =>
          have isMember' := mem_of_filter_eq (fun wanted => (same wanted).symm)
            (List.mem_cons_self (a := other))
          obtain ⟨least, inner⟩ := List.pairwise_cons.1 ascending
          obtain ⟨least', inner'⟩ := List.pairwise_cons.1 ascending'
          -- Each of the two first items is in the other list, so neither is after the other.
          have sameClass : classOf item = classOf other := by
            refine injective (le_antisymm ?_ ?_)
            · rcases List.mem_cons.1 isMember' with rfl | isLater
              · exact le_rfl
              · exact least other isLater
            · rcases List.mem_cons.1 isMember with rfl | isLater
              · exact le_rfl
              · exact least' item isLater
          have firsts := same (classOf item)
          rw [List.filter_cons_of_pos (by simp), List.filter_cons_of_pos (by simp [sameClass])]
            at firsts
          obtain ⟨rfl, -⟩ := List.cons.inj firsts
          have rest (wanted : Class) : items.filter (fun item => classOf item = wanted) =
              others.filter fun item => classOf item = wanted := by
            have both := same wanted
            by_cases here : classOf item = wanted
            · rw [List.filter_cons_of_pos (by simpa using here),
                List.filter_cons_of_pos (by simpa using here)] at both
              exact (List.cons.inj both).2
            · rwa [List.filter_cons_of_neg (by simpa using here),
                List.filter_cons_of_neg (by simpa using here)] at both
          rw [ih inner inner' rest]

end Classes

section Sorting

variable {Item : Type} {name : Item → String} {items sorted : List Item}

/-- A list holds given items in order of their names, the newest first, where items that are not
told apart stand as they were given. -/
structure IsNewestFirst (name : Item → String) (items sorted : List Item) : Prop where
  /-- It holds the items that are given, each as often. -/
  perm : sorted.Perm items
  /-- After an item whose name spells no version there is none whose name spells one. -/
  spelled_first : sorted.Pairwise fun left right =>
    BundleVersion.parse? (name left) = none → BundleVersion.parse? (name right) = none
  /-- After an item whose name spells a version there is none with a greater one. -/
  descending : sorted.Pairwise fun left right =>
    ∀ newer ∈ BundleVersion.parse? (name left), ∀ older ∈ BundleVersion.parse? (name right),
      older.numbers ≤ newer.numbers
  /-- The items whose names spell one version, and those whose names spell none, stand in the
  order in which they are given. -/
  stable : ∀ spelled : Option BundleVersion,
    sorted.filter (fun item => BundleVersion.parse? (name item) = spelled) =
      items.filter fun item => BundleVersion.parse? (name item) = spelled

namespace IsNewestFirst

theorem ascending (isSorted : IsNewestFirst name items sorted) :
    sorted.Pairwise fun left right =>
      spellingRank (BundleVersion.parse? (name left)) ≤
        spellingRank (BundleVersion.parse? (name right)) :=
  (isSorted.spelled_first.and isSorted.descending).imp spellingRank_le_iff.2

/-- There is no other list in order. -/
theorem unique
    {other : List Item}
    (isSorted : IsNewestFirst name items sorted)
    (isSorted' : IsNewestFirst name items other) :
    sorted = other :=
  eq_of_filter_eq spellingRank_injective isSorted.ascending isSorted'.ascending fun spelled =>
    (isSorted.stable spelled).trans (isSorted'.stable spelled).symm

/-- Of the items for a server version the first one has the greatest number. -/
theorem exists_first
    {item : Item}
    {version : BundleVersion}
    (isSorted : IsNewestFirst name items sorted)
    (isMember : item ∈ items)
    (spelled : BundleVersion.parse? (name item) = some version) :
    ∃ first newest,
      sorted.find? (fun other => (BundleVersion.parse? (name other)).any version.isSameMinor) =
          some first ∧
        BundleVersion.parse? (name first) = some newest ∧ version.isSameMinor newest = true ∧
          version.sequence ≤ newest.sequence := by
  have here := isSorted.perm.mem_iff.2 isMember
  have isFor : (BundleVersion.parse? (name item)).any version.isSameMinor = true := by
    simp [spelled, BundleVersion.isSameMinor]
  have isFound : (sorted.find? fun other =>
      (BundleVersion.parse? (name other)).any version.isSameMinor).isSome :=
    List.find?_isSome.2 ⟨item, here, isFor⟩
  obtain ⟨first, found⟩ := Option.isSome_iff_exists.1 isFound
  obtain ⟨isForFirst, before, after, split, notBefore⟩ := List.find?_eq_some_iff_append.1 found
  obtain ⟨newest, spelledFirst, sameMinor⟩ := (Option.any_eq_true ..).1 isForFirst
  refine ⟨first, newest, found, spelledFirst, sameMinor, ?_⟩
  rw [split, List.mem_append, List.mem_cons] at here
  rcases here with isBefore | rfl | isAfter
  · exact absurd (notBefore item isBefore) (by simp [isFor])
  · rw [spelled] at spelledFirst
    rw [Option.some.inj spelledFirst]
  · have descending := isSorted.descending
    rw [split] at descending
    have below := (List.pairwise_cons.1 (List.pairwise_append.1 descending).2.1).1 item isAfter
      newest spelledFirst version spelled
    exact BundleVersion.sequence_le_of_numbers_le below sameMinor

end IsNewestFirst

theorem isNewestFirst_sortNewestFirst (name : Item → String) (items : List Item) :
    IsNewestFirst name items (sortNewestFirst name items) := by
  have isLe {left right : String} : (compareNewestFirst left right != .gt) = true ↔
      spellingRank (BundleVersion.parse? left) ≤ spellingRank (BundleVersion.parse? right) := by
    rw [bne_iff_ne]
    exact compareNewestFirst_ne_gt_iff
  have trans (first second third : Item) :
      (compareNewestFirst (name first) (name second) != .gt) = true →
        (compareNewestFirst (name second) (name third) != .gt) = true →
          (compareNewestFirst (name first) (name third) != .gt) = true := by
    simpa only [isLe] using le_trans
  have total (first second : Item) :
      (compareNewestFirst (name first) (name second) != .gt ||
        compareNewestFirst (name second) (name first) != .gt) = true := by
    rw [Bool.or_eq_true, isLe, isLe]
    exact le_total _ _
  have ascending := (List.pairwise_mergeSort trans total items).imp fun le =>
    spellingRank_le_iff.1 (isLe.1 le)
  have perm : (sortNewestFirst name items).Perm items := List.mergeSort_perm _ _
  refine ⟨perm, ascending.imp And.left, ascending.imp And.right, fun spelled => Eq.symm ?_⟩
  -- Items that are not told apart are in order already, and stay a part of the list.
  have inOrder : (items.filter fun item => BundleVersion.parse? (name item) = spelled).Pairwise
      fun left right => (compareNewestFirst (name left) (name right) != .gt) = true := by
    refine List.pairwise_filter.2 (List.pairwise_of_forall_mem_list fun left _ right _ => ?_)
    intro ofLeft ofRight
    rw [isLe, of_decide_eq_true ofLeft, of_decide_eq_true ofRight]
  have kept := List.sublist_mergeSort trans total inOrder List.filter_sublist
  have filtered := kept.filter fun item => BundleVersion.parse? (name item) = spelled
  rw [List.filter_filter] at filtered
  simp only [Bool.and_self] at filtered
  exact filtered.eq_of_length (perm.filter _).length_eq.symm

/-- Sorting again changes nothing. -/
theorem sortNewestFirst_sortNewestFirst (name : Item → String) (items : List Item) :
    sortNewestFirst name (sortNewestFirst name items) = sortNewestFirst name items := by
  refine List.mergeSort_of_pairwise ((isNewestFirst_sortNewestFirst name items).ascending.imp ?_)
  intro left right le
  exact bne_iff_ne.2 (compareNewestFirst_ne_gt_iff.2 le)

end Sorting

/-- The comparison of names is a total preorder, in which only names that spell the same are not
told apart.  Bundles are sorted in its order, and bundles that are not told apart keep their order.
There is no other such list, sorting again changes nothing, and of the bundles for a server version
the first one has the greatest number. -/
theorem bundles_sorted_newest_first (bundles : List Bundle) :
    Std.TransCmp compareNewestFirst ∧
      (∀ left right, compareNewestFirst left right = .eq ↔
        BundleVersion.parse? left = BundleVersion.parse? right) ∧
      IsNewestFirst Bundle.name bundles (sortBundles bundles) ∧
      (∀ sorted, IsNewestFirst Bundle.name bundles sorted → sorted = sortBundles bundles) ∧
      sortBundles (sortBundles bundles) = sortBundles bundles ∧
      ∀ bundle ∈ bundles, ∀ version, BundleVersion.parse? bundle.name = some version →
        ∃ first newest,
          (sortBundles bundles).find? (fun other =>
              (BundleVersion.parse? other.name).any version.isSameMinor) = some first ∧
            BundleVersion.parse? first.name = some newest ∧
              version.isSameMinor newest = true ∧ version.sequence ≤ newest.sequence := by
  have isSorted : IsNewestFirst Bundle.name bundles (sortBundles bundles) :=
    isNewestFirst_sortNewestFirst Bundle.name bundles
  refine ⟨inferInstance, fun left right => compareNewestFirst_eq_eq_iff, isSorted, ?_, ?_, ?_⟩
  · exact fun sorted isSorted' => isSorted'.unique isSorted
  · exact sortNewestFirst_sortNewestFirst Bundle.name bundles
  · exact fun bundle isMember version spelled => isSorted.exists_first isMember spelled

namespace SortingExample

/-- A bundle of the standard namespace. -/
def bundle (name : String) : Bundle := .named "eksa-packages" name

/-- Two names that spell no version stay in their order behind all others, and so do two spellings
of one version in front. -/
theorem spellings_and_others_sorted :
    sortBundles [bundle "zeta", bundle "v1-021-1003", bundle "alpha", bundle "v1-21-1001",
        bundle "v1-21-1003"] =
      [bundle "v1-021-1003", bundle "v1-21-1003", bundle "v1-21-1001", bundle "zeta",
        bundle "alpha"] := by
  refine ((bundles_sorted_newest_first _).2.2.2.1 _
    ⟨by decide, by decide +kernel, by decide +kernel, fun spelled => ?_⟩).symm
  -- Only three things are spelled; of anything else there are no items.
  by_cases isNone : spelled = none
  · subst isNone
    decide +kernel
  by_cases isLater : spelled = BundleVersion.parse? "v1-21-1003"
  · subst isLater
    decide +kernel
  by_cases isEarlier : spelled = BundleVersion.parse? "v1-21-1001"
  · subst isEarlier
    decide +kernel
  have alike : BundleVersion.parse? "v1-021-1003" = BundleVersion.parse? "v1-21-1003" := by
    decide +kernel
  have none₁ : BundleVersion.parse? "zeta" = none := by decide +kernel
  have none₂ : BundleVersion.parse? "alpha" = none := by decide +kernel
  simp [bundle, Bundle.named, Bundle.name, Metadata.named, alike, none₁, none₂, Ne.symm isNone,
    Ne.symm isLater, Ne.symm isEarlier]

end SortingExample

end BundleTrust
