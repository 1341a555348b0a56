import BundleTrust.Document.Basic
import BundleTrust.Text.JsonLiteral

/-!
# Field paths

A field path names one place in a document by the keys and positions that lead to it.
Paths are ordered step by step, keys before positions, and a path comes before its
extensions; deleting in descending order therefore never moves a place that is still to
be deleted.
-/

namespace BundleTrust

/-- One step into a document. -/
inductive PathStep where
  /-- To the value of a key of a mapping. -/
  | key (name : String)
  /-- To the item at a position of a list. -/
  | position (index : Nat)
  deriving DecidableEq, Repr

/-- The steps that lead from the root of a document to a place in it. -/
abbrev FieldPath := List PathStep

namespace PathStep

/-- The order of steps. -/
def compareWith : PathStep → PathStep → Ordering
  | .key left, .key right => compare left right
  | .key _, .position _ => .lt
  | .position _, .key _ => .gt
  | .position left, .position right => compare left right

instance : Std.LawfulEqCmp compareWith where
  compare_self {step} := by cases step <;> simp [compareWith]
  eq_of_compare {left right} same := by cases left <;> cases right <;> simp_all [compareWith]

instance : Std.TransCmp compareWith where
  eq_swap {left right} := by
    cases left <;> cases right <;> simp only [compareWith]
    · exact Std.OrientedOrd.eq_swap
    · rfl
    · rfl
    · exact Std.OrientedOrd.eq_swap
  isLE_trans {left middle right} first second := by
    cases left <;> cases middle <;> cases right <;> simp_all [compareWith]
    · exact Std.TransOrd.isLE_trans first second
    · exact Std.TransOrd.isLE_trans first second

end PathStep

namespace FieldPath

/-- The path of a list of keys. -/
def ofKeys (keys : List String) : FieldPath :=
  keys.map PathStep.key

/-- The lexicographic order of paths. -/
def compareWith : FieldPath → FieldPath → Ordering
  | [], [] => .eq
  | [], _ :: _ => .lt
  | _ :: _, [] => .gt
  | left :: lefts, right :: rights =>
      match left.compareWith right with
      | .eq => compareWith lefts rights
      | order => order

/-- The order of paths is the lexicographic one of their steps. -/
theorem compareWith_eq_compareLex :
    compareWith = List.compareLex PathStep.compareWith := by
  funext left right
  induction left generalizing right with
  | nil => cases right <;> rfl
  | cons step left ih =>
      cases right with
      | nil => rfl
      | cons step' right =>
          rw [compareWith, List.compareLex, ih]
          cases step.compareWith step' <;> rfl

instance : Std.TransCmp compareWith :=
  compareWith_eq_compareLex ▸ inferInstance

instance : Std.LawfulEqCmp compareWith :=
  compareWith_eq_compareLex ▸ inferInstance

/-- Whether a path does not come after another. -/
def atMost (left right : FieldPath) : Bool :=
  left.compareWith right != .gt

theorem atMost_eq_isLE (left right : FieldPath) :
    left.atMost right = (left.compareWith right).isLE := by
  rw [atMost]
  cases left.compareWith right <;> rfl

theorem atMost_trans
    {left middle right : FieldPath}
    (first : left.atMost middle)
    (second : middle.atMost right) :
    left.atMost right := by
  rw [atMost_eq_isLE] at first second ⊢
  exact Std.TransCmp.isLE_trans first second

theorem atMost_total (left right : FieldPath) :
    left.atMost right || right.atMost left := by
  have swapped : right.compareWith left = (left.compareWith right).swap :=
    Std.OrientedCmp.eq_swap
  rw [atMost_eq_isLE, atMost_eq_isLE, swapped]
  cases left.compareWith right <;> rfl

/-- A path that does not come after a different one comes before it. -/
theorem compareWith_eq_lt_of_atMost
    {left right : FieldPath}
    (order : left.atMost right)
    (different : left ≠ right) :
    left.compareWith right = .lt := by
  cases outcome : left.compareWith right with
  | lt => rfl
  | eq => exact absurd (Std.LawfulEqCmp.eq_of_compare outcome) different
  | gt => simp [atMost, outcome] at order

end FieldPath

namespace Document

/-- The value at a path. -/
def at? : Document → FieldPath → Option Document
  | document, [] => some document
  | .mapping members, .key name :: rest =>
      (Members.get? members name).bind fun value => value.at? rest
  | .list items, .position index :: rest =>
      items[index]?.bind fun item => item.at? rest
  | _, _ :: _ => none

@[simp] theorem at?_nil (document : Document) : document.at? [] = some document := by
  cases document <;> rfl

/-- A key on a path leads to the value of the key. -/
@[simp] theorem at?_key (document : Document) (name : String) (rest : FieldPath) :
    document.at? (.key name :: rest) = (document.get? name).bind fun value => value.at? rest := by
  cases document <;> rfl

/-- Delete the value at a nonempty path; a step that is missing or does not fit leaves the
document as it is. -/
def deleteAt : FieldPath → Document → Document
  | [.key name], .mapping members => .mapping (Members.erase name members)
  | [.position index], .list items => .list (items.eraseIdx index)
  | .key name :: next :: rest, .mapping members =>
      .mapping (Members.modify name (deleteAt (next :: rest)) members)
  | .position index :: next :: rest, .list items =>
      .list (items.modify index (deleteAt (next :: rest)))
  | _, document => document

end Document

end BundleTrust
