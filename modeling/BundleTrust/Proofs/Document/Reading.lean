import BundleTrust.Document.JsonShape
import BundleTrust.Signature.Digest
import BundleTrust.Yaml.Shape

/-!
# Documents that are read

Whatever text is read, as JSON or as YAML, the document that comes of it is sorted: the keys of
every mapping are in strictly ascending order.
-/

namespace BundleTrust

open Document

/-! ## JSON -/

namespace Json

theorem sorted_of_toReal?
    {literal : NumberLiteral}
    {document : Document}
    (read : literal.toReal? = some document) :
    document.Sorted := by
  obtain ⟨value, -, rfl⟩ := Option.map_eq_some_iff.1 read
  simp [Sorted]

/-- A number is sorted. -/
theorem sorted_of_toDocument?
    {literal : NumberLiteral}
    {document : Document}
    (read : literal.toDocument? = some document) :
    document.Sorted := by
  simp only [NumberLiteral.toDocument?] at read
  split at read
  · split at read
    · split at read
      · exact sorted_of_toReal? read
      · split at read
        · cases read
          simp [Sorted]
        · exact sorted_of_toReal? read
    · split at read
      · cases read
        simp [Sorted]
      · exact sorted_of_toReal? read
  · exact sorted_of_toReal? read

section Items

variable {Item Result : Type} {holds : Result → Prop} {results : List Result}

theorem forall_of_mapM
    {read : Item → Option Result}
    (each : ∀ item result, read item = some result → holds result)
    {items : List Item}
    (done : items.mapM read = some results) :
    ∀ result ∈ results, holds result := by
  induction items generalizing results with
  | nil =>
      cases done
      simp
  | cons item items ih =>
      rw [List.mapM_cons] at done
      obtain ⟨result, first, others⟩ := Option.bind_eq_some_iff.1 done
      obtain ⟨results, later, made⟩ := Option.bind_eq_some_iff.1 others
      cases made
      exact List.forall_mem_cons.2 ⟨each item result first, ih later⟩

theorem forall_of_filterMapM
    {read : Item → Option (Option Result)}
    (each : ∀ item result, read item = some (some result) → holds result)
    {items : List Item}
    (done : items.filterMapM read = some results) :
    ∀ result ∈ results, holds result := by
  induction items generalizing results with
  | nil =>
      cases done
      simp
  | cons item items ih =>
      rw [List.filterMapM_cons] at done
      obtain ⟨result, first, others⟩ := Option.bind_eq_some_iff.1 done
      cases result with
      | none => exact ih others
      | some result =>
          obtain ⟨results, later, made⟩ := Option.bind_eq_some_iff.1 others
          cases made
          exact List.forall_mem_cons.2 ⟨each item result first, ih later⟩

end Items

/-- A mapping whose members come from reading is sorted if their values are. -/
theorem sorted_of_members
    {read : Option Members}
    {document : Document}
    (made : (do return mapping (Members.ofList (← read))) = some document)
    (sorted : ∀ members, read = some members → ∀ member ∈ members, member.2.Sorted) :
    document.Sorted := by
  obtain ⟨members, isRead, made⟩ := Option.bind_eq_some_iff.1 made
  cases made
  exact .ofList (sortedMembers_iff.2 (sorted members isRead))

/-- A member is sorted if its value is, wherever its key comes from. -/
theorem sorted_of_member
    {name : Option String}
    {value : Option Document}
    {member : String × Document}
    (made : (do return (← name, ← value)) = some member)
    (sorted : ∀ {document}, value = some document → document.Sorted) :
    member.2.Sorted := by
  obtain ⟨key, -, made⟩ := Option.bind_eq_some_iff.1 made
  obtain ⟨document, isValue, made⟩ := Option.bind_eq_some_iff.1 made
  cases made
  exact sorted isValue

/-- A value that is read by a shape is sorted. -/
theorem sorted_of_nodeRead?
    {depth : Nat}
    {shape : Shape}
    {node : Node}
    {document : Document}
    (read : node.read? depth shape = some document) :
    document.Sorted := by
  fun_induction Node.read? depth shape node generalizing document with
  | case1 | case2 => cases read; simp [Sorted]
  | case3 => exact sorted_of_toDocument? read
  | case4 | case7 =>
      obtain ⟨text, -, rfl⟩ := Option.map_eq_some_iff.1 read
      simp [Sorted]
  | case5 depth items ih | case9 depth item items ih =>
      obtain ⟨documents, isRead, rfl⟩ := Option.map_eq_some_iff.1 read
      rw [Sorted]
      exact sortedItems_iff.2 (forall_of_mapM (fun item _ => ih item) isRead)
  | case6 depth members ih | case8 depth members ih =>
      refine sorted_of_members read fun read isRead => forall_of_mapM ?_ isRead
      exact fun member _ made => sorted_of_member made (ih member)
  | case10 depth fields members ih =>
      obtain ⟨members, isRead, made⟩ := Option.bind_eq_some_iff.1 read
      split at made
      · cases made
        refine .ofList (sortedMembers_iff.2 (forall_of_filterMapM ?_ isRead))
        intro member result made
        obtain ⟨key, -, made⟩ := Option.bind_eq_some_iff.1 made
        split at made
        · next shape _ =>
            obtain ⟨value, isValue, made⟩ := Option.bind_eq_some_iff.1 made
            cases made
            exact ih shape member.2 isValue
        · cases made
      · cases made
  | case11 depth fields items _ ih =>
      refine sorted_of_members read fun read isRead => forall_of_mapM ?_ isRead
      exact fun field _ made => @sorted_of_member (some field.1.1) _ _ made (ih field)
  | case12 | case13 => cases read

/-- A document that is read from JSON is sorted. -/
theorem sorted_of_readAs?
    {shape : Shape}
    {octets : List UInt8}
    {document : Document}
    (read : readAs? shape octets = some document) :
    document.Sorted := by
  obtain ⟨node, -, isDocument⟩ := Option.bind_eq_some_iff.1 read
  exact sorted_of_nodeRead? isDocument

end Json

/-! ## YAML -/

namespace Yaml

/-- Every value that a reading yields has a property. -/
def Yields {Value : Type} (reading : Reading Value) (holds : Value → Prop) : Prop :=
  ∀ followed value after, reading followed = some (value, after) → holds value

namespace Yields

variable {Value Result : Type} {reading : Reading Value} {holds : Result → Prop}

theorem pure
    {value : Result}
    (isSo : holds value) :
    Yields (Pure.pure value) holds := by
  intro followed result after yields
  cases yields
  exact isSo

theorem failure : Yields failure holds := by
  intro followed result after yields
  cases yields

theorem bind
    {next : Value → Reading Result}
    {first : Value → Prop}
    (yields : Yields reading first)
    (others : ∀ value, first value → Yields (next value) holds) :
    Yields (reading >>= next) holds := by
  intro followed result after done
  obtain ⟨⟨value, between⟩, isFirst, isNext⟩ := Option.bind_eq_some_iff.1 done
  exact others value (yields _ _ _ isFirst) _ _ _ isNext

/-- What is read first does not matter. -/
theorem bind_any
    {next : Value → Reading Result}
    (others : ∀ value, Yields (next value) holds) :
    Yields (reading >>= next) holds :=
  bind (fun _ _ _ _ => trivial : Yields reading fun _ => True) fun value _ => others value

theorem mapM
    {Item : Type}
    {read : Item → Reading Result}
    (each : ∀ item, Yields (read item) holds)
    (items : List Item) :
    Yields (items.mapM read) fun results => ∀ result ∈ results, holds result := by
  induction items with
  | nil => exact pure (by simp)
  | cons item items ih =>
      rw [List.mapM_cons]
      refine bind (each item) fun result isSo => bind ih fun results areSo => pure ?_
      exact List.forall_mem_cons.2 ⟨isSo, areSo⟩

theorem filterMapM
    {Item : Type}
    {read : Item → Reading (Option Result)}
    (each : ∀ item, Yields (read item) fun result => ∀ value ∈ result, holds value)
    (items : List Item) :
    Yields (items.filterMapM read) fun results => ∀ result ∈ results, holds result := by
  induction items with
  | nil => exact pure (by simp)
  | cons item items ih =>
      rw [List.filterMapM_cons]
      refine bind (each item) fun result isSo => ?_
      cases result with
      | none => exact ih
      | some value =>
          refine bind ih fun results areSo => pure ?_
          exact List.forall_mem_cons.2 ⟨isSo value rfl, areSo⟩

end Yields

/-- What comes of a value by a constructor of scalars is sorted. -/
theorem sorted_of_map
    {Value : Type}
    {found : Option Value}
    {make : Value → Document}
    {document : Document}
    (made : found.map make = some document)
    (scalar : ∀ value, (make value).Sorted) :
    document.Sorted := by
  obtain ⟨value, -, rfl⟩ := Option.map_eq_some_iff.1 made
  exact scalar value

theorem sorted_of_resolvePlain
    {value : PlainValue}
    {text : String}
    {document : Document}
    (denoted : (match value with
      | .null => some .null
      | .boolean value => some (.boolean value)
      | .integer value => (WideInteger.ofInt? value).map .integer
      | .real value => some (.real value)
      | .nonFinite => some .null
      | .text => some (.text text)) = some document) :
    document.Sorted := by
  cases value with
  | integer value => exact sorted_of_map denoted fun _ => by simp [Sorted]
  | _ =>
      cases denoted
      simp [Sorted]

theorem sorted_of_resolveScalar?
    {tag : Option Tag}
    {form : ScalarForm}
    {text : String}
    {document : Document}
    (resolved : resolveScalar? tag form text = some document) :
    document.Sorted := by
  simp only [resolveScalar?] at resolved
  split at resolved
  · split at resolved
    · exact sorted_of_resolvePlain resolved
    · cases resolved
      simp [Sorted]
  · exact sorted_of_map resolved fun _ => by simp [Sorted]
  · exact sorted_of_map resolved fun _ => by simp [Sorted]
  · split at resolved
    · cases resolved
      simp [Sorted]
    · exact sorted_of_map resolved fun _ => by simp [Sorted]
  · split at resolved
    · cases resolved
      simp [Sorted]
    · cases resolved
  · cases resolved
  · split at resolved
    · exact sorted_of_resolvePlain resolved
    · cases resolved
      simp [Sorted]
  · cases resolved
    simp [Sorted]

/-- What no document denotes is sorted. -/
theorem sorted_of_absent?
    {shape : Shape}
    {document : Document}
    (denoted : absent? shape = some document) :
    document.Sorted := by
  cases shape <;> cases denoted <;>
    simp [Document.empty, Sorted, SortedItems, SortedMembers, Members.Ascending]

theorem sorted_of_scalarOfShape?
    {shape : Shape}
    {tag : Option Tag}
    {form : ScalarForm}
    {text : String}
    {document : Document}
    (isScalar : scalarOfShape? shape tag form text = some document) :
    document.Sorted := by
  cases shape with
  | value => exact sorted_of_resolveScalar? isScalar
  | text =>
      cases isScalar
      simp [Sorted]
  | flag =>
      simp only [scalarOfShape?] at isScalar
      split at isScalar
      · exact sorted_of_map isScalar fun _ => by simp [Sorted]
      · cases isScalar
  | natural limit =>
      simp only [scalarOfShape?] at isScalar
      split at isScalar
      · exact sorted_of_map isScalar fun _ => by simp [Sorted]
      · cases isScalar
  | integer least greatest =>
      simp only [scalarOfShape?] at isScalar
      split at isScalar
      · obtain ⟨value, -, made⟩ := Option.bind_eq_some_iff.1 isScalar
        split at made
        · exact sorted_of_map made fun _ => by simp [Sorted]
        · cases made
      · cases isScalar
  | choice =>
      simp only [scalarOfShape?] at isScalar
      split at isScalar
      · split at isScalar
        · cases isScalar
          simp [Sorted]
        · cases isScalar
      · cases isScalar
        simp [Sorted]
  | list _ | texts | record _ =>
      obtain ⟨-, isEmpty⟩ := Option.ite_none_right_eq_some.1 isScalar
      cases isEmpty
      simp [Document.empty, Sorted, SortedItems, SortedMembers, Members.Ascending]
  | optional shape => cases isScalar

theorem yields_list
    {read : Node Nat → Reading Document}
    (each : ∀ node, Yields (read node) Document.Sorted)
    (items : List (Node Nat)) :
    Yields (do return .list (← items.mapM read)) Document.Sorted := by
  refine .bind (.mapM each items) fun items areSorted => .pure ?_
  rw [Sorted]
  exact sortedItems_iff.2 areSorted

theorem yields_member
    {value : Reading Document}
    (key : Reading String)
    (sorted : Yields value Document.Sorted) :
    Yields (do return (← key, ← value)) fun member : String × Document => member.2.Sorted :=
  .bind_any fun _ => .bind sorted fun _ valueSorted => .pure valueSorted

theorem yields_mapping
    {read : Node Nat × Node Nat → Reading (String × Document)}
    (each : ∀ entry, Yields (read entry) fun member => member.2.Sorted)
    (entries : List (Node Nat × Node Nat)) :
    Yields (do return .mapping (Members.ofList (← entries.mapM read))) Document.Sorted :=
  .bind (.mapM each entries) fun _ areSorted => .pure (.ofList (sortedMembers_iff.2 areSorted))

theorem yields_record
    {read : Node Nat × Node Nat → Reading (Option (String × Document))}
    (each : ∀ entry, Yields (read entry) fun result => ∀ member ∈ result, member.2.Sorted)
    (entries : List (Node Nat × Node Nat)) :
    Yields (do
      let members ← entries.filterMapM read
      if (members.map Prod.fst).Nodup then return .mapping (Members.ofList members)
      else failure) Document.Sorted := by
  refine .bind (.filterMapM each entries) fun members areSorted => ?_
  split
  · exact .pure (.ofList (sortedMembers_iff.2 areSorted))
  · exact .failure

/-- A node is read as a sorted document. -/
theorem yields_sorted
    (document : LinkedDocument)
    (depth : Nat)
    (shape : Shape)
    (node : Node Nat) :
    Yields (readNode document depth shape node) Document.Sorted := by
  induction depth using Nat.strongRecOn generalizing shape node with
  | ind depth ih =>
      rw [readNode]
      refine .bind_any fun node => ?_
      cases node with
      | «alias» number => exact .failure
      | scalar properties form text =>
          dsimp only
          cases isScalar : scalarOfShape? shape.required properties.tag form text with
          | none =>
              split
              · split
                · exact .pure (by simp [Sorted])
                · exact .failure
                · exact .bind_any fun _ => .failure
              · exact .failure
          | some value =>
              have denoted : Yields (Pure.pure value) Document.Sorted :=
                .pure (sorted_of_scalarOfShape? isScalar)
              split
              · split
                · exact .pure (by simp [Sorted])
                · exact denoted
                · exact .bind_any fun _ => denoted
              · exact denoted
      | list properties items =>
          dsimp only
          split
          · next inner _ =>
              have listed := yields_list (ih inner (Nat.lt_succ_self inner) .value) items
              split
              · exact .bind_any fun _ => listed
              · exact listed
          · next inner item _ =>
              exact yields_list (ih inner (Nat.lt_succ_self inner) item) items
          · exact .failure
      | mapping properties entries =>
          dsimp only
          split
          · next inner _ =>
              have valueSorted := ih inner (Nat.lt_succ_self inner) .value
              have collected := yields_mapping
                (fun entry => yields_member (readKey document entry.1) (valueSorted entry.2))
                entries
              split
              · exact .bind_any fun _ => collected
              · exact collected
          · next inner _ =>
              have textSorted := ih inner (Nat.lt_succ_self inner) .text
              exact yields_mapping
                (fun entry => yields_member (readKey document entry.1) (textSorted entry.2)) entries
          · next inner fields _ =>
              refine yields_record (fun entry => .bind_any fun key => ?_) entries
              split
              · next shape _ =>
                  refine .bind (ih inner (Nat.lt_succ_self inner) shape entry.2) ?_
                  intro value sorted
                  exact .pure (by rintro _ ⟨⟩; exact sorted)
              · exact .pure (by rintro _ ⟨⟩)
          · exact .failure

/-- A document that is read from YAML is sorted. -/
theorem sorted_of_readAs?
    {shape : Shape}
    {text : String}
    {document : Document}
    (read : readAs? shape text = some document) :
    document.Sorted := by
  obtain ⟨tokens, -, isRoot⟩ := Option.bind_eq_some_iff.1 read
  split at isRoot
  · cases isRoot
  · exact sorted_of_absent? isRoot
  · obtain ⟨linked, -, isDocument⟩ := Option.bind_eq_some_iff.1 isRoot
    obtain ⟨⟨value, followed⟩, yields, rfl⟩ := Option.map_eq_some_iff.1 isDocument
    exact yields_sorted linked _ _ _ _ _ _ yields

end Yaml

/-- A manifest that is read is sorted. -/
theorem sorted_of_readManifest
    {text : String}
    {manifest : Document}
    (read : readManifest text = .ok manifest) :
    manifest.Sorted := by
  rw [readManifest] at read
  split at read
  · next document isDocument =>
      split at read
      · cases read
        exact Yaml.sorted_of_readAs? isDocument
      · cases read
  · cases read

end BundleTrust
