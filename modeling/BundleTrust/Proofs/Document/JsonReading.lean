import BundleTrust.Document.JsonShape

/-!
# How JSON texts are read

Every reader takes something off the front of its input (`Shortens`), so the fuel that reading
starts with does not run out: with more of it the same is read (`readNode?_of_le`).  Of a record
only the known fields count: a member with another key may as well be missing, whatever its value
is (`read?_record_of_unknown`), and no known field is there twice (`read?_record_of_repeated`).
-/

namespace BundleTrust
namespace Json

/-! ## Readers take something -/

/-- What a reader leaves is shorter than its input. -/
def Shortens {Value : Type} (read : List Char → Option (Value × List Char)) : Prop :=
  ∀ {source value rest}, read source = some (value, rest) → rest.length < source.length

theorem length_skipSpace_le (source : List Char) :
    (skipSpace source).length ≤ source.length :=
  (List.dropWhile_sublist isSpace).length_le

theorem shortens_splitDigits? : Shortens splitDigits? := by
  intro source digits rest split
  simp only [splitDigits?] at split
  split at split
  · cases split
  · next nonempty =>
      cases split
      have whole := congrArg List.length
        (List.takeWhile_append_dropWhile (p := Text.isDigit) (l := source))
      rw [List.length_append] at whole
      have positive : 0 < (source.takeWhile Text.isDigit).length := by
        simpa [List.length_pos_iff] using nonempty
      omega

theorem shortens_splitWhole? : Shortens splitWhole? := by
  intro source digits rest split
  obtain ⟨taken, isTaken, kept⟩ := Option.bind_eq_some_iff.1 split
  split at kept
  · cases kept
  · cases kept
    exact shortens_splitDigits? isTaken

theorem length_le_of_splitFraction?
    {source rest : List Char}
    {fraction : Option (List Char)}
    (split : splitFraction? source = some (fraction, rest)) :
    rest.length ≤ source.length := by
  unfold splitFraction? at split
  split at split
  · obtain ⟨taken, isTaken, made⟩ := Option.map_eq_some_iff.1 split
    cases made
    have := shortens_splitDigits? isTaken
    simp only [List.length_cons]
    omega
  · cases split
    exact Nat.le_refl _

theorem length_splitSign_le (source : List Char) :
    (splitSign source).2.length ≤ source.length := by
  unfold splitSign
  split <;> simp

theorem length_le_of_splitExponent?
    {source rest : List Char}
    {exponent : Option Int}
    (split : splitExponent? source = some (exponent, rest)) :
    rest.length ≤ source.length := by
  unfold splitExponent? at split
  split at split
  · cases split
    exact Nat.le_refl _
  · next letter tail =>
      split at split
      · obtain ⟨taken, isTaken, made⟩ := Option.bind_eq_some_iff.1 split
        obtain ⟨value, -, made⟩ := Option.map_eq_some_iff.1 made
        cases made
        have := shortens_splitDigits? isTaken
        have := length_splitSign_le tail
        simp only [List.length_cons]
        omega
      · cases split
        exact Nat.le_refl _

theorem shortens_splitNumber? (negative : Bool) : Shortens (splitNumber? negative) := by
  intro source literal rest split
  obtain ⟨⟨whole, afterWhole⟩, isWhole, split⟩ := Option.bind_eq_some_iff.1 split
  obtain ⟨⟨fraction, afterFraction⟩, isFraction, split⟩ := Option.bind_eq_some_iff.1 split
  obtain ⟨⟨exponent, afterExponent⟩, isExponent, made⟩ := Option.bind_eq_some_iff.1 split
  cases made
  calc
    rest.length ≤ afterFraction.length := length_le_of_splitExponent? isExponent
    _ ≤ afterWhole.length := length_le_of_splitFraction? isFraction
    _ < source.length := shortens_splitWhole? isWhole

theorem shortens_splitNumberLiteral? : Shortens splitNumberLiteral? := by
  intro source literal rest split
  unfold splitNumberLiteral? at split
  split at split
  · exact Nat.lt_succ_of_lt (shortens_splitNumber? true split)
  · exact shortens_splitNumber? false split

theorem shortens_splitTextLiteral? : Shortens splitTextLiteral? := by
  intro source
  fun_induction splitTextLiteral? source with
  | case1 => intro _ _ split; cases split
  | case2 rest =>
      intro _ _ split
      cases split
      exact Nat.lt_succ_self _
  | case3 _ _ _ _ rest _ ih | case5 _ rest _ _ ih | case8 _ rest _ _ _ _ ih =>
      intro _ _ split
      obtain ⟨taken, isTaken, made⟩ := Option.map_eq_some_iff.1 split
      cases made
      have := ih isTaken
      simp only [List.length_cons]
      omega
  | case4 | case6 | case7 => intro _ _ split; cases split

/-- Reading a value, items or members takes something, whatever the fuel. -/
structure ReadersShorten (fuel : Nat) : Prop where
  /-- Values. -/
  node : Shortens (readNode? fuel)
  /-- Items of a list. -/
  items : Shortens (readItems? fuel)
  /-- Members of a mapping. -/
  members : Shortens (readMembers? fuel)

section Shorten

variable {fuel : Nat} (shorten : ReadersShorten fuel)

include shorten

theorem ReadersShorten.node_succ : Shortens (readNode? (fuel + 1)) := by
  intro source node rest read
  refine Nat.lt_of_lt_of_le ?_ (length_skipSpace_le source)
  rw [readNode?] at read
  split at read
  · next isText => cases read; simp only [isText, List.length_cons]; omega
  · next isText => cases read; simp only [isText, List.length_cons]; omega
  · next isText => cases read; simp only [isText, List.length_cons]; omega
  · next inner isText =>
      obtain ⟨literal, isLiteral, made⟩ := Option.map_eq_some_iff.1 read
      cases made
      rw [isText]
      exact Nat.lt_succ_of_lt (shortens_splitTextLiteral? isLiteral)
  · next inner isText =>
      rw [isText]
      refine Nat.lt_succ_of_le (Nat.le_trans ?_ (length_skipSpace_le inner))
      split at read
      · next isEmpty => cases read; simp only [isEmpty, List.length_cons]; omega
      · obtain ⟨items, areItems, made⟩ := Option.map_eq_some_iff.1 read
        cases made
        exact Nat.le_of_lt (shorten.items areItems)
  · next inner isText =>
      rw [isText]
      refine Nat.lt_succ_of_le (Nat.le_trans ?_ (length_skipSpace_le inner))
      split at read
      · next isEmpty => cases read; simp only [isEmpty, List.length_cons]; omega
      · obtain ⟨members, areMembers, made⟩ := Option.map_eq_some_iff.1 read
        cases made
        exact Nat.le_of_lt (shorten.members areMembers)
  · obtain ⟨literal, isLiteral, made⟩ := Option.map_eq_some_iff.1 read
    cases made
    exact shortens_splitNumberLiteral? isLiteral

theorem ReadersShorten.items_succ : Shortens (readItems? (fuel + 1)) := by
  intro source items rest read
  rw [readItems?] at read
  split at read
  · cases read
  · next item after isFirst =>
      have first := shorten.node isFirst
      have space := length_skipSpace_le after
      split at read
      · next inner isComma =>
          obtain ⟨others, areOthers, made⟩ := Option.map_eq_some_iff.1 read
          cases made
          have later := shorten.items areOthers
          simp only [isComma, List.length_cons] at space
          omega
      · next isEnd =>
          cases read
          simp only [isEnd, List.length_cons] at space
          omega
      · cases read

theorem ReadersShorten.members_succ : Shortens (readMembers? (fuel + 1)) := by
  intro source members rest read
  refine Nat.lt_of_lt_of_le ?_ (length_skipSpace_le source)
  rw [readMembers?] at read
  split at read
  · next inner isText =>
      rw [isText]
      split at read
      · cases read
      · next key afterKey isKey =>
          have keySpace := length_skipSpace_le afterKey
          have keyTaken := shortens_splitTextLiteral? isKey
          split at read
          · next beforeValue isColon =>
              split at read
              · cases read
              · next value afterValue isValue =>
                  have first := shorten.node isValue
                  have space := length_skipSpace_le afterValue
                  simp only [isColon, List.length_cons] at keySpace ⊢
                  split at read
                  · next inner isComma =>
                      obtain ⟨others, areOthers, made⟩ := Option.map_eq_some_iff.1 read
                      cases made
                      have later := shorten.members areOthers
                      simp only [isComma, List.length_cons] at space
                      omega
                  · next isEnd =>
                      cases read
                      simp only [isEnd, List.length_cons] at space
                      omega
                  · cases read
          · cases read
  · cases read

end Shorten

theorem readersShorten (fuel : Nat) : ReadersShorten fuel := by
  induction fuel with
  | zero => constructor <;> (intro source value rest read; cases read)
  | succ fuel ih => exact ⟨ih.node_succ, ih.items_succ, ih.members_succ⟩

/-! ## The fuel suffices -/

/-- With one unit more than some fuel the same is read from inputs that are not too long. -/
structure FuelSuffices (fuel : Nat) : Prop where
  /-- Values. -/
  node : ∀ {source : List Char}, 2 * source.length < fuel →
    readNode? (fuel + 1) source = readNode? fuel source
  /-- Items of a list. -/
  items : ∀ {source : List Char}, 2 * source.length + 1 < fuel →
    readItems? (fuel + 1) source = readItems? fuel source
  /-- Members of a mapping. -/
  members : ∀ {source : List Char}, 2 * source.length + 1 < fuel →
    readMembers? (fuel + 1) source = readMembers? fuel source

section Suffice

variable {fuel : Nat} {source : List Char} (suffice : FuelSuffices fuel)

include suffice

theorem FuelSuffices.node_succ (short : 2 * source.length < fuel + 1) :
    readNode? (fuel + 1 + 1) source = readNode? (fuel + 1) source := by
  have space := length_skipSpace_le source
  rw [readNode?, readNode?]
  split
  · rfl
  · rfl
  · rfl
  · rfl
  · next inner isText =>
      have innerSpace := length_skipSpace_le inner
      simp only [isText, List.length_cons] at space
      split
      · rfl
      · rw [suffice.items (by omega)]
  · next inner isText =>
      have innerSpace := length_skipSpace_le inner
      simp only [isText, List.length_cons] at space
      split
      · rfl
      · rw [suffice.members (by omega)]
  · rfl

theorem FuelSuffices.items_succ (short : 2 * source.length + 1 < fuel + 1) :
    readItems? (fuel + 1 + 1) source = readItems? (fuel + 1) source := by
  rw [readItems?, readItems?, suffice.node (by omega)]
  split
  · rfl
  · next item after isFirst =>
      have first := (readersShorten fuel).node isFirst
      have space := length_skipSpace_le after
      split
      · next inner isComma =>
          simp only [isComma, List.length_cons] at space
          rw [suffice.items (by omega)]
      · rfl
      · rfl

theorem FuelSuffices.members_succ (short : 2 * source.length + 1 < fuel + 1) :
    readMembers? (fuel + 1 + 1) source = readMembers? (fuel + 1) source := by
  have sourceSpace := length_skipSpace_le source
  rw [readMembers?, readMembers?]
  split
  · next inner isText =>
      simp only [isText, List.length_cons] at sourceSpace
      split
      · rfl
      · next key afterKey isKey =>
          have keyTaken := shortens_splitTextLiteral? isKey
          have keySpace := length_skipSpace_le afterKey
          split
          · next beforeValue isColon =>
              simp only [isColon, List.length_cons] at keySpace
              rw [suffice.node (by omega)]
              split
              · rfl
              · next value afterValue isValue =>
                  have first := (readersShorten fuel).node isValue
                  have space := length_skipSpace_le afterValue
                  split
                  · next inner isComma =>
                      simp only [isComma, List.length_cons] at space
                      rw [suffice.members (by omega)]
                  · rfl
                  · rfl
          · rfl
  · rfl

end Suffice

theorem fuelSuffices (fuel : Nat) : FuelSuffices fuel := by
  induction fuel with
  | zero => constructor <;> (intro source short; omega)
  | succ fuel ih => exact ⟨ih.node_succ, ih.items_succ, ih.members_succ⟩

/-- More fuel than an input asks for reads no more and no less. -/
theorem readNode?_of_le
    {source : List Char}
    {fuel more : Nat}
    (enough : 2 * source.length < fuel)
    (isMore : fuel ≤ more) :
    readNode? more source = readNode? fuel source := by
  induction isMore with
  | refl => rfl
  | @step more isMore ih =>
      have isEnough : 2 * source.length < more := Nat.lt_of_lt_of_le enough isMore
      rw [(fuelSuffices more).node isEnough, ih]

/-- Octets hold the value that is read of them with any fuel that is no less than enough. -/
theorem ofOctets?_eq
    {octets : List UInt8}
    {fuel : Nat}
    (enough : 2 * octets.length < fuel) :
    Node.ofOctets? octets =
      (readNode? fuel (octets.map Char.ofUInt8)).bind fun read =>
        if (skipSpace read.2).isEmpty then some read.1 else none := by
  have sameLength : (octets.map Char.ofUInt8).length = octets.length := List.length_map _
  have same : readNode? fuel (octets.map Char.ofUInt8) =
      readNode? (2 * octets.length + 1) (octets.map Char.ofUInt8) :=
    readNode?_of_le (by omega) enough
  rw [Node.ofOctets?, same]
  cases readNode? (2 * octets.length + 1) (octets.map Char.ofUInt8) <;> rfl

/-! ## Records -/

section Items

variable {Item Result : Type} {read : Item → Option (Option Result)}

/-- What comes of items and further ones is what comes of the former and then of the latter. -/
theorem filterMapM_append (items others : List Item) :
    (items ++ others).filterMapM read =
      (items.filterMapM read).bind fun first => (others.filterMapM read).map (first ++ ·) := by
  induction items with
  | nil => simp
  | cons item items ih =>
      rw [List.cons_append, List.filterMapM_cons, List.filterMapM_cons, ih]
      cases read item with
      | none => rfl
      | some result =>
          cases result with
          | none => rfl
          | some result =>
              cases items.filterMapM read with
              | none => rfl
              | some first => cases others.filterMapM read <;> rfl

/-- What comes of an item stands between what comes of those before it and after it. -/
theorem exists_of_filterMapM_append_cons
    {items others : List Item}
    {item : Item}
    {results : List Result}
    (done : (items ++ item :: others).filterMapM read = some results) :
    ∃ first result later, read item = some result ∧ others.filterMapM read = some later ∧
      results = first ++ result.toList ++ later := by
  rw [filterMapM_append, List.filterMapM_cons] at done
  obtain ⟨first, -, done⟩ := Option.bind_eq_some_iff.1 done
  obtain ⟨more, areMore, rfl⟩ := Option.map_eq_some_iff.1 done
  obtain ⟨result, isResult, areMore⟩ := Option.bind_eq_some_iff.1 areMore
  cases result with
  | none => exact ⟨first, none, more, isResult, areMore, by simp⟩
  | some result =>
      obtain ⟨later, areLater, made⟩ := Option.bind_eq_some_iff.1 areMore
      cases made
      exact ⟨first, some result, later, isResult, areLater, by simp⟩

end Items

section Records

variable {depth : Nat} {fields : List (String × Shape)} {member again : List Char × Node}
  {before between after : List (List Char × Node)} {key : String}

theorem readField?_of_unknown
    (isKey : textOfLiteral? member.1 = some key)
    (isUnknown : fields.lookup key = none)
    (read : Shape → Node → Option Document) :
    readField? fields read member = some none := by
  simp [readField?, isKey, isUnknown]

theorem exists_of_readField?
    {shape : Shape}
    {read : Shape → Node → Option Document}
    {result : Option (String × Document)}
    (isKey : textOfLiteral? member.1 = some key)
    (isKnown : fields.lookup key = some shape)
    (isRead : readField? fields read member = some result) :
    ∃ value, result = some (key, value) := by
  simp only [readField?, isKey, isKnown, Option.bind_eq_bind, Option.bind_some] at isRead
  obtain ⟨value, -, made⟩ := Option.bind_eq_some_iff.1 isRead
  cases made
  exact ⟨value, rfl⟩

/-- A member with a key that no field has may as well be missing, whatever its value is. -/
theorem read?_record_of_unknown
    (isKey : textOfLiteral? member.1 = some key)
    (isUnknown : fields.lookup key = none) :
    (Node.mapping (before ++ member :: after)).read? (depth + 1) (.record fields) =
      (Node.mapping (before ++ after)).read? (depth + 1) (.record fields) := by
  simp only [Node.read?, filterMapM_append, List.filterMapM_cons,
    readField?_of_unknown isKey isUnknown, Option.bind_eq_bind, Option.bind_some]

/-- Half of a surrogate pair is no text, but nobody looks at it here. -/
example :
    readAs? (.record [("digest", .text)])
        (Text.octets "\x7b\"digest\": \"d\", \"note\": \"\\ud800\"\x7d") =
      some (.mapping [("digest", .text "d")]) := by
  decide +kernel

/-- No field is there twice. -/
theorem read?_record_of_repeated
    {shape : Shape}
    (isKnown : fields.lookup key = some shape)
    (isKey : textOfLiteral? member.1 = some key)
    (isAgain : textOfLiteral? again.1 = some key) :
    (Node.mapping (before ++ member :: (between ++ again :: after))).read? (depth + 1)
      (.record fields) = none := by
  refine Option.eq_none_iff_forall_ne_some.2 fun document isRead => ?_
  obtain ⟨results, areRead, isUnique⟩ := Option.bind_eq_some_iff.1 isRead
  obtain ⟨first, _, later, isResult, areLater, rfl⟩ := exists_of_filterMapM_append_cons areRead
  obtain ⟨second, _, last, isResult', -, rfl⟩ := exists_of_filterMapM_append_cons areLater
  obtain ⟨value, rfl⟩ := exists_of_readField? isKey isKnown isResult
  obtain ⟨value', rfl⟩ := exists_of_readField? isAgain isKnown isResult'
  rw [if_neg (by simp [List.nodup_append])] at isUnique
  cases isUnique

example :
    readAs? (.record [("digest", .text)])
      (Text.octets "\x7b\"digest\": \"d\", \"di\\u0067est\": \"d\"\x7d") = none := by
  decide +kernel

end Records

end Json
end BundleTrust
