import BundleTrust.Document.Selector
import BundleTrust.Proofs.Text.JsonLiteral
import BundleTrust.Text.Pieces

/-!
# The grammar of selectors

Which texts denote which paths (`IsSelector`), said without reading them, and how their steps are
told apart: a bracket and a literal end where they close, and an identifier as late as it can
(`areTails_iff`).  The written form of a path is one of its texts once it starts with a full stop
(`isSelector_render`, `isSelector_dot_render`).
-/

namespace BundleTrust
namespace Selector

/-! ## The grammar -/

/-- A bracket of a step. -/
inductive IsBracket : List Char → PathStep → Prop where
  /-- Around a literal. -/
  | key {literal : List Char} {name : String} :
      Text.IsJsonLiteral literal name → IsBracket ('[' :: (literal ++ [']'])) (.key name)
  /-- Around decimal digits, leading zeros allowed. -/
  | position {digits : List Char} :
      digits ≠ [] → (∀ digit ∈ digits, Text.isDigit digit = true) →
      Text.numeralValue 10 digits < positionLimit →
      IsBracket ('[' :: (digits ++ [']'])) (.position (Text.numeralValue 10 digits))

/-- What may stand for a step behind a full stop. -/
inductive IsStep : List Char → PathStep → Prop where
  /-- An identifier. -/
  | identifier {first : Char} {rest : List Char} :
      isIdentifierStart first = true → (∀ part ∈ rest, isIdentifierPart part = true) →
      IsStep (first :: rest) (.key (String.ofList (first :: rest)))
  /-- A literal. -/
  | literal {literal : List Char} {name : String} :
      Text.IsJsonLiteral literal name → IsStep literal (.key name)
  /-- A bracket. -/
  | bracket {written : List Char} {step : PathStep} :
      IsBracket written step → IsStep written step

/-- What may stand for a step after another one. -/
inductive IsTail : List Char → PathStep → Prop where
  /-- A full stop and the step. -/
  | dotted {written : List Char} {step : PathStep} :
      IsStep written step → IsTail ('.' :: written) step
  /-- A bracket alone. -/
  | bracket {written : List Char} {step : PathStep} :
      IsBracket written step → IsTail written step

/-- Any number of steps after another one. -/
inductive AreTails : List Char → FieldPath → Prop where
  /-- None. -/
  | nil : AreTails [] []
  /-- One step, then others. -/
  | cons {written others : List Char} {step : PathStep} {path : FieldPath} :
      IsTail written step → AreTails others path → AreTails (written ++ others) (step :: path)

/-- A selector of a path: a full stop, a step, and further steps. -/
inductive IsSelector : List Char → FieldPath → Prop where
  /-- Its steps in order. -/
  | steps {head tail : List Char} {step : PathStep} {path : FieldPath} :
      IsStep head step → AreTails tail path → IsSelector ('.' :: (head ++ tail)) (step :: path)

theorem IsBracket.head
    {written : List Char}
    {step : PathStep}
    (isBracket : IsBracket written step) :
    ∃ inside, written = '[' :: inside := by
  cases isBracket with
  | key => exact ⟨_, rfl⟩
  | position => exact ⟨_, rfl⟩

/-- Further steps start with a full stop or a bracket. -/
theorem AreTails.head
    {source : List Char}
    {path : FieldPath}
    (areTails : AreTails source path) :
    ∀ first, source.head? = some first → first = '.' ∨ first = '[' := by
  intro first isFirst
  cases areTails with
  | nil => cases isFirst
  | cons isTail =>
      cases isTail with
      | dotted => exact .inl (Option.some.inj isFirst).symm
      | bracket isBracket =>
          obtain ⟨inside, rfl⟩ := isBracket.head
          exact .inr (Option.some.inj isFirst).symm

/-- No steps take no characters. -/
theorem AreTails.eq_nil {source : List Char} (areTails : AreTails source []) : source = [] := by
  cases areTails
  rfl

/-- A selector is a full stop before what would be further steps, where the first of these has a
full stop of its own. -/
theorem isSelector_iff {source : List Char} {path : FieldPath} :
    IsSelector source path ↔ (∃ rest, source = '.' :: rest) ∧ AreTails source path := by
  constructor
  · rintro ⟨isStep, areTails⟩
    exact ⟨⟨_, rfl⟩, .cons (.dotted isStep) areTails⟩
  · rintro ⟨⟨rest, rfl⟩, areTails⟩
    generalize same : '.' :: rest = source at areTails
    cases areTails with
    | nil => cases same
    | cons isTail areTails =>
        cases isTail with
        | dotted isStep =>
            cases same
            exact .steps isStep areTails
        | bracket isBracket =>
            obtain ⟨inside, rfl⟩ := isBracket.head
            cases same

/-! ## Steps one at a time

Steps as they are read off characters, each with the characters behind it. -/

/-- Read the closing bracket of a step. -/
def closeBracket? (step : PathStep) : List Char → Option (PathStep × List Char)
  | ']' :: rest => some (step, rest)
  | _ => none

/-- Read what stands inside a bracket, and the closing bracket. -/
def readBracket? : List Char → Option (PathStep × List Char)
  | '"' :: rest =>
      (Text.readJsonLiteral? ('"' :: rest)).bind fun literal =>
        closeBracket? (.key literal.1) literal.2
  | source =>
      (Text.readDecimalBelow? positionLimit (source.takeWhile Text.isDigit)).bind fun index =>
        closeBracket? (.position index) (source.dropWhile Text.isDigit)

/-- Read a step after a full stop. -/
def readStep? : List Char → Option (PathStep × List Char)
  | '[' :: rest => readBracket? rest
  | '"' :: rest =>
      (Text.readJsonLiteral? ('"' :: rest)).map fun literal => (.key literal.1, literal.2)
  | first :: rest =>
      if isIdentifierStart first then
        some (.key (String.ofList (first :: rest.takeWhile isIdentifierPart)),
          rest.dropWhile isIdentifierPart)
      else none
  | [] => none

/-- Read a step after another one. -/
def readTail? : List Char → Option (PathStep × List Char)
  | '.' :: rest => readStep? rest
  | '[' :: rest => readBracket? rest
  | _ => none

section Steps

variable {source rest written : List Char} {step : PathStep} {path : FieldPath}

/-- No digit is a quote. -/
theorem ne_quote_of_isDigit {digit : Char} (isDigit : Text.isDigit digit = true) : digit ≠ '"' := by
  rintro rfl
  cases isDigit

theorem closeBracket?_eq_some_iff {step' : PathStep} :
    closeBracket? step source = some (step', rest) ↔ source = ']' :: rest ∧ step' = step := by
  unfold closeBracket?
  split
  · simp [and_comm, eq_comm]
  · next noBracket => simpa using fun isBracket _ => noBracket rest isBracket

/-- What is read behind a bracket stood in it. -/
theorem exists_bracket_of_readBracket? (isRead : readBracket? source = some (step, rest)) :
    ∃ written, '[' :: source = written ++ rest ∧ IsBracket written step := by
  unfold readBracket? at isRead
  split at isRead
  · obtain ⟨⟨name, after⟩, taken, closes⟩ := Option.bind_eq_some_iff.1 isRead
    obtain ⟨rfl, rfl⟩ := closeBracket?_eq_some_iff.1 closes
    obtain ⟨literal, isAll, isLiteral⟩ := Text.readJsonLiteral?_eq_some_iff.1 taken
    exact ⟨'[' :: (literal ++ [']']), by simp [isAll], .key isLiteral⟩
  · obtain ⟨index, isIndex, closes⟩ := Option.bind_eq_some_iff.1 isRead
    obtain ⟨isClosed, rfl⟩ := closeBracket?_eq_some_iff.1 closes
    obtain ⟨nonempty, digits, rfl, small⟩ := Text.readDecimalBelow?_eq_some_iff.1 isIndex
    refine ⟨'[' :: (source.takeWhile Text.isDigit ++ [']']), ?_, .position nonempty digits small⟩
    have isAll := List.takeWhile_append_dropWhile (p := Text.isDigit) (l := source)
    rw [isClosed] at isAll
    simp [isAll]

/-- A bracket is read up to where it closes. -/
theorem readBracket?_append
    {inside : List Char}
    (isBracket : IsBracket ('[' :: inside) step)
    (rest : List Char) :
    readBracket? (inside ++ rest) = some (step, rest) := by
  generalize same : '[' :: inside = written at isBracket
  cases isBracket with
  | @key literal name isLiteral =>
      cases same
      have isRead : Text.readJsonLiteral? (literal ++ ']' :: rest) = some (name, ']' :: rest) :=
        Text.readJsonLiteral?_eq_some_iff.2 ⟨literal, rfl, isLiteral⟩
      rw [List.append_assoc, List.singleton_append]
      cases isLiteral with
      | quoted isBody =>
          rw [List.cons_append, List.cons_append] at isRead ⊢
          rw [readBracket?, isRead]
          rfl
  | @position digits nonempty areDigits small =>
      cases same
      obtain ⟨digit, digits, rfl⟩ := List.exists_cons_of_ne_nil nonempty
      have isIndex := Text.readDecimalBelow?_eq_some_iff.2 ⟨nonempty, areDigits, rfl, small⟩
      have closing : ∀ first, (']' :: rest).head? = some first → Text.isDigit first = false := by
        rintro first isFirst
        cases isFirst
        decide
      obtain ⟨isRun, isClosed⟩ := Text.run_append areDigits closing
      rw [List.append_assoc, List.singleton_append]
      rw [List.cons_append] at isRun isClosed ⊢
      rw [readBracket?, isRun, isClosed]
      · rw [isIndex]
        rfl
      · exact fun _ same => ne_quote_of_isDigit (areDigits digit List.mem_cons_self)
          (List.cons.inj same).1

/-- What is read behind a full stop is a step. -/
theorem exists_step_of_readStep? (isRead : readStep? source = some (step, rest)) :
    ∃ written, source = written ++ rest ∧ IsStep written step := by
  unfold readStep? at isRead
  split at isRead
  · obtain ⟨written, isAll, isBracket⟩ := exists_bracket_of_readBracket? isRead
    exact ⟨written, isAll, .bracket isBracket⟩
  · obtain ⟨⟨name, rest'⟩, isName, same⟩ := Option.map_eq_some_iff.1 isRead
    cases same
    obtain ⟨literal, isAll, isLiteral⟩ := Text.readJsonLiteral?_eq_some_iff.1 isName
    exact ⟨literal, isAll, .literal isLiteral⟩
  · next first source _ _ =>
      split at isRead
      · next starts =>
          cases isRead
          have areParts : ∀ part ∈ source.takeWhile isIdentifierPart,
              isIdentifierPart part = true :=
            List.all_eq_true.1 List.all_takeWhile
          exact ⟨first :: source.takeWhile isIdentifierPart, by simp, .identifier starts areParts⟩
      · cases isRead
  · cases isRead

/-- A step is read as far as it goes, given that it does not go on as an identifier. -/
theorem readStep?_append
    (isStep : IsStep written step)
    (ends : ∀ first, rest.head? = some first → isIdentifierPart first = false) :
    readStep? (written ++ rest) = some (step, rest) := by
  cases isStep with
  | @identifier first parts starts areParts =>
      obtain ⟨isRun, isRest⟩ := Text.run_append areParts ends
      have noBracket : first ≠ '[' := by rintro rfl; cases starts
      have noQuote : first ≠ '"' := by rintro rfl; cases starts
      rw [List.cons_append, readStep?, if_pos starts, isRun, isRest]
      · exact fun same => noBracket same
      · exact fun same => noQuote same
  | @literal literal name isLiteral =>
      have isRead : Text.readJsonLiteral? (written ++ rest) = some (name, rest) :=
        Text.readJsonLiteral?_eq_some_iff.2 ⟨written, rfl, isLiteral⟩
      cases isLiteral with
      | quoted isBody =>
          rw [List.cons_append, List.cons_append] at isRead ⊢
          rw [readStep?, isRead]
          rfl
  | bracket isBracket =>
      obtain ⟨inside, rfl⟩ := isBracket.head
      rw [List.cons_append, readStep?, readBracket?_append isBracket]

/-- No identifier goes on into further steps. -/
theorem AreTails.ends (areTails : AreTails rest path) :
    ∀ first, rest.head? = some first → isIdentifierPart first = false := by
  intro first isFirst
  rcases areTails.head first isFirst with rfl | rfl <;> rfl

/-- What is read after a step is one that may stand there. -/
theorem exists_tail_of_readTail? (isRead : readTail? source = some (step, rest)) :
    ∃ written, source = written ++ rest ∧ IsTail written step := by
  unfold readTail? at isRead
  split at isRead
  · obtain ⟨written, rfl, isStep⟩ := exists_step_of_readStep? isRead
    exact ⟨'.' :: written, rfl, .dotted isStep⟩
  · obtain ⟨written, isAll, isBracket⟩ := exists_bracket_of_readBracket? isRead
    exact ⟨written, isAll, .bracket isBracket⟩
  · cases isRead

/-- A step after another one is read as far as it goes. -/
theorem readTail?_append
    (isTail : IsTail written step)
    (ends : ∀ first, rest.head? = some first → isIdentifierPart first = false) :
    readTail? (written ++ rest) = some (step, rest) := by
  cases isTail with
  | dotted isStep => exact readStep?_append isStep ends
  | bracket isBracket =>
      obtain ⟨inside, rfl⟩ := isBracket.head
      exact readBracket?_append isBracket rest

/-- Further steps are none, or the one that is read and others. -/
theorem areTails_iff :
    AreTails source path ↔
      source = [] ∧ path = [] ∨
        ∃ step rest more, readTail? source = some (step, rest) ∧ AreTails rest more ∧
          path = step :: more := by
  constructor
  · intro areTails
    cases areTails with
    | nil => exact .inl ⟨rfl, rfl⟩
    | cons isTail areTails =>
        exact .inr ⟨_, _, _, readTail?_append isTail areTails.ends, areTails, rfl⟩
  · rintro (⟨rfl, rfl⟩ | ⟨step, rest, more, isRead, areTails, rfl⟩)
    · exact .nil
    · obtain ⟨written, rfl, isTail⟩ := exists_tail_of_readTail? isRead
      exact .cons isTail areTails

theorem areTails_nil_iff : AreTails [] path ↔ path = [] := by
  rw [areTails_iff]
  simp [readTail?]

/-- Further steps are the one that is read, and others. -/
theorem areTails_iff_of_readTail? (isRead : readTail? source = some (step, rest)) :
    AreTails source path ↔ ∃ more, AreTails rest more ∧ path = step :: more := by
  rw [areTails_iff, isRead]
  constructor
  · rintro (⟨rfl, -⟩ | ⟨_, _, more, same, areTails, rfl⟩)
    · cases isRead
    · cases same
      exact ⟨more, areTails, rfl⟩
  · rintro ⟨more, areTails, rfl⟩
    exact .inr ⟨step, rest, more, rfl, areTails, rfl⟩

/-- Where no step is read, there are none. -/
theorem eq_nil_of_readTail? (isNone : readTail? source = none) (areTails : AreTails source path) :
    source = [] := by
  rw [areTails_iff, isNone] at areTails
  rcases areTails with ⟨atEnd, -⟩ | ⟨_, _, _, isRead, -⟩
  · exact atEnd
  · cases isRead

/-- Every step takes at least one character. -/
theorem length_lt_of_readTail? (isRead : readTail? source = some (step, rest)) :
    rest.length < source.length := by
  obtain ⟨written, rfl, isTail⟩ := exists_tail_of_readTail? isRead
  have nonempty : 0 < written.length := by
    cases isTail with
    | dotted => exact Nat.succ_pos _
    | bracket isBracket =>
        obtain ⟨inside, rfl⟩ := isBracket.head
        exact Nat.succ_pos _
  rw [List.length_append]
  omega

end Steps

/-! ## Writing -/

/-- Whether all positions in a path are below the limit of positions. -/
def Fits (path : FieldPath) : Prop :=
  ∀ position, PathStep.position position ∈ path → position < positionLimit

/-- Whether a step is a key that is written as an identifier. -/
def isPlain : PathStep → Bool
  | .key name => isIdentifier name
  | .position _ => false

section Writing

variable {source written : List Char} {path other : FieldPath} {step : PathStep} {name : String}

theorem Fits.head (fits : Fits (step :: path)) : Fits [step] :=
  fun position isMember => fits position (List.mem_cons.2 (.inl (List.mem_singleton.1 isMember)))

theorem Fits.tail (fits : Fits (step :: path)) : Fits path :=
  fun position isMember => fits position (List.mem_cons_of_mem step isMember)

/-- A name that can be written as an identifier is one. -/
theorem isStep_identifier (identifies : isIdentifier name = true) :
    IsStep name.toList (.key name) := by
  unfold isIdentifier at identifies
  split at identifies
  · cases identifies
  · next first rest isName =>
      obtain ⟨starts, goesOn⟩ := Bool.and_eq_true_iff.1 identifies
      have written := IsStep.identifier starts (List.all_eq_true.1 goesOn)
      rwa [← isName, String.ofList_toList] at written

/-- The decimal numeral of a position is read as the position. -/
theorem isBracket_toDigits {position : Nat} (small : position < positionLimit) :
    IsBracket ('[' :: (Nat.toDigits 10 position ++ [']'])) (.position position) := by
  have isValue := Text.numeralValue_toDigits position
  have written := IsBracket.position Nat.toDigits_ne_nil (Text.isDigit_of_mem_toDigits position)
    (by rwa [isValue])
  rwa [isValue] at written

/-- A plain step is written as an identifier behind a full stop. -/
theorem exists_renderStep_of_isPlain (plain : isPlain step = true) :
    ∃ identifier, renderStep step = '.' :: identifier ∧ IsStep identifier step := by
  cases step with
  | key name => exact ⟨name.toList, if_pos plain, isStep_identifier plain⟩
  | position index => cases plain

/-- Any other step is written as a bracket. -/
theorem isBracket_renderStep (fits : Fits [step]) (bracketed : isPlain step = false) :
    IsBracket (renderStep step) step := by
  cases step with
  | key name =>
      rw [renderStep, if_neg (Bool.not_eq_true _ ▸ bracketed)]
      exact .key (Text.isJsonLiteral_jsonLiteral name)
  | position index => exact isBracket_toDigits (fits index List.mem_cons_self)

/-- A path is written as steps that may come after another. -/
theorem areTails_render (fits : Fits path) : AreTails (path.flatMap renderStep) path := by
  induction path with
  | nil => exact .nil
  | cons step path ih =>
      refine .cons ?_ (ih fits.tail)
      cases plain : isPlain step with
      | false => exact .bracket (isBracket_renderStep fits.head plain)
      | true =>
          obtain ⟨identifier, isWritten, isStep⟩ := exists_renderStep_of_isPlain plain
          rw [isWritten]
          exact .dotted isStep

/-- The written form of a path that starts with an identifier is a selector of it. -/
theorem isSelector_render (fits : Fits (step :: path)) (plain : isPlain step = true) :
    IsSelector ((step :: path).flatMap renderStep) (step :: path) := by
  obtain ⟨identifier, isWritten, -⟩ := exists_renderStep_of_isPlain plain
  refine isSelector_iff.2 ⟨?_, areTails_render fits⟩
  rw [List.flatMap_cons, isWritten]
  exact ⟨_, rfl⟩

/-- The written form of any other path is a selector of it behind a full stop. -/
theorem isSelector_dot_render (fits : Fits (step :: path)) (bracketed : isPlain step = false) :
    IsSelector ('.' :: (step :: path).flatMap renderStep) (step :: path) :=
  .steps (.bracket (isBracket_renderStep fits.head bracketed)) (areTails_render fits.tail)

/-- Without the full stop it is no selector. -/
theorem not_isSelector_render (fits : Fits (step :: path)) (bracketed : isPlain step = false) :
    ¬ IsSelector ((step :: path).flatMap renderStep) other := by
  intro isSelector
  obtain ⟨⟨rest, same⟩, -⟩ := isSelector_iff.1 isSelector
  obtain ⟨inside, isWritten⟩ := (isBracket_renderStep fits.head bracketed).head
  rw [List.flatMap_cons, isWritten] at same
  cases same

/-! ## What is denoted -/

/-- No position that a bracket denotes is too great. -/
theorem IsBracket.fits (isBracket : IsBracket written step) : Fits [step] := by
  intro position isMember
  cases isBracket with
  | key => cases List.mem_singleton.1 isMember
  | position _ _ small =>
      cases List.mem_singleton.1 isMember
      exact small

/-- No position that a step denotes is too great. -/
theorem IsStep.fits (isStep : IsStep written step) : Fits [step] := by
  cases isStep with
  | bracket isBracket => exact isBracket.fits
  | _ => intro position isMember; cases List.mem_singleton.1 isMember

theorem IsTail.fits (isTail : IsTail written step) : Fits [step] := by
  cases isTail with
  | dotted isStep => exact isStep.fits
  | bracket isBracket => exact isBracket.fits

/-- No position that further steps denote is too great. -/
theorem AreTails.fits (areTails : AreTails source path) : Fits path := by
  induction areTails with
  | nil => exact fun _ none => absurd none List.not_mem_nil
  | cons isTail _ ih =>
      intro position isMember
      rcases List.mem_cons.1 isMember with isHead | isMember
      · exact isTail.fits position (List.mem_singleton.2 isHead)
      · exact ih position isMember

end Writing

/-! ## Characters -/

section Characters

variable {source written : List Char} {path : FieldPath} {step : PathStep}

/-- Digits are visible ASCII characters. -/
theorem ascii_of_isDigit {character : Char} (isDigit : Text.isDigit character = true) :
    0x20 ≤ character.toNat ∧ character.toNat < 0x80 := by
  obtain ⟨lower, upper⟩ := Text.isDigit_iff_toNat.1 isDigit
  omega

/-- So are the characters that start an identifier. -/
theorem ascii_of_isIdentifierStart
    {character : Char}
    (starts : isIdentifierStart character = true) :
    0x20 ≤ character.toNat ∧ character.toNat < 0x80 := by
  simp [isIdentifierStart, Char.le_def, UInt32.le_iff_toNat_le] at starts
  rcases starts with (bounds | bounds) | rfl
  · omega
  · omega
  · decide

/-- So are all characters of an identifier. -/
theorem ascii_of_isIdentifierPart
    {character : Char}
    (isPart : isIdentifierPart character = true) :
    0x20 ≤ character.toNat ∧ character.toNat < 0x80 := by
  rcases Bool.or_eq_true_iff.1 isPart with starts | isDigit
  · exact ascii_of_isIdentifierStart starts
  · exact ascii_of_isDigit isDigit

theorem IsBracket.le_toNat (isBracket : IsBracket written step) :
    ∀ character ∈ written, 0x20 ≤ character.toNat := by
  have closing : ∀ character ∈ [']'], 0x20 ≤ character.toNat :=
    List.forall_mem_singleton.2 (by decide)
  cases isBracket with
  | key isLiteral =>
      exact List.forall_mem_cons.2
        ⟨by decide, List.forall_mem_append.2 ⟨isLiteral.le_toNat, closing⟩⟩
  | position _ areDigits =>
      exact List.forall_mem_cons.2 ⟨by decide, List.forall_mem_append.2
        ⟨fun digit isMember => (ascii_of_isDigit (areDigits digit isMember)).1, closing⟩⟩

theorem IsStep.le_toNat (isStep : IsStep written step) :
    ∀ character ∈ written, 0x20 ≤ character.toNat := by
  cases isStep with
  | identifier starts areParts =>
      exact List.forall_mem_cons.2 ⟨(ascii_of_isIdentifierStart starts).1,
        fun part isMember => (ascii_of_isIdentifierPart (areParts part isMember)).1⟩
  | literal isLiteral => exact isLiteral.le_toNat
  | bracket isBracket => exact isBracket.le_toNat

theorem IsTail.le_toNat (isTail : IsTail written step) :
    ∀ character ∈ written, 0x20 ≤ character.toNat := by
  cases isTail with
  | dotted isStep => exact List.forall_mem_cons.2 ⟨by decide, isStep.le_toNat⟩
  | bracket isBracket => exact isBracket.le_toNat

/-- No control character stands in a selector. -/
theorem AreTails.le_toNat (areTails : AreTails source path) :
    ∀ character ∈ source, 0x20 ≤ character.toNat := by
  induction areTails with
  | nil => exact fun _ none => absurd none List.not_mem_nil
  | cons isTail _ ih => exact List.forall_mem_append.2 ⟨isTail.le_toNat, ih⟩

end Characters

end Selector
end BundleTrust
