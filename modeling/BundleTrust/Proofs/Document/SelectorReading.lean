import BundleTrust.Proofs.Document.SelectorGrammar
import BundleTrust.Proofs.Text.Offset

/-!
# Selectors are read by their grammar

The loop over the octets of a selector only ever stands between characters, so it takes the steps
that its characters denote (`tailAt_agrees`), cuts parts out between characters alone, and stops
with the path of the selector (`readOctets_spec`).  What is written for a path is a selector only
where the path starts with an identifier (`written_path_read_back_iff`).
-/

namespace BundleTrust
namespace Selector

open Text (StandsBefore encodeUtf8)

/-! ## The closing quote -/

section ClosingQuote

variable {passed left right body text rest characters : List Char} {character letter : Char}
  {octets : List UInt8} {offset closing : Nat}

/-- The search for the closing quote goes past octets of other characters. -/
theorem closingQuote?_append
    (others : ∀ octet ∈ octets, octet ≠ 0x5C ∧ octet ≠ 0x22)
    (offset : Nat)
    (rest : List UInt8) :
    closingQuote? offset (octets ++ rest) = closingQuote? (offset + octets.length) rest := by
  induction octets generalizing offset with
  | nil => rfl
  | cons octet octets ih =>
      obtain ⟨⟨noBackslash, noQuote⟩, others⟩ := List.forall_mem_cons.1 others
      rw [List.cons_append, closingQuote?, ih others, List.length_cons, Nat.add_right_comm,
        Nat.add_assoc]
      · exact fun _ _ same _ => noBackslash same
      · exact noQuote

/-- Whether the search for the closing quote goes past some characters. -/
def Passes (passed : List Char) : Prop :=
  ∀ (offset : Nat) (rest : List Char), closingQuote? offset (encodeUtf8 (passed ++ rest)) =
    closingQuote? (offset + (encodeUtf8 passed).length) (encodeUtf8 rest)

theorem Passes.append (passesLeft : Passes left) (passesRight : Passes right) :
    Passes (left ++ right) := by
  intro offset rest
  rw [List.append_assoc, passesLeft, passesRight, Text.encodeUtf8_append, List.length_append,
    Nat.add_assoc]

/-- It goes past all characters but the quote and the backslash. -/
theorem passes_plain (noQuote : character ≠ '"') (noBackslash : character ≠ '\\') :
    Passes [character] := by
  intro offset rest
  have others : ∀ octet ∈ String.utf8EncodeChar character, octet ≠ 0x5C ∧ octet ≠ 0x22 := by
    intro octet isMember
    constructor
    · rintro rfl
      exact noBackslash (Text.eq_of_mem_encodeUtf8Char isMember (by decide)).symm
    · rintro rfl
      exact noQuote (Text.eq_of_mem_encodeUtf8Char isMember (by decide)).symm
  rw [List.singleton_append, Text.encodeUtf8_cons, closingQuote?_append others]
  simp

/-- It goes past a backslash with the character after it, whose octets but the first are those of
no quote either. -/
theorem passes_escape (character : Char) : Passes ['\\', character] := by
  intro offset rest
  obtain ⟨first, following, encoding⟩ := Text.exists_encoding character
  -- The backslash hides one octet; the search goes on inside the character, if it has more.
  have others : ∀ octet ∈ following, octet ≠ 0x5C ∧ octet ≠ 0x22 := by
    intro octet isMember
    have continues := encoding.continues octet isMember
    constructor
    · rintro rfl
      cases continues
    · rintro rfl
      cases continues
  have isBackslash : String.utf8EncodeChar '\\' = [0x5C] := rfl
  simp only [List.cons_append, List.nil_append, Text.encodeUtf8_cons, isBackslash,
    encoding.isEncoded, closingQuote?, closingQuote?_append others]
  simp
  congr 1
  omega

/-- It goes past hexadecimal digits. -/
theorem passes_codeUnit {digits : List Char} {unit : Nat} (isUnit : Text.CodeUnit digits unit) :
    Passes digits := by
  cases isUnit with
  | @hexadecimal first second third fourth valid =>
      have passes : ∀ digit ∈ [first, second, third, fourth], Passes [digit] := by
        intro digit isMember
        have isDigit := valid digit isMember
        refine passes_plain ?_ ?_
        · rintro rfl
          revert isDigit
          decide
        · rintro rfl
          revert isDigit
          decide
      simp only [List.forall_mem_cons] at passes
      obtain ⟨passesFirst, passesSecond, passesThird, passesFourth, -⟩ := passes
      exact passesFirst.append (passesSecond.append (passesThird.append passesFourth))

/-- It goes past what stands for a character. -/
theorem passes_jsonUnit (isUnit : Text.JsonUnit passed character) : Passes passed := by
  cases isUnit with
  | plain _ noQuote noBackslash => exact passes_plain noQuote noBackslash
  | @short letter => exact passes_escape letter
  | single isCode => exact (passes_escape 'u').append (passes_codeUnit isCode)
  | pair isHigh _ isLow =>
      exact ((passes_escape 'u').append (passes_codeUnit isHigh)).append
        ((passes_escape 'u').append (passes_codeUnit isLow))

/-- The closing quote of a literal is found. -/
theorem closingQuote?_jsonBody
    (isBody : Text.JsonBody body text)
    (offset : Nat)
    (rest : List Char) :
    closingQuote? offset (encodeUtf8 (body ++ '"' :: rest)) =
      some (offset + (encodeUtf8 body).length) := by
  have passes : Passes body := by
    induction isBody with
    | nil => exact fun _ _ => rfl
    | cons isUnit _ ih => exact (passes_jsonUnit isUnit).append ih
  rw [passes]
  rfl

/-- Some characters, from an offset on, have a quote at another offset, behind whole characters. -/
def ClosesAt (characters : List Char) (offset closing : Nat) : Prop :=
  ∃ body rest, characters = body ++ '"' :: rest ∧ closing = offset + (encodeUtf8 body).length

theorem ClosesAt.append
    (passed : List Char)
    (closes : ClosesAt rest (offset + (encodeUtf8 passed).length) closing) :
    ClosesAt (passed ++ rest) offset closing := by
  obtain ⟨body, rest, rfl, rfl⟩ := closes
  exact ⟨passed ++ body, rest, (List.append_assoc ..).symm, by
    rw [Text.encodeUtf8_append, List.length_append, Nat.add_assoc]⟩

/-- The search finds a quote behind whole characters. -/
theorem closesAt_of_closingQuote?
    (found : closingQuote? offset (encodeUtf8 characters) = some closing) :
    ClosesAt characters offset closing := by
  -- A backslash takes the character after it along, so the induction is on the length.
  induction bound : characters.length using Nat.strongRecOn generalizing characters offset with
  | ind length ih =>
      subst bound
      cases characters with
      | nil => cases found
      | cons character rest =>
          by_cases isQuote : character = '"'
          · subst isQuote
            exact ⟨[], rest, rfl, (Option.some.inj found).symm⟩
          · by_cases isBackslash : character = '\\'
            · subst isBackslash
              cases rest with
              | nil => cases found
              | cons letter rest =>
                  have goesOn := passes_escape letter offset rest
                  have shorter : rest.length < ('\\' :: letter :: rest).length := by
                    simp only [List.length_cons]
                    omega
                  exact .append ['\\', letter]
                    (ih rest.length shorter (goesOn.symm.trans found) rfl)
            · have goesOn := passes_plain isQuote isBackslash offset rest
              exact .append [character] (ih rest.length (by simp) (goesOn.symm.trans found) rfl)

end ClosingQuote

/-! ## Steps -/

/-- What is read at an offset agrees with what is read of the characters there: the same value,
before the same characters, or nothing, but never between offsets that are misplaced. -/
inductive Agrees {Value : Type} (source : List UInt8) :
    Option (Value × List Char) → Except Halt (Value × Nat) → Prop where
  /-- Nothing is there. -/
  | malformed : Agrees source none (.error .malformed)
  /-- A value is there. -/
  | read {value : Value} {rest : List Char} {next : Nat} :
      StandsBefore source next rest → Agrees source (some (value, rest)) (.ok (value, next))

section Steps

variable {source : List UInt8} {offset : Nat} {rest : List Char}

/-- One character further. -/
theorem advance_ascii
    {character : Char}
    (stands : StandsBefore source offset (character :: rest))
    (ascii : character.toNat < 0x80) :
    StandsBefore source (offset + 1) rest := by
  have stands : StandsBefore source offset ([character] ++ rest) := stands
  obtain ⟨octet, isEncoded, -⟩ := Text.encodeUtf8Char_ascii ascii
  have further := stands.advance
  rwa [Text.encodeUtf8_cons, isEncoded] at further

/-- A literal is cut out from its opening quote to its closing one. -/
theorem literalAt_eq
    {body : List Char}
    (stands : StandsBefore source offset ('"' :: (body ++ '"' :: rest)))
    (closes : closingQuote? (offset + 1) (encodeUtf8 (body ++ '"' :: rest)) =
      some (offset + 1 + (encodeUtf8 body).length)) :
    ∃ next, StandsBefore source next rest ∧ literalAt source offset =
      (expect (Text.textOfJsonLiteral? (String.ofList ('"' :: body ++ ['"'])))).map
        fun text => (text, next) := by
  have inside := advance_ascii stands (by decide)
  have isLiteral : StandsBefore source offset (('"' :: body ++ ['"']) ++ rest) := by
    rwa [List.append_assoc, List.singleton_append, List.cons_append]
  have width : (encodeUtf8 ('"' :: body ++ ['"'])).length = 1 + (encodeUtf8 body).length + 1 := by
    have isQuote : String.utf8EncodeChar '"' = [0x22] := rfl
    simp [isQuote]
    omega
  have isCut := isLiteral.textBetween?_eq
  have behind := isLiteral.advance
  rw [width, ← Nat.add_assoc, ← Nat.add_assoc] at isCut behind
  refine ⟨_, behind, ?_⟩
  rw [literalAt, inside.drop_eq, closes]
  change (cut source offset (offset + 1 + (encodeUtf8 body).length + 1) >>= _) = _
  rw [cut, isCut]
  rfl

/-- A literal is read at its opening quote. -/
theorem literalAt_agrees (stands : StandsBefore source offset ('"' :: rest)) :
    Agrees source (Text.readJsonLiteral? ('"' :: rest)) (literalAt source offset) := by
  cases isRead : Text.readJsonLiteral? ('"' :: rest) with
  | some literal =>
      obtain ⟨text, after⟩ := literal
      obtain ⟨written, isAll, isLiteral⟩ := Text.readJsonLiteral?_eq_some_iff.1 isRead
      have denotes := Text.textOfJsonLiteral?_eq_some_iff.2 isLiteral
      cases isLiteral with
      | @quoted body _ isBody =>
          obtain rfl : rest = body ++ '"' :: after := by simpa using isAll
          obtain ⟨next, behind, isValue⟩ :=
            literalAt_eq stands (closingQuote?_jsonBody isBody _ _)
          rw [isValue, denotes]
          exact .read behind
  | none =>
      have inside := advance_ascii stands (by decide)
      cases found : closingQuote? (offset + 1) (encodeUtf8 rest) with
      | none =>
          rw [literalAt, inside.drop_eq, found]
          exact .malformed
      | some closing =>
          obtain ⟨body, after, rfl, rfl⟩ := closesAt_of_closingQuote? found
          obtain ⟨next, -, isValue⟩ := literalAt_eq stands found
          cases denotes : Text.textOfJsonLiteral? (String.ofList ('"' :: body ++ ['"'])) with
          | none =>
              rw [isValue, denotes]
              exact .malformed
          | some text =>
              have isLiteral := Text.textOfJsonLiteral?_eq_some_iff.1 denotes
              have isAll : '"' :: (body ++ '"' :: after) = ('"' :: body ++ ['"']) ++ after := by
                simp
              rw [Text.readJsonLiteral?_eq_some_iff.2 ⟨_, isAll, isLiteral⟩] at isRead
              cases isRead

theorem Agrees.alternatives
    {Value : Type}
    {found : Option (Value × List Char)}
    {taken : Except Halt (Value × Nat)}
    (agrees : Agrees source found taken) :
    found = none ∧ taken = .error .malformed ∨
      ∃ value rest next, found = some (value, rest) ∧ taken = .ok (value, next) ∧
        StandsBefore source next rest := by
  cases agrees with
  | malformed => exact .inl ⟨rfl, rfl⟩
  | read stands => exact .inr ⟨_, _, _, rfl, rfl, stands⟩

/-- What is read on goes on after a value that is read. -/
theorem Agrees.bind
    {First Value : Type}
    {found : Option (First × List Char)}
    {taken : Except Halt (First × Nat)}
    {goOn : First → List Char → Option (Value × List Char)}
    {goOnAt : First → Nat → Except Halt (Value × Nat)}
    (agrees : Agrees source found taken)
    (further : ∀ first rest next, StandsBefore source next rest →
      Agrees source (goOn first rest) (goOnAt first next)) :
    Agrees source (found.bind fun first => goOn first.1 first.2)
      (taken >>= fun first => goOnAt first.1 first.2) := by
  cases agrees with
  | malformed => exact .malformed
  | read stands => exact further _ _ _ stands

/-- What is read on goes on after what is there. -/
theorem Agrees.expect
    {First Value : Type}
    {goOn : First → Option (Value × List Char)}
    {goOnAt : First → Except Halt (Value × Nat)}
    (found : Option First)
    (further : ∀ first, Agrees source (goOn first) (goOnAt first)) :
    Agrees source (found.bind goOn) (expect found >>= goOnAt) := by
  cases found with
  | none => exact .malformed
  | some first => exact further first

/-- What is read on goes on after an octet that looks like the next character. -/
theorem Agrees.octet
    {Value : Type}
    {found : List Char → Option (Value × List Char)}
    {goOnAt : Char → Except Halt (Value × Nat)}
    (stands : StandsBefore source offset rest)
    (atEnd : found [] = none)
    (further : ∀ character others octet, rest = character :: others →
      Text.LooksLike octet character → Agrees source (found rest) (goOnAt octet)) :
    Agrees source (found rest) (Selector.expect (Text.octetAt? source offset) >>= goOnAt) := by
  cases rest with
  | nil =>
      rw [atEnd, stands.octetAt?_nil]
      exact .malformed
  | cons character others =>
      obtain ⟨octet, isOctet, looksLike⟩ := stands.exists_octetAt?
      rw [isOctet]
      exact further character others octet rfl looksLike

/-- A text that is read is a key. -/
theorem Agrees.key
    {found : Option (String × List Char)}
    {taken : Except Halt (String × Nat)}
    (agrees : Agrees source found taken) :
    Agrees source (found.map fun text => (PathStep.key text.1, text.2))
      (taken >>= fun text => .ok (PathStep.key text.1, text.2)) := by
  cases agrees with
  | malformed => exact .malformed
  | read stands => exact .read stands

/-- A run of ASCII characters is cut out up to where it ends. -/
theorem runAt_agrees
    (stands : StandsBefore source offset rest)
    {test : Char → Bool}
    (ascii : ∀ character, test character = true → character.toNat < 0x80) :
    Agrees source (some (String.ofList (rest.takeWhile test), rest.dropWhile test))
      (runAt test source offset) := by
  have split : StandsBefore source offset (rest.takeWhile test ++ rest.dropWhile test) := by
    rwa [List.takeWhile_append_dropWhile]
  rw [runAt, stands.offsetPast_eq ascii, cut, split.textBetween?_eq]
  exact .read split.advance

/-- The closing bracket of a step is read. -/
theorem closeAt_agrees (stands : StandsBefore source offset rest) (step : PathStep) :
    Agrees source (closeBracket? step rest) (closeAt source step offset) := by
  have closes : Text.octetAt? source offset = some ']' ↔ ∃ others, rest = ']' :: others :=
    stands.octetAt?_eq_some_iff (by decide)
  rw [closeAt]
  by_cases isClosed : ∃ others, rest = ']' :: others
  · obtain ⟨others, rfl⟩ := isClosed
    rw [closes.2 ⟨others, rfl⟩]
    exact .read (advance_ascii stands (by decide))
  · rw [decide_eq_false (mt closes.1 isClosed)]
    have isNone : closeBracket? step rest = none := by
      rw [closeBracket?]
      exact fun others same => isClosed ⟨others, same⟩
    rw [isNone]
    exact .malformed

/-- A bracket is read at its opening. -/
theorem bracketAt_agrees (stands : StandsBefore source offset ('[' :: rest)) :
    Agrees source (readBracket? rest) (bracketAt source offset) := by
  have inside := advance_ascii stands (by decide)
  rw [bracketAt]
  refine .octet inside rfl ?_
  rintro character others octet rfl looksLike
  have isQuote := looksLike.eq_iff '"' (by decide)
  have isDigit := looksLike.test_eq fun _ isDigit => (ascii_of_isDigit isDigit).2
  by_cases quoted : character = '"'
  · rw [if_pos (isQuote.2 quoted)]
    subst quoted
    exact (literalAt_agrees inside).bind
      fun name _ _ behind => closeAt_agrees behind (.key name)
  · rw [if_neg (mt isQuote.1 quoted), isDigit, readBracket?]
    · cases digit : Text.isDigit character with
      | true =>
          have run := runAt_agrees inside fun _ isDigit => (ascii_of_isDigit isDigit).2
          have agrees := run.bind
            fun digits after next behind => Agrees.expect
              (Text.readDecimalBelow? positionLimit digits.toList)
              fun index => closeAt_agrees behind (.position index)
          rw [Option.bind_some, String.toList_ofList] at agrees
          exact agrees
      | false =>
          rw [List.takeWhile_cons_of_neg (by simp [digit])]
          exact .malformed
    · exact fun _ same => quoted (List.cons.inj same).1

/-- A step is read behind a full stop. -/
theorem stepAt_agrees (stands : StandsBefore source offset rest) :
    Agrees source (readStep? rest) (stepAt source offset) := by
  rw [stepAt]
  refine .octet stands rfl ?_
  rintro character others octet rfl looksLike
  have isQuote := looksLike.eq_iff '"' (by decide)
  have isBracket := looksLike.eq_iff '[' (by decide)
  have starts := looksLike.test_eq fun _ starts => (ascii_of_isIdentifierStart starts).2
  by_cases quoted : character = '"'
  · rw [if_pos (isQuote.2 quoted)]
    subst quoted
    exact (literalAt_agrees stands).key
  · by_cases bracketed : character = '['
    · rw [if_neg (mt isQuote.1 quoted), if_pos (isBracket.2 bracketed)]
      subst bracketed
      exact bracketAt_agrees stands
    · rw [if_neg (mt isQuote.1 quoted), if_neg (mt isBracket.1 bracketed), starts, readStep?]
      · cases identifier : isIdentifierStart character with
        | true =>
            have isPart : isIdentifierPart character = true := by
              rw [isIdentifierPart, identifier, Bool.true_or]
            have run := runAt_agrees stands fun _ isPart => (ascii_of_isIdentifierPart isPart).2
            have agrees := run.key
            rw [List.takeWhile_cons_of_pos isPart, List.dropWhile_cons_of_pos isPart] at agrees
            exact agrees
        | false => exact .malformed
      · exact fun same => bracketed same
      · exact fun same => quoted same

/-- A step after others is read, where no bracket stands for the first step. -/
theorem tailAt_agrees
    (stands : StandsBefore source offset rest)
    {isFirst : Bool}
    (begins : isFirst = true → ∀ inside, rest ≠ '[' :: inside) :
    Agrees source (readTail? rest) (tailAt source isFirst offset) := by
  rw [tailAt]
  refine .octet stands rfl ?_
  rintro character others octet rfl looksLike
  have isStop := looksLike.eq_iff '.' (by decide)
  have isBracket := looksLike.eq_iff '[' (by decide)
  by_cases stopped : character = '.'
  · rw [if_pos (isStop.2 stopped)]
    subst stopped
    exact stepAt_agrees (advance_ascii stands (by decide))
  · by_cases bracketed : character = '['
    · subst bracketed
      have follows : isFirst = false :=
        Bool.eq_false_iff.2 fun isFirst => begins isFirst others rfl
      rw [if_neg (mt isStop.1 stopped), if_pos (by simp [isBracket, follows])]
      exact bracketAt_agrees stands
    · rw [if_neg (mt isStop.1 stopped), if_neg (by simp [isBracket, bracketed]), readTail?]
      · exact .malformed
      · exact fun _ same => stopped (List.cons.inj same).1
      · exact fun _ same => bracketed (List.cons.inj same).1

end Steps

/-! ## Paths -/

section Paths

variable {source : List UInt8} {fuel offset : Nat} {rest : List Char} {steps path : FieldPath}

/-- From an offset on, the steps of the characters there are added. -/
theorem stepsFrom_spec
    (stands : StandsBefore source offset rest)
    (enough : rest.length < fuel)
    (begins : steps = [] → ∀ inside, rest ≠ '[' :: inside) :
    stepsFrom source fuel offset steps ≠ .error .misplaced ∧
      (stepsFrom source fuel offset steps = .ok path ↔
        ∃ more, AreTails rest more ∧ path = steps ++ more) := by
  -- Every step leaves the offset before fewer characters; only the first may not be a bracket.
  induction fuel generalizing offset rest steps with
  | zero => omega
  | succ fuel ih =>
      rw [stepsFrom]
      by_cases atEnd : rest = []
      · rw [if_neg (mt stands.lt_length_iff.1 (not_not_intro atEnd))]
        subst atEnd
        simp [areTails_nil_iff, eq_comm]
      · rw [if_pos (stands.lt_length_iff.2 atEnd)]
        have follows : steps.isEmpty = true → ∀ inside, rest ≠ '[' :: inside := by
          simpa using begins
        obtain ⟨isNone, halts⟩ | ⟨step, after, next, isRead, goesOn, behind⟩ :=
          (tailAt_agrees stands follows).alternatives
        · rw [halts]
          refine ⟨by rintro ⟨⟩, ⟨by rintro ⟨⟩, ?_⟩⟩
          rintro ⟨more, areTails, -⟩
          exact absurd (eq_nil_of_readTail? isNone areTails) atEnd
        · have shorter := length_lt_of_readTail? isRead
          have further : steps ++ [step] = [] → ∀ inside, after ≠ '[' :: inside := by simp
          obtain ⟨placed, denotes⟩ := ih behind (by omega) further
          rw [goesOn]
          refine ⟨placed, denotes.trans ?_⟩
          simp only [areTails_iff_of_readTail? isRead]
          constructor
          · rintro ⟨more, areTails, rfl⟩
            exact ⟨step :: more, ⟨more, areTails, rfl⟩, by simp⟩
          · rintro ⟨more, ⟨others, areTails, rfl⟩, rfl⟩
            exact ⟨others, areTails, by simp⟩

/-- Nothing is cut out of a selector but between characters, and its path is that which its
characters denote. -/
theorem readOctets_spec (selector : String) :
    readOctets (Text.octets selector) ≠ .error .misplaced ∧
      (readOctets (Text.octets selector) = .ok path ↔ IsSelector selector.toList path) := by
  rw [Text.octets_eq_encodeUtf8, isSelector_iff]
  generalize selector.toList = characters
  have stands := Text.standsBefore_zero characters
  have isStop : Text.octetAt? (encodeUtf8 characters) 0 = some '.' ↔
      ∃ rest, characters = '.' :: rest :=
    stands.octetAt?_eq_some_iff (by decide)
  rw [readOctets]
  by_cases starts : ∃ rest, characters = '.' :: rest
  · rw [decide_eq_true (isStop.2 starts)]
    obtain ⟨rest, rfl⟩ := starts
    obtain ⟨placed, denotes⟩ := @stepsFrom_spec _ _ 0 _ [] path stands
      (Nat.lt_succ_of_le (Text.length_le_length_encodeUtf8 ('.' :: rest))) (by simp)
    simp only [List.nil_append, exists_eq_right'] at denotes
    have isDotted : ∃ others, '.' :: rest = '.' :: others := ⟨rest, rfl⟩
    simp only [isDotted, true_and, ← denotes]
    cases taken : stepsFrom (encodeUtf8 ('.' :: rest)) _ 0 [] with
    | error halt =>
        rw [taken] at placed
        exact ⟨placed, ⟨by rintro ⟨⟩, by rintro ⟨⟩⟩⟩
    | ok steps =>
        cases steps with
        | nil =>
            refine ⟨by rintro ⟨⟩, ⟨by rintro ⟨⟩, fun isEmpty => ?_⟩⟩
            have areTails := denotes.1 (taken.trans isEmpty)
            cases isEmpty
            cases areTails.eq_nil
        | cons => exact ⟨by rintro ⟨⟩, Iff.rfl⟩
  · rw [decide_eq_false (mt isStop.1 starts)]
    exact ⟨by rintro ⟨⟩, ⟨by rintro ⟨⟩, fun denotes => absurd denotes.1 starts⟩⟩

/-- A selector denotes the path of its grammar. -/
theorem parse?_eq_some_iff_isSelector {selector : String} :
    parse? selector = some path ↔ IsSelector selector.toList path :=
  parse?_eq_some_iff.trans (readOctets_spec selector).2

theorem fits_of_parse? {selector : String} (parsed : parse? selector = some path) : Fits path :=
  (isSelector_iff.1 (parse?_eq_some_iff_isSelector.1 parsed)).2.fits

end Paths

/-! ## Written forms -/

section Written

variable {selector : String} {step : PathStep} {path : FieldPath}

/-- The written form of a path that starts with an identifier is read back. -/
theorem parse?_render_of_isPlain (fits : Fits (step :: path)) (plain : isPlain step = true) :
    parse? (render (step :: path)) = some (step :: path) := by
  rw [parse?_eq_some_iff_isSelector, render, String.toList_ofList]
  exact isSelector_render fits plain

/-- The written form of any other path is not read. -/
theorem parse?_render_eq_none (fits : Fits (step :: path)) (bracketed : isPlain step = false) :
    parse? (render (step :: path)) = none := by
  refine Option.eq_none_iff_forall_ne_some.2 fun other parsed => ?_
  rw [parse?_eq_some_iff_isSelector, render, String.toList_ofList] at parsed
  exact not_isSelector_render fits bracketed parsed

/-- Behind a full stop it is read back. -/
theorem parse?_dot_render (fits : Fits (step :: path)) (bracketed : isPlain step = false) :
    parse? ("." ++ render (step :: path)) = some (step :: path) := by
  have spelled : ("." ++ render (step :: path)).toList =
      '.' :: (step :: path).flatMap renderStep := by
    simp [render]
  rw [parse?_eq_some_iff_isSelector, spelled]
  exact isSelector_dot_render fits bracketed

/-- Exactly the texts of the grammar are selectors, each of the path that its steps denote in order;
nothing is cut out of a text inside a character or behind its end; and every path that is not
empty is denoted by some selector. -/
theorem reads_exactly_selectors :
    (∀ selector, readOctets (Text.octets selector) ≠ .error .misplaced) ∧
      (∀ selector path, parse? selector = some path ↔ IsSelector selector.toList path) ∧
      ∀ path, path ≠ [] →
        (∀ position, PathStep.position position ∈ path → position < UInt64.size) →
        ∃ selector, parse? selector = some path := by
  refine ⟨fun selector => (@readOctets_spec [] selector).1,
    fun _ _ => parse?_eq_some_iff_isSelector, fun path nonempty fits => ?_⟩
  cases path with
  | nil => exact absurd rfl nonempty
  | cons step path =>
      cases plain : isPlain step with
      | true => exact ⟨_, parse?_render_of_isPlain fits plain⟩
      | false => exact ⟨_, parse?_dot_render fits plain⟩

/-- A selector with a key beyond ASCII, escaped quotes and a position, and one of the same path. -/
theorem quoted_selector_read :
    parse? ".[\"gr\u00f6\u00dfe \\\"x\\\"\"][07]" =
        some [.key "gr\u00f6\u00dfe \"x\"", .position 7] ∧
      ∃ selector, parse? selector = some [.key "gr\u00f6\u00dfe \"x\"", .position 7] :=
  ⟨by decide +kernel, reads_exactly_selectors.2.2 _ (by decide) (by simp [UInt64.size])⟩

/-- The written form of a path that was read is read back exactly if the path starts with an
identifier.  Any other path lacks the full stop at its start: it is not read as it is written, and
it is behind a full stop. -/
theorem written_path_read_back_iff (parsed : parse? selector = some path) :
    (parse? (render path) = some path ↔ path.head?.any isPlain = true) ∧
      (path.head?.any isPlain = false →
        parse? (render path) = none ∧ parse? ("." ++ render path) = some path) := by
  have fits := fits_of_parse? parsed
  cases path with
  | nil => exact absurd rfl (parse?_ne_nil parsed)
  | cons step path =>
      cases plain : isPlain step with
      | true =>
          have isRead := parse?_render_of_isPlain fits plain
          simp [plain, isRead]
      | false =>
          have isRefused := parse?_render_eq_none fits plain
          have isRead := parse?_dot_render fits plain
          simp [plain, isRefused, isRead]

/-- A path with a quoted key and a position is read back behind an identifier. -/
theorem quoted_path_read_back :
    parse? (render [.key "metadata", .key "a/\"b\"", .position 3]) =
      some [.key "metadata", .key "a/\"b\"", .position 3] := by
  have parsed : parse? ".metadata.\"a\\/\\\"b\\\"\".[03]" =
      some [.key "metadata", .key "a/\"b\"", .position 3] := by
    decide +kernel
  exact (written_path_read_back_iff parsed).1.2 (by decide +kernel)

/-- A position alone is a selector whose path is not read back as it is written, and so is a key
that is no identifier. -/
theorem bracketed_paths_not_read_back :
    (parse? ".[3]" = some [.position 3] ∧ render [.position 3] = "[3]" ∧
        parse? (render [.position 3]) = none) ∧
      parse? ".\"odd key\"" = some [.key "odd key"] ∧
        render [.key "odd key"] = "[\"odd key\"]" ∧ parse? (render [.key "odd key"]) = none := by
  decide +kernel

end Written

end Selector
end BundleTrust
