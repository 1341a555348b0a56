import BundleTrust.Duration
import BundleTrust.Text.Pieces
import Mathlib.Data.List.Forall2

/-!
# Durations read back

A duration is written as amounts of units, from years to nanoseconds, with spaces between them, and
those of which there are none are left out.  The text is read as the sum of these amounts
(`Duration.readAmounts?_spaced`), which is the duration again (`Duration.read?_render`), and it has
no blanks around it.
-/

namespace BundleTrust
namespace Duration

open Text

/-! ## Characters -/

/-- A character with the code of a visible one is not blank. -/
theorem isBlank_of_toNat
    {character : Char}
    (code : 33 ≤ character.toNat ∧ character.toNat ≤ 126 ∨ character.toNat = 181) :
    isBlank character = false := by
  simp only [isBlank, Bool.or_eq_false_iff, Bool.and_eq_false_imp, decide_eq_true_eq,
    decide_eq_false_iff_not, beq_eq_false_iff_ne]
  omega

/-- The codes of characters of the names of units. -/
theorem toNat_of_isUnitCharacter {character : Char} (named : isUnitCharacter character = true) :
    65 ≤ character.toNat ∧ character.toNat ≤ 122 ∨ character.toNat = 181 := by
  simp only [isUnitCharacter, Bool.or_eq_true, Bool.and_eq_true, decide_eq_true_eq, Char.le_def,
    UInt32.le_iff_toNat_le, Char.toNat_val, Char.reduceToNat] at named
  rcases named with (lower | upper) | rfl
  · omega
  · omega
  · exact .inr rfl

theorem isBlank_of_isDigit {character : Char} (digit : isDigit character = true) :
    isBlank character = false := by
  have code := isDigit_iff_toNat.1 digit
  exact isBlank_of_toNat (by omega)

theorem isBlank_of_isUnitCharacter {character : Char} (named : isUnitCharacter character = true) :
    isBlank character = false := by
  have code := toNat_of_isUnitCharacter named
  exact isBlank_of_toNat (by omega)

theorem isNumberCharacter_of_isUnitCharacter
    {character : Char}
    (named : isUnitCharacter character = true) :
    isNumberCharacter character = false := by
  have code := toNat_of_isUnitCharacter named
  have noDigit : isDigit character = false :=
    Bool.eq_false_iff.2 fun digit => by
      have code' := isDigit_iff_toNat.1 digit
      omega
  rw [isNumberCharacter, noDigit, isBlank_of_isUnitCharacter named, Bool.or_false]

/-! ## Amounts that are written -/

/-- A word names a unit and can stand behind a number. -/
structure NamesUnit (name : String) (unit : TimeUnit) : Prop where
  /-- It is one of the names of the unit. -/
  named : TimeUnit.ofName? name = some unit
  /-- There is a character. -/
  filled : name.toList ≠ []
  /-- All its characters are those of names. -/
  areCharacters : name.toList.all isUnitCharacter = true

theorem NamesUnit.isUnitCharacter_of_mem
    {name : String}
    {unit : TimeUnit}
    (names : NamesUnit name unit)
    {character : Char}
    (isMember : character ∈ name.toList) :
    isUnitCharacter character = true :=
  List.all_eq_true.1 names.areCharacters character isMember

/-- A text is the written form of an amount: the numeral of its whole number and a name of its
unit. -/
structure IsWritten (text : String) (amount : Amount) : Prop where
  /-- No fraction is written. -/
  fraction : amount.fraction = none
  /-- The number is one that units are counted with. -/
  bound : amount.whole < countLimit
  /-- The name of the unit stands behind the number. -/
  named : ∃ name : String, text = decimal amount.whole ++ name ∧ NamesUnit name amount.unit

/-- The amount of a number of units; nothing for none of them. -/
def amountOf (count : Nat) (unit : TimeUnit) : List Amount :=
  if count = 0 then [] else [⟨count, none, unit⟩]

theorem forall₂_item
    {count : Nat}
    {name : String}
    {unit : TimeUnit}
    (names : NamesUnit name unit)
    (bound : count < countLimit) :
    List.Forall₂ IsWritten (item name count) (amountOf count unit) := by
  unfold item amountOf
  split
  · exact .nil
  · exact .cons ⟨rfl, bound, name, rfl, names⟩ .nil

theorem forall₂_pluralItem
    {count : Nat}
    {name : String}
    {unit : TimeUnit}
    (names : NamesUnit name unit)
    (names' : NamesUnit (name ++ "s") unit)
    (bound : count < countLimit) :
    List.Forall₂ IsWritten (pluralItem name count) (amountOf count unit) := by
  unfold pluralItem amountOf
  split
  · exact .nil
  · refine .cons ⟨rfl, bound, ?_⟩ .nil
    split
    · exact ⟨name, by simp, names⟩
    · exact ⟨name ++ "s", by rw [String.append_assoc], names'⟩

/-! ## Reading amounts -/

/-- An amount is read at the front of its written form. -/
theorem readAmount?_append
    {text : String}
    {amount : Amount}
    {rest : List Char}
    (written : IsWritten text amount)
    (ends : ∀ character, rest.head? = some character → isUnitCharacter character = false) :
    readAmount? (text.toList ++ rest) = some (amount, rest) := by
  obtain ⟨whole, fraction, unit⟩ := amount
  obtain ⟨rfl, bound, name, rfl, names⟩ := written
  obtain ⟨first, others, isName⟩ := List.exists_cons_of_ne_nil names.filled
  have isUnit : isUnitCharacter first = true :=
    names.isUnitCharacter_of_mem (isName ▸ List.mem_cons_self)
  have areDigits := isDigit_of_mem_toDigits whole
  have areNumberCharacters : ∀ character ∈ Nat.toDigits 10 whole,
      isNumberCharacter character = true :=
    fun character isMember => by simp [isNumberCharacter, areDigits character isMember]
  have endsNumber : ∀ character, (name.toList ++ rest).head? = some character →
      isNumberCharacter character = false := by
    rw [isName]
    rintro character ⟨⟩
    exact isNumberCharacter_of_isUnitCharacter isUnit
  obtain ⟨taken, dropped⟩ := run_append areNumberCharacters endsNumber
  obtain ⟨takenName, droppedName⟩ := run_append (fun _ => names.isUnitCharacter_of_mem) ends
  have noPoint : first ≠ '.' := by
    rintro rfl
    exact absurd isUnit (by decide)
  have digitsOnly : (Nat.toDigits 10 whole).filter isDigit = Nat.toDigits 10 whole :=
    List.filter_eq_self.2 areDigits
  have isWhole : readDecimalBelow? countLimit (Nat.toDigits 10 whole) = some whole :=
    readDecimalBelow?_eq_some_iff.2
      ⟨Nat.toDigits_ne_nil, areDigits, numeralValue_toDigits whole, bound⟩
  have source : (decimal whole ++ name).toList ++ rest =
      Nat.toDigits 10 whole ++ (name.toList ++ rest) := by
    simp [decimal]
  rw [isName, List.cons_append] at source taken dropped takenName droppedName
  have ofName : String.ofList (first :: others) = name := by rw [← isName, String.ofList_toList]
  rw [readAmount?, source, taken, dropped, digitsOnly]
  simp [noPoint, takenName, droppedName, ofName, names.named, isWhole]

/-- The texts of a list with a space in front of every one. -/
def spaced (texts : List String) : List Char :=
  texts.flatMap fun text => ' ' :: text.toList

/-- Behind an amount there is another one with a space in front, or nothing. -/
theorem isUnitCharacter_head?_spaced
    (texts : List String)
    (character : Char)
    (isFirst : (spaced texts).head? = some character) :
    isUnitCharacter character = false := by
  cases texts with
  | nil => cases isFirst
  | cons text texts =>
      cases isFirst
      decide

/-- The written form of an amount starts with a digit. -/
theorem IsWritten.exists_cons
    {text : String}
    {amount : Amount}
    (written : IsWritten text amount) :
    ∃ first rest, text.toList = first :: rest ∧ rest ≠ [] ∧ isDigit first = true := by
  obtain ⟨-, -, name, rfl, names⟩ := written
  obtain ⟨first, rest, isNumeral⟩ :=
    List.exists_cons_of_ne_nil (Nat.toDigits_ne_nil (b := 10) (n := amount.whole))
  refine ⟨first, rest ++ name.toList, by simp [decimal, isNumeral], by simp [names.filled], ?_⟩
  exact isDigit_of_mem_toDigits amount.whole first (isNumeral ▸ List.mem_cons_self)

/-- Blanks in front are passed over. -/
theorem readAmounts?_space (fuel : Nat) (source : List Char) (start : Duration) :
    readAmounts? fuel (' ' :: source) start = readAmounts? fuel source start := by
  cases fuel with
  | zero => rfl
  | succ fuel =>
      have passed : (' ' :: source).dropWhile isBlank = source.dropWhile isBlank := rfl
      rw [readAmounts?, readAmounts?, passed]

/-- The written forms of amounts with spaces in front are read as the amounts, one after the
other. -/
theorem readAmounts?_spaced
    {texts : List String}
    {amounts : List Amount}
    {fuel : Nat}
    (written : List.Forall₂ IsWritten texts amounts)
    (enough : texts.length < fuel)
    (start : Duration) :
    readAmounts? fuel (spaced texts) start = amounts.foldlM addAmount? start := by
  induction written generalizing fuel start with
  | nil =>
      cases fuel with
      | zero => cases enough
      | succ fuel => rfl
  | @cons text _ texts _ isFirst _ ih =>
      cases fuel with
      | zero => cases enough
      | succ fuel =>
          obtain ⟨first, rest, isText, -, digit⟩ := isFirst.exists_cons
          have read := readAmount?_append isFirst (isUnitCharacter_head?_spaced texts)
          rw [isText, List.cons_append] at read
          have source : spaced (text :: texts) = ' ' :: (first :: (rest ++ spaced texts)) := by
            rw [spaced, List.flatMap_cons, isText]
            rfl
          have visible : (first :: (rest ++ spaced texts)).dropWhile isBlank =
              first :: (rest ++ spaced texts) :=
            List.dropWhile_cons_of_neg (by simp [isBlank_of_isDigit digit])
          rw [source, readAmounts?_space, readAmounts?, visible]
          simp only [digit, if_true, read, Option.bind_some, List.foldlM_cons]
          exact congrArg _ (funext fun next => ih (Nat.lt_of_succ_lt_succ enough) next)

/-! ## Sums of amounts -/

/-- What amounts add up to, where a size is given for every unit. -/
def total (size : TimeUnit → Nat) : List Amount → Nat
  | [] => 0
  | amount :: amounts => amount.whole * size amount.unit + total size amounts

/-- The whole seconds of amounts. -/
def totalSeconds (amounts : List Amount) : Nat := total (fun unit => unit.size.1) amounts

/-- The nanoseconds of amounts beyond them. -/
def totalNanoseconds (amounts : List Amount) : Nat := total (fun unit => unit.size.2) amounts

section Total

variable (size : TimeUnit → Nat)

theorem total_append (left right : List Amount) :
    total size (left ++ right) = total size left + total size right := by
  induction left with
  | nil => exact (Nat.zero_add _).symm
  | cons amount left ih => rw [List.cons_append, total, total, ih, Nat.add_assoc]

theorem total_amountOf (count : Nat) (unit : TimeUnit) :
    total size (amountOf count unit) = count * size unit := by
  unfold amountOf
  split
  · next isZero => rw [isZero, total, Nat.zero_mul]
  · rw [total, total, Nat.add_zero]

end Total

/-- What fits is added without a carry. -/
theorem add?_eq_some
    {start result : Duration}
    {seconds nanoseconds : Nat}
    (isSeconds : result.seconds = start.seconds + seconds)
    (isNanoseconds : result.nanoseconds = start.nanoseconds + nanoseconds) :
    start.add? seconds nanoseconds = some result := by
  have upper := result.seconds_lt
  have upper' := result.nanoseconds_lt
  have limit : 1000000000 < countLimit := by decide
  have noCarry : (start.nanoseconds + nanoseconds) / 1000000000 = 0 :=
    Nat.div_eq_of_lt (by omega)
  have fits : seconds < countLimit ∧ start.nanoseconds + nanoseconds < countLimit := by omega
  have total : start.seconds + seconds + (start.nanoseconds + nanoseconds) / 1000000000 <
      countLimit := by omega
  have unfolded : start.add? seconds nanoseconds = some
      ⟨_, (start.nanoseconds + nanoseconds) % 1000000000, total, Nat.mod_lt _ (by decide)⟩ :=
    (if_pos fits).trans (dif_pos total)
  rw [unfolded]
  refine congrArg some (Duration.ext ?_ ?_)
  · exact (congrArg (start.seconds + seconds + ·) noCarry).trans isSeconds.symm
  · exact (Nat.mod_eq_of_lt (by omega)).trans isNanoseconds.symm

/-- Amounts that are written add up to a duration that has room for them. -/
theorem foldlM_addAmount?
    {texts : List String}
    {amounts : List Amount}
    {start result : Duration}
    (written : List.Forall₂ IsWritten texts amounts)
    (seconds : result.seconds = start.seconds + totalSeconds amounts)
    (nanoseconds : result.nanoseconds = start.nanoseconds + totalNanoseconds amounts) :
    amounts.foldlM addAmount? start = some result := by
  induction written generalizing start with
  | nil => exact congrArg some (Duration.ext seconds.symm nanoseconds.symm)
  | @cons _ amount _ amounts isFirst _ ih =>
      simp only [totalSeconds, totalNanoseconds, total] at seconds nanoseconds
      have upper := result.seconds_lt
      have upper' := result.nanoseconds_lt
      let next : Duration := ⟨start.seconds + amount.whole * amount.unit.size.1,
        start.nanoseconds + amount.whole * amount.unit.size.2, by omega, by omega⟩
      have added : start.addAmount? amount = some next := by
        have sum : start.add? (amount.whole * amount.unit.size.1)
            (amount.whole * amount.unit.size.2) = some next := add?_eq_some rfl rfl
        simp only [addAmount?, sum, Option.bind_some, isFirst.fraction]
      rw [List.foldlM_cons, added]
      refine ih ?_ ?_
      · simp only [next, totalSeconds]
        omega
      · simp only [next, totalNanoseconds]
        omega

/-! ## The text of a duration -/

theorem render_of_isZero {duration : Duration} (isZero : duration.isZero = true) :
    duration.render = "0s" :=
  if_pos isZero

/-- The units from years to nanoseconds add up to the duration that they are counted from. -/
theorem exists_items {duration : Duration} (isSome : duration.isZero = false) :
    ∃ texts amounts, duration.render = " ".intercalate texts ∧
      List.Forall₂ IsWritten texts amounts ∧
      totalSeconds amounts = duration.seconds ∧
      totalNanoseconds amounts = duration.nanoseconds := by
  have upper := duration.seconds_lt
  have upper' := duration.nanoseconds_lt
  have limit : 1000000000 < countLimit := by decide
  have year : NamesUnit "year" .year := ⟨by decide, by decide, by decide⟩
  have years : NamesUnit "years" .year := ⟨by decide, by decide, by decide⟩
  have month : NamesUnit "month" .month := ⟨by decide, by decide, by decide⟩
  have months : NamesUnit "months" .month := ⟨by decide, by decide, by decide⟩
  have day : NamesUnit "day" .day := ⟨by decide, by decide, by decide⟩
  have days : NamesUnit "days" .day := ⟨by decide, by decide, by decide⟩
  have hours : NamesUnit "h" .hour := ⟨by decide, by decide, by decide⟩
  have minutes : NamesUnit "m" .minute := ⟨by decide, by decide, by decide⟩
  have rest : NamesUnit "s" .second := ⟨by decide, by decide, by decide⟩
  have milliseconds : NamesUnit "ms" .millisecond := ⟨by decide, by decide, by decide⟩
  have microseconds : NamesUnit "us" .microsecond := ⟨by decide, by decide, by decide⟩
  have others : NamesUnit "ns" .nanosecond := ⟨by decide, by decide, by decide⟩
  refine ⟨_, _, if_neg (by simp [isSome]), List.rel_append (List.rel_append (List.rel_append
    (List.rel_append (List.rel_append (List.rel_append (List.rel_append (List.rel_append
      (forall₂_pluralItem year years ?_) (forall₂_pluralItem month months ?_))
      (forall₂_pluralItem day days ?_)) (forall₂_item hours ?_)) (forall₂_item minutes ?_))
      (forall₂_item rest ?_)) (forall₂_item milliseconds ?_)) (forall₂_item microseconds ?_))
      (forall₂_item others ?_), ?seconds, ?nanoseconds⟩
  case seconds =>
    simp only [totalSeconds, total_append, total_amountOf, TimeUnit.size]
    omega
  case nanoseconds =>
    simp only [totalNanoseconds, total_append, total_amountOf, TimeUnit.size]
    omega
  all_goals omega

/-- Texts with spaces in front are the texts with spaces between them behind one more space. -/
theorem spaced_cons (first : String) (others : List String) :
    spaced (first :: others) = ' ' :: (" ".intercalate (first :: others)).toList := by
  induction others generalizing first with
  | nil => simp [spaced]
  | cons second others ih =>
      have unfolded : spaced (first :: second :: others) =
          ' ' :: (first.toList ++ spaced (second :: others)) := rfl
      rw [unfolded, ih]
      simp

theorem two_mul_length_le_spaced
    {texts : List String}
    {amounts : List Amount}
    (written : List.Forall₂ IsWritten texts amounts) :
    2 * texts.length ≤ (spaced texts).length := by
  induction written with
  | nil => exact Nat.le_refl 0
  | cons isFirst _ ih =>
      obtain ⟨first, rest, isText, -, -⟩ := isFirst.exists_cons
      simp only [spaced, List.flatMap_cons, List.length_cons, List.length_append, isText] at ih ⊢
      omega

/-- The last character is one of the name of a unit. -/
theorem isBlank_getLast?_spaced
    {texts : List String}
    {amounts : List Amount}
    {last : Char}
    (written : List.Forall₂ IsWritten texts amounts)
    (isLast : (spaced texts).getLast? = some last) :
    isBlank last = false := by
  induction written with
  | nil => cases isLast
  | cons isFirst _ ih =>
      obtain ⟨-, -, name, rfl, names⟩ := isFirst
      rw [spaced, List.flatMap_cons, List.getLast?_append] at isLast
      rcases Option.or_eq_some_iff.1 isLast with isLast | ⟨-, isLast⟩
      · exact ih isLast
      · rw [String.toList_append, ← List.cons_append, List.getLast?_append,
          List.getLast?_eq_some_getLast names.filled, Option.some_or, Option.some.injEq] at isLast
        exact isBlank_of_isUnitCharacter
          (names.isUnitCharacter_of_mem (isLast ▸ List.getLast_mem names.filled))

/-- A duration of some time is written as amounts that add up to it. -/
theorem exists_spaced {duration : Duration} (isSome : duration.isZero = false) :
    ∃ texts amounts, spaced texts = ' ' :: duration.render.toList ∧
      List.Forall₂ IsWritten texts amounts ∧ amounts.foldlM addAmount? zero = some duration := by
  obtain ⟨texts, amounts, rendered, written, seconds, nanoseconds⟩ := exists_items isSome
  refine ⟨texts, amounts, ?_, written, foldlM_addAmount? written ?_ ?_⟩
  · cases written with
    | nil =>
        simp only [totalSeconds, totalNanoseconds, total] at seconds nanoseconds
        simp [isZero, ← seconds, ← nanoseconds] at isSome
    | cons _ _ => rw [rendered, spaced_cons]
  · rw [seconds]
    exact (Nat.zero_add _).symm
  · rw [nanoseconds]
    exact (Nat.zero_add _).symm

/-- The text of a duration starts with a digit, and there is more than that. -/
theorem exists_cons_render (duration : Duration) :
    ∃ first rest, duration.render.toList = first :: rest ∧ rest ≠ [] ∧ isDigit first = true := by
  cases isZero : duration.isZero with
  | true =>
      exact ⟨'0', ['s'], by rw [render_of_isZero isZero]; rfl, by simp, by decide⟩
  | false =>
      obtain ⟨texts, amounts, isSource, written, -⟩ := exists_spaced isZero
      cases written with
      | nil => cases isSource
      | cons isFirst _ =>
          obtain ⟨first, rest, isText, filled, digit⟩ := isFirst.exists_cons
          rw [spaced, List.flatMap_cons, isText] at isSource
          exact ⟨first, _, (List.cons.inj isSource).2.symm, by simp [filled], digit⟩

/-- A duration is read back from its text. -/
theorem read?_render (duration : Duration) : read? duration.render = some duration := by
  cases isZero : duration.isZero with
  | true =>
      have isNone : duration = zero := by
        simp only [Duration.isZero, Bool.and_eq_true, beq_iff_eq] at isZero
        exact Duration.ext isZero.1 isZero.2
      subst isNone
      decide
  | false =>
      obtain ⟨texts, amounts, isSource, written, sum⟩ := exists_spaced isZero
      obtain ⟨first, rest, isRendered, filled, digit⟩ := exists_cons_render duration
      have enough : texts.length < duration.render.toList.length + 1 := by
        have long := two_mul_length_le_spaced written
        rw [isSource, List.length_cons, isRendered, List.length_cons] at long
        rw [isRendered, List.length_cons]
        omega
      have amountsRead := readAmounts?_spaced written enough zero
      rw [isSource, readAmounts?_space, sum] at amountsRead
      rw [read?, if_neg (by simp [isRendered, filled]), if_neg (by
        simp [isRendered, isBlank_of_isDigit digit]), amountsRead]

/-- The text of a duration has no blanks around it. -/
theorem trim_render (duration : Duration) : trim duration.render = duration.render := by
  obtain ⟨first, rest, isRendered, filled, digit⟩ := exists_cons_render duration
  have visible : trimBlanks duration.render.toList = duration.render.toList := by
    refine trimBlanks_eq_self_iff.2 ⟨fun head isHead => ?_, fun last isLast => ?_⟩
    · rw [isRendered] at isHead
      obtain rfl : first = head := Option.some.inj isHead
      exact isBlank_of_isDigit digit
    · cases isZero : duration.isZero with
      | true =>
          rw [render_of_isZero isZero] at isLast
          obtain rfl : 's' = last := Option.some.inj isLast
          decide
      | false =>
          obtain ⟨texts, amounts, isSource, written, -⟩ := exists_spaced isZero
          refine isBlank_getLast?_spaced written ?_
          rw [isSource, isRendered, List.getLast?_cons_cons, ← isRendered, isLast]
  rw [trim, visible, String.ofList_toList]

end Duration
end BundleTrust
