import BundleTrust.Text.Blank
import BundleTrust.Text.Numeral

/-!
# Durations

Spans of time written as amounts with units, such as `1h 30m`.  A year has 365.25 days
and a month 30.44 days.  An amount may have a decimal fraction that comes out even in the
smaller unit it is counted in.
-/

namespace BundleTrust

/-- How many numbers there are to count units of time with. -/
def Duration.countLimit : Nat := UInt64.size

/-- A span of time. -/
structure Duration where
  /-- The whole seconds. -/
  seconds : Nat
  /-- The nanoseconds beyond them. -/
  nanoseconds : Nat
  /-- The seconds fit sixty-four bits. -/
  seconds_lt : seconds < Duration.countLimit
  /-- The nanoseconds are less than a second. -/
  nanoseconds_lt : nanoseconds < 1000000000
  deriving DecidableEq, Repr

attribute [ext] Duration

/-- The units of amounts. -/
inductive TimeUnit where
  /-- A thousandth of a microsecond. -/
  | nanosecond
  /-- A thousandth of a millisecond. -/
  | microsecond
  /-- A thousandth of a second. -/
  | millisecond
  /-- A second. -/
  | second
  /-- Sixty seconds. -/
  | minute
  /-- Sixty minutes. -/
  | hour
  /-- Twenty-four hours. -/
  | day
  /-- Seven days. -/
  | week
  /-- 30.44 days. -/
  | month
  /-- 365.25 days. -/
  | year
  deriving DecidableEq, Repr

namespace TimeUnit

/-- The unit that a word names. -/
def ofName? (name : String) : Option TimeUnit :=
  if ["nanos", "nsec", "ns"].contains name then some .nanosecond
  else if ["usec", "us", "µs"].contains name then some .microsecond
  else if ["millis", "msec", "ms"].contains name then some .millisecond
  else if ["seconds", "second", "secs", "sec", "s"].contains name then some .second
  else if ["minutes", "minute", "mins", "min", "m"].contains name then some .minute
  else if ["hours", "hour", "hrs", "hr", "h"].contains name then some .hour
  else if ["days", "day", "d"].contains name then some .day
  else if ["weeks", "week", "wks", "wk", "w"].contains name then some .week
  else if ["months", "month", "M"].contains name then some .month
  else if ["years", "year", "yrs", "yr", "y"].contains name then some .year
  else none

/-- The seconds and the nanoseconds of one unit; one of them is zero. -/
def size : TimeUnit → Nat × Nat
  | .nanosecond => (0, 1)
  | .microsecond => (0, 1000)
  | .millisecond => (0, 1000000)
  | .second => (1, 0)
  | .minute => (60, 0)
  | .hour => (3600, 0)
  | .day => (86400, 0)
  | .week => (604800, 0)
  | .month => (2630016, 0)
  | .year => (31557600, 0)

/-- What fractions of a unit are counted in: the seconds and the nanoseconds of one unit,
where a second or a minute is counted in nanoseconds and a nanosecond has no fractions. -/
def fractionSize? : TimeUnit → Option (Nat × Nat)
  | .nanosecond => none
  | .second => some (0, 1000000000)
  | .minute => some (0, 60000000000)
  | unit => some unit.size

end TimeUnit

namespace Duration

/-- No nanoseconds are less than a second. -/
theorem zero_lt_second : 0 < 1000000000 := by decide

/-- A duration of whole seconds. -/
def ofSeconds (seconds : Nat) (bound : seconds < countLimit) : Duration :=
  ⟨seconds, 0, bound, zero_lt_second⟩

/-- The duration of no time. -/
def zero : Duration := ofSeconds 0 (by decide)

/-- Whether a duration is of no time. -/
def isZero (duration : Duration) : Bool :=
  duration.seconds == 0 && duration.nanoseconds == 0

/-- Add seconds and nanoseconds, each of which has to fit sixty-four bits. -/
def add? (duration : Duration) (seconds nanoseconds : Nat) : Option Duration :=
  let nanoseconds := duration.nanoseconds + nanoseconds
  let total := duration.seconds + seconds + nanoseconds / 1000000000
  if seconds < countLimit ∧ nanoseconds < countLimit then
    if bound : total < countLimit then
      some ⟨total, nanoseconds % 1000000000, bound, Nat.mod_lt _ (by decide)⟩
    else none
  else none

/-- An amount of a unit: its whole part and its fraction, as the digits after the point. -/
structure Amount where
  /-- The whole part. -/
  whole : Nat
  /-- The digits after the point, if there is one. -/
  fraction : Option (List Char)
  /-- The unit. -/
  unit : TimeUnit

/-- Add a fraction of a unit, given by its digits. -/
def addFraction? (duration : Duration) (unit : TimeUnit) (digits : List Char) :
    Option Duration :=
  unit.fractionSize?.bind fun (seconds, nanoseconds) =>
    let numerator := Text.numeralValue 10 digits
    let denominator := Nat.pow 10 digits.length
    let seconds := numerator * seconds
    let nanoseconds := numerator * nanoseconds
    if digits.isEmpty || countLimit ≤ denominator || countLimit ≤ seconds ||
        countLimit ≤ nanoseconds then
      none
    else if seconds % denominator = 0 ∧ nanoseconds % denominator = 0 then
      duration.add? (seconds / denominator) (nanoseconds / denominator)
    else none

/-- Add an amount. -/
def addAmount? (duration : Duration) (amount : Amount) : Option Duration :=
  let (seconds, nanoseconds) := amount.unit.size
  (duration.add? (amount.whole * seconds) (amount.whole * nanoseconds)).bind fun duration =>
    match amount.fraction with
    | none => some duration
    | some digits => duration.addFraction? amount.unit digits

/-- A character of a number: a digit, or a blank, which is passed over. -/
def isNumberCharacter (character : Char) : Bool :=
  Text.isDigit character || Text.isBlank character

/-- A character of the name of a unit. -/
def isUnitCharacter (character : Char) : Bool :=
  ('a' ≤ character && character ≤ 'z') || ('A' ≤ character && character ≤ 'Z') ||
    character = 'µ'

/-- Read an amount at the front of a text that starts with a digit. -/
def readAmount? (source : List Char) : Option (Amount × List Char) := do
  let whole := (source.takeWhile isNumberCharacter).filter Text.isDigit
  let rest := source.dropWhile isNumberCharacter
  let (fraction, rest) :=
    match rest with
    | '.' :: tail =>
        (some ((tail.takeWhile isNumberCharacter).filter Text.isDigit),
          tail.dropWhile isNumberCharacter)
    | _ => (none, rest)
  let unit ← TimeUnit.ofName? (String.ofList (rest.takeWhile isUnitCharacter))
  let whole ← Text.readDecimalBelow? countLimit whole
  some (⟨whole, fraction, unit⟩, rest.dropWhile isUnitCharacter)

/-- Read amounts up to the end of a text and add them to a duration.  Every amount takes one
unit of fuel. -/
def readAmounts? : (fuel : Nat) → List Char → Duration → Option Duration
  | 0, _, _ => none
  | fuel + 1, source, duration =>
      match source.dropWhile Text.isBlank with
      | [] => some duration
      | first :: rest =>
          if Text.isDigit first then
            (readAmount? (first :: rest)).bind fun (amount, rest) =>
              (duration.addAmount? amount).bind (readAmounts? fuel rest)
          else none

/-- Read a duration: a zero, or one or more amounts. -/
def read? (text : String) : Option Duration :=
  let source := text.toList
  if source = ['0'] then some zero
  else if source.all Text.isBlank then none
  else readAmounts? (source.length + 1) source zero

/-- An amount with a unit that is written in full; nothing for none of it. -/
def pluralItem (name : String) (count : Nat) : List String :=
  if count = 0 then []
  else [Text.decimal count ++ name ++ if count = 1 then "" else "s"]

/-- An amount with an abbreviated unit; nothing for none of it. -/
def item (name : String) (count : Nat) : List String :=
  if count = 0 then [] else [Text.decimal count ++ name]

/-- The text of a duration: its amounts from years to nanoseconds, without those of which
there are none. -/
def render (duration : Duration) : String :=
  let ofYear := duration.seconds % 31557600
  let ofMonth := ofYear % 2630016
  let ofDay := ofMonth % 86400
  if duration.isZero then "0s"
  else
    " ".intercalate
      (pluralItem "year" (duration.seconds / 31557600) ++ pluralItem "month" (ofYear / 2630016) ++
        pluralItem "day" (ofMonth / 86400) ++ item "h" (ofDay / 3600) ++
        item "m" (ofDay % 3600 / 60) ++ item "s" (ofDay % 60) ++
        item "ms" (duration.nanoseconds / 1000000) ++
        item "us" (duration.nanoseconds / 1000 % 1000) ++
        item "ns" (duration.nanoseconds % 1000))

/-- The whole milliseconds of a duration. -/
def milliseconds (duration : Duration) : Nat :=
  1000 * duration.seconds + duration.nanoseconds / 1000000

end Duration

end BundleTrust
