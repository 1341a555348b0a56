import BundleTrust.Text.Numeral
import BundleTrust.Yaml.Cursor

/-!
# Scalars as indented lines

Literal and folded block scalars: a header that may fix the indentation and say what
happens to the line breaks at the end, then indented lines.
-/

namespace BundleTrust
namespace Yaml

/-- What happens to the line breaks at the end of a block scalar. -/
inductive Chomping where
  /-- All are dropped. -/
  | strip
  /-- The break of the last line stays. -/
  | clip
  /-- All stay. -/
  | keep
  deriving DecidableEq, Repr

/-- The header of a block scalar. -/
structure BlockHeader where
  /-- What happens to the line breaks at the end. -/
  chomping : Chomping
  /-- The columns of indentation, where they are fixed. -/
  increment : Option Nat

/-- The chomping that a sign stands for. -/
def chompingOf? (sign : Char) : Option Chomping :=
  if sign = '+' then some .keep else if sign = '-' then some .strip else none

/-- Read the marks of a header: a sign and a digit other than zero in either order, both
optional.  The number of characters read comes with them. -/
def readBlockMarks? : List Char → Option (BlockHeader × Nat)
  | [] => some (⟨.clip, none⟩, 0)
  | first :: rest =>
      match chompingOf? first with
      | some chomping =>
          match rest with
          | second :: _ =>
              if second = '0' then none
              else if Text.isDigit second then
                some (⟨chomping, some (Text.digitValue second)⟩, 2)
              else some (⟨chomping, none⟩, 1)
          | [] => some (⟨chomping, none⟩, 1)
      | none =>
          if first = '0' then none
          else if Text.isDigit first then
            match rest.head?.bind chompingOf? with
            | some chomping => some (⟨chomping, some (Text.digitValue first)⟩, 2)
            | none => some (⟨.clip, some (Text.digitValue first)⟩, 1)
          else some (⟨.clip, none⟩, 0)

/-- Empty lines before the next line of a block scalar. -/
structure BlockGap where
  /-- Their line breaks. -/
  breaks : List Char
  /-- The widest indentation met. -/
  widest : Nat
  /-- The place where the next line's content starts, or where indentation ends. -/
  cursor : Cursor

/-- Skip indentation and empty lines.  Without an indentation all spaces count; a tab where
indentation is expected is refused.  Every line takes one unit of fuel. -/
def blockGap? (indentation : Option Nat) :
    (fuel : Nat) → (widest : Nat) → Cursor → Option BlockGap
  | 0, widest, cursor => some ⟨[], widest, cursor⟩
  | fuel + 1, widest, cursor =>
      let spaces := (cursor.run (· = ' ')).length
      let width :=
        match indentation with
        | some indentation => min spaces (indentation - cursor.column)
        | none => spaces
      let cursor := cursor.skip width
      let widest := max widest cursor.column
      let isShort :=
        match indentation with
        | some indentation => decide (cursor.column < indentation)
        | none => true
      if isShort && cursor.startsWith '\t' then none
      else
        match cursor.rest with
        | [] => some ⟨[], widest, cursor⟩
        | character :: _ =>
            if isBreak character then
              (blockGap? indentation fuel widest cursor.next).map fun gap =>
                { gap with breaks := character :: gap.breaks }
            else some ⟨[], widest, cursor⟩

/-- A line of a block scalar. -/
structure BlockLine where
  /-- The line without its indentation. -/
  content : List Char
  /-- Its line break, unless the text ends with it. -/
  lineBreak : List Char
  /-- The breaks of the empty lines after it. -/
  emptyLines : List Char

namespace BlockLine

/-- Whether a line starts with a blank beyond its indentation. -/
def startsBlank (line : BlockLine) : Bool :=
  (line.content.head?.map isBlank).getD false

end BlockLine

/-- Read the lines of a block scalar.  Every line takes one unit of fuel. -/
def blockLines? (indentation : Nat) :
    (fuel : Nat) → Cursor → Option (List BlockLine × Cursor)
  | 0, cursor => some ([], cursor)
  | fuel + 1, cursor =>
      if cursor.column ≠ indentation || cursor.atEnd then some ([], cursor)
      else
        let content := cursor.run (!isBreak ·)
        let cursor := cursor.skip content.length
        let lineBreak := cursor.rest.take 1
        (blockGap? (some indentation) (cursor.rest.length + 1) 0 cursor.next).bind fun gap =>
          (blockLines? indentation fuel gap.cursor).map fun read =>
            (⟨content, lineBreak, gap.breaks⟩ :: read.1, read.2)

/-- What stands between a line and the next one.  In a folded scalar the break between two
lines that do not start with a blank is dropped if empty lines follow, else a space. -/
def joint (folded : Bool) (line next : BlockLine) : List Char :=
  if folded && line.lineBreak = ['\n'] && !line.startsBlank && !next.startsBlank then
    if line.emptyLines.isEmpty then [' '] else line.emptyLines
  else line.lineBreak ++ line.emptyLines

/-- The text of the lines of a block scalar. -/
def joinLines (folded : Bool) (chomping : Chomping) : List BlockLine → List Char
  | [] => []
  | [line] =>
      match chomping with
      | .strip => line.content
      | .clip => line.content ++ line.lineBreak
      | .keep => line.content ++ line.lineBreak ++ line.emptyLines
  | line :: next :: rest =>
      line.content ++ joint folded line next ++ joinLines folded chomping (next :: rest)

/-- Read a block scalar from its sign on; it stands in a collection whose entries are
indented by less than a margin. -/
def readBlock? (margin : Nat) (cursor : Cursor) : Option (List Char × Cursor) := do
  let folded := cursor.startsWith '>'
  let cursor := cursor.next
  let (header, size) ← readBlockMarks? cursor.rest
  let cursor ← (cursor.skip size).finishLine?
  let fixed := header.increment.map (margin - 1 + ·)
  let gap ← blockGap? fixed (cursor.rest.length + 1) 0 cursor
  let indentation := fixed.getD (max 1 (max margin gap.widest))
  let (lines, cursor) ← blockLines? indentation (cursor.rest.length + 1) gap.cursor
  let start := if lines.isEmpty && header.chomping ≠ .keep then [] else gap.breaks
  some (start ++ joinLines folded header.chomping lines, cursor)

end Yaml
end BundleTrust
