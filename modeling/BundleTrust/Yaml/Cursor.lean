import BundleTrust.Yaml.Character

/-!
# Cursors

A place in a YAML text: what is left of the text, and the index, line and column of its
first character.  Line breaks are normalised before reading, so that every break is one
character.
-/

namespace BundleTrust
namespace Yaml

/-- A character that a YAML text may contain. -/
def isAllowed (character : Char) : Bool :=
  let code := character.toNat
  code == 0x09 || code == 0x0A || code == 0x0D || (0x20 ≤ code && code ≤ 0x7E) ||
    code == 0x85 || (0xA0 ≤ code && code ≤ 0xFFFD) || 0x10000 ≤ code

/-- Carriage returns, with or without a line feed, and next-line characters become line
feeds. -/
def normaliseBreaks : List Char → List Char
  | '\r' :: '\n' :: rest => '\n' :: normaliseBreaks rest
  | character :: rest =>
      (if character = '\r' || character = '\u0085' then '\n' else character) ::
        normaliseBreaks rest
  | [] => []

/-- A blank or a line break. -/
def isBlankOrBreak (character : Char) : Bool :=
  isBlank character || isBreak character

/-- Whether a text starts with a blank or a line break, or is over. -/
def atBlankOrEnd : List Char → Bool
  | [] => true
  | character :: _ => isBlankOrBreak character

/-- Whether a text starts with a line break, or is over. -/
def atBreakOrEnd : List Char → Bool
  | [] => true
  | character :: _ => isBreak character

/-- A place in a text. -/
structure Cursor where
  /-- What is left of the text. -/
  rest : List Char
  /-- The number of characters before the place. -/
  index : Nat
  /-- The number of lines before the place. -/
  line : Nat
  /-- The number of characters before the place on its line. -/
  column : Nat
  deriving Repr

namespace Cursor

/-- The start of a text. -/
def ofText (text : List Char) : Cursor := ⟨text, 0, 0, 0⟩

/-- The place after one character. -/
def next (cursor : Cursor) : Cursor :=
  match cursor.rest with
  | [] => cursor
  | character :: rest =>
      if isBreak character then ⟨rest, cursor.index + 1, cursor.line + 1, 0⟩
      else ⟨rest, cursor.index + 1, cursor.line, cursor.column + 1⟩

/-- The place after a number of characters. -/
def skip (count : Nat) (cursor : Cursor) : Cursor :=
  count.repeat next cursor

/-- The longest run of characters that satisfy a test. -/
def run (test : Char → Bool) (cursor : Cursor) : List Char :=
  cursor.rest.takeWhile test

/-- The place after the longest run of characters that satisfy a test. -/
def skipWhile (test : Char → Bool) (cursor : Cursor) : Cursor :=
  cursor.skip (cursor.run test).length

/-- Whether the text is over. -/
def atEnd (cursor : Cursor) : Bool :=
  cursor.rest.isEmpty

/-- Whether the next character is a given one. -/
def startsWith (character : Char) (cursor : Cursor) : Bool :=
  cursor.rest.head? == some character

/-- Whether the next character satisfies a test. -/
def startsIn (test : Char → Bool) (cursor : Cursor) : Bool :=
  (cursor.rest.head?.map test).getD false

/-- Whether the rest of a text starts with a marker of three characters and a blank. -/
def hasMarker (mark : Char) : List Char → Bool
  | first :: second :: third :: rest =>
      first = mark && second = mark && third = mark && atBlankOrEnd rest
  | _ => false

/-- Whether a line starts here that opens a document. -/
def atDocumentStart (cursor : Cursor) : Bool :=
  cursor.column == 0 && hasMarker '-' cursor.rest

/-- Whether a line starts here that closes a document. -/
def atDocumentEnd (cursor : Cursor) : Bool :=
  cursor.column == 0 && hasMarker '.' cursor.rest

/-- Whether a line starts here that opens or closes a document. -/
def atDocumentMarker (cursor : Cursor) : Bool :=
  cursor.atDocumentStart || cursor.atDocumentEnd

/-- Skip blanks, a comment and the end of a line; anything else on the line is refused. -/
def finishLine? (cursor : Cursor) : Option Cursor :=
  let cursor := cursor.skipWhile isBlank
  let cursor := if cursor.startsWith '#' then cursor.skipWhile (!isBreak ·) else cursor
  if atBreakOrEnd cursor.rest then some cursor.next else none

end Cursor

end Yaml
end BundleTrust
