import BundleTrust.Document.Json
import BundleTrust.Text.Utf8
import BundleTrust.Yaml.Style

/-!
# Block YAML

Documents written as YAML: block style, two spaces of indentation, no folding.  A list
under a key is not indented further, a collection inside a list starts on the line of its
dash, and a key that has several lines or more than 128 octets is written after a
question mark.
-/

namespace BundleTrust
namespace Yaml

/-- Floating-point numbers in YAML: as in JSON, but without a plus sign. -/
def numberLayout : Number.Layout := ⟨-5, 15, false⟩

/-- Spaces up to a column. -/
def indentation (column : Nat) : List Char :=
  List.replicate column ' '

/-- The letter of a short escape. -/
def shortEscape? (character : Char) : Option Char :=
  match character with
  | '\x00' => some '0'
  | '\x07' => some 'a'
  | '\x08' => some 'b'
  | '\t' => some 't'
  | '\n' => some 'n'
  | '\x0b' => some 'v'
  | '\x0c' => some 'f'
  | '\r' => some 'r'
  | '\x1b' => some 'e'
  | '"' => some '"'
  | '\\' => some '\\'
  | '\u0085' => some 'N'
  | '\u00a0' => some '_'
  | '\u2028' => some 'L'
  | '\u2029' => some 'P'
  | _ => none

/-- One character between double quotes. -/
def doubleQuotedCharacter (character : Char) : List Char :=
  if isPrintable character && !isBreak character && character != '"' && character != '\\' then
    [character]
  else
    match shortEscape? character with
    | some letter => ['\\', letter]
    | none =>
        let code := character.toNat
        if code ≤ 0xFF then ['\\', 'x'] ++ Text.fixedHex Text.upperHexDigit 2 code
        else if code ≤ 0xFFFF then ['\\', 'u'] ++ Text.fixedHex Text.upperHexDigit 4 code
        else ['\\', 'U'] ++ Text.fixedHex Text.upperHexDigit 8 code

/-- A text between double quotes. -/
def doubleQuoted (characters : List Char) : List Char :=
  '"' :: characters.flatMap doubleQuotedCharacter ++ ['"']

/-- The characters of a text between single quotes: quotes are doubled, and every line
after the first is indented. -/
def singleQuotedBody (column : Nat) : (afterBreak : Bool) → List Char → List Char
  | afterBreak, [] => if afterBreak then indentation column else []
  | afterBreak, character :: rest =>
      if isBreak character then character :: singleQuotedBody column true rest
      else
        (if afterBreak then indentation column else []) ++
          (if character = '\'' then ['\'', '\''] else [character]) ++
          singleQuotedBody column false rest

/-- A text between single quotes. -/
def singleQuoted (column : Nat) (characters : List Char) : List Char :=
  '\'' :: singleQuotedBody column false characters ++ ['\'']

/-- The lines of a literal text, each indented unless it is empty. -/
def literalBody (column : Nat) : (atLineStart : Bool) → List Char → List Char
  | _, [] => []
  | atLineStart, character :: rest =>
      if isBreak character then character :: literalBody column true rest
      else
        (if atLineStart then indentation column else []) ++
          character :: literalBody column false rest

/-- The mark that says how many line breaks end a literal text: a minus sign for none, a
plus sign for several or for nothing but one, no mark for one. -/
def chompingMark (characters : List Char) : List Char :=
  match characters.reverse with
  | [] => ['-']
  | last :: before =>
      if !isBreak last then ['-']
      else
        match before with
        | [] => ['+']
        | previous :: _ => if isBreak previous then ['+'] else []

/-- A text as lines after a bar. -/
def literal (column : Nat) (characters : List Char) : List Char :=
  let hint := if (characters.head?.map isSpaceOrBreak).getD false then ['2'] else []
  '|' :: hint ++ chompingMark characters ++ '\n' :: literalBody column true characters

/-- A text as a scalar; further lines are indented to a column. -/
def renderText (column : Nat) (text : String) : List Char :=
  let characters := text.toList
  match styleOf characters with
  | .plain => characters
  | .singleQuoted => singleQuoted column characters
  | .doubleQuoted => doubleQuoted characters
  | .literal => literal column characters

/-- The greatest number of octets of a simple key. -/
def greatestSimpleKey : Nat := 128

/-- Whether a key is written on one line with its value. -/
def isSimpleKey (key : String) : Bool :=
  !isMultiline key.toList && key.utf8ByteSize ≤ greatestSimpleKey

/-- A line break, unless the text before it ends with one. -/
def lineEnd (before : List Char) : List Char :=
  if (before.getLast?.map isBreak).getD false then [] else ['\n']

/-- Join the entries of a collection, each on a line of its own from a column on. -/
def joinEntries (column : Nat) : List (List Char) → List Char
  | [] => []
  | [entry] => entry
  | entry :: entries =>
      entry ++ lineEnd entry ++ indentation column ++ joinEntries column entries

/-- Where a value stands. -/
inductive Place where
  /-- At the root of the document. -/
  | root
  /-- After a dash, a question mark or the colon of a key that is not simple; the mark
  stands at a column. -/
  | afterMark (column : Nat)
  /-- After a simple key and its colon; the key stands at a column. -/
  | afterKey (column : Nat)

namespace Place

/-- The column of the dashes of a list at a place. -/
def listColumn : Place → Nat
  | .root => 0
  | .afterMark column => column + 2
  | .afterKey column => column

/-- The column of the keys of a mapping at a place. -/
def mappingColumn : Place → Nat
  | .root => 0
  | .afterMark column => column + 2
  | .afterKey column => column + 2

/-- The column of the further lines of a text at a place. -/
def textColumn : Place → Nat
  | .root => 2
  | .afterMark column => column + 2
  | .afterKey column => column + 2

/-- What stands before a scalar or an empty collection. -/
def beforeScalar : Place → List Char
  | .root => []
  | .afterMark _ => [' ']
  | .afterKey _ => [' ']

/-- What stands before the first entry of a collection whose entries start at a column. -/
def beforeEntries (place : Place) (column : Nat) : List Char :=
  match place with
  | .root => []
  | .afterMark _ => [' ']
  | .afterKey _ => '\n' :: indentation column

end Place

/-- A collection at a place: its entries, or the sign of an empty one. -/
def renderCollection
    (place : Place)
    (column : Nat)
    (emptySign : List Char)
    (entries : List (List Char)) :
    List Char :=
  if entries.isEmpty then place.beforeScalar ++ emptySign
  else place.beforeEntries column ++ joinEntries column entries

mutual

/-- A value at a place. -/
def render (place : Place) : Document → List Char
  | .null => place.beforeScalar ++ "null".toList
  | .boolean true => place.beforeScalar ++ "true".toList
  | .boolean false => place.beforeScalar ++ "false".toList
  | .integer value => place.beforeScalar ++ Json.integerText value.value
  | .real value => place.beforeScalar ++ numberLayout.render value
  | .text value => place.beforeScalar ++ renderText place.textColumn value
  | .list items =>
      renderCollection place place.listColumn ['[', ']'] (renderItems place.listColumn items)
  | .mapping members =>
      renderCollection place place.mappingColumn ['\x7b', '\x7d']
        (renderMembers place.mappingColumn members)

/-- The items of a list whose dashes stand at a column. -/
def renderItems (column : Nat) : List Document → List (List Char)
  | [] => []
  | item :: items => ('-' :: render (.afterMark column) item) :: renderItems column items

/-- The members of a mapping whose keys stand at a column. -/
def renderMembers (column : Nat) : Members → List (List Char)
  | [] => []
  | (key, value) :: members =>
      (if isSimpleKey key then
        renderText (column + 2) key ++ ':' :: render (.afterKey column) value
      else
        let mark := '?' :: ' ' :: renderText (column + 2) key
        mark ++ lineEnd mark ++ indentation column ++
          ':' :: render (.afterMark column) value) :: renderMembers column members

end

/-- The YAML text of a document, with members in their order. -/
def write (document : Document) : String :=
  let body := render .root document
  String.ofList (body ++ lineEnd body)

/-- The YAML text of a document with the keys of every mapping in ascending order. -/
def writeCanonical (document : Document) : String :=
  write document.sortKeys

end Yaml
end BundleTrust
