import BundleTrust.Text.Hexadecimal
import BundleTrust.Text.Numeral
import BundleTrust.Text.Utf8
import BundleTrust.Yaml.Cursor

/-!
# Tags

What a tag says about a node, and how tags are spelled: a handle, which a directive may
define, and a suffix of URI characters with percent escapes.
-/

namespace BundleTrust
namespace Yaml

/-- What a tag says about its node. -/
inductive Tag where
  /-- It is a truth value. -/
  | boolean
  /-- It is a whole number. -/
  | integer
  /-- It is a floating-point number. -/
  | real
  /-- It is null. -/
  | null
  /-- It has a type of the application, under a name. -/
  | custom (name : String)
  /-- It has a type of the application, whose name is not a text. -/
  | garbled
  /-- It has another type. -/
  | other
  deriving DecidableEq, Repr

/-- The start of the tags of the core types. -/
def coreStart : List UInt8 := Text.octets "tag:yaml.org,2002:"

/-- The tag with a given spelling. -/
def Tag.ofOctets (spelling : List UInt8) : Tag :=
  match spelling with
  | 0x21 :: name =>
      match Text.decodeUtf8 name with
      | .ok name => .custom name
      | .error _ => .garbled
  | spelling =>
      if spelling = coreStart ++ Text.octets "bool" then .boolean
      else if spelling = coreStart ++ Text.octets "int" then .integer
      else if spelling = coreStart ++ Text.octets "float" then .real
      else if spelling = coreStart ++ Text.octets "null" then .null
      else .other

/-- The handles and what they stand for. -/
abbrev TagHandles := List (String × List UInt8)

/-- The handles that every document knows unless its directives define them. -/
def defaultHandles : TagHandles := [("!", Text.octets "!"), ("!!", coreStart)]

/-- A tag as it is spelled. -/
structure TagSpelling where
  /-- The handle; a tag that is spelled in full has none. -/
  handle : Option String
  /-- What follows the handle. -/
  suffix : List UInt8
  deriving DecidableEq, Repr

/-- The tag that a spelling stands for, if its handle is known. -/
def TagSpelling.resolve? (spelling : TagSpelling) (handles : TagHandles) : Option Tag :=
  match spelling.handle with
  | none => some (Tag.ofOctets spelling.suffix)
  | some handle => (handles.lookup handle).map fun start => Tag.ofOctets (start ++ spelling.suffix)

/-- A character that may stand in a tag; some may only stand in one spelled in full. -/
def isTagCharacter (inFull : Bool) (character : Char) : Bool :=
  isWordCharacter character || ";/?:@&=+$.!~*'()".toList.contains character ||
    (inFull && ",[]".toList.contains character)

/-- Whether an octet may be at a place in a character's octets: the first one with the
number of octets that follow it, or a later one. -/
def octetsAfter? (octet : Nat) : Option Nat :=
  if octet < 0x80 then some 0
  else if octet / 0x20 = 0x06 then some 1
  else if octet / 0x10 = 0x0E then some 2
  else if octet / 0x08 = 0x1E then some 3
  else none

/-- Read tag characters and percent escapes; `awaited` octets of an escaped character are
still to come.  The number of characters read comes with the octets. -/
def readTagOctets? (inFull : Bool) :
    (skipped awaited : Nat) → List Char → Option (List UInt8 × Nat)
  | _, awaited, [] => if awaited = 0 then some ([], 0) else none
  | skipped + 1, awaited, _ :: rest =>
      (readTagOctets? inFull skipped awaited rest).map fun read => (read.1, read.2 + 1)
  | 0, awaited, '%' :: rest =>
      (Text.readNumeral? 16 (rest.take 2)).bind fun octet =>
        if rest.length < 2 then none
        else
          let remaining :=
            if awaited = 0 then octetsAfter? octet
            else if octet / 0x40 = 0x02 then some (awaited - 1)
            else none
          remaining.bind fun remaining =>
            (readTagOctets? inFull 2 remaining rest).map fun read =>
              (UInt8.ofNat octet :: read.1, read.2 + 1)
  | 0, awaited, character :: rest =>
      if awaited ≠ 0 then none
      else if isTagCharacter inFull character then
        (readTagOctets? inFull 0 0 rest).map fun read =>
          (UInt8.ofNat character.toNat :: read.1, read.2 + 1)
      else some ([], 0)

/-- Read a tag's octets up to the first null. -/
def readSuffix? (inFull : Bool) (cursor : Cursor) : Option (List UInt8 × Cursor) :=
  (readTagOctets? inFull 0 0 cursor.rest).map fun read =>
    (read.1.takeWhile (· ≠ 0), cursor.skip read.2)

/-- A handle at the front of a text: an exclamation mark, word characters, and another mark
if there is one. -/
def readHandle (cursor : Cursor) : List Char × Cursor :=
  let word := cursor.next.run isWordCharacter
  let after := cursor.next.skip word.length
  if after.startsWith '!' then ('!' :: word ++ ['!'], after.next) else ('!' :: word, after)

/-- Read a tag from its exclamation mark on. -/
def readTag? (inFlow : Bool) (cursor : Cursor) : Option (TagSpelling × Cursor) := do
  let (spelling, cursor) ←
    if cursor.next.startsWith '<' then do
      let (suffix, after) ← readSuffix? true (cursor.skip 2)
      if after.index = cursor.index + 2 then none
      if !after.startsWith '>' then none
      some (TagSpelling.mk none suffix, after.next)
    else do
      let (handle, after) := readHandle cursor
      if handle.length > 1 && handle.getLast? == some '!' then
        let (suffix, finish) ← readSuffix? false after
        if finish.index = after.index then none
        some (TagSpelling.mk (some (String.ofList handle)) suffix, finish)
      else
        let (suffix, finish) ← readSuffix? false after
        let suffix := Text.octets (String.ofList (handle.drop 1)) ++ suffix
        if suffix.isEmpty then some (TagSpelling.mk none (Text.octets "!"), finish)
        else some (TagSpelling.mk (some "!") suffix, finish)
  if atBlankOrEnd cursor.rest || (inFlow && cursor.startsWith ',') then some (spelling, cursor)
  else none

/-- Read the value of a tag directive: a handle, blanks, and what it stands for. -/
def readTagDirective? (cursor : Cursor) : Option ((String × List UInt8) × Cursor) := do
  let cursor := cursor.skipWhile isBlank
  if !cursor.startsWith '!' then none
  let (handle, after) := readHandle cursor
  if handle.length > 1 && handle.getLast? != some '!' then none
  if !after.startsIn isBlank then none
  let start := after.skipWhile isBlank
  let (meaning, finish) ← readSuffix? true start
  if finish.index = start.index then none
  if atBlankOrEnd finish.rest then some ((String.ofList handle, meaning), finish) else none

/-- The name of an anchor or an alias from its sign on. -/
def readAnchor? (cursor : Cursor) : Option (String × Cursor) :=
  let name := cursor.next.run isWordCharacter
  let after := cursor.next.skip name.length
  let mayFollow := atBlankOrEnd after.rest || after.startsIn "?:,]\x7d%@\x60".toList.contains
  if !name.isEmpty && mayFollow then some (String.ofList name, after) else none

end Yaml
end BundleTrust
