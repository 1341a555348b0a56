import BundleTrust.Yaml.BlockText
import BundleTrust.Yaml.FlowText
import BundleTrust.Yaml.Token

/-!
# Token streams

Cutting a YAML text into tokens.  Two things are known only later than they begin: that a
scalar or a collection is a key, which its colon shows, and that an indented mapping has
started.  Places where a key may have begun are remembered, and the tokens that were
missing there are inserted when the colon comes.
-/

namespace BundleTrust
namespace Yaml

/-- A place where a key may have begun. -/
structure KeyPlace where
  /-- The number of tokens before it. -/
  tokensBefore : Nat
  /-- Whether a key has to stand there. -/
  isRequired : Bool
  /-- The place in the text. -/
  cursor : Cursor

/-- The greatest number of characters between the start of a key and its colon. -/
def greatestKeyLength : Nat := 1024

namespace KeyPlace

/-- Whether the colon of a key that began at a place can no longer come. -/
def isPast (place : KeyPlace) (cursor : Cursor) : Bool :=
  place.cursor.line < cursor.line || place.cursor.index + greatestKeyLength < cursor.index

end KeyPlace

/-- A text half cut into tokens.  Indentation is kept as a margin, the first column that
lies inside the innermost indented collection; outside of all collections it is zero. -/
structure TokenStream where
  /-- The place reached. -/
  cursor : Cursor
  /-- The tokens so far, the last one first. -/
  reversed : List Token
  /-- The margin. -/
  margin : Nat
  /-- The margins around it, the innermost first. -/
  outerMargins : List Nat
  /-- Where the key of an entry that is being read may have begun. -/
  keyPlace : Option KeyPlace
  /-- The same for the collections around the innermost bracket; as many as there are open
  brackets. -/
  outerKeyPlaces : List (Option KeyPlace)
  /-- Whether a key may begin here. -/
  keyAllowed : Bool

namespace TokenStream

/-- The stream of a text. -/
def ofText (text : List Char) : TokenStream :=
  ⟨Cursor.ofText text, [], 0, [], none, [], true⟩

/-- Whether the place lies inside brackets. -/
def inFlow (stream : TokenStream) : Bool :=
  !stream.outerKeyPlaces.isEmpty

/-- Add a token. -/
def push (token : Token) (stream : TokenStream) : TokenStream :=
  { stream with reversed := token :: stream.reversed }

/-- Insert a token after a number of tokens. -/
def insertAfter (count : Nat) (token : Token) (stream : TokenStream) : TokenStream :=
  { stream with
    reversed := stream.reversed.insertIdx (stream.reversed.length - count) token }

/-- Move on by a number of characters. -/
def skip (count : Nat) (stream : TokenStream) : TokenStream :=
  { stream with cursor := stream.cursor.skip count }

/-- Say whether a key may begin. -/
def allowKey (keyAllowed : Bool) (stream : TokenStream) : TokenStream :=
  { stream with keyAllowed := keyAllowed }

/-- Skip white space, comments and line breaks.  Tabs count as white space only where no key
may begin.  After a line break outside brackets a key may begin.  Every line takes one unit
of fuel. -/
def skipToToken : (fuel : Nat) → TokenStream → TokenStream
  | 0, stream => stream
  | fuel + 1, stream =>
      let tabsCount := stream.inFlow || !stream.keyAllowed
      let cursor := stream.cursor
      let cursor :=
        if cursor.index == 0 && cursor.startsWith '\uFEFF' then cursor.next else cursor
      let cursor := cursor.skipWhile fun character =>
        character = ' ' || (tabsCount && character = '\t')
      let cursor := if cursor.startsWith '#' then cursor.skipWhile (!isBreak ·) else cursor
      if cursor.startsIn isBreak then
        skipToToken fuel
          { stream with
            cursor := cursor.next
            keyAllowed := stream.keyAllowed || !stream.inFlow }
      else { stream with cursor := cursor }

/-- Forget a place whose colon can no longer come; if a key had to stand there, there is
none. -/
def expireKey? (cursor : Cursor) : Option KeyPlace → Option (Option KeyPlace)
  | none => some none
  | some place =>
      if place.isPast cursor then (if place.isRequired then none else some none)
      else some (some place)

/-- Forget all places whose colon can no longer come. -/
def expireKeys? (stream : TokenStream) : Option TokenStream := do
  let keyPlace ← expireKey? stream.cursor stream.keyPlace
  let outerKeyPlaces ← stream.outerKeyPlaces.mapM (expireKey? stream.cursor)
  some { stream with keyPlace := keyPlace, outerKeyPlaces := outerKeyPlaces }

/-- Forget the innermost place; if a key had to stand there, there is none. -/
def dropKey? (stream : TokenStream) : Option TokenStream :=
  if (stream.keyPlace.map KeyPlace.isRequired).getD false then none
  else some { stream with keyPlace := none }

/-- Remember that a key may begin here, if it may.  Outside brackets it has to where the
column is the one of the collection's entries. -/
def rememberKey? (stream : TokenStream) : Option TokenStream :=
  if stream.keyAllowed then
    let isRequired := !stream.inFlow && stream.margin == stream.cursor.column + 1
    stream.dropKey?.map fun stream =>
      { stream with keyPlace := some ⟨stream.reversed.length, isRequired, stream.cursor⟩ }
  else some stream

/-- Close the innermost collections until the margin is at most a given one. -/
def closeBlocksFrom (margin : Nat) : (outerMargins : List Nat) → TokenStream → TokenStream
  | [], stream => stream
  | outer :: outers, stream =>
      if margin < stream.margin then
        closeBlocksFrom margin outers
          { stream.push .blockEnd with margin := outer, outerMargins := outers }
      else stream

/-- Close the indented collections whose margin is greater than a given one; inside
brackets indentation has no meaning. -/
def closeBlocks (margin : Nat) (stream : TokenStream) : TokenStream :=
  if stream.inFlow then stream else closeBlocksFrom margin stream.outerMargins stream

/-- Open an indented collection at a column, unless one with that column is open; its token
comes after a number of tokens. -/
def openBlock (column count : Nat) (token : Token) (stream : TokenStream) : TokenStream :=
  if !stream.inFlow && stream.margin < column + 1 then
    { stream.insertAfter count token with
      margin := column + 1
      outerMargins := stream.margin :: stream.outerMargins }
  else stream

/-- Open an indented collection here. -/
def openBlockHere (token : Token) (stream : TokenStream) : TokenStream :=
  stream.openBlock stream.cursor.column stream.reversed.length token

/-- Close everything before a directive or a document marker. -/
def closeDocument? (stream : TokenStream) : Option TokenStream :=
  (stream.closeBlocks 0).dropKey?.map (allowKey false)

/-- Read a number of a version: one to nine digits. -/
def readVersionNumber? (cursor : Cursor) : Option (Nat × Cursor) :=
  let digits := cursor.run Text.isDigit
  if digits.isEmpty || digits.length > 9 then none
  else some (Text.numeralValue 10 digits, cursor.skip digits.length)

/-- Read a directive from its percent sign on. -/
def readDirective? (cursor : Cursor) : Option (Token × Cursor) := do
  let name := cursor.next.run isWordCharacter
  let after := cursor.next.skip name.length
  if name.isEmpty || !atBlankOrEnd after.rest then none
  let (token, after) ←
    if name = "YAML".toList then do
      let (major, after) ← readVersionNumber? (after.skipWhile isBlank)
      if !after.startsWith '.' then none
      let (minor, after) ← readVersionNumber? after.next
      some (Token.version major minor, after)
    else if name = "TAG".toList then do
      let ((handle, meaning), after) ← readTagDirective? after
      some (Token.handle handle meaning, after)
    else none
  some (token, ← after.finishLine?)

/-- Add a document marker. -/
def pushMarker? (token : Token) (stream : TokenStream) : Option TokenStream :=
  stream.closeDocument?.map fun stream => (stream.skip 3).push token

/-- Add an opening bracket. -/
def pushOpening? (token : Token) (stream : TokenStream) : Option TokenStream :=
  stream.rememberKey?.map fun stream =>
    ({ stream with
      keyPlace := none
      outerKeyPlaces := stream.keyPlace :: stream.outerKeyPlaces
      keyAllowed := true }.skip 1).push token

/-- Add a closing bracket. -/
def pushClosing? (token : Token) (stream : TokenStream) : Option TokenStream :=
  stream.dropKey?.map fun stream =>
    let stream :=
      match stream.outerKeyPlaces with
      | [] => stream
      | keyPlace :: outer => { stream with keyPlace := keyPlace, outerKeyPlaces := outer }
    ((stream.allowKey false).skip 1).push token

/-- Add a comma. -/
def pushComma? (stream : TokenStream) : Option TokenStream :=
  stream.dropKey?.map fun stream => ((stream.allowKey true).skip 1).push .comma

/-- Add a dash. -/
def pushDash? (stream : TokenStream) : Option TokenStream := do
  if !stream.inFlow && !stream.keyAllowed then none
  let stream ← (stream.openBlockHere .blockListStart).dropKey?
  some (((stream.allowKey true).skip 1).push .dash)

/-- Add a question mark, which starts a key. -/
def pushKey? (stream : TokenStream) : Option TokenStream := do
  if !stream.inFlow && !stream.keyAllowed then none
  let stream ← (stream.openBlockHere .blockMappingStart).dropKey?
  some (((stream.allowKey !stream.inFlow).skip 1).push .key)

/-- Add a colon.  It makes a key of what began at the place remembered; without one it
belongs to a key after a question mark. -/
def pushValue? (stream : TokenStream) : Option TokenStream :=
  match stream.keyPlace with
  | some place =>
      let stream := stream.insertAfter place.tokensBefore .key
      let stream :=
        stream.openBlock place.cursor.column place.tokensBefore .blockMappingStart
      some (({ stream with keyPlace := none, keyAllowed := false }.skip 1).push .value)
  | none =>
      if !stream.inFlow && !stream.keyAllowed then none
      else
        let stream := stream.openBlockHere .blockMappingStart
        some (((stream.allowKey !stream.inFlow).skip 1).push .value)

/-- Add a token that may be the start of a key and that a reader returns. -/
def pushRead?
    (read : Cursor → Option (Token × Cursor))
    (stream : TokenStream) :
    Option TokenStream := do
  let stream ← stream.rememberKey?
  let (token, cursor) ← read stream.cursor
  some ({ stream with cursor := cursor, keyAllowed := false }.push token)

/-- Add a block scalar. -/
def pushBlock? (form : ScalarForm) (stream : TokenStream) : Option TokenStream := do
  let stream ← stream.dropKey?
  let (text, cursor) ← readBlock? stream.margin stream.cursor
  some ({ stream with cursor := cursor, keyAllowed := true }.push
    (.scalar form (String.ofList text)))

/-- Add a quoted scalar. -/
def pushQuoted? (quote : Char) (stream : TokenStream) : Option TokenStream :=
  stream.pushRead? fun cursor =>
    (readQuoted? quote cursor).map fun read =>
      (.scalar .quoted (String.ofList read.1), read.2)

/-- Add a plain scalar. -/
def pushPlain? (stream : TokenStream) : Option TokenStream := do
  let stream ← stream.rememberKey?
  let read ← readPlain? stream.inFlow stream.margin stream.cursor
  some ({ stream with cursor := read.cursor, keyAllowed := read.leftLine }.push
    (.scalar .plain (String.ofList read.text)))

/-- Whether a plain scalar can start with a character. -/
def startsPlain (inFlow : Bool) (first : Char) (rest : List Char) : Bool :=
  !(isBlankOrBreak first || "-?:,[]\x7b\x7d#&*!|>'\"%@\x60".toList.contains first) ||
    (first = '-' && !(rest.head?.map isBlank).getD false) ||
    (!inFlow && (first = '?' || first = ':') && !atBlankOrEnd rest)

/-- Add the token that starts with a character. -/
def pushAt? (first : Char) (rest : List Char) (stream : TokenStream) : Option TokenStream :=
  if stream.cursor.column == 0 && first = '%' then do
    let stream ← stream.closeDocument?
    let (token, cursor) ← readDirective? stream.cursor
    some ({ stream with cursor := cursor }.push token)
  else if stream.cursor.atDocumentStart then stream.pushMarker? .documentStart
  else if stream.cursor.atDocumentEnd then stream.pushMarker? .documentEnd
  else if first = '[' then stream.pushOpening? .flowListStart
  else if first = '\x7b' then stream.pushOpening? .flowMappingStart
  else if first = ']' then stream.pushClosing? .flowListEnd
  else if first = '\x7d' then stream.pushClosing? .flowMappingEnd
  else if first = ',' then stream.pushComma?
  else if first = '-' && atBlankOrEnd rest then stream.pushDash?
  else if first = '?' && (stream.inFlow || atBlankOrEnd rest) then stream.pushKey?
  else if first = ':' && (stream.inFlow || atBlankOrEnd rest) then stream.pushValue?
  else if first = '*' then
    stream.pushRead? fun cursor => (readAnchor? cursor).map fun read => (.alias read.1, read.2)
  else if first = '&' then
    stream.pushRead? fun cursor => (readAnchor? cursor).map fun read => (.anchor read.1, read.2)
  else if first = '!' then
    stream.pushRead? fun cursor =>
      (readTag? stream.inFlow cursor).map fun read => (.tag read.1, read.2)
  else if first = '|' && !stream.inFlow then stream.pushBlock? .literal
  else if first = '>' && !stream.inFlow then stream.pushBlock? .quoted
  else if first = '\'' || first = '"' then stream.pushQuoted? first
  else if startsPlain stream.inFlow first rest then stream.pushPlain?
  else none

/-- Cut the rest of a text into tokens, all of them the last one first.  Every token takes
one unit of fuel. -/
def finish? : (fuel : Nat) → TokenStream → Option (List Token)
  | 0, _ => none
  | fuel + 1, stream => do
      let stream ← (stream.skipToToken (stream.cursor.rest.length + 1)).expireKeys?
      let stream := stream.closeBlocks (stream.cursor.column + 1)
      match stream.cursor.rest with
      | [] => (stream.closeBlocks 0).dropKey?.map TokenStream.reversed
      | first :: rest => (stream.pushAt? first rest).bind (finish? fuel)

end TokenStream

/-- The tokens of a text, unless it cannot be cut into tokens. -/
def tokens? (text : String) : Option (List Token) :=
  if text.toList.all isAllowed then
    let text := normaliseBreaks text.toList
    ((TokenStream.ofText text).finish? (text.length + 1)).map List.reverse
  else none

end Yaml
end BundleTrust
