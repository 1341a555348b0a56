import BundleTrust.Text.Numeral
import BundleTrust.Yaml.Cursor

/-!
# Scalars on lines

Plain and quoted scalars.  Their words are joined by what stands between them: blanks on
one line stay, one line break becomes a space, and of several breaks the first is dropped.
-/

namespace BundleTrust
namespace Yaml

/-- What a run of blanks and breaks between two words contributes to a scalar. -/
def fold (gap : List Char) : List Char :=
  match gap.filter isBreak with
  | [] => gap
  | first :: others =>
      if first = '\n' then (if others.isEmpty then [' '] else others) else first :: others

/-- Whether a run of blanks and breaks has a tab on a later line before a column; the
column of the next character is given once a line has started in the run. -/
def hasEarlyTab (margin : Nat) : (column : Option Nat) → List Char → Bool
  | _, [] => false
  | column, character :: rest =>
      if isBreak character then hasEarlyTab margin (some 0) rest
      else
        match column with
        | none => hasEarlyTab margin none rest
        | some column =>
            (character = '\t' && column < margin) || hasEarlyTab margin (some (column + 1)) rest

/-- The characters that end a plain scalar inside brackets. -/
def isFlowIndicator (character : Char) : Bool :=
  character = ',' || character = '[' || character = ']' || character = '\x7b' ||
    character = '\x7d'

/-- A word of a plain scalar.  It ends before a blank, before a colon that a blank follows,
and inside brackets before a separator; a colon directly before a separator is refused. -/
def plainWord? (inFlow : Bool) : List Char → Option (List Char)
  | [] => some []
  | character :: rest =>
      if isBlankOrBreak character then some []
      else if character = ':' && inFlow &&
          (rest.head?.map fun next => isFlowIndicator next || next = '?').getD false then none
      else if character = ':' && atBlankOrEnd rest then some []
      else if inFlow && isFlowIndicator character then some []
      else (plainWord? inFlow rest).map (character :: ·)

/-- A scalar and what follows it. -/
structure ReadText where
  /-- The text of the scalar. -/
  text : List Char
  /-- The place after it. -/
  cursor : Cursor
  /-- Whether lines were left behind after its last word. -/
  leftLine : Bool

/-- Read words of a plain scalar, after a text and a gap that the next word closes.  Every
word takes one unit of fuel. -/
def plainFrom? (inFlow : Bool) (margin : Nat) :
    (fuel : Nat) → (text gap : List Char) → Cursor → Option ReadText
  | 0, text, gap, cursor => some ⟨text, cursor, gap.any isBreak⟩
  | fuel + 1, text, gap, cursor =>
      if cursor.atDocumentMarker || cursor.startsWith '#' then
        some ⟨text, cursor, gap.any isBreak⟩
      else
        (plainWord? inFlow cursor.rest).bind fun word =>
          if word.isEmpty then some ⟨text, cursor, gap.any isBreak⟩
          else
            let text := text ++ fold gap ++ word
            let cursor := cursor.skip word.length
            let gap := cursor.run isBlankOrBreak
            if gap.isEmpty then some ⟨text, cursor, false⟩
            else if hasEarlyTab margin none gap then none
            else
              let cursor := cursor.skip gap.length
              if !inFlow && cursor.column < margin then some ⟨text, cursor, gap.any isBreak⟩
              else plainFrom? inFlow margin fuel text gap cursor

/-- Read a plain scalar; outside brackets its further lines start at a margin. -/
def readPlain? (inFlow : Bool) (margin : Nat) (cursor : Cursor) : Option ReadText :=
  plainFrom? inFlow margin cursor.rest.length [] [] cursor

/-- The character that a short escape stands for. -/
def unescape? (letter : Char) : Option Char :=
  match letter with
  | '0' => some '\x00'
  | 'a' => some '\x07'
  | 'b' => some '\x08'
  | 't' => some '\t'
  | '\t' => some '\t'
  | 'n' => some '\n'
  | 'v' => some '\x0b'
  | 'f' => some '\x0c'
  | 'r' => some '\r'
  | 'e' => some '\x1b'
  | ' ' => some ' '
  | '"' => some '"'
  | '/' => some '/'
  | '\\' => some '\\'
  | 'N' => some '\u0085'
  | '_' => some '\u00a0'
  | 'L' => some '\u2028'
  | 'P' => some '\u2029'
  | _ => none

/-- The number of hexadecimal digits after an escape letter. -/
def escapeWidth (letter : Char) : Nat :=
  match letter with
  | 'x' => 2
  | 'u' => 4
  | 'U' => 8
  | _ => 0

/-- The character of a code point; surrogates and numbers past the last plane have none. -/
def characterOf? (code : Nat) : Option Char :=
  if valid : code.isValidChar then some (Char.ofNatAux code valid) else none

/-- Read what follows a backslash: the character meant and the number of characters read. -/
def readEscape? : List Char → Option (Char × Nat)
  | [] => none
  | letter :: rest =>
      match unescape? letter with
      | some character => some (character, 1)
      | none =>
          let width := escapeWidth letter
          let digits := rest.take width
          if width = 0 || digits.length < width then none
          else
            ((Text.readNumeral? 16 digits).bind characterOf?).map fun character =>
              (character, width + 1)

/-- Read a quoted scalar up to its closing quote.  Every step takes one unit of fuel; the
text read so far is kept in reverse. -/
def quotedFrom? (quote : Char) :
    (fuel : Nat) → (reversed : List Char) → Cursor → Option (List Char × Cursor)
  | 0, _, _ => none
  | fuel + 1, reversed, cursor =>
      if cursor.atDocumentMarker then none
      else
        match cursor.rest with
        | [] => none
        | character :: rest =>
            if isBlankOrBreak character then
              let gap := cursor.run isBlankOrBreak
              quotedFrom? quote fuel ((fold gap).reverse ++ reversed) (cursor.skip gap.length)
            else if character = quote then
              if quote = '\'' && rest.head? == some '\'' then
                quotedFrom? quote fuel ('\'' :: reversed) (cursor.skip 2)
              else some (reversed.reverse, cursor.next)
            else if character = '\\' && quote = '"' then
              if (rest.head?.map isBreak).getD false then
                let cursor := cursor.skip 2
                let gap := cursor.run isBlankOrBreak
                quotedFrom? quote fuel ((gap.filter isBreak).reverse ++ reversed)
                  (cursor.skip gap.length)
              else
                match readEscape? rest with
                | none => none
                | some (meant, size) =>
                    quotedFrom? quote fuel (meant :: reversed) (cursor.skip (size + 1))
            else quotedFrom? quote fuel (character :: reversed) cursor.next

/-- Read a quoted scalar from its opening quote on. -/
def readQuoted? (quote : Char) (cursor : Cursor) : Option (List Char × Cursor) :=
  quotedFrom? quote cursor.rest.length [] cursor.next

end Yaml
end BundleTrust
