import BundleTrust.Registry.HostCharacter
import BundleTrust.Registry.Punycode
import BundleTrust.Text.Pieces

/-!
# Host names

Names of hosts as they are compared: in lower case, with characters that stand for others
replaced.  Every label has to be a proper text, also one that is encoded, and if a letter in
a name is written from right to left, no label may mix directions.
-/

namespace BundleTrust
namespace Registry

/-- What a text stands for in a name; none if some character cannot stand there. -/
def nameOf? (text : List Char) : Option (List Char) :=
  (text.mapM nameText?).map List.flatten

/-- Whether every joiner follows a character after which letters are joined. -/
def areJoinersProper : List Char → Bool
  | first :: second :: rest =>
      (!isJoiner second || isInRanges joiningRanges first) && areJoinersProper (second :: rest)
  | _ => true

/-- Whether a label is a proper text: it starts with no combining character and no joiner, and
its joiners are proper. -/
def isProperLabel (label : List Char) : Bool :=
  (match label with
    | [] => true
    | first :: _ => !isCombining first && !isJoiner first) &&
  areJoinersProper label

/-- The text of a label; one that starts with `xn--` is encoded and has to hold a character
outside ASCII, and none that stands for others. -/
def labelText? : List Char → Option (List Char)
  | 'x' :: 'n' :: '-' :: '-' :: encoded =>
      (Punycode.decode? encoded).filter fun text =>
        text.any (fun character => 0x80 ≤ character.toNat) &&
          text.all fun character => nameText? character == some [character]
  | label => some label

/-- The directions of a label up to its last character that combines with none. -/
def baseDirections (label : List Char) : List Direction :=
  ((label.map Direction.ofChar).reverse.dropWhile (· = .combining)).reverse

/-- Whether the directions of a label do not mix. -/
def isDirected (label : List Char) : Bool :=
  let directions := label.map Direction.ofChar
  let last := (baseDirections label).getLast?
  match directions with
  | [] => true
  | .rightToLeft :: _ =>
      !directions.contains .leftToRight &&
        !(directions.contains .arabicNumber && directions.contains .europeanNumber) &&
        (last = some .rightToLeft || last = some .arabicNumber || last = some .europeanNumber)
  | .leftToRight :: _ =>
      !directions.contains .rightToLeft && !directions.contains .arabicNumber &&
        (last = some .leftToRight || last = some .europeanNumber)
  | _ => false

/-- Whether a label has a character that is written from right to left. -/
def hasRightToLeft (label : List Char) : Bool :=
  label.any fun character =>
    Direction.ofChar character = .rightToLeft || Direction.ofChar character = .arabicNumber

/-- Whether a name is proper. -/
def isProperName (name : List Char) : Bool :=
  match (Text.pieces '.' name).mapM labelText? with
  | none => false
  | some labels =>
      labels.all isProperLabel && (!labels.any hasRightToLeft || labels.all isDirected)

end Registry
end BundleTrust
