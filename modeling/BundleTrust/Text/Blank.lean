/-!
# Blank characters

The Unicode property `White_Space`, which decides what is trimmed from names,
references, keys and versions before they are read.
-/

namespace BundleTrust
namespace Text

/-- A character with the Unicode property `White_Space`. -/
def isBlank (character : Char) : Bool :=
  let code := character.toNat
  (9 ≤ code && code ≤ 13) || code == 0x20 || code == 0x85 || code == 0xA0 ||
    code == 0x1680 || (0x2000 ≤ code && code ≤ 0x200A) || code == 0x2028 ||
    code == 0x2029 || code == 0x202F || code == 0x205F || code == 0x3000

/-- Drop the last characters as long as they satisfy a test. -/
def dropLastWhile (test : Char → Bool) (characters : List Char) : List Char :=
  (characters.reverse.dropWhile test).reverse

/-- Drop blank characters at both ends. -/
def trimBlanks (characters : List Char) : List Char :=
  dropLastWhile isBlank (characters.dropWhile isBlank)

/-- Drop blank characters at both ends of a text. -/
def trim (text : String) : String :=
  String.ofList (trimBlanks text.toList)

/-- A text made of blank characters only. -/
def isBlankText (text : String) : Bool :=
  text.toList.all isBlank

/-- Trimming leaves no blank at the front. -/
theorem isBlank_head?_trimBlanks
    {characters : List Char}
    {first : Char}
    (isFirst : (trimBlanks characters).head? = some first) :
    isBlank first = false := by
  have kept : trimBlanks characters <+: characters.dropWhile isBlank := by
    rw [trimBlanks, dropLastWhile, ← List.reverse_suffix, List.reverse_reverse]
    exact List.dropWhile_suffix isBlank
  obtain ⟨dropped, isWhole⟩ := kept
  have visible := List.head?_dropWhile_not isBlank characters
  rw [← isWhole, List.head?_append, isFirst] at visible
  exact visible

/-- Trimming leaves no blank at the end. -/
theorem isBlank_getLast?_trimBlanks
    {characters : List Char}
    {last : Char}
    (isLast : (trimBlanks characters).getLast? = some last) :
    isBlank last = false := by
  have visible := List.head?_dropWhile_not isBlank (characters.dropWhile isBlank).reverse
  rw [trimBlanks, dropLastWhile, List.getLast?_reverse] at isLast
  rw [isLast] at visible
  exact visible

/-- What is trimmed already is what has no blank at either end. -/
theorem trimBlanks_eq_self_iff {characters : List Char} :
    trimBlanks characters = characters ↔
      (∀ first, characters.head? = some first → isBlank first = false) ∧
        ∀ last, characters.getLast? = some last → isBlank last = false := by
  have keeps : ∀ characters : List Char,
      (∀ first, characters.head? = some first → isBlank first = false) →
        characters.dropWhile isBlank = characters := by
    intro characters visible
    cases characters with
    | nil => rfl
    | cons first rest => simp [visible first rfl]
  constructor
  · intro same
    exact ⟨fun first isFirst => isBlank_head?_trimBlanks (same.symm ▸ isFirst),
      fun last isLast => isBlank_getLast?_trimBlanks (same.symm ▸ isLast)⟩
  · rintro ⟨visibleFirst, visibleLast⟩
    rw [trimBlanks, dropLastWhile, keeps characters visibleFirst, keeps, List.reverse_reverse]
    simpa only [List.head?_reverse] using visibleLast

/-- Trimming twice is trimming once. -/
@[simp] theorem trimBlanks_trimBlanks (characters : List Char) :
    trimBlanks (trimBlanks characters) = trimBlanks characters :=
  trimBlanks_eq_self_iff.2
    ⟨fun _ => isBlank_head?_trimBlanks, fun _ => isBlank_getLast?_trimBlanks⟩

/-- Characters that are not blank are not dropped. -/
theorem trimBlanks_of_visible
    {characters : List Char}
    (visible : ∀ character ∈ characters, isBlank character = false) :
    trimBlanks characters = characters :=
  trimBlanks_eq_self_iff.2
    ⟨fun first isFirst => visible first (List.mem_of_head? isFirst),
      fun last isLast => visible last (List.mem_of_getLast? isLast)⟩

end Text
end BundleTrust
