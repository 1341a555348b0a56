/-!
# Pieces of texts

A text cut at every occurrence of a separator, and pieces joined by it.
-/

namespace BundleTrust
namespace Text

/-- Cut a text at every occurrence of a character; a text without it is one piece. -/
def pieces (separator : Char) : List Char → List (List Char)
  | [] => [[]]
  | character :: rest =>
      if character = separator then [] :: pieces separator rest
      else
        match pieces separator rest with
        | [] => [[character]]
        | piece :: others => (character :: piece) :: others

/-- Join pieces with a character between each two. -/
def joinPieces (separator : Char) : List (List Char) → List Char
  | [] => []
  | [piece] => piece
  | piece :: others => piece ++ separator :: joinPieces separator others

/-- There is always a first piece. -/
theorem pieces_ne_nil
    (separator : Char)
    (text : List Char) :
    pieces separator text ≠ [] := by
  cases text with
  | nil => simp [pieces]
  | cons character rest =>
      simp only [pieces]
      split
      · simp
      · split <;> simp

/-- A text that goes on behind a separator is cut there. -/
theorem pieces_append
    (separator : Char)
    (left right : List Char) :
    pieces separator (left ++ separator :: right) =
      pieces separator left ++ pieces separator right := by
  induction left with
  | nil => simp [pieces]
  | cons character rest ih =>
      simp only [List.cons_append, pieces, ih]
      split
      · rfl
      · cases cut : pieces separator rest with
        | nil => exact absurd cut (pieces_ne_nil separator rest)
        | cons piece others => rfl

/-- A text without the separator is one piece. -/
theorem pieces_eq_singleton
    {separator : Char}
    {text : List Char}
    (absent : separator ∉ text) :
    pieces separator text = [text] := by
  induction text with
  | nil => rfl
  | cons character rest ih =>
      obtain ⟨different, absent⟩ := not_or.1 (mt List.mem_cons.2 absent)
      simp only [pieces, if_neg (Ne.symm different), ih absent]

/-- Texts are cut as lists are split. -/
theorem pieces_eq_splitOn
    (separator : Char)
    (text : List Char) :
    pieces separator text = text.splitOn separator := by
  induction text with
  | nil => rfl
  | cons character rest ih =>
      have nonempty := pieces_ne_nil separator rest
      simp only [pieces, List.splitOn, List.splitOnP_cons_eq_if_modifyHead, beq_iff_eq]
      rw [← List.splitOn, ← ih]
      cases cut : pieces separator rest with
      | nil => exact absurd cut nonempty
      | cons piece others => rfl

/-- Joining the pieces of a text gives the text back. -/
@[simp] theorem joinPieces_pieces
    (separator : Char)
    (text : List Char) :
    joinPieces separator (pieces separator text) = text := by
  induction text with
  | nil => rfl
  | cons character rest ih =>
      have nonempty := pieces_ne_nil separator rest
      simp only [pieces]
      split
      · next same =>
          cases cut : pieces separator rest with
          | nil => exact absurd cut nonempty
          | cons piece others => rw [cut] at ih; simp [joinPieces, ih, same]
      · cases cut : pieces separator rest with
        | nil => exact absurd cut nonempty
        | cons piece others =>
            rw [cut] at ih
            cases others with
            | nil => simp_all [joinPieces]
            | cons next more => simp_all [joinPieces]

/-- A piece that is not cut further is the text that was cut. -/
theorem eq_of_pieces_eq_singleton
    {separator : Char}
    {text piece : List Char}
    (uncut : pieces separator text = [piece]) :
    text = piece := by
  rw [← joinPieces_pieces separator text, uncut, joinPieces]

/-- A run of characters that pass a test ends before one that does not. -/
theorem run_append
    {test : Char → Bool}
    {run rest : List Char}
    (inside : ∀ character ∈ run, test character = true)
    (ends : ∀ first, rest.head? = some first → test first = false) :
    (run ++ rest).takeWhile test = run ∧ (run ++ rest).dropWhile test = rest := by
  rw [List.takeWhile_append_of_pos inside, List.dropWhile_append_of_pos inside]
  cases rest with
  | nil => simp
  | cons first _ => simp [ends first rfl]

end Text
end BundleTrust
