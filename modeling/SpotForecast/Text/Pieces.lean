/-!
# Cutting a text

A text is cut at every character of a class (`pieces`) or into lines (`lines`).

* `pieces` always gives one piece more than there are separators, so it is never empty, and
  `joinPieces` with a single separator puts the text together again.
* `lines` ends a line at a line feed and drops one carriage return before it.  What follows the
  last line feed is a line only if it is not empty, and it keeps its carriage return.
-/

namespace SpotForecast.Text

variable {α : Type}

/-- Puts an element in front of the first piece. -/
def consFirst (a : α) : List (List α) → List (List α)
  | [] => [[a]]
  | piece :: rest => (a :: piece) :: rest

/-- The runs of elements between those that satisfy `stop`, empty runs included. -/
def pieces (stop : α → Bool) : List α → List (List α)
  | [] => [[]]
  | a :: rest => if stop a then [] :: pieces stop rest else consFirst a (pieces stop rest)

/-- Pieces put together with `separator` between them. -/
def joinPieces (separator : List α) : List (List α) → List α
  | [] => []
  | [piece] => piece
  | piece :: next :: rest => piece ++ separator ++ joinPieces separator (next :: rest)

/-- A line without the one carriage return that may stand at its end. -/
def dropReturn (line : List Char) : List Char :=
  if line.getLast? = some '\r' then line.dropLast else line

/-- The lines that pieces between line feeds stand for: every piece but the last was ended by a
line feed. -/
def closeLines : List (List Char) → List (List Char)
  | [] => []
  | [rest] => if rest.isEmpty then [] else [rest]
  | line :: next :: rest => dropReturn line :: closeLines (next :: rest)

/-- The lines of a text, without the marks that end them. -/
def lines (text : List Char) : List (List Char) :=
  closeLines (pieces (· == '\n') text)

@[simp] theorem consFirst_ne_nil (a : α) (ps : List (List α)) : consFirst a ps ≠ [] := by
  cases ps <;> simp [consFirst]

/-- There is always at least one piece. -/
@[simp] theorem pieces_ne_nil (stop : α → Bool) (text : List α) : pieces stop text ≠ [] := by
  cases text with
  | nil => simp [pieces]
  | cons a rest => by_cases h : stop a <;> simp [pieces, h]

/-- Pieces of a text cut at one element, joined by it, are the text. -/
theorem joinPieces_pieces [BEq α] [LawfulBEq α] (mark : α) (text : List α) :
    joinPieces [mark] (pieces (· == mark) text) = text := by
  induction text with
  | nil => rfl
  | cons a rest ih =>
    have hne := pieces_ne_nil (· == mark) rest
    by_cases h : a = mark
    · cases hp : pieces (· == mark) rest with
      | nil => exact absurd hp hne
      | cons p ps => rw [hp] at ih; simp [pieces, h, hp, joinPieces, ih]
    · cases hp : pieces (· == mark) rest with
      | nil => exact absurd hp hne
      | cons p ps =>
        rw [hp] at ih
        cases ps with
        | nil => simpa [pieces, h, hp, consFirst, joinPieces] using ih
        | cons q qs => simpa [pieces, h, hp, consFirst, joinPieces] using ih

end SpotForecast.Text
