/-! # Splitting a text

Lines and words of a text. A line ends at a line feed, and a carriage return just
before it belongs to the line end; the text after the last line feed is a line
unless it is empty. Words are separated by any run of blanks, in the sense of the
Unicode property White_Space.
-/

namespace TrafficMeter.Text

/-- The property White_Space. -/
def isBlank (c : Char) : Bool :=
  let n := c.toNat
  (9 ≤ n && n ≤ 13) || n == 0x20 || n == 0x85 || n == 0xA0 || n == 0x1680 ||
    (0x2000 ≤ n && n ≤ 0x200A) || n == 0x2028 || n == 0x2029 || n == 0x202F ||
    n == 0x205F || n == 0x3000

/-- A line without the carriage return of its line end. -/
def dropReturn (line : List Char) : List Char :=
  if line.getLast? = some '\r' then line.dropLast else line

/-- The lines made of the pieces between line feeds. -/
def closeLines : List (List Char) → List (List Char)
  | [] => []
  | [last] => if last.isEmpty then [] else [last]
  | piece :: pieces => dropReturn piece :: closeLines pieces

/-- The lines of a text. -/
def lines (cs : List Char) : List (List Char) := closeLines (cs.splitOn '\n')

/-- The words of a text. -/
def words (cs : List Char) : List (List Char) :=
  (cs.splitOnP isBlank).filter fun piece => !piece.isEmpty

/-- A text without the blanks at its ends. -/
def trim (cs : List Char) : List Char :=
  ((cs.dropWhile isBlank).reverse.dropWhile isBlank).reverse

/-- A text without line feeds is one line, unless it is empty. -/
theorem lines_of_clear {cs : List Char} (clear : ∀ c ∈ cs, c ≠ '\n') (some_char : cs ≠ []) :
    lines cs = [cs] := by
  have one_piece : cs.splitOn '\n' = [cs] :=
    List.splitOnP_eq_singleton fun c mem => by simpa using clear c mem
  simp [lines, one_piece, closeLines, some_char]

/-- The text before the first line feed is a line. -/
theorem lines_append {line rest : List Char} (clear : ∀ c ∈ line, c ≠ '\n') :
    lines (line ++ '\n' :: rest) = dropReturn line :: lines rest := by
  have cut : (line ++ '\n' :: rest).splitOn '\n' = line :: rest.splitOn '\n' := by
    have one_piece : line.splitOnP (· == '\n') = [line] :=
      List.splitOnP_eq_singleton fun c mem => by simpa using clear c mem
    rw [List.splitOn_eq_splitOnP, List.splitOn_eq_splitOnP,
      List.splitOnP_append_cons line rest (by simp), one_piece, List.singleton_append]
  have more : rest.splitOn '\n' ≠ [] := by
    rw [List.splitOn_eq_splitOnP]
    exact List.splitOnP_ne_nil _ _
  rw [lines, cut, lines]
  cases pieces : rest.splitOn '\n' with
  | nil => exact absurd pieces more
  | cons piece pieces => rfl

/-- A blank separates the words before it from the words after it. -/
theorem words_append {c : Char} (blank : isBlank c = true) (before after : List Char) :
    words (before ++ c :: after) = words before ++ words after := by
  rw [words, List.splitOnP_append_cons before after blank, List.filter_append, words, words]

/-- A text without blanks is one word, unless it is empty. -/
theorem words_of_clear {cs : List Char} (clear : ∀ c ∈ cs, isBlank c = false)
    (some_char : cs ≠ []) : words cs = [cs] := by
  rw [words, List.splitOnP_eq_singleton clear]
  simp [some_char]

end TrafficMeter.Text
