import Mathlib.Data.List.Forall2
import TrafficMeter.Proofs.Counter.Grammar

/-! # Ways to write a counter table

A table may be written with any two header lines, any blanks around its names and columns, any
words in the columns that count no bytes, blank lines between its rows, and either line end, the
last of which may be missing. None of this is seen by the reader: it finds the rows that were
written, in their order.
-/

namespace TrafficMeter

/-- The name of the row can stand in a table. -/
structure Row.Named (row : Row) : Prop where
  tight : Text.Tight row.name.toList
  no_colon : ':' ∉ row.name.toList
  inline : '\n' ∉ row.name.toList

namespace Table

/-- Blanks within a line. -/
structure Gap where
  chars : List Char
  blanks : Text.Blanks chars
  inline : '\n' ∉ chars

/-- A column after the first one, with the blanks before it. -/
structure Column where
  gap : Gap
  apart : gap.chars ≠ []
  word : List Char
  is_word : Text.IsWord word

/-- How a row is written: the blanks around its name, perhaps none before the first column, seven
columns between the two that count bytes, and any others behind. -/
structure WrittenRow where
  row : Row
  named : row.Named
  before : Gap
  after : Gap
  lead : Gap
  between : List Column
  seven : between.length = 7
  gap : Gap
  apart : gap.chars ≠ []
  further : List Column
  trail : Gap

/-- A line below the headers. -/
inductive Line where
  | blank (gap : Gap)
  | row (written : WrittenRow)

inductive LineEnd where
  | feed
  | returnFeed

/-- How a table is written. The last line end is missing unless the text is closed. -/
structure Document where
  firstHeader : List Char
  first_inline : '\n' ∉ firstHeader
  firstEnd : LineEnd
  secondHeader : List Char
  second_inline : '\n' ∉ secondHeader
  secondEnd : LineEnd
  lines : List (Line × LineEnd)
  closed : Bool

namespace Column

def text (column : Column) : List Char := column.gap.chars ++ column.word

end Column

theorem is_word_digits (n : Nat) : Text.IsWord (Decimal.digits n) where
  some_char := Nat.toDigits_ne_nil
  clear c inside :=
    Text.not_blank_of_digit (Nat.isDigit_of_mem_toDigits (by decide) (by decide) inside)

namespace WrittenRow

/-- The columns after the first one. -/
def columns (written : WrittenRow) : List Column :=
  written.between ++
    ⟨written.gap, written.apart, _, is_word_digits written.row.txBytes.toNat⟩ :: written.further

def text (written : WrittenRow) : List Char :=
  written.before.chars ++ (written.row.name.toList ++ written.after.chars) ++ ':' ::
    (written.lead.chars ++ (Decimal.digits written.row.rxBytes.toNat ++
      (written.columns.flatMap Column.text ++ written.trail.chars)))

end WrittenRow

namespace Line

def text : Line → List Char
  | blank gap => gap.chars
  | row written => written.text

def row? : Line → Option Row
  | blank _ => none
  | row written => some written.row

end Line

namespace LineEnd

def chars : LineEnd → List Char
  | feed => ['\n']
  | returnFeed => ['\r', '\n']

/-- What is read of a line with this end. -/
def read : LineEnd → List Char → List Char
  | feed, line => Text.dropReturn line
  | returnFeed, line => line

end LineEnd

/-- Lines with their ends, the last one without if the text is not closed. -/
def joined (closed : Bool) : List (List Char × LineEnd) → List Char
  | [] => []
  | (line, stop) :: more =>
      line ++ ((if more.isEmpty && !closed then [] else stop.chars) ++ joined closed more)

/-- The texts of lines with their ends. -/
def texts (lines : List (Line × LineEnd)) : List (List Char × LineEnd) :=
  lines.map fun (line, stop) => (line.text, stop)

/-- The rows among lines. -/
def rowsOf (lines : List (Line × LineEnd)) : List Row := lines.filterMap fun (line, _) => line.row?

namespace Document

def text (document : Document) : List Char :=
  joined document.closed ((document.firstHeader, document.firstEnd) ::
    (document.secondHeader, document.secondEnd) :: texts document.lines)

/-- The rows that the text is written for. -/
def rows (document : Document) : List Row := rowsOf document.lines

end Document

section Rows

theorem starts_blank (columns : List Column) (trail : Gap) :
    ∀ c ∈ (columns.flatMap Column.text ++ trail.chars).head?, Text.isBlank c = true := by
  intro c inside
  cases columns with
  | nil => exact trail.blanks c (List.mem_of_mem_head? inside)
  | cons column columns =>
      have first : c ∈ column.gap.chars.head? := by
        simpa [Column.text, List.head?_append_of_ne_nil _ column.apart] using inside
      exact column.gap.blanks c (List.mem_of_mem_head? first)

theorem spaced_columns (columns : List Column) (trail : Gap) :
    Text.Spaced (columns.map Column.word) (columns.flatMap Column.text ++ trail.chars) := by
  induction columns with
  | nil => exact .nil trail.blanks
  | cons column columns ih =>
      have spaced := Text.Spaced.cons column.gap.blanks column.is_word
        (starts_blank columns trail) ih
      simpa [Column.text] using spaced

theorem denotes_written (written : WrittenRow) : Row.Denotes written.text written.row := by
  have spaced := Text.Spaced.cons written.lead.blanks (is_word_digits written.row.rxBytes.toNat)
    (starts_blank written.columns written.trail) (spaced_columns written.columns written.trail)
  have parts := Row.Parts.mk written.before.blanks written.named.tight written.after.blanks
    written.named.no_colon spaced
  refine .mk parts rfl ?_ (Decimal.denotes_digits _) (Decimal.denotes_digits _)
  simp [WrittenRow.columns, written.seven]

/-- A carriage return at the end of a row is one more blank. -/
theorem denotes_dropReturn {line : List Char} {row : Row} (denotes : Row.Denotes line row) :
    Row.Denotes (Text.dropReturn line) row := by
  obtain ⟨parts, first, ninth, received, sent⟩ := denotes
  refine .mk ?_ first ninth received sent
  obtain ⟨left, tight, right, no_colon, spaced⟩ := parts
  rw [Text.dropReturn_append_cons (by decide)]
  refine .mk left tight right no_colon ?_
  rw [← spaced.words_eq, ← Text.words_dropReturn]
  exact Text.spaced_words _

theorem inline_of_word {word : List Char} (is_word : Text.IsWord word) : '\n' ∉ word := by
  intro inside
  exact absurd (is_word.clear '\n' inside) (by decide)

theorem inline_column (column : Column) : '\n' ∉ column.text :=
  List.not_mem_append column.gap.inline (inline_of_word column.is_word)

theorem inline_written (written : WrittenRow) : '\n' ∉ written.text := by
  have counted := inline_of_word (is_word_digits written.row.rxBytes.toNat)
  simp [WrittenRow.text, written.before.inline, written.named.inline, written.after.inline,
    written.lead.inline, written.trail.inline, inline_column, counted]

theorem inline_line (line : Line) : '\n' ∉ line.text := by
  cases line with
  | blank gap => exact gap.inline
  | row written => exact inline_written written

end Rows

section Lines

variable {chars : List Char} {row : Row} {more : List (List Char × LineEnd)}

/-- The lines that have to be rows. -/
abbrev due (lines : List (List Char)) : List (List Char) :=
  lines.filter fun line => !line.all Text.isBlank

theorem due_of_blanks (blanks : Text.Blanks chars) : due [chars] = [] := by
  simpa [due, Text.Blanks] using blanks

theorem due_of_denotes (denotes : Row.Denotes chars row) : due [chars] = [chars] := by
  obtain ⟨parts, _⟩ := denotes
  simp only [due, List.filter_eq_self, List.mem_singleton, forall_eq, Bool.not_eq_true',
    List.all_eq_false]
  exact ⟨':', Row.colon_of_parts parts, by decide⟩

theorem lines_end (inline : '\n' ∉ chars) (stop : LineEnd) (rest : List Char) :
    Text.lines (chars ++ (stop.chars ++ rest)) = stop.read chars :: Text.lines rest := by
  cases stop with
  | feed => exact Text.lines_feed inline rest
  | returnFeed => exact Text.lines_returnFeed inline rest

theorem lines_joined (inline : '\n' ∉ chars) (stop : LineEnd) (closed : Bool) :
    Text.lines (joined closed ((chars, stop) :: more)) =
      (if more.isEmpty && !closed then Text.lines chars else [stop.read chars]) ++
        Text.lines (joined closed more) := by
  rw [joined]
  split
  · next last =>
      have none : more = [] := by simp_all
      rw [none]
      simp [joined, Text.lines_nil]
  · exact lines_end inline stop _

/-- A line gives its row, if it is one, whatever its end. -/
theorem denote_read (line : Line) (stop : LineEnd) :
    List.Forall₂ Row.Denotes (due [stop.read line.text]) line.row?.toList := by
  cases line with
  | blank gap =>
      have blanks : Text.Blanks (stop.read gap.chars) := by
        cases stop with
        | feed => exact Text.blanks_dropReturn gap.blanks
        | returnFeed => exact gap.blanks
      rw [Line.text, due_of_blanks blanks]
      exact .nil
  | row written =>
      have denotes : Row.Denotes (stop.read written.text) written.row := by
        cases stop with
        | feed => exact denotes_dropReturn (denotes_written written)
        | returnFeed => exact denotes_written written
      rw [Line.text, due_of_denotes denotes]
      exact .cons denotes .nil

theorem denote_unended (line : Line) :
    List.Forall₂ Row.Denotes (due (Text.lines line.text)) line.row?.toList := by
  rw [Text.lines_of_inline (inline_line line)]
  split
  · next none =>
      cases line with
      | blank gap => exact .nil
      | row written => simp [Line.text, WrittenRow.text] at none
  · exact denote_read line .returnFeed

theorem denote_lines (closed : Bool) (lines : List (Line × LineEnd)) :
    List.Forall₂ Row.Denotes (due (Text.lines (joined closed (texts lines)))) (rowsOf lines) := by
  induction lines with
  | nil => exact .nil
  | cons head lines ih =>
      obtain ⟨line, stop⟩ := head
      have first : List.Forall₂ Row.Denotes
          (due (if (texts lines).isEmpty && !closed then Text.lines line.text
            else [stop.read line.text])) line.row?.toList := by
        split
        · exact denote_unended line
        · exact denote_read line stop
      have both := List.rel_append first ih
      have shown : texts ((line, stop) :: lines) = (line.text, stop) :: texts lines := rfl
      have found : rowsOf ((line, stop) :: lines) = line.row?.toList ++ rowsOf lines := by
        cases line <;> rfl
      rw [shown, found, lines_joined (inline_line line), due, List.filter_append]
      exact both

theorem drop_headers (document : Document) :
    (Text.lines document.text).drop 2 =
      Text.lines (joined document.closed (texts document.lines)) := by
  have single : (Text.lines document.secondHeader).tail = [] := by
    rw [Text.lines_of_inline document.second_inline]
    split <;> simp
  rw [Document.text, lines_joined document.first_inline, lines_joined document.second_inline]
  by_cases last : (texts document.lines).isEmpty && !document.closed
  · -- the second header is the last line, and may be empty and so be none
    have none : texts document.lines = [] := by simp_all
    rw [if_pos last, none]
    simpa [joined, Text.lines_nil] using single
  · simp [last]

end Lines

section Plain

/-- At most one space. -/
def Gap.upTo (space : Bool) : Gap where
  chars := if space then [' '] else []
  blanks := by cases space <;> simp [Text.Blanks]; decide
  inline := by cases space <;> simp

/-- A row with one space before each column, and zeros in those that count no bytes. -/
def WrittenRow.plain (row : Row) (named : row.Named) : WrittenRow where
  row := row
  named := named
  before := .upTo false
  after := .upTo false
  lead := .upTo true
  between := List.replicate 7 ⟨.upTo true, by simp [Gap.upTo], _, is_word_digits 0⟩
  seven := List.length_replicate
  gap := .upTo true
  apart := by simp [Gap.upTo]
  further := []
  trail := .upTo false

/-- All rows whose names can stand in a table can be written. -/
theorem exists_lines {rows : List Row} (named : ∀ row ∈ rows, row.Named) :
    ∃ lines : List (Line × LineEnd), rowsOf lines = rows := by
  induction rows with
  | nil => exact ⟨[], rfl⟩
  | cons row rows ih =>
      obtain ⟨first, more⟩ := List.forall_mem_cons.mp named
      obtain ⟨lines, written⟩ := ih more
      exact ⟨(.row (.plain row first), .feed) :: lines, congrArg (row :: ·) written⟩

/-- Only such rows are written. -/
theorem named_of_written (lines : List (Line × LineEnd)) : ∀ row ∈ rowsOf lines, row.Named := by
  intro row inside
  obtain ⟨⟨line, _⟩, _, held⟩ := List.mem_filterMap.mp inside
  cases line with
  | blank gap => cases held
  | row written =>
      cases held
      exact written.named

end Plain

/-- However a table is written, reading it gives its rows in their order, and all rows whose names
can stand in a table can be written. -/
theorem read_document :
    (∀ document : Document, Table.read document.text = .ok document.rows) ∧
      ∀ rows : List Row, (∀ row ∈ rows, row.Named) →
        ∃ document : Document, document.rows = rows := by
  constructor
  · intro document
    have rows := denote_lines document.closed document.lines
    rw [Table.read, rowLines, drop_headers]
    exact readRows_of_denotes rows
  · intro rows named
    obtain ⟨lines, written⟩ := exists_lines named
    exact ⟨⟨[], by simp, .feed, [], by simp, .feed, lines, true⟩, written⟩

/-- A name with a blank inside, the largest count right behind its colon, colons for words, a
carriage return before a line feed, a line of other blanks, and no line end at the end. -/
def crammed : Document where
  firstHeader := []
  first_inline := by simp
  firstEnd := .returnFeed
  secondHeader := ['h']
  second_inline := by decide
  secondEnd := .feed
  lines :=
    [(.row {
        row := ⟨"a b", 18446744073709551615, 0⟩
        named := ⟨⟨by simp; decide, by simp; decide⟩, by decide, by decide⟩
        before := ⟨['\t'], by simp [Text.Blanks]; decide, by decide⟩
        after := .upTo true
        lead := .upTo false
        between := List.replicate 7 ⟨.upTo true, by decide, [':'], by simp, by simp; decide⟩
        seven := rfl
        gap := .upTo true
        apart := by decide
        further := []
        trail := ⟨['\r'], by simp [Text.Blanks]; decide, by decide⟩ }, .feed),
      (.blank ⟨['\u3000'], by simp [Text.Blanks]; decide, by decide⟩, .returnFeed),
      (.row (.plain ⟨"", 3, 4⟩ ⟨⟨by simp, by simp⟩, by decide, by decide⟩), .feed)]
  closed := false

def crammedText : String :=
  "\r\nh\n\ta b :18446744073709551615 : : : : : : : 0\r\n\u3000\r\n: 3 0 0 0 0 0 0 0 4"

theorem read_document_crammed :
    let rows : List Row := [⟨"a b", 18446744073709551615, 0⟩, ⟨"", 3, 4⟩]
    crammed.text = crammedText.toList ∧ read crammedText.toList = .ok rows ∧
      (∀ row ∈ rows, row.Named) ∧ ∃ document : Document, document.rows = rows := by
  intro rows
  have shown : crammed.text = crammedText.toList := by rfl
  have named : ∀ row ∈ rows, row.Named := named_of_written crammed.lines
  obtain ⟨reads, written⟩ := read_document
  exact ⟨shown, shown ▸ reads crammed, named, written rows named⟩

end Table

end TrafficMeter
