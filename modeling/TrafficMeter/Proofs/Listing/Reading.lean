import TrafficMeter.Listing
import TrafficMeter.Proofs.Rate.Units
import TrafficMeter.Proofs.Text.Indented
import TrafficMeter.Proofs.Text.Pieces

/-! # Reading listings back

The two forms of a listing, each read by what it is made of. A line of text is a name and two
counts, cut at its last two tabs, because a name may hold tabs as well; the amounts in brackets are
left out. The JSON form is an array of objects. Both readings give the rows that were listed.
-/

namespace TrafficMeter

namespace Listing

section Objects

open Json

/-- A row as an object. -/
def rowJson (row : Row) : Value :=
  .object [("name", .string row.name), ("rx_bytes", .number row.rxBytes.toNat 0),
    ("tx_bytes", .number row.txBytes.toNat 0)]

/-- What stands in front of a member of a row. -/
def indent : List Char := ['\n', ' ', ' ', ' ', ' ']

theorem jsonRow_append (row : Row) (rest : List Char) :
    jsonRow row ++ rest = [' ', ' '] ++ '\x7b' ::
      (indent ++ (member [':', ' '] "name" (Json.string row.name.toList) ++ ',' ::
        (indent ++ (member [':', ' '] "rx_bytes" (number row.rxBytes) ++ ',' ::
          (indent ++ (member [':', ' '] "tx_bytes" (number row.txBytes) ++
            '\n' :: ' ' :: ' ' :: '\x7d' :: rest)))))) := by
  unfold jsonRow
  simp [indent]

theorem readValue_jsonRow (row : Row) (bound : ℕ) (rest : List Char) :
    readValue (bound + 5) (jsonRow row ++ rest) = some (rowJson row, rest) := by
  have one : Gap [' '] := by simp [Gap, isBlank]
  have two : Gap [' ', ' '] := by simp [Gap, isBlank]
  have gap : Gap indent := by simp [indent, Gap, isBlank]
  have comma (rest : List Char) : skip (',' :: rest) = ',' :: rest := rfl
  have brace (rest : List Char) :
    skip ('\n' :: ' ' :: ' ' :: '\x7d' :: rest) = '\x7d' :: rest := rfl
  rw [jsonRow_append, readValue_append two, readValue_object_append gap]
  simp only [readMembers_spaced one, readMembers_append gap, readMembers_member,
    readValue_string, readValue_number, comma, brace, endsNumber_cons (c := ',') (by decide),
    endsNumber_cons (c := '\n') (by decide), Option.bind_eq_bind, Option.bind_some, rowJson]
  rfl

/-- The text of an array is read from its first item on. Every further row takes one step, and the
last one no more than six. -/
theorem readItems_rows (row : Row) (rows : List Row) (bound : ℕ) (rest : List Char) :
    readItems (rows.length + (bound + 6)) (jsonRow row ++ (jsonRest rows ++ '\n' :: ']' :: rest)) =
      some ((row :: rows).map rowJson, rest) := by
  have feed : Gap ['\n'] := by simp [Gap, isBlank]
  have comma (rest : List Char) : skip (',' :: rest) = ',' :: rest := rfl
  have bracket (rest : List Char) : skip ('\n' :: ']' :: rest) = ']' :: rest := rfl
  induction rows generalizing row with
  | nil =>
      rw [List.length_nil, Nat.zero_add, jsonRest, List.nil_append, readItems,
        readValue_jsonRow]
      simp [bracket]
  | cons next rows ih =>
      have more : jsonRest (next :: rows) ++ '\n' :: ']' :: rest =
          ',' :: (['\n'] ++ (jsonRow next ++ (jsonRest rows ++ '\n' :: ']' :: rest))) := by
        simp [jsonRest]
      have steps : (next :: rows).length + (bound + 6) = rows.length + (bound + 6) + 1 := by
        rw [List.length_cons]
        omega
      have first (rest : List Char) :
          readValue (rows.length + (bound + 6)) (jsonRow row ++ rest) = some (rowJson row, rest) :=
        readValue_jsonRow row (rows.length + (bound + 1)) rest
      rw [more, steps, readItems, first]
      simp only [comma, readItems_append feed, ih, Option.bind_eq_bind, Option.bind_some]
      rfl

theorem length_jsonRest (rows : List Row) : rows.length ≤ (jsonRest rows).length := by
  induction rows with
  | nil => exact Nat.le_refl _
  | cons row rows ih =>
      simp only [jsonRest, List.length_append, List.length_cons]
      have comma : ",\n".toList.length = 2 := rfl
      omega

theorem exists_brace (row : Row) (rest : List Char) :
    ∃ cs, skip (jsonRow row ++ rest) = '\x7b' :: cs := by
  rw [jsonRow_append]
  exact ⟨_, rfl⟩

/-- The JSON form is read as an array of the rows in their order, also if there are none. -/
theorem read?_jsonArray (rows : List Row) :
    read? (jsonArray rows ++ ['\n']) = some (.array (rows.map rowJson)) := by
  cases rows with
  | nil => rfl
  | cons row rows =>
      have text : jsonArray (row :: rows) ++ ['\n'] =
          '[' :: (['\n'] ++ (jsonRow row ++ (jsonRest rows ++ ['\n', ']', '\n']))) := by
        simp [jsonArray]
      obtain ⟨more, enough⟩ : ∃ more,
          (jsonArray (row :: rows) ++ ['\n']).length = rows.length + (more + 6) := by
        have rest_long := length_jsonRest rows
        have row_long : 4 ≤ (jsonRow row).length := by
          unfold jsonRow
          simp
        rw [text]
        simp only [List.length_cons, List.length_append, List.length_nil]
        exact ⟨(jsonRow row).length + (jsonRest rows).length + 5 - rows.length - 6, by omega⟩
      have bracket (cs : List Char) : skip ('[' :: cs) = '[' :: cs := rfl
      have feed : Gap ['\n'] := by simp [Gap, isBlank]
      obtain ⟨inner, brace⟩ := exists_brace row (jsonRest rows ++ ['\n', ']', '\n'])
      have items := readItems_rows row rows more ['\n']
      rw [read?, enough, text, readValue, bracket]
      simp only [skip_append feed, brace, readItems_append feed, items, Option.bind_eq_bind,
        Option.bind_some]
      rfl

end Objects

section Lines

variable {mark after : List Char} {rows : List Row}

/-- A text cut at its last tab. -/
def cutTab? (cs : List Char) : Option (List Char × List Char) :=
  match cs.reverse.dropWhile (· != '\t') with
  | [] => none
  | _ :: front => some (front.reverse, (cs.reverse.takeWhile (· != '\t')).reverse)

/-- The count behind a mark, up to a space. -/
def readCount? (mark column : List Char) : Option UInt64 :=
  if mark.isPrefixOf column then
    (Decimal.readUInt64 ((column.drop mark.length).takeWhile (· != ' '))).toOption
  else none

/-- What stands in front of the received bytes. -/
def rxMark : List Char := ['r', 'x', ' ']

/-- What stands in front of the sent bytes. -/
def txMark : List Char := ['t', 'x', ' ']

/-- The row of a line. -/
def readLine? (line : List Char) : Option Row := do
  let (front, sent) ← cutTab? line
  let (name, received) ← cutTab? front
  return ⟨.ofList name, ← readCount? rxMark received, ← readCount? txMark sent⟩

/-- The rows of a text, one on each line. -/
def readText? (text : String) : Option (List Row) := (Text.lines text.toList).mapM readLine?

/-- A count in bytes and, in brackets, as an amount. -/
def countColumn (mark : List Char) (count : UInt64) : List Char :=
  mark ++ (Decimal.digits count.toNat ++ ' ' :: '(' :: ((bytesText count).toList ++ [')']))

/-- The line of a row, without its end. -/
def rowLine (row : Row) : List Char :=
  row.name.toList ++ '\t' :: countColumn rxMark row.rxBytes ++
    '\t' :: countColumn txMark row.txBytes

theorem toList_textRow (row : Row) : (textRow row).toList = rowLine row ++ ['\n'] := by
  simp [textRow, rowLine, countColumn, rxMark, txMark, Decimal.text]

theorem cutTab?_append (clear : '\t' ∉ after) (before : List Char) :
    cutTab? (before ++ '\t' :: after) = some (before, after) := by
  have other : ∀ c ∈ after.reverse, (c != '\t') = true := by
    intro c inside
    simpa using ne_of_mem_of_not_mem (List.mem_reverse.mp inside) clear
  have turned : (before ++ '\t' :: after).reverse = after.reverse ++ '\t' :: before.reverse := by
    simp
  rw [cutTab?, turned, List.dropWhile_append_of_pos other, List.takeWhile_append_of_pos other]
  simp

theorem readCount?_countColumn (mark : List Char) (count : UInt64) :
    readCount? mark (countColumn mark count) = some count := by
  have digit : ∀ c ∈ Decimal.digits count.toNat, (c != ' ') = true := by
    intro c inside
    have digit := Nat.isDigit_of_mem_toDigits (b := 10) (by decide) (by decide) inside
    rw [bne_iff_ne]
    rintro rfl
    cases digit
  rw [readCount?, countColumn, if_pos (by simp), List.drop_left,
    List.takeWhile_append_of_pos digit]
  simp [Decimal.readUInt64_of_denotes (Decimal.denotes_digits _), Except.toOption]

/-- A column holds neither a tab nor a line feed, so that it ends where the next one begins. -/
theorem clear_countColumn (mark : List Char) (count : UInt64) {c : Char}
    (blank : c = '\t' ∨ c = '\n') (no_mark : c ∉ mark) : c ∉ countColumn mark count := by
  obtain ⟨number, unit, shows⟩ := exists_shows count
  have no_digit : c ∉ Decimal.digits count.toNat := by
    intro inside
    have digit := Nat.isDigit_of_mem_toDigits (b := 10) (by decide) (by decide) inside
    rcases blank with rfl | rfl <;> cases digit
  have no_amount : c ∉ (bytesText count).toList := by
    intro inside
    rcases blank with rfl | rfl <;> exact absurd (shows.plain _ inside) (by decide)
  have no_bracket : c ≠ ' ' ∧ c ≠ '(' ∧ c ≠ ')' := by
    rcases blank with rfl | rfl <;> decide
  simp [countColumn, no_mark, no_digit, no_amount, no_bracket]

theorem getLast?_rowLine (row : Row) : (rowLine row).getLast? = some ')' := by
  simp [rowLine, countColumn, List.getLast?_cons, List.getLast?_append]

theorem readLine?_rowLine (row : Row) : readLine? (rowLine row) = some row := by
  have received := clear_countColumn rxMark row.rxBytes (.inl rfl) (by decide)
  have sent := clear_countColumn txMark row.txBytes (.inl rfl) (by decide)
  simp only [readLine?, rowLine, cutTab?_append sent, cutTab?_append received,
    readCount?_countColumn, Option.bind_eq_bind, Option.bind_some, String.ofList_toList]
  rfl

theorem lined_textRows (inline : ∀ row ∈ rows, '\n' ∉ row.name.toList) :
    Text.Lined (rows.map rowLine) (String.join (rows.map textRow)).toList := by
  induction rows with
  | nil => exact .nil
  | cons row rows ih =>
      obtain ⟨first, more⟩ := List.forall_mem_cons.mp inline
      have received := clear_countColumn rxMark row.rxBytes (.inr rfl) (by decide)
      have sent := clear_countColumn txMark row.txBytes (.inr rfl) (by decide)
      have clear : '\n' ∉ rowLine row := by simp [rowLine, first, received, sent]
      have last : '\r' ∉ (rowLine row).getLast? := by simp [getLast?_rowLine]
      rw [List.map_cons, List.map_cons, String.join_cons, String.toList_append, toList_textRow,
        List.append_assoc]
      exact .feed clear last (ih more)

/-- The text form is read as the rows in their order, if each name stays on its line. -/
theorem readText?_join (inline : ∀ row ∈ rows, '\n' ∉ row.name.toList) :
    readText? (String.join (rows.map textRow)) = some rows := by
  rw [readText?, (lined_textRows inline).lines_eq]
  clear inline
  induction rows with
  | nil => rfl
  | cons row rows ih =>
      rw [List.map_cons, List.mapM_cons, readLine?_rowLine, ih]
      rfl

end Lines

end Listing

end TrafficMeter
