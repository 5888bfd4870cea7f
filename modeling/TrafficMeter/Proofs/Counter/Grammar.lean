import TrafficMeter.Counter.File
import TrafficMeter.Proofs.Number.Reading
import TrafficMeter.Proofs.Text.Pieces

/-! # What a counter table is

The lines that are rows and what each of them says, and the lines that are none and why. Every
line is one or the other. A table with a line that has to be a row and is none is refused as a
whole, for the first such line, and no interface can be fetched from it.
-/

namespace TrafficMeter

namespace Row

/-- The line is a name between blanks, its first colon, and after it these fields. -/
inductive Parts : List Char → List Char → List (List Char) → Prop where
  | mk {before name after rest fields} (left : Text.Blanks before) (tight : Text.Tight name)
      (right : Text.Blanks after) (no_colon : ':' ∉ name) (spaced : Text.Spaced fields rest) :
      Parts (before ++ (name ++ after) ++ ':' :: rest) name fields

/-- The line counts the bytes of the row, received in the first field and sent in the ninth. -/
inductive Denotes (line : List Char) (row : Row) : Prop where
  | mk {fields rx tx} (parts : Parts line row.name.toList fields) (first : fields[0]? = some rx)
      (ninth : fields[8]? = some tx) (received : Decimal.Denotes rx row.rxBytes.toNat)
      (sent : Decimal.Denotes tx row.txBytes.toNat) : Denotes line row

/-- The complaint about a field that is no number of 64 bits. -/
def badCounter (name field : List Char) : FetchError :=
  .malformed (String.ofList (Text.quoted field) ++ " for " ++ String.ofList name ++ ": " ++
    (Decimal.fault Decimal.maxUInt64 field).message)

/-- The field is no number of 64 bits. -/
def BadCounter (field : List Char) : Prop := ¬∃ count : UInt64, Decimal.Denotes field count.toNat

/-- The line is no row, and the complaint about it. -/
inductive Refused (line : List Char) : FetchError → Prop where
  | noColon (none : ':' ∉ line) :
      Refused line (.malformed ("missing ':' in " ++ String.ofList (Text.quoted line)))
  | fewFields {name fields} (parts : Parts line name fields) (few : fields.length < 9) :
      Refused line (.malformed ("expected at least 9 counters for " ++ String.ofList name ++
        ", got " ++ Decimal.text fields.length))
  | badReceived {name fields rx} (parts : Parts line name fields) (enough : 9 ≤ fields.length)
      (first : fields[0]? = some rx) (bad : BadCounter rx) : Refused line (badCounter name rx)
  | badSent {name fields rx tx} (parts : Parts line name fields) (first : fields[0]? = some rx)
      (ninth : fields[8]? = some tx) (received : ¬BadCounter rx) (bad : BadCounter tx) :
      Refused line (badCounter name tx)

variable {line name field rx tx : List Char} {fields : List (List Char)} {row : Row}
  {error : FetchError}

section Parts

theorem colon_of_parts (parts : Parts line name fields) : ':' ∈ line := by
  cases parts
  simp

theorem no_colon_of_blanks {gap : List Char} (blanks : Text.Blanks gap) : ':' ∉ gap := by
  intro inside
  exact absurd (blanks ':' inside) (by decide)

theorem exists_parts (colon : ':' ∈ line) : ∃ name fields, Parts line name fields := by
  obtain ⟨left, right, rfl, no_colon⟩ := List.eq_append_cons_of_mem colon
  obtain ⟨before, after, blanks, more_blanks, cut⟩ := Text.exists_trim left
  have name_clear : ':' ∉ Text.trim left := by
    intro inside
    exact no_colon (cut ▸ by simp [inside])
  have parts := Parts.mk blanks (Text.tight_trim left) more_blanks name_clear
    (Text.spaced_words right)
  rw [← cut] at parts
  exact ⟨_, _, parts⟩

theorem ne_colon_of_mem (none : ':' ∉ line) : ∀ c ∈ line, (c != ':') = true := by
  intro c inside
  simpa using ne_of_mem_of_not_mem inside none

theorem read_append_colon {left : List Char} (no_colon : ':' ∉ left) (right : List Char) :
    read (left ++ ':' :: right) = ofColumns (Text.trim left) (Text.words right) := by
  have clear := ne_colon_of_mem no_colon
  rw [read, List.dropWhile_append_of_pos clear, List.takeWhile_append_of_pos clear]
  simp

theorem read_of_parts (parts : Parts line name fields) : read line = ofColumns name fields := by
  obtain ⟨left, tight, right, no_colon, spaced⟩ := parts
  have clear := List.not_mem_append (no_colon_of_blanks left)
    (List.not_mem_append no_colon (no_colon_of_blanks right))
  rw [read_append_colon clear, Text.trim_of_tight left tight right, spaced.words_eq]

theorem read_of_no_colon (none : ':' ∉ line) :
    read line = .error (.malformed ("missing ':' in " ++ String.ofList (Text.quoted line))) := by
  rw [read, List.dropWhile_eq_nil_iff.mpr (ne_colon_of_mem none)]

end Parts

section Columns

theorem readCounter_of_denotes {count : UInt64} (denotes : Decimal.Denotes field count.toNat) :
    readCounter name field = .ok count := by
  rw [readCounter, Decimal.readUInt64_of_denotes denotes]

theorem readCounter_of_bad (bad : BadCounter field) :
    readCounter name field = .error (badCounter name field) := by
  rw [readCounter, Decimal.readUInt64_of_not_denotes bad]
  rfl

theorem ofColumns_of_few (few : fields.length < 9) :
    ofColumns name fields = .error (.malformed ("expected at least 9 counters for " ++
      String.ofList name ++ ", got " ++ Decimal.text fields.length)) := by
  unfold ofColumns
  split
  · simp only [List.length_cons] at few
    omega
  · rfl

theorem ofColumns_of_ninth (first : fields[0]? = some rx) (ninth : fields[8]? = some tx) :
    ofColumns name fields = do
      let rxBytes ← readCounter name rx
      let txBytes ← readCounter name tx
      return ⟨String.ofList name, rxBytes, txBytes⟩ := by
  rcases fields with _ | ⟨_, _ | ⟨_, _ | ⟨_, _ | ⟨_, _ | ⟨_, _ | ⟨_, _ | ⟨_, _ | ⟨_, _ |
    ⟨_, more⟩⟩⟩⟩⟩⟩⟩⟩⟩ <;> simp at first ninth
  subst first ninth
  rfl

end Columns

section Reading

theorem read_of_denotes (denotes : Denotes line row) : read line = .ok row := by
  obtain ⟨parts, first, ninth, received, sent⟩ := denotes
  rw [read_of_parts parts, ofColumns_of_ninth first ninth, readCounter_of_denotes received,
    readCounter_of_denotes sent, String.ofList_toList]
  rfl

theorem read_of_refused (refused : Refused line error) : read line = .error error := by
  cases refused with
  | noColon none => exact read_of_no_colon none
  | fewFields parts few => rw [read_of_parts parts, ofColumns_of_few few]
  | badReceived parts enough first bad =>
      have ninth : _ = some _ := List.getElem?_eq_getElem enough
      rw [read_of_parts parts, ofColumns_of_ninth first ninth, readCounter_of_bad bad]
      rfl
  | badSent parts first ninth received bad =>
      obtain ⟨count, received⟩ := Classical.not_not.mp received
      rw [read_of_parts parts, ofColumns_of_ninth first ninth, readCounter_of_denotes received,
        readCounter_of_bad bad]
      rfl

/-- No line is left without a verdict. -/
theorem denotes_or_refused (line : List Char) :
    (∃ row, Denotes line row) ∨ ∃ error, Refused line error := by
  by_cases colon : ':' ∈ line
  · obtain ⟨name, fields, parts⟩ := exists_parts colon
    by_cases enough : 9 ≤ fields.length
    · have first : fields[0]? = some fields[0] := List.getElem?_eq_getElem (by omega)
      have ninth : fields[8]? = some fields[8] := List.getElem?_eq_getElem (by omega)
      by_cases received : BadCounter fields[0]
      · exact .inr ⟨_, .badReceived parts enough first received⟩
      · by_cases sent : BadCounter fields[8]
        · exact .inr ⟨_, .badSent parts first ninth received sent⟩
        · obtain ⟨rxBytes, received⟩ := Classical.not_not.mp received
          obtain ⟨txBytes, sent⟩ := Classical.not_not.mp sent
          refine .inl ⟨⟨String.ofList name, rxBytes, txBytes⟩, ?_⟩
          exact .mk (by rwa [String.toList_ofList]) first ninth received sent
    · exact .inr ⟨_, .fewFields parts (Nat.lt_of_not_le enough)⟩
  · exact .inr ⟨_, .noColon colon⟩

end Reading

end Row

namespace Table

variable {lines earlier later : List (List Char)} {line : List Char} {rows : List Row}
  {error : FetchError}

theorem readRows_of_denotes (denote : List.Forall₂ Row.Denotes lines rows) :
    readRows lines = .ok rows := by
  induction denote with
  | nil => rfl
  | cons denotes _ ih =>
      rw [readRows, Row.read_of_denotes denotes, ih]
      rfl

/-- Whatever follows the first line that is no row makes no difference. -/
theorem readRows_of_refused (denote : List.Forall₂ Row.Denotes earlier rows)
    (refused : Row.Refused line error) (later : List (List Char)) :
    readRows (earlier ++ line :: later) = .error error := by
  induction denote with
  | nil =>
      rw [List.nil_append, readRows, Row.read_of_refused refused]
      rfl
  | cons denotes _ ih =>
      rw [List.cons_append, readRows, Row.read_of_denotes denotes, ih]
      rfl

theorem exists_rows (denote : ∀ line ∈ lines, ∃ row, Row.Denotes line row) :
    ∃ rows, List.Forall₂ Row.Denotes lines rows := by
  induction lines with
  | nil => exact ⟨[], .nil⟩
  | cons line lines ih =>
      obtain ⟨⟨row, denotes⟩, more⟩ := List.forall_mem_cons.mp denote
      obtain ⟨rows, denote⟩ := ih more
      exact ⟨row :: rows, .cons denotes denote⟩

theorem exists_row (denote : List.Forall₂ Row.Denotes lines rows) :
    ∀ line ∈ lines, ∃ row, Row.Denotes line row := by
  induction denote with
  | nil => simp
  | cons denotes _ ih => exact List.forall_mem_cons.mpr ⟨⟨_, denotes⟩, ih⟩

/-- Either all lines are rows or there is a first one that is none. -/
theorem denote_or_refused (lines : List (List Char)) :
    (∃ rows, List.Forall₂ Row.Denotes lines rows) ∨
      ∃ earlier line later rows error, lines = earlier ++ line :: later ∧
        List.Forall₂ Row.Denotes earlier rows ∧ Row.Refused line error := by
  induction lines with
  | nil => exact .inl ⟨[], .nil⟩
  | cons line lines ih =>
      rcases Row.denotes_or_refused line with ⟨row, denotes⟩ | ⟨error, refused⟩
      · rcases ih with ⟨rows, denote⟩ | ⟨earlier, bad, later, rows, error, cut, denote, refused⟩
        · exact .inl ⟨row :: rows, .cons denotes denote⟩
        · exact .inr ⟨line :: earlier, bad, later, row :: rows, error, by rw [cut]; rfl,
            .cons denotes denote, refused⟩
      · exact .inr ⟨[], line, lines, [], error, rfl, .nil, refused⟩

theorem readRows_eq_ok_iff : readRows lines = .ok rows ↔ List.Forall₂ Row.Denotes lines rows := by
  refine ⟨fun accepted => ?_, readRows_of_denotes⟩
  rcases denote_or_refused lines with
    ⟨others, denote⟩ | ⟨earlier, line, later, others, error, rfl, denote, refused⟩
  · rwa [← Except.ok.inj ((readRows_of_denotes denote).symm.trans accepted)]
  · cases (readRows_of_refused denote refused later).symm.trans accepted

theorem readRows_eq_error_iff :
    readRows lines = .error error ↔
      ∃ earlier line later, lines = earlier ++ line :: later ∧
        (∀ line ∈ earlier, ∃ row, Row.Denotes line row) ∧ Row.Refused line error := by
  constructor
  · intro rejected
    rcases denote_or_refused lines with
      ⟨rows, denote⟩ | ⟨earlier, line, later, rows, other, rfl, denote, refused⟩
    · cases (readRows_of_denotes denote).symm.trans rejected
    · cases (readRows_of_refused denote refused later).symm.trans rejected
      exact ⟨earlier, line, later, rfl, exists_row denote, refused⟩
  · rintro ⟨earlier, line, later, rfl, denote, refused⟩
    obtain ⟨rows, denote⟩ := exists_rows denote
    exact readRows_of_refused denote refused later

end Table

namespace Contents

variable {path : String} {contents : Contents} {text : String} {rows : List Row}
  {error : FetchError}

theorem readText_ofText (text : String) : (ofText text).readText = .ok text := by
  have decoded : String.fromUTF8? text.toUTF8 = some text := dif_pos text.isValidUTF8
  rw [ofText, readText, decoded]

theorem rows_of_text (path : String) (held : contents.readText = .ok text) :
    contents.rows path = Table.read text.toList := by
  rw [Contents.rows, held]

/-- Without all rows there is no reading, whatever the interface. -/
theorem fetch_of_no_rows (unread : contents.rows path = .error error) (interface : String)
    (isCancelled : Bool) :
    contents.fetch path interface isCancelled =
      .error (if isCancelled then .cancelled .cancelled else error) := by
  cases isCancelled with
  | true => rfl
  | false =>
      rw [fetch, unread]
      rfl

end Contents

namespace Table

/-- A text is a table exactly if each of its lines from the third on that is not blank is a row,
and the table has these rows in order. Any other text is refused for the first of the lines that
is no row, and so is every fetch from a file with this text. -/
theorem read_fails_closed (text : String) :
    let lines := Text.lines text.toList
    let due := (lines.drop 2).filter fun line => !line.all Text.isBlank
    Text.Lined lines text.toList ∧
      ((∃ rows, read text.toList = .ok rows) ↔ ∀ line ∈ due, ∃ row, Row.Denotes line row) ∧
      (∀ rows, read text.toList = .ok rows ↔ List.Forall₂ Row.Denotes due rows) ∧
      (∀ error, read text.toList = .error error ↔
        ∃ earlier line later, due = earlier ++ line :: later ∧
          (∀ line ∈ earlier, ∃ row, Row.Denotes line row) ∧ Row.Refused line error) ∧
      ∀ error, read text.toList = .error error →
        ∀ contents : Contents, contents.readText = .ok text →
          ∀ path interface isCancelled, contents.fetch path interface isCancelled =
            .error (if isCancelled then .cancelled .cancelled else error) := by
  intro lines due
  refine ⟨Text.lined_lines _, ?_, fun rows => readRows_eq_ok_iff,
    fun error => readRows_eq_error_iff, ?_⟩
  · constructor
    · rintro ⟨rows, accepted⟩
      exact exists_row (readRows_eq_ok_iff.mp accepted)
    · intro denote
      obtain ⟨rows, denote⟩ := exists_rows denote
      exact ⟨rows, readRows_of_denotes denote⟩
  · intro error rejected contents held path interface isCancelled
    exact Contents.fetch_of_no_rows ((Contents.rows_of_text path held).trans rejected) interface
      isCancelled

/-- A table with a row and a line that is none. -/
def spoilt : String := "h1\nh2\neth0: 1 0 0 0 0 0 0 0 2\nwlan0 5\n"

theorem read_fails_closed_spoilt :
    let error := FetchError.malformed "missing ':' in \"wlan0 5\""
    read spoilt.toList = .error error ∧ (Contents.ofText spoilt).readText = .ok spoilt ∧
      (Contents.ofText spoilt).fetch "net_dev" "eth0" false = .error error := by
  intro error
  have rejected : read spoilt.toList = .error error := by rfl
  have held := Contents.readText_ofText spoilt
  obtain ⟨_, _, _, _, closed⟩ := read_fails_closed spoilt
  exact ⟨rejected, held, closed error rejected _ held "net_dev" "eth0" false⟩

end Table

end TrafficMeter
