import TrafficMeter.Proofs.Monitor.Lines
import TrafficMeter.Proofs.Text.Json
import TrafficMeter.Proofs.Text.Pieces

/-! # Reading rate lines back

Whatever the name of the interface and however large the rates, a JSON line holds one line feed, at
its end, and reads as one flat object with the name and the exact rates. A stream of such lines is
cut at its line feeds into the objects that were written.
-/

namespace TrafficMeter

namespace Json

theorem digitChar_ne_lineFeed {d : Nat} (digit : d < 16) : d.digitChar ≠ '\n' := by
  intro same
  have read := hexValue?_digitChar digit
  rw [same] at read
  cases read

theorem not_lineFeed_mem_escapeChar (c : Char) : '\n' ∉ escapeChar c := by
  unfold escapeChar
  -- seven characters have a letter of their own
  iterate 7
    split
    · decide
  split
  · have high := digitChar_ne_lineFeed (d := c.toNat / 16) (by omega)
    have low := digitChar_ne_lineFeed (d := c.toNat % 16) (by omega)
    simp [Ne.symm high, Ne.symm low]
  · rename_i other _ _ _ _ _
    simpa using Ne.symm other

theorem not_lineFeed_mem_string (cs : List Char) : '\n' ∉ string cs := by
  simp [string, not_lineFeed_mem_escapeChar]

theorem not_lineFeed_mem_number (n : UInt64) : '\n' ∉ number n := by
  intro inside
  cases only_digits n _ inside

end Json

namespace Rate

variable {interface : String} {rate : Rate}

/-- A rate of an interface as a flat object. -/
def toJson (interface : String) (rate : Rate) : Json.Value :=
  .object [("interface", .string interface),
    ("in_bytes_per_sec", .number rate.inBytes.toNat 0),
    ("out_bytes_per_sec", .number rate.outBytes.toNat 0)]

theorem toJson_inj {other : String} {rate' : Rate} :
    toJson interface rate = toJson other rate' ↔ interface = other ∧ rate = rate' := by
  cases rate
  cases rate'
  simp only [toJson, Json.Value.object.injEq, List.cons.injEq, Prod.mk.injEq, true_and, and_true,
    Json.Value.string.injEq, Json.Value.number.injEq, Int.natCast_inj, UInt64.toNat_inj, mk.injEq]

/-- The members of an object are read one after the other. -/
theorem read?_jsonBody (interface : String) (rate : Rate) {rest : List Char}
    (blank : Json.skip rest = []) :
    Json.read? (jsonBody interface rate ++ rest) = some (toJson interface rate) := by
  obtain ⟨more, enough⟩ : ∃ more, (jsonBody interface rate ++ rest).length = more + 4 := by
    apply Nat.exists_eq_add_of_le'
    simp only [jsonBody, Json.member, Json.string, List.length_append, List.length_cons]
    omega
  have text : jsonBody interface rate ++ rest =
      '\x7b' :: (Json.member [':'] "interface" (Json.string interface.toList) ++ ',' ::
        (Json.member [':'] "in_bytes_per_sec" (Json.number rate.inBytes) ++ ',' ::
          (Json.member [':'] "out_bytes_per_sec" (Json.number rate.outBytes) ++
            '\x7d' :: rest))) := by
    simp [jsonBody]
  have comma (rest : List Char) : Json.skip (',' :: rest) = ',' :: rest := rfl
  have brace (rest : List Char) : Json.skip ('\x7d' :: rest) = '\x7d' :: rest := rfl
  rw [Json.read?, enough, text, Json.readValue_object]
  simp [Json.readMembers_member, Json.readValue_string, comma, brace, Json.readValue_number,
    Json.endsNumber_cons (c := ',') (by decide), Json.endsNumber_cons (c := '\x7d') (by decide),
    blank, toJson]

theorem not_lineFeed_mem_jsonBody (interface : String) (rate : Rate) :
    '\n' ∉ jsonBody interface rate := by
  simp [jsonBody, Json.member, Json.not_lineFeed_mem_string, Json.not_lineFeed_mem_number]

theorem toList_line (interface : String) (rate : Rate) :
    (rate.line .json interface).toList = jsonBody interface rate ++ ['\n'] := by
  rw [line, body, String.toList_append, String.toList_ofList]
  rfl

theorem read?_line (interface : String) (rate : Rate) :
    Json.read? (rate.line .json interface).toList = some (toJson interface rate) := by
  rw [toList_line]
  exact read?_jsonBody interface rate rfl

/-- The lines for updates of any interfaces, one after the other. -/
def stream (updates : List (String × Rate)) : String :=
  String.join (updates.map fun (interface, rate) => rate.line .json interface)

/-- A stream is cut at its line feeds, and each line is read. -/
def readStream (text : String) : List (Option Json.Value) :=
  (Text.lines text.toList).map Json.read?

theorem lines_stream_cons (interface : String) (rate : Rate) (updates : List (String × Rate)) :
    Text.lines (stream ((interface, rate) :: updates)).toList =
      jsonBody interface rate :: Text.lines (stream updates).toList := by
  have text : (stream ((interface, rate) :: updates)).toList =
      jsonBody interface rate ++ '\n' :: (stream updates).toList := by
    rw [stream, List.map_cons, String.join_cons, String.toList_append, toList_line,
      List.append_assoc]
    rfl
  have ends : Text.dropReturn (jsonBody interface rate) = jsonBody interface rate := by
    rw [jsonBody, Text.dropReturn_concat, if_neg (by decide)]
  rw [text, Text.lines_feed (not_lineFeed_mem_jsonBody interface rate), ends]

theorem readStream_stream (updates : List (String × Rate)) :
    readStream (stream updates) = updates.map fun (interface, rate) =>
      some (toJson interface rate) := by
  induction updates with
  | nil => rfl
  | cons update updates ih =>
      have read : Json.read? (jsonBody update.1 update.2 ++ []) = _ :=
        read?_jsonBody update.1 update.2 rfl
      rw [List.append_nil] at read
      rw [readStream, lines_stream_cons, List.map_cons, read, List.map_cons]
      exact congrArg (List.cons _) ih

/-- The JSON output for an update is one line, with its only line feed at the end, and reads as the
flat object of the name and the two rates, each exactly as it was. Different updates have different
lines, and different sequences of updates have different streams: a stream is cut at its line feeds
into the objects of its updates. -/
theorem json_lines_read_back :
    (∀ interface rate written,
      Sink.writeRate ⟨none, written⟩ .json interface rate =
          .ok ⟨none, written ++ rate.line .json interface⟩ ∧
        (∃ body, (rate.line .json interface).toList = body ++ ['\n'] ∧ '\n' ∉ body) ∧
        Json.read? (rate.line .json interface).toList =
          some (.object [("interface", .string interface),
            ("in_bytes_per_sec", .number rate.inBytes.toNat 0),
            ("out_bytes_per_sec", .number rate.outBytes.toNat 0)]) ∧
        ∀ other rate', rate.line .json interface = rate'.line .json other ↔
          interface = other ∧ rate = rate') ∧
      ∀ updates updates' : List (String × Rate),
        readStream (stream updates) =
            updates.map (fun (interface, rate) => some (toJson interface rate)) ∧
          (stream updates = stream updates' ↔ updates = updates') := by
  refine ⟨?_, ?_⟩
  · intro interface rate written
    have accepts : (Sink.mk none written).Accepts (rate.line .json interface) := by
      rintro limit ⟨⟩
    refine ⟨Sink.writeRate_of_accepts accepts, ⟨jsonBody interface rate, toList_line interface rate,
      not_lineFeed_mem_jsonBody interface rate⟩, read?_line interface rate, ?_⟩
    intro other rate'
    constructor
    · intro same
      have read := read?_line interface rate
      rw [same, read?_line other rate', Option.some.injEq, toJson_inj] at read
      exact ⟨read.1.symm, read.2.symm⟩
    · rintro ⟨rfl, rfl⟩
      rfl
  · intro updates updates'
    refine ⟨readStream_stream updates, ?_⟩
    constructor
    · intro same
      have read := readStream_stream updates
      rw [same, readStream_stream updates'] at read
      refine ((List.map_inj_right ?_).mp read).symm
      rintro ⟨interface, rate⟩ ⟨other, rate'⟩ equal
      obtain ⟨rfl, rfl⟩ := toJson_inj.mp (Option.some.inj equal)
      rfl
    · rintro rfl
      rfl

end Rate

end TrafficMeter
