import TrafficMeter.Counter.FetchError
import TrafficMeter.Text.Split

/-! # The counter table

Two header lines, then one row for each interface: its name, a colon, and at least
nine columns. The first column counts received bytes, the ninth sent bytes. Blank
lines are skipped; any other line that is no row makes the whole table malformed.
-/

namespace TrafficMeter

/-- The byte counters of one interface. -/
structure Row where
  name : String
  rxBytes : UInt64
  txBytes : UInt64
  deriving DecidableEq, Repr

namespace Row

/-- Whether the row counts the loopback interface. -/
def isLoopback (row : Row) : Bool := row.name == "lo"

/-- Reads one counter; an error names the interface. -/
def readCounter (name column : List Char) : Except FetchError UInt64 :=
  match Decimal.readUInt64 column with
  | .ok count => .ok count
  | .error cause =>
      .error (.malformed (String.ofList (Text.quoted column) ++ " for " ++
        String.ofList name ++ ": " ++ cause.message))

/-- Reads a row from its name and its columns. -/
def ofColumns (name : List Char) (columns : List (List Char)) : Except FetchError Row :=
  match columns with
  | rx :: _ :: _ :: _ :: _ :: _ :: _ :: _ :: tx :: _ => do
      let rxBytes ← readCounter name rx
      let txBytes ← readCounter name tx
      return ⟨String.ofList name, rxBytes, txBytes⟩
  | _ =>
      .error (.malformed ("expected at least 9 counters for " ++ String.ofList name ++
        ", got " ++ Decimal.text columns.length))

/-- Reads a row. The name ends at the first colon. -/
def read (line : List Char) : Except FetchError Row :=
  match line.dropWhile (· != ':') with
  | [] => .error (.malformed ("missing ':' in " ++ String.ofList (Text.quoted line)))
  | _ :: columns =>
      ofColumns (Text.trim (line.takeWhile (· != ':'))) (Text.words columns)

end Row

namespace Table

/-- The lines of a table that have to be rows. -/
def rowLines (text : List Char) : List (List Char) :=
  ((Text.lines text).drop 2).filter fun line => !line.all Text.isBlank

/-- Reads the rows of a table, in order, or reports the first line that is none. -/
def readRows : List (List Char) → Except FetchError (List Row)
  | [] => .ok []
  | line :: lines => do
      let row ← Row.read line
      let rows ← readRows lines
      return row :: rows

/-- Reads a table. -/
def read (text : List Char) : Except FetchError (List Row) := readRows (rowLines text)

end Table

end TrafficMeter
