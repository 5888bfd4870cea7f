import TrafficMeter.Counter.File
import TrafficMeter.Rate.Line

/-! # Listing the interfaces

The rows of the counter table, as one line of text each or as a JSON array.
-/

namespace TrafficMeter

/-- What a program writes to its two outputs, and its exit code. -/
structure Result where
  stdout : String
  stderr : String
  exitCode : Nat
  deriving DecidableEq, Repr

namespace Listing

/-- A row for people. -/
def textRow (row : Row) : String :=
  row.name ++ "\trx " ++ Decimal.text row.rxBytes.toNat ++ " (" ++ bytesText row.rxBytes ++
    ")\ttx " ++ Decimal.text row.txBytes.toNat ++ " (" ++ bytesText row.txBytes ++ ")\n"

/-- A row as a JSON object, indented to stand in an array. -/
def jsonRow (row : Row) : List Char :=
  let member := fun name value => "    ".toList ++ Json.member [':', ' '] name value
  "  \x7b\n".toList ++ member "name" (Json.string row.name.toList) ++ ",\n".toList ++
    member "rx_bytes" (Json.number row.rxBytes) ++ ",\n".toList ++
    member "tx_bytes" (Json.number row.txBytes) ++ "\n  \x7d".toList

/-- The rows of an array after the first, each after a comma. -/
def jsonRest : List Row → List Char
  | [] => []
  | row :: rows => ",\n".toList ++ jsonRow row ++ jsonRest rows

/-- Rows as a JSON array. -/
def jsonArray : List Row → List Char
  | [] => "[]".toList
  | row :: rows => "[\n".toList ++ jsonRow row ++ jsonRest rows ++ "\n]".toList

/-- What a listing writes. Without an interface the text form complains and fails. -/
def result (format : Format) (rows : List Row) : Result :=
  match format, rows with
  | .text, [] => ⟨"", "<no interfaces>\n", 2⟩
  | .text, rows => ⟨String.join (rows.map textRow), "", 0⟩
  | .json, rows => ⟨String.ofList (jsonArray rows) ++ "\n", "", 0⟩

end Listing

end TrafficMeter
