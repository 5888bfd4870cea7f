import TrafficMeter.Counter.Snapshot
import TrafficMeter.Counter.Table

/-! # The counter file

The file that holds the counter table, listed or read for one interface. Every
reader needs the whole table to be well formed.
-/

namespace TrafficMeter

/-- What is found at the path of a counter file. -/
inductive Contents where
  /-- The system reads no bytes there. -/
  | refused (cause : SystemError)
  | bytes (data : ByteArray)

namespace Contents

/-- Nothing is at the path. -/
def missing : Contents := refused .noSuchFile

/-- A directory is at the path. -/
def directory : Contents := refused .isDirectory

/-- The contents of a file with the given text. -/
def ofText (text : String) : Contents := bytes text.toUTF8

/-- The text of a file. -/
def readText : Contents → Except SystemError String
  | refused cause => .error cause
  | bytes data =>
      match String.fromUTF8? data with
      | some text => .ok text
      | none => .error .invalidUtf8

/-- The rows of the table in a file. -/
def rows (path : String) (contents : Contents) : Except FetchError (List Row) :=
  match contents.readText with
  | .ok text => Table.read text.toList
  | .error cause => .error (.unreadable path cause)

/-- The interfaces in a file, with or without the loopback interface. -/
def interfaces (path : String) (contents : Contents) (withLoopback : Bool) :
    Except FetchError (List Row) := do
  let rows ← contents.rows path
  return rows.filter fun row => withLoopback || !row.isLoopback

/-- The width of the counters in a file. -/
def counterWidth : Width := .bits64

/-- Reads the counters of one interface, the first of its name. A cancelled fetch
leaves the file alone. -/
def fetch (path interface : String) (contents : Contents) (isCancelled : Bool) :
    Except FetchError Snapshot := do
  if isCancelled then throw (.cancelled .cancelled)
  let rows ← contents.rows path
  match rows.find? fun row => row.name == interface with
  | some row => return ⟨row.rxBytes, row.txBytes, counterWidth⟩
  | none => throw (.interfaceNotFound interface)

end Contents

end TrafficMeter
