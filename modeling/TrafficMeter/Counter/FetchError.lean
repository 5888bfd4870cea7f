import TrafficMeter.Span
import TrafficMeter.Text.Quoted

/-! # Failed fetches

Why a reading of the counters is missing. A failed fetch is an error, never a
reading of zero.
-/

namespace TrafficMeter

/-- Marks an operation that was cancelled. -/
inductive Cancelled where
  | cancelled
  deriving DecidableEq, Repr

def Cancelled.message (_ : Cancelled) : String := "operation cancelled"

/-- What the operating system reports of a file, a thread or an output. -/
inductive SystemError where
  | noSuchFile
  | notDirectory
  | isDirectory
  | nameTooLong
  | invalidUtf8
  | other (text : String)
  deriving DecidableEq, Repr

namespace SystemError

def message : SystemError → String
  | noSuchFile => "No such file or directory (os error 2)"
  | notDirectory => "Not a directory (os error 20)"
  | isDirectory => "Is a directory (os error 21)"
  | nameTooLong => "File name too long (os error 36)"
  | invalidUtf8 => "stream did not contain valid UTF-8"
  | other text => text

end SystemError

/-- Why a fetch gave no reading. -/
inductive FetchError where
  | unavailable (reason : String)
  | interfaceNotFound (name : String)
  | malformed (reason : String)
  | unreadable (path : String) (cause : SystemError)
  | timeout (after : Span)
  | cancelled (cause : Cancelled)
  deriving DecidableEq, Repr

namespace FetchError

def message : FetchError → String
  | unavailable reason => "counter source unavailable: " ++ reason
  | interfaceNotFound name =>
      "interface " ++ String.ofList (Text.quoted name.toList) ++ " not found"
  | malformed reason => "malformed counter data: " ++ reason
  | unreadable path _ => "reading counters from " ++ path
  | timeout after => "counter fetch timed out after " ++ after.text
  | cancelled _ => "counter fetch cancelled"

end FetchError

end TrafficMeter
