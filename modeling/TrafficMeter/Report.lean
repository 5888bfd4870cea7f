import TrafficMeter.Counter.Choice
import TrafficMeter.Poll.Lifecycle
import TrafficMeter.Settings

/-! # Error reports

An error with the contexts it was reported in. Its chain lists the contexts from the
outermost one, then the error, then what caused it; the exit code and whether it is a
cancellation are read off the chain.
-/

namespace TrafficMeter

/-- An error of any part of the program. -/
inductive Failure where
  | message (text : String)
  | ring (error : RingError)
  | detector (error : Spike.DetectorError)
  | settings (error : SettingsError)
  | fetch (error : FetchError)
  | choice (error : ChoiceError)
  | start (error : Poll.StartError)
  | cancelled (error : Cancelled)
  | system (error : SystemError)
  /-- An output that stopped taking in encoded text. -/
  | encoding (error : SystemError)
  deriving DecidableEq

namespace Failure

/-- The text of an error, without its causes. -/
def text : Failure → String
  | message text => text
  | ring error => error.message
  | detector error => error.message
  | settings error => error.message
  | fetch error => error.message
  | choice error => error.message
  | start error => error.message
  | cancelled error => error.message
  | system error => error.message
  | encoding error => error.message

/-- The causes of a detector's error. -/
def detectorCauses : Spike.DetectorError → List Failure
  | .lag cause => [ring cause]
  | .threshold _ => []
  | .influence _ => []

/-- The causes of an error, the nearest one first. -/
def causes : Failure → List Failure
  | detector error => detectorCauses error
  | settings (.filter cause) => detector cause :: detectorCauses cause
  | fetch (.unreadable _ cause) => [system cause]
  | fetch (.cancelled cause) => [cancelled cause]
  | start (.spawn cause) => [system cause]
  | _ => []

/-- The exit code that an error decides on, if it does. -/
def exitCode? : Failure → Option Nat
  | choice .noInterfaces => some 2
  | choice (.multipleInterfaces _) => some 3
  | settings _ => some 4
  | fetch _ => some 5
  | _ => none

/-- Whether an error marks a cancellation by itself. -/
def marksCancellation : Failure → Bool
  | cancelled _ => true
  | _ => false

end Failure

/-- An error inside contexts, the outermost one first. -/
structure Report where
  contexts : List String
  failure : Failure
  deriving DecidableEq

namespace Report

/-- The report of an error without contexts. -/
def of (failure : Failure) : Report := ⟨[], failure⟩

/-- Reports an error inside one more context. -/
def within (context : String) (report : Report) : Report :=
  { report with contexts := context :: report.contexts }

/-- The contexts, the error and its causes. -/
def chain (report : Report) : List Failure :=
  report.contexts.map Failure.message ++ report.failure :: report.failure.causes

/-- The exit code: the outermost error that decides on one, or 1. -/
def exitCode (report : Report) : Nat :=
  (report.chain.findSome? Failure.exitCode?).getD 1

/-- Whether the chain holds a cancellation. -/
def isCancellation (report : Report) : Bool := report.chain.any Failure.marksCancellation

/-- A text behind a label; its further lines are moved to the right as far as the
first one. -/
def behind (label : String) (text : String) : String :=
  let margin := List.replicate label.length ' '
  let moved := text.toList.flatMap fun c => if c = '\n' then c :: margin else [c]
  label ++ String.ofList moved

/-- The label of a numbered cause. -/
def numberLabel (index : Nat) : String :=
  let number := Decimal.digits index
  String.ofList (List.replicate (5 - number.length) ' ' ++ number) ++ ": "

/-- The causes below the first text, numbered if there are several. -/
def causeLines : List String → List String
  | [] => []
  | [cause] => [behind "    " cause]
  | causes => causes.zipIdx.map fun (cause, index) => behind (numberLabel index) cause

/-- The report for people: the outermost text, and below it the rest of the chain. -/
def text (report : Report) : String :=
  match report.chain.map Failure.text with
  | [] => ""
  | [first] => first
  | first :: rest =>
      first ++ "\n\nCaused by:\n" ++ String.intercalate "\n" (causeLines rest)

end Report

end TrafficMeter
