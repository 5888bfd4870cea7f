import TrafficMeter.Rate.Line
import TrafficMeter.Service

/-! # Monitoring an interface

Checks the options, chooses the interface, and writes a line for every update until
enough have been written, the monitor is stopped or the output refuses a line.
-/

namespace TrafficMeter

/-- The options of a monitor. -/
structure MonitorOptions where
  interface : Option String
  choices : Settings.Choices
  count : Option Nat
  format : Format
  counters : String
  deriving DecidableEq

/-- What a monitor needs before its first update. -/
structure Plan where
  interface : String
  settings : Settings
  timeout : Span
  deriving DecidableEq

/-- An output that may refuse whatever goes past a number of bytes. -/
structure Sink where
  limit : Option Nat
  written : String
  deriving DecidableEq, Repr

/-- How a monitor ends: stopped or done, still waiting for an update, or by an
error. -/
inductive MonitorEnd where
  | finished
  | waiting
  | failed (report : Report)
  deriving DecidableEq

namespace Choice

/-- The interface to use: a given name without a look at the file, or the only one in
the file. -/
def select (explicit : Option String) (path : String) (contents : Contents) :
    Except Report String :=
  let available : Except FetchError (List Row) := match explicit with
    | some _ => .ok []
    | none => contents.interfaces path false
  match available with
  | .error error => .error (.of (.fetch error))
  | .ok rows =>
      match decide explicit (rows.map Row.name) with
      | .error error => .error (.of (.choice error))
      | .ok name => .ok name

end Choice

namespace Sink

/-- An output that takes in everything. -/
def unlimited : Sink := ⟨none, ""⟩

/-- Writes a text, unless that goes past the limit. -/
def write (sink : Sink) (text : String) : Except SystemError Sink :=
  let next := { sink with written := sink.written ++ text }
  match sink.limit with
  | none => .ok next
  | some limit =>
      if limit < next.written.utf8ByteSize then .error (.other "sink closed") else .ok next

/-- Writes the line for a rate. A JSON body that is refused is an error of the
encoding. -/
def writeRate (sink : Sink) (format : Format) (interface : String) (rate : Rate) :
    Except Report Sink :=
  let refused := match format with
    | .text => Failure.system
    | .json => Failure.encoding
  match sink.write (rate.body format interface) with
  | .error error => .error (.of (refused error))
  | .ok sink =>
      match sink.write "\n" with
      | .error error => .error (.of (.system error))
      | .ok sink => .ok sink

end Sink

namespace Monitor

/-- Widens an error about settings to a report. -/
def settingsReport (error : SettingsError) : Report := .of (.settings error)

/-- Checks the options in order: the interval, the filter, the timeout, and last the
interface, which may need the file. -/
def plan (options : MonitorOptions) (contents : Contents) : Attempt Report Plan := do
  let settings ← (Settings.ofChoices options.choices).widen settingsReport
  let timeout ← (Settings.timeoutOf options.choices.timeout).mapError
    fun error => .error (settingsReport error)
  let interface ← (Choice.select options.interface options.counters contents).mapError
    Fault.error
  return ⟨interface, settings, timeout⟩

/-- Writes a line for each update until enough have been written. At least one is
written before the count is looked at. -/
def emit (options : MonitorOptions) (interface : String) (sink : Sink) (emitted : Nat) :
    List Rate → Sink × MonitorEnd
  | [] => (sink, .waiting)
  | rate :: rates =>
      match sink.writeRate options.format interface rate with
      | .error report => (sink, .failed report)
      | .ok sink =>
          if options.count.any (· ≤ emitted + 1) then (sink, .finished)
          else emit options interface sink (emitted + 1) rates

/-- The rates that a meter gives when polls one interval apart have the given
results. -/
def updates (meter : Meter) (interval : Span) :
    List (Attempt FetchError Snapshot) → List Rate
  | [] => []
  | fetched :: rest =>
      let (meter, polled) := meter.poll interval fetched false
      match polled with
      | .ok (some rate) => rate :: updates meter interval rest
      | _ => updates meter interval rest

/-- What a fetch of a plan finds in a state of the file. -/
def fetch (plan : Plan) (path : String) (contents : Contents) : Attempt FetchError Snapshot :=
  (contents.fetch path plan.interface false).mapError Fault.error

/-- What the fetches of a plan find in a sequence of states of the file. -/
def fetches (plan : Plan) (path : String) (states : List Contents) :
    List (Attempt FetchError Snapshot) :=
  states.map (fetch plan path)

/-- The plan of a monitor and the meter of its service, before the first poll. -/
def prepare (options : MonitorOptions) (contents : Contents) : Attempt Report (Plan × Meter) := do
  let plan ← plan options contents
  let service ← (Service.new plan.settings []).widen settingsReport
  return (plan, service.meter)

/-- Runs a monitor. The first state of the file is the one its interface is chosen
from, the others are found by the polls. A stopped monitor writes nothing. -/
def run (options : MonitorOptions) (contents : Contents) (states : List Contents)
    (stopped : Bool) (sink : Sink) : Attempt Report (Sink × MonitorEnd) := do
  let (plan, meter) ← prepare options contents
  if stopped then return (sink, .finished)
  let rates := updates meter plan.settings.interval (fetches plan options.counters states)
  return emit options plan.interface sink 0 rates

/-- Enough polls for a monitor to reach its count or the limit of its output, if every
poll but the first gives an update. -/
def pollsToEnd (options : MonitorOptions) (sink : Sink) : Nat :=
  match options.count, sink.limit with
  | some count, some limit => min (max count 1) (limit + 1) + 1
  | some count, none => max count 1 + 1
  | none, some limit => limit + 2
  | none, none => 1

/-- Runs a monitor over a file that never changes. -/
def runUnchanging (options : MonitorOptions) (contents : Contents) (stopped : Bool)
    (sink : Sink) : Attempt Report (Sink × MonitorEnd) :=
  run options contents (List.replicate (pollsToEnd options sink) contents) stopped sink

end Monitor

end TrafficMeter
