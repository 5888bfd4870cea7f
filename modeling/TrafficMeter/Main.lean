import TrafficMeter.CommandLine.Program

/-! # The command line

Runs the program on the files, the clock and the outputs of the system. It reads,
waits and writes; what is written and when to stop is decided by the modules it
imports.
-/

namespace TrafficMeter.CommandLine

/-- What the system reports of a file it does not read or an output it does not
write. -/
def systemError : IO.Error → SystemError
  | .noFileOrDirectory _ _ _ => .noSuchFile
  | .inappropriateType _ code _ => if code = 20 then .notDirectory else .isDirectory
  | error => .other (toString error)

/-- What is at a path now. -/
def contentsAt (path : String) : BaseIO Contents := do
  match ← (IO.FS.readBinFile path).toBaseIO with
  | .ok data => return .bytes data
  | .error error => return .refused (systemError error)

/-- Writes what a run has to say and gives its exit code. -/
def deliver (result : Result) : IO UInt32 := do
  let stdout ← IO.getStdout
  stdout.putStr result.stdout
  stdout.flush
  (← IO.getStderr).putStr result.stderr
  return result.exitCode.toUInt32

/-- Sleeps until a moment of the monotonic clock, in nanoseconds. -/
partial def sleepUntil (moment : Nat) : BaseIO Unit := do
  let now ← IO.monoNanosNow
  if now < moment then
    let millis := (moment - now + 999999) / 1000000
    IO.sleep (min millis 60000).toUInt32
    sleepUntil moment

/-- Waits for a read up to a moment of the monotonic clock. -/
partial def awaitUntil (moment : Nat) (read : Task Contents) : BaseIO (Option Contents) := do
  if ← IO.hasFinished read then return some read.get
  if moment ≤ (← IO.monoNanosNow) then return none
  IO.sleep 1
  awaitUntil moment read

/-- Reads a file within a limit. A read that takes longer is left behind, and the next
one begins when it has returned. -/
def readWithin (limit : Span) (path : String) (behind : Option (Task Contents)) :
    BaseIO (Option Contents × Option (Task Contents)) := do
  let moment := (← IO.monoNanosNow) + limit.nanos
  if let some earlier := behind then
    if (← awaitUntil moment earlier).isNone then return (none, some earlier)
  let read ← BaseIO.asTask (contentsAt path) .dedicated
  match ← awaitUntil moment read with
  | some contents => return (some contents, none)
  | none => return (none, some read)

/-- Polls at the interval of the plan and writes each update, until enough have been
written. -/
partial def watch (options : MonitorOptions) (plan : Plan) (meter : Meter) (told : Span)
    (emitted : Nat) (behind : Option (Task Contents)) : IO Unit := do
  let began ← IO.monoNanosNow
  let (contents, behind) ← readWithin plan.timeout options.counters behind
  let fetched := match contents with
    | some contents => Monitor.fetch plan options.counters contents
    | none => .error (.error (.timeout plan.timeout))
  let (meter, polled) := meter.poll told fetched false
  let rates := match polled with
    | .ok rate => rate.toList
    | .error _ => []
  let (sink, ending) := Monitor.emit options plan.interface .unlimited emitted rates
  let stdout ← IO.getStdout
  stdout.putStr sink.written
  stdout.flush
  if ending ≠ .waiting then return
  let ended ← IO.monoNanosNow
  let next := Poll.next plan.settings.interval (.ofNanos (ended - began))
  sleepUntil (ended + next.delay.nanos)
  watch options plan meter (plan.settings.interval.scale next.cycles)
    (emitted + rates.length) behind

/-- Monitors an interface. The file is not read beforehand if the interface is
given. -/
def startMonitor (options : MonitorOptions) : IO UInt32 := do
  let contents ← match options.interface with
    | some _ => pure .missing
    | none => contentsAt options.counters
  match Monitor.prepare options contents with
  | .error .crash => return crashCode.toUInt32
  | .error (.error report) => deliver (failed "" report)
  | .ok (plan, meter) =>
      try
        watch options plan meter plan.settings.interval 0 none
        return 0
      catch error =>
        deliver (failed "" (.of (.system (systemError error))))

/-- Runs the program with its arguments and gives its exit code. -/
def execute (arguments : List String) : IO UInt32 := do
  match read arguments with
  | .error refusal => deliver refusal.result
  | .ok none => deliver ⟨usage, "", 0⟩
  | .ok (some (.interfaces options)) =>
      deliver (listInterfaces options (← contentsAt options.counters))
  | .ok (some (.monitor options)) => startMonitor options

end TrafficMeter.CommandLine

def main (arguments : List String) : IO UInt32 := TrafficMeter.CommandLine.execute arguments
