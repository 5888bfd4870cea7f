import TrafficMeter.Counter.FetchError

/-! # Lifecycle of a poll loop

A loop is started at most once and disposed of for good. A loop that has ended by
itself still counts as running.
-/

namespace TrafficMeter.Poll

inductive Lifecycle where
  | notStarted
  | running
  | disposed
  deriving DecidableEq, Repr

/-- Why a loop cannot be started. -/
inductive StartError where
  | alreadyStarted
  | disposed
  | spawn (cause : SystemError)
  deriving DecidableEq, Repr

namespace StartError

def message : StartError → String
  | alreadyStarted => "poll loop is already running"
  | disposed => "poll scheduler has been disposed"
  | spawn _ => "spawning poll loop thread"

end StartError

/-- The lifecycle after a start. -/
def Lifecycle.start : Lifecycle → Except StartError Lifecycle
  | notStarted => .ok running
  | running => .error .alreadyStarted
  | disposed => .error .disposed

end TrafficMeter.Poll
