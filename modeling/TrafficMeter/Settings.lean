import TrafficMeter.Spike.Detector

/-! # Settings

The validated settings of a rate service. Seconds from the command line become spans;
a bad interval is reported before a bad timeout, and both before the file is read.
-/

namespace TrafficMeter

/-- Why settings are refused. -/
inductive SettingsError where
  | nonPositiveInterval
  | nonPositiveTimeout
  | intervalOutOfRange (seconds : Float)
  | timeoutOutOfRange (seconds : Float)
  | filter (cause : Spike.DetectorError)
  deriving DecidableEq

namespace SettingsError

def message : SettingsError → String
  | nonPositiveInterval => "poll interval must be greater than zero"
  | nonPositiveTimeout => "counter fetch timeout must be greater than zero"
  | intervalOutOfRange seconds =>
      "poll interval of " ++ String.ofList (Binary64.shortest seconds) ++
        " seconds is out of range"
  | timeoutOutOfRange seconds =>
      "counter fetch timeout of " ++ String.ofList (Binary64.shortest seconds) ++
        " seconds is out of range"
  | filter _ => "invalid spike filter parameters"

end SettingsError

/-- The settings of a rate service. -/
structure Settings where
  interval : Span
  filter : Spike.Params
  /-- How long disposing waits for the poll loop to end. -/
  joinTimeout : Span
  deriving DecidableEq

namespace Settings

def defaultJoinTimeout : Span := .ofParts 5 0

/-- Checks the interval, then the filter by building it. -/
def validate (settings : Settings) : Attempt SettingsError Unit := do
  if settings.interval.nanos = 0 then throw (.error .nonPositiveInterval)
  let _ ← (Spike.Detector.new settings.filter).widen SettingsError.filter

/-- Settings whose filter is tuned for the interval. -/
def new (interval : Span) : Attempt SettingsError Settings := do
  let settings := ⟨interval, .forInterval interval, defaultJoinTimeout⟩
  validate settings
  return settings

/-- The settings with another filter. -/
def withFilter (settings : Settings) (filter : Spike.Params) :
    Attempt SettingsError Settings := do
  let settings := { settings with filter }
  validate settings
  return settings

/-- A span from a positive number of seconds. A number that rounds to no time at all
is not positive. -/
def positiveSeconds (seconds : Float) (nonPositive outOfRange : SettingsError) :
    Except SettingsError Span :=
  if seconds.isNaN || seconds ≤ 0 then .error nonPositive
  else match Span.ofSeconds? seconds with
    | none => .error outOfRange
    | some span => if span.nanos = 0 then .error nonPositive else .ok span

/-- The poll interval from seconds. -/
def intervalOf (seconds : Float) : Except SettingsError Span :=
  positiveSeconds seconds .nonPositiveInterval (.intervalOutOfRange seconds)

/-- The fetch timeout from seconds. -/
def timeoutOf (seconds : Float) : Except SettingsError Span :=
  positiveSeconds seconds .nonPositiveTimeout (.timeoutOutOfRange seconds)

/-- What a user may choose of the settings. -/
structure Choices where
  interval : Float
  lag : Option Nat
  threshold : Option Float
  influence : Option Float
  timeout : Float
  deriving DecidableEq

/-- The filter in effect: the choices over the tuning for the interval. -/
def Choices.filter (choices : Choices) (interval : Span) : Spike.Params :=
  let derived := Spike.Params.forInterval interval
  ⟨choices.lag.getD derived.lag, choices.threshold.getD derived.threshold,
    choices.influence.getD derived.influence⟩

/-- The settings for a user's choices. -/
def ofChoices (choices : Choices) : Attempt SettingsError Settings := do
  let interval ← (intervalOf choices.interval).mapError Fault.error
  let settings ← new interval
  settings.withFilter (choices.filter interval)

end Settings

end TrafficMeter
