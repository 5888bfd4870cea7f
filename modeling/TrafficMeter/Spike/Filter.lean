import TrafficMeter.Spike.Detector

/-! # Spike filter

Upward peaks are answered by the latest answer that was none; everything else
passes, with the detector's adjustment.
-/

namespace TrafficMeter.Spike

/-- A detector and the latest value that passed it. -/
structure Filter where
  detector : Detector
  lastAccepted : Float

namespace Filter

/-- A filter that has seen nothing. -/
def new (params : Params) : Attempt DetectorError Filter := do
  let detector ← Detector.new params
  return ⟨detector, 0.0⟩

/-- Answers one value. -/
def apply (filter : Filter) (value : Float) : Filter × Float :=
  let (detector, verdict) := filter.detector.add value
  match verdict.peak with
  | .above => (⟨detector, filter.lastAccepted⟩, filter.lastAccepted)
  | .none => (⟨detector, verdict.adjusted⟩, verdict.adjusted)
  | .below => (⟨detector, verdict.adjusted⟩, verdict.adjusted)

/-- The filter after a sequence of values. -/
def feed (filter : Filter) (values : List Float) : Filter :=
  values.foldl (fun filter value => (filter.apply value).1) filter

/-- The answers to a sequence of values. -/
def answers (filter : Filter) : List Float → List Float
  | [] => []
  | value :: values => (filter.apply value).2 :: (filter.apply value).1.answers values

end Filter

end TrafficMeter.Spike
