import TrafficMeter.Number.Shortest
import TrafficMeter.Sample.Statistics
import TrafficMeter.Span

/-! # Spike detection

A sample is a peak if it lies further from the mean of the latest samples than a
number of their deviations. A peak enters the window damped towards the sample
before it, so that one outlier does not spoil the statistics.
-/

namespace TrafficMeter.Spike

/-- The tuning of a detector: the window length, the number of deviations that make
a peak, and the weight of a peak when it enters the window. -/
structure Params where
  lag : Nat
  threshold : Float
  influence : Float
  deriving DecidableEq

namespace Params

/-- The tuning for a poll interval: shorter intervals get a longer window. -/
def forInterval (interval : Span) : Params :=
  ⟨max (4 - min interval.seconds 4) 2, 2.0, 1.0⟩

end Params

/-- Why a tuning is refused. -/
inductive DetectorError where
  | lag (cause : RingError)
  | threshold (value : Float)
  | influence (value : Float)
  deriving DecidableEq

namespace DetectorError

def message : DetectorError → String
  | lag cause => "invalid lag: " ++ cause.message
  | threshold value =>
      "threshold must be a positive number of standard deviations, got " ++
        String.ofList (Binary64.shortest value)
  | influence value =>
      "influence must be within [0, 1], got " ++ String.ofList (Binary64.shortest value)

end DetectorError

/-- How a sample compares with the window before it. -/
inductive Peak where
  | below
  | none
  | above
  deriving DecidableEq, Repr

/-- The outcome for one sample: its class, and the value that enters the window. -/
structure Verdict where
  peak : Peak
  adjusted : Float
  deriving DecidableEq

/-- A detector with its window of adjusted samples. -/
structure Detector where
  window : Ring Float
  threshold : Float
  influence : Float

namespace Detector

/-- A detector with an empty window. The lag is checked first, then the threshold,
then the influence. -/
def new (params : Params) : Attempt DetectorError Detector := do
  let window ← (Ring.new Float params.lag).widen DetectorError.lag
  if params.threshold.isNaN || params.threshold ≤ 0 then
    throw (.error (.threshold params.threshold))
  if !(0 ≤ params.influence && params.influence ≤ 1) then
    throw (.error (.influence params.influence))
  return ⟨window, params.threshold, params.influence⟩

/-- The verdict on a sample. Nothing is a peak before the window is full; a constant
window makes any change a peak, and a window of one sample never does. -/
def judge (detector : Detector) (sample : Float) : Verdict :=
  if detector.window.isFull then
    let mean := detector.window.mean
    if detector.threshold * detector.window.deviation mean < (sample - mean).abs then
      let latest := detector.window.newest?.getD sample
      ⟨if mean < sample then .above else .below,
        detector.influence * sample + (1.0 - detector.influence) * latest⟩
    else ⟨.none, sample⟩
  else ⟨.none, sample⟩

/-- Judges a sample and takes the adjusted value into the window. -/
def add (detector : Detector) (sample : Float) : Detector × Verdict :=
  let verdict := detector.judge sample
  ({ detector with window := detector.window.push verdict.adjusted }, verdict)

/-- The verdicts on a sequence of samples. -/
def verdicts (detector : Detector) : List Float → List Verdict
  | [] => []
  | sample :: samples =>
      (detector.add sample).2 :: (detector.add sample).1.verdicts samples

end Detector

end TrafficMeter.Spike
