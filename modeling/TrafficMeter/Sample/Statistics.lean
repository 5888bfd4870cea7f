import TrafficMeter.Number.Binary64
import TrafficMeter.Sample.Ring

/-! # Statistics of samples

Mean and deviation of a list of binary64 samples, and of the samples in a ring. Sums
run from the first sample to the last, so the same samples in the same order always
have the same sum.
-/

namespace TrafficMeter

namespace Sample

/-- The sum in list order. It starts at negative zero, the neutral element of
addition: a sum of negative zeros stays negative. -/
def sum (samples : List Float) : Float := samples.foldl (· + ·) (-0.0)

/-- The mean; zero for no samples. -/
def mean (samples : List Float) : Float :=
  if samples.isEmpty then 0.0 else sum samples / Binary64.ofNat samples.length

/-- The deviation of samples around a value, with one sample less than there are as
the divisor. It is not a number for fewer than two samples. -/
def deviation (samples : List Float) (around : Float) : Float :=
  if samples.length < 2 then Binary64.notANumber
  else
    let squares := samples.map fun x => (x - around) * (x - around)
    (sum squares / Binary64.ofNat (samples.length - 1)).sqrt

end Sample

namespace Ring

/-- The mean of the samples in the ring. -/
def mean (ring : Ring Float) : Float := Sample.mean ring.toList

/-- The deviation of the samples in the ring around a value. -/
def deviation (ring : Ring Float) (around : Float) : Float :=
  Sample.deviation ring.toList around

end Ring

end TrafficMeter
