import TrafficMeter.Counter.FetchError
import TrafficMeter.Counter.Snapshot
import TrafficMeter.Spike.Filter

/-! # The rate meter

Turns successive readings of the counters into filtered rates. A failed poll keeps
the last good reading and adds the time it stood for to the next rate; a cancelled
one leaves no trace.
-/

namespace TrafficMeter

/-- The last good reading, the time that polls have stood for since then, and one
filter for each direction. -/
structure Meter where
  previous : Option Snapshot
  pending : Span
  download : Spike.Filter
  upload : Spike.Filter

namespace Meter

/-- A meter without a reading. -/
def new (params : Spike.Params) : Attempt Spike.DetectorError Meter := do
  let download ← Spike.Filter.new params
  let upload ← Spike.Filter.new params
  return ⟨none, .zero, download, upload⟩

/-- A byte count over a number of seconds. -/
def rawRate (bytes : UInt64) (seconds : Float) : Float := bytes.toFloat / seconds

/-- The growth of both counters between two readings, at the width of the later one;
none if either is unknown. -/
def growth? (previous current : Snapshot) : Option (UInt64 × UInt64) := do
  let received ← current.width.growth? previous.inBytes current.inBytes
  let sent ← current.width.growth? previous.outBytes current.outBytes
  return (received, sent)

/-- The rate between two readings. Without a rate, because no time has passed or a
growth is unknown, neither filter is touched. The filtered values are cut off to
whole bytes; a value that is negative or not a number counts as zero. -/
def measure (meter : Meter) (previous current : Snapshot) (elapsed : Span) :
    Meter × Option Rate :=
  let seconds := elapsed.toSeconds
  if seconds ≤ 0 then (meter, none)
  else match growth? previous current with
    | none => (meter, none)
    | some (received, sent) =>
        let (download, inRate) := meter.download.apply (rawRate received seconds)
        let (upload, outRate) := meter.upload.apply (rawRate sent seconds)
        ({ meter with download, upload }, some ⟨inRate.toUInt64, outRate.toUInt64⟩)

/-- Takes in a good reading: the first one gives no rate. -/
def accept (meter : Meter) (current : Snapshot) (elapsed : Span) : Meter × Option Rate :=
  let rebased := { meter with previous := some current, pending := .zero }
  match meter.previous with
  | none => (rebased, none)
  | some previous => rebased.measure previous current elapsed

/-- The time that the next reading will span. -/
def elapsed? (meter : Meter) (since : Span) : Option Span := meter.pending.add? since

/-- One poll that stands for the time `since`, with what its fetch gave and whether
it was cancelled by then. It breaks down if the time to span is too long, and if its
fetch does. -/
def poll (meter : Meter) (since : Span) (fetched : Attempt FetchError Snapshot)
    (isCancelled : Bool) : Meter × Attempt FetchError (Option Rate) :=
  match meter.elapsed? since, fetched with
  | none, _ => (meter, .error .crash)
  | some _, .error .crash => (meter, .error .crash)
  | some elapsed, fetched =>
      if isCancelled then (meter, .error (.error (.cancelled .cancelled)))
      else match fetched with
        | .ok current =>
            let (meter, rate) := meter.accept current elapsed
            (meter, .ok rate)
        | .error (.error (.cancelled cause)) => (meter, .error (.error (.cancelled cause)))
        | .error fault =>
            (if meter.previous.isSome then { meter with pending := elapsed } else meter,
              .error fault)

end Meter

end TrafficMeter
