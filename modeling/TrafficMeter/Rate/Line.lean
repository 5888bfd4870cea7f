import TrafficMeter.Counter.Snapshot
import TrafficMeter.Rate.Units
import TrafficMeter.Text.Json

/-! # Rate lines

One update as a line of text for people or as a line of JSON for programs.
-/

namespace TrafficMeter

/-- The form of an output. -/
inductive Format where
  | text
  | json
  deriving DecidableEq, Repr

namespace Rate

/-- A number of megabits per second, two places in a field of eight. -/
def megabitField (bytesPerSecond : UInt64) : List Char :=
  let shown := Binary64.fixed 2 (megabits bytesPerSecond)
  List.replicate (8 - shown.length) ' ' ++ shown

/-- One direction of a rate for people. -/
def directionText (bytesPerSecond : UInt64) : List Char :=
  megabitField bytesPerSecond ++ " Mbit/s (".toList ++ (byteRateText bytesPerSecond).toList ++
    [')']

/-- A rate for people, without the line end. -/
def textBody (interface : String) (rate : Rate) : List Char :=
  interface.toList ++ "\tin ".toList ++ directionText rate.inBytes ++ "\tout ".toList ++
    directionText rate.outBytes

/-- A rate as a flat JSON object, without the line end. -/
def jsonBody (interface : String) (rate : Rate) : List Char :=
  '\x7b' ::
    (Json.member [':'] "interface" (Json.string interface.toList) ++ [','] ++
      Json.member [':'] "in_bytes_per_sec" (Json.number rate.inBytes) ++ [','] ++
      Json.member [':'] "out_bytes_per_sec" (Json.number rate.outBytes)) ++ ['\x7d']

/-- A rate in a format, without the line end. -/
def body (format : Format) (interface : String) (rate : Rate) : String :=
  match format with
  | .text => String.ofList (textBody interface rate)
  | .json => String.ofList (jsonBody interface rate)

/-- The line for a rate. -/
def line (format : Format) (interface : String) (rate : Rate) : String :=
  rate.body format interface ++ "\n"

end Rate

end TrafficMeter
