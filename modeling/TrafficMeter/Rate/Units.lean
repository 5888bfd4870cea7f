import TrafficMeter.Number.Fixed

/-! # Units of traffic

Byte counts in the largest decimal unit below them, and rates in megabits. The unit
is chosen by the value before it is rounded to one place.
-/

namespace TrafficMeter

/-- A decimal unit of bytes. -/
inductive ByteUnit where
  | byte
  | kilobyte
  | megabyte
  | gigabyte
  | terabyte
  deriving DecidableEq, Repr

namespace ByteUnit

def symbol : ByteUnit → String
  | byte => "B"
  | kilobyte => "kB"
  | megabyte => "MB"
  | gigabyte => "GB"
  | terabyte => "TB"

/-- The units above the byte, in order. -/
def larger : List ByteUnit := [kilobyte, megabyte, gigabyte, terabyte]

/-- Divides a value by a thousand for each larger unit, as long as it reaches one. -/
def fit (value : Float) (unit : ByteUnit) : List ByteUnit → Float × ByteUnit
  | [] => (value, unit)
  | next :: rest =>
      if 1000 ≤ value then fit (value / 1000) next rest else (value, unit)

end ByteUnit

/-- A count of bytes in the unit that fits it, with one place unless that is the
byte. -/
def bytesText (bytes : UInt64) : String :=
  match ByteUnit.fit bytes.toFloat .byte ByteUnit.larger with
  | (_, .byte) => Decimal.text bytes.toNat ++ " " ++ ByteUnit.byte.symbol
  | (value, unit) => String.ofList (Binary64.fixed 1 value) ++ " " ++ unit.symbol

/-- A rate of bytes in the unit that fits it. -/
def byteRateText (bytesPerSecond : UInt64) : String := bytesText bytesPerSecond ++ "/s"

/-- A rate in megabits per second. -/
def megabits (bytesPerSecond : UInt64) : Float := bytesPerSecond.toFloat * 8.0 / 1000000.0

end TrafficMeter
