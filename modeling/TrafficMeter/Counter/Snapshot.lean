/-! # Counter snapshots

Cumulative byte counters of an interface at one instant. A counter starts again at
zero past its width; the growth between two readings is corrected for one such wrap.
-/

namespace TrafficMeter

/-- The width of a counter. -/
inductive Width where
  | bits32
  | bits64
  deriving DecidableEq, Repr

/-- The number of values of a counter. -/
def Width.modulus : Width → Nat
  | bits32 => 4294967296
  | bits64 => 18446744073709551616

/-- The growth of a counter between two readings; none if it fell by more than a
wrap explains. -/
def Width.growth? (width : Width) (previous current : UInt64) : Option UInt64 :=
  if previous ≤ current then some (current - previous)
  else if previous.toNat ≤ current.toNat + width.modulus then
    some (UInt64.ofNat (current.toNat + width.modulus - previous.toNat))
  else none

/-- The byte counters of an interface at one instant. -/
structure Snapshot where
  inBytes : UInt64
  outBytes : UInt64
  width : Width
  deriving DecidableEq, Repr

/-- A rate of traffic in bytes per second. -/
structure Rate where
  inBytes : UInt64
  outBytes : UInt64
  deriving DecidableEq, Repr

end TrafficMeter
