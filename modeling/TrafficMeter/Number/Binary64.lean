/-! # Binary64 numbers, exactly

A finite binary64 number has the magnitude `significand * 2 ^ exponent`. Texts and
spans of time are computed from that exact value.
-/

namespace TrafficMeter.Binary64

/-- The not-a-number of arithmetic without a result. -/
def notANumber : Float := Float.ofBits 0x7ff8000000000000

/-- An exact magnitude, `significand * 2 ^ exponent`. -/
structure Magnitude where
  significand : Nat
  exponent : Int
  deriving DecidableEq, Repr

/-- The weight of the sign bit. -/
def signUnit : Nat := 0x8000000000000000

/-- The weight of the lowest bit of the power; a normal number has it as the leading
bit of its significand. -/
def leadingUnit : Nat := 0x10000000000000

/-- The number of values of the power. -/
def powerCount : Nat := 0x800

/-- Whether the sign bit is set; true of a negative zero as well. -/
def isNegative (x : Float) : Bool := signUnit ≤ x.toBits.toNat

/-- The magnitude of a finite number. -/
def magnitude (x : Float) : Magnitude :=
  let bits := x.toBits.toNat
  let fraction := bits % leadingUnit
  let power := bits / leadingUnit % powerCount
  if power = 0 then ⟨fraction, -1074⟩ else ⟨leadingUnit + fraction, Int.ofNat power - 1075⟩

namespace Magnitude

/-- The magnitude times a natural number, as a quotient of naturals. -/
def times (m : Magnitude) (factor : Nat) : Nat × Nat :=
  match m.exponent with
  | .ofNat up => (m.significand * factor * Nat.pow 2 up, 1)
  | .negSucc down => (m.significand * factor, Nat.pow 2 (down + 1))

end Magnitude

/-- The number with the value of a natural. -/
def ofNat (n : Nat) : Float := (UInt64.ofNat n).toFloat

end TrafficMeter.Binary64
