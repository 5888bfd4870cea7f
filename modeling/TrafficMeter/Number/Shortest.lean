import TrafficMeter.Number.Binary64
import TrafficMeter.Number.Decimal

/-! # The shortest text of a number

The fewest decimal digits that read back as the same binary64 number, and among
those the nearest to it; a tie goes to the larger one. The text is positional at
every size and has no exponent.
-/

namespace TrafficMeter.Binary64

/-- A decimal value, `coefficient * 10 ^ exponent`. -/
structure DecimalValue where
  coefficient : Nat
  exponent : Int
  deriving DecidableEq, Repr

/-- The values that read back as one number: all between two bounds over a common
denominator, the bounds included when `closed`. -/
structure Interval where
  low : Nat
  exact : Nat
  high : Nat
  den : Nat
  closed : Bool

namespace Interval

/-- Whether `num / den` of this interval's scale lies inside. -/
def holds (i : Interval) (num : Nat) : Bool :=
  if i.closed then i.low ≤ num && num ≤ i.high else i.low < num && num < i.high

end Interval

/-- The values that read back as a positive magnitude. They reach half way to the
neighbouring numbers; the lower neighbour of a power of two is only half as far. -/
def Magnitude.interval (m : Magnitude) : Interval :=
  let halfBelow := if m.significand = leadingUnit ∧ m.exponent ≠ -1074 then 1 else 2
  let exact := 4 * m.significand
  let closed := m.significand % 2 = 0
  match m.exponent with
  | .ofNat up =>
      ⟨(exact - halfBelow) * Nat.pow 2 up, exact * Nat.pow 2 up, (exact + 2) * Nat.pow 2 up, 4,
        closed⟩
  | .negSucc down =>
      ⟨exact - halfBelow, exact, exact + 2, 4 * Nat.pow 2 (down + 1), closed⟩

/-- The best multiple of `10 ^ exponent` inside an interval, if there is one: the
two multiples around the exact value are the only ones to try. -/
def Interval.onGrid? (i : Interval) (exponent : Int) : Option DecimalValue :=
  let (scale, unit) := match exponent with
    | .ofNat up => (1, i.den * Nat.pow 10 up)
    | .negSucc down => (Nat.pow 10 (down + 1), i.den)
  let scaled : Interval :=
    ⟨i.low * scale, i.exact * scale, i.high * scale, i.den, i.closed⟩
  let below := scaled.exact / unit
  let lower := below * unit
  let upper := lower + unit
  match scaled.holds lower && 0 < below, scaled.holds upper with
  | true, true =>
      if scaled.exact - lower < upper - scaled.exact then some ⟨below, exponent⟩
      else some ⟨below + 1, exponent⟩
  | true, false => some ⟨below, exponent⟩
  | false, true => some ⟨below + 1, exponent⟩
  | false, false => none

/-- Tries grids from coarse to fine. -/
def Interval.search (i : Interval) (exponent : Int) : Nat → DecimalValue
  | 0 => ⟨0, 0⟩
  | tries + 1 =>
      match i.onGrid? exponent with
      | some value => value
      | none => i.search (exponent - 1) tries

/-- A power of ten above every value of the interval. -/
def Interval.topExponent (i : Interval) : Int :=
  Int.ofNat (Decimal.digits (i.high / i.den)).length -
    (if i.high < i.den then
      Int.ofNat ((Decimal.digits (i.den / max i.high 1)).length) else 0)

/-- The shortest decimal value that reads back as a positive magnitude. -/
def Magnitude.shortest (m : Magnitude) : DecimalValue :=
  let i := m.interval
  i.search (i.topExponent + 1) 24

/-- The digits of a decimal value, positional and without zeros at either end of
the places. -/
def DecimalValue.text (v : DecimalValue) : List Char :=
  let shown := Decimal.digits v.coefficient
  match v.exponent with
  | .ofNat up => shown ++ List.replicate up '0'
  | .negSucc down =>
      let places := down + 1
      let filled := Decimal.padded (places + 1) v.coefficient
      let whole := filled.length - places
      filled.take whole ++ '.' :: filled.drop whole

/-- The shortest text that reads back as the number. -/
def shortest (x : Float) : List Char :=
  if x.isNaN then "NaN".toList
  else
    let sign := if isNegative x then ['-'] else []
    if x.isInf then sign ++ "inf".toList
    else if x == 0 then sign ++ ['0']
    else sign ++ (magnitude x).shortest.text

end TrafficMeter.Binary64
