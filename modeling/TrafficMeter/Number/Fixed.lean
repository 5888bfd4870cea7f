import TrafficMeter.Number.Binary64
import TrafficMeter.Number.Decimal
import TrafficMeter.Number.Rounding

/-! # Numbers with a fixed count of decimal places

The exact value of a binary64 number rounded to some places, a tie going to the
even digit, so that the text is within half of its last place.
-/

namespace TrafficMeter.Binary64

/-- The number of units of the last place nearest to a magnitude. -/
def Magnitude.toPlaces (m : Magnitude) (places : Nat) : Nat :=
  let scaled := m.times (Nat.pow 10 places)
  roundQuotient scaled.1 scaled.2

/-- The digits of a count of units, with a point before the last places. -/
def placeText (places units : Nat) : List Char :=
  let shown := Decimal.padded (places + 1) units
  let whole := shown.length - places
  shown.take whole ++ (if places = 0 then [] else '.' :: shown.drop whole)

/-- The text of a number with a fixed count of decimal places. -/
def fixed (places : Nat) (x : Float) : List Char :=
  if x.isNaN then "NaN".toList
  else
    let sign := if isNegative x then ['-'] else []
    if x.isInf then sign ++ "inf".toList
    else sign ++ placeText places ((magnitude x).toPlaces places)

end TrafficMeter.Binary64
