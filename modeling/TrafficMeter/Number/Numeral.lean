import TrafficMeter.Number.Binary64
import TrafficMeter.Number.Decimal

/-! # Reading a number

Reads the decimal notation of a binary64 number: an optional sign, digits with an
optional point, an optional exponent, or a word for infinity or for not a number.
The result is the nearest number to the written value.
-/

namespace TrafficMeter.Binary64

/-- The value of a string of digits. -/
abbrev digitsValue (digits : List Char) : Nat := Nat.ofDigitChars 10 digits 0

/-- The number nearest to `coefficient * 10 ^ exponent`. Values beyond every finite
number or below half of the smallest one are settled by their size. -/
def ofDecimalValue (coefficient : Nat) (exponent : Int) : Float :=
  let size := Int.ofNat (Decimal.digits coefficient).length + exponent
  if coefficient = 0 ∨ size < -330 then 0.0
  else if 310 < size then Float.ofBits 0x7ff0000000000000
  else Float.ofScientific coefficient (exponent < 0) exponent.natAbs

/-- Reads the digits of an exponent and its sign. -/
def readExponent : List Char → Option Int
  | [] => none
  | c :: cs =>
      let digits := if c = '+' ∨ c = '-' then cs else c :: cs
      if digits.isEmpty || !digits.all Char.isDigit then none
      else if c = '-' then some (-(Int.ofNat (digitsValue digits)))
      else some (Int.ofNat (digitsValue digits))

/-- Reads a number without its sign. -/
def readMagnitude (cs : List Char) : Option Float :=
  let whole := cs.takeWhile Char.isDigit
  let afterWhole := cs.dropWhile Char.isDigit
  let pointed := afterWhole.head? = some '.'
  let places := if pointed then afterWhole.tail.takeWhile Char.isDigit else []
  let rest := if pointed then afterWhole.tail.dropWhile Char.isDigit else afterWhole
  let value := fun power =>
    ofDecimalValue (digitsValue (whole ++ places)) (power - Int.ofNat places.length)
  if whole.isEmpty && places.isEmpty then none
  else match rest with
    | [] => some (value 0)
    | c :: power => if c = 'e' ∨ c = 'E' then (readExponent power).map value else none

/-- Reads a number without its sign, or a word for a value that is not finite. -/
def readUnsigned (cs : List Char) : Option Float :=
  let word := String.ofList (cs.map Char.toLower)
  if word = "nan" then some notANumber
  else if word = "inf" ∨ word = "infinity" then some (Float.ofBits 0x7ff0000000000000)
  else readMagnitude cs

/-- Reads a number. -/
def read : List Char → Option Float
  | '-' :: cs => (readUnsigned cs).map fun x => -x
  | '+' :: cs => readUnsigned cs
  | cs => readUnsigned cs

end TrafficMeter.Binary64
