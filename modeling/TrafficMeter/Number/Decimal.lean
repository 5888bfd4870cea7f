/-! # Decimal numerals

Natural numbers as decimal digits, written without leading zeros and read back
with a bound. Reading stops at the first character that is no digit or takes the
value past the bound, whichever comes first.
-/

namespace TrafficMeter.Decimal

/-- The decimal digits of a number, most significant first. -/
abbrev digits (n : Nat) : List Char := Nat.toDigits 10 n

/-- The decimal text of a number. -/
def text (n : Nat) : String := String.ofList (digits n)

/-- The decimal text of a number, filled up with zeros on the left. -/
def padded (width n : Nat) : List Char :=
  let shown := digits n
  List.replicate (width - shown.length) '0' ++ shown

/-- Why a text is no natural number below the bound. -/
inductive NumeralError where
  | empty
  | invalidDigit
  | tooLarge
  deriving DecidableEq, Repr

namespace NumeralError

def message : NumeralError → String
  | empty => "cannot parse integer from empty string"
  | invalidDigit => "invalid digit found in string"
  | tooLarge => "number too large to fit in target type"

end NumeralError

/-- The value of a digit. -/
def digitValue? (c : Char) : Option Nat :=
  if c.isDigit then some (c.toNat - '0'.toNat) else none

/-- Reads the remaining digits onto a value. -/
def readFrom (max : Nat) (value : Nat) : List Char → Except NumeralError Nat
  | [] => .ok value
  | c :: rest =>
      match digitValue? c with
      | none => .error .invalidDigit
      | some d =>
          if max < 10 * value + d then .error .tooLarge
          else readFrom max (10 * value + d) rest

/-- Reads a natural number of at most `max`; one plus sign may stand before it. -/
def read (max : Nat) : List Char → Except NumeralError Nat
  | [] => .error .empty
  | ['+'] => .error .invalidDigit
  | '+' :: rest => readFrom max 0 rest
  | cs => readFrom max 0 cs

/-- The largest number of 64 bits. -/
def maxUInt64 : Nat := 18446744073709551615

/-- Reads a number of 64 bits. -/
def readUInt64 (cs : List Char) : Except NumeralError UInt64 :=
  (read maxUInt64 cs).map UInt64.ofNat

end TrafficMeter.Decimal
