import TrafficMeter.Number.Binary64
import TrafficMeter.Number.Decimal
import TrafficMeter.Number.Rounding

/-! # Spans of time

A span counts whole nanoseconds and holds at most 2^64 - 1 seconds and 999999999
nanoseconds. Addition fails past that bound, multiplication stops at it.
-/

namespace TrafficMeter

/-- The nanoseconds of a second. -/
def nanosPerSecond : Nat := 1000000000

/-- A span of time in nanoseconds. -/
structure Span where
  nanos : Nat
  nanos_lt : nanos < 18446744073709551616 * 1000000000
  deriving DecidableEq

namespace Span

/-- The longest span, in nanoseconds. -/
def maxNanos : Nat := 18446744073709551616 * 1000000000 - 1

/-- The span of that many nanoseconds, or the longest span. -/
def ofNanos (n : Nat) : Span :=
  ⟨min n maxNanos, by unfold maxNanos; omega⟩

/-- The span of that many nanoseconds, if one is long enough. -/
def ofNanos? (n : Nat) : Option Span :=
  if h : n < 18446744073709551616 * 1000000000 then some ⟨n, h⟩ else none

/-- The span of whole seconds and nanoseconds. -/
def ofParts (seconds nanos : Nat) : Span := ofNanos (seconds * nanosPerSecond + nanos)

def zero : Span := ofNanos 0

instance : Inhabited Span := ⟨zero⟩

instance : Repr Span := ⟨fun span _ => repr span.nanos⟩

/-- The whole seconds of a span. -/
def seconds (span : Span) : Nat := span.nanos / nanosPerSecond

/-- The nanoseconds past the whole seconds. -/
def subsecond (span : Span) : Nat := span.nanos % nanosPerSecond

/-- The sum of two spans, unless it is too long. -/
def add? (a b : Span) : Option Span := ofNanos? (a.nanos + b.nanos)

/-- A multiple of a span, cut off at the longest one. -/
def scale (span : Span) (factor : Nat) : Span := ofNanos (span.nanos * factor)

/-- The span in seconds: the whole seconds and the fraction are rounded apart and
then added. -/
def toSeconds (span : Span) : Float :=
  Binary64.ofNat span.seconds + Binary64.ofNat span.subsecond / Binary64.ofNat nanosPerSecond

/-- The span nearest to a number of seconds, a tie going to the even nanosecond;
none for a negative number, not a number, or one past the longest span. -/
def ofSeconds? (seconds : Float) : Option Span :=
  if seconds.isNaN || seconds.isInf || seconds < 0 then none
  else
    let exact := (Binary64.magnitude seconds).times nanosPerSecond
    ofNanos? (roundQuotient exact.1 exact.2)

/-- The decimals of a quotient, without zeros at the end. -/
private def placesText (width rest : Nat) : List Char :=
  ((Decimal.padded width rest).reverse.dropWhile (· = '0')).reverse

/-- A count of nanoseconds in a unit of `10 ^ width` nanoseconds. -/
private def inUnit (nanos width : Nat) (unit : String) : String :=
  let places := placesText width (nanos % Nat.pow 10 width)
  Decimal.text (nanos / Nat.pow 10 width) ++
    (if places.isEmpty then "" else String.ofList ('.' :: places)) ++ unit

/-- A span in the largest unit that it fills, with as many places as it needs. -/
def text (span : Span) : String :=
  if 1000000000 ≤ span.nanos then inUnit span.nanos 9 "s"
  else if 1000000 ≤ span.nanos then inUnit span.nanos 6 "ms"
  else if 1000 ≤ span.nanos then inUnit span.nanos 3 "µs"
  else inUnit span.nanos 0 "ns"

@[ext] theorem ext {a b : Span} (h : a.nanos = b.nanos) : a = b := by
  cases a
  cases b
  cases h
  rfl

@[simp] theorem nanos_ofNanos (n : Nat) : (ofNanos n).nanos = min n maxNanos := rfl

theorem nanos_le_maxNanos (span : Span) : span.nanos ≤ maxNanos := by
  have := span.nanos_lt
  unfold maxNanos
  omega

@[simp] theorem nanos_zero : zero.nanos = 0 := rfl

theorem ofNanos?_eq_some_iff {n : Nat} {span : Span} :
    ofNanos? n = some span ↔ span.nanos = n := by
  unfold ofNanos?
  constructor
  · intro found
    split at found
    · cases found
      rfl
    · cases found
  · rintro rfl
    rw [dif_pos span.nanos_lt]

/-- A sum that is found is exact. -/
theorem add?_eq_some_iff {a b c : Span} :
    a.add? b = some c ↔ c.nanos = a.nanos + b.nanos := ofNanos?_eq_some_iff

theorem add?_eq_none_iff {a b : Span} :
    a.add? b = none ↔ maxNanos < a.nanos + b.nanos := by
  unfold add? ofNanos? maxNanos
  split <;> simp <;> omega

@[simp] theorem nanos_scale (span : Span) (factor : Nat) :
    (span.scale factor).nanos = min (span.nanos * factor) maxNanos := rfl

theorem scale_one (span : Span) : span.scale 1 = span := by
  ext
  have := span.nanos_le_maxNanos
  simp only [nanos_scale]
  omega

end Span

end TrafficMeter
