/-! # Faults

An operation without a result either reports an error of its own kind or breaks
down. Breaking down carries no message: a span or a buffer has outgrown what can
be held. The poll loop survives both.
-/

namespace TrafficMeter

/-- Why an operation has no result. -/
inductive Fault (ε : Type) where
  /-- The operation reports an error. -/
  | error (cause : ε)
  /-- The operation breaks down. -/
  | crash
  deriving DecidableEq, Repr

/-- A result, or the reason there is none. -/
abbrev Attempt (ε α : Type) := Except (Fault ε) α

variable {ε δ α : Type}

/-- Reports the error as one of another kind. -/
def Fault.map (f : ε → δ) : Fault ε → Fault δ
  | error cause => error (f cause)
  | crash => crash

/-- Reports the errors of an attempt as errors of a wider kind. -/
def Attempt.widen (f : ε → δ) : Attempt ε α → Attempt δ α
  | .ok value => .ok value
  | .error fault => .error (fault.map f)

@[simp] theorem Attempt.widen_ok (f : ε → δ) (value : α) :
    Attempt.widen f (.ok value) = .ok value := rfl

@[simp] theorem Attempt.widen_error (f : ε → δ) (fault : Fault ε) :
    Attempt.widen f (.error fault : Attempt ε α) = .error (fault.map f) := rfl

theorem Attempt.widen_eq_ok_iff {f : ε → δ} {attempt : Attempt ε α} {value : α} :
    attempt.widen f = .ok value ↔ attempt = .ok value := by
  cases attempt <;> simp [Attempt.widen]

end TrafficMeter
