import TrafficMeter.Counter.FetchError

/-! # Cancellation

A signal from one owner to any number of tokens. Asking looks at a flag; waiting also
listens to a channel that stays open until the owner cancels or is dropped.
-/

namespace TrafficMeter

/-- The state that an owner shares with all of its tokens. -/
structure Signal where
  flag : Bool
  channelOpen : Bool
  deriving DecidableEq, Repr

namespace Signal

def fresh : Signal := ⟨false, true⟩

/-- The owner cancels: the flag is raised and the channel closed. -/
def cancel (_ : Signal) : Signal := ⟨true, false⟩

/-- The owner is dropped, which closes the channel. -/
def drop (signal : Signal) : Signal := { signal with channelOpen := false }

def isCancelled (signal : Signal) : Bool := signal.flag

/-- Asks without waiting. -/
def check (signal : Signal) : Except Cancelled Unit :=
  if signal.flag then .error .cancelled else .ok ()

/-- Waits for a time in which the signal does not change. The wait ends early if the
flag is raised or the channel closed. -/
def wait (signal : Signal) : Except Cancelled Unit :=
  match signal.check with
  | .error cause => .error cause
  | .ok () => if signal.channelOpen then .ok () else .error .cancelled

theorem check_eq_ok_iff {signal : Signal} : signal.check = .ok () ↔ signal.flag = false := by
  cases h : signal.flag <;> simp [check, h]

/-- A wait lasts its whole time if neither of the two marks of an end is set. -/
theorem wait_eq_ok_iff {signal : Signal} :
    signal.wait = .ok () ↔ signal.flag = false ∧ signal.channelOpen = true := by
  cases flag : signal.flag <;> cases listening : signal.channelOpen <;>
    simp [wait, check, flag, listening]

@[simp] theorem flag_cancel (signal : Signal) : signal.cancel.flag = true := rfl

@[simp] theorem channelOpen_cancel (signal : Signal) : signal.cancel.channelOpen = false := rfl

@[simp] theorem flag_drop (signal : Signal) : signal.drop.flag = signal.flag := rfl

end Signal

/-- A signal with the number of its tokens. All tokens share the one state. -/
structure Cancellation where
  signal : Signal
  tokens : Nat
  deriving DecidableEq, Repr

namespace Cancellation

/-- A signal with its first token, number 0. -/
def new : Cancellation := ⟨.fresh, 1⟩

/-- One more token, taken from the owner or cloned from another; gives its number. -/
def addToken (cancellation : Cancellation) : Cancellation × Nat :=
  ({ cancellation with tokens := cancellation.tokens + 1 }, cancellation.tokens)

def cancel (cancellation : Cancellation) : Cancellation :=
  { cancellation with signal := cancellation.signal.cancel }

def drop (cancellation : Cancellation) : Cancellation :=
  { cancellation with signal := cancellation.signal.drop }

end Cancellation

end TrafficMeter
