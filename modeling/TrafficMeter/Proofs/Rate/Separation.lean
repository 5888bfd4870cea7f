import TrafficMeter.Proofs.Rate.Filtering

/-! # Directions kept apart

Two runs that differ only in the bytes of one direction show the same in the other one. The
directions share a single test of whether there is a rate at all, but with counters of 64
bits the growth of a counter is always known, so that the outcome of this test depends on
the time alone.
-/

namespace TrafficMeter

/-- The growth of a counter of 64 bits is always known: it is the difference of words. -/
theorem Width.growth?_bits64 (previous current : UInt64) :
    Width.bits64.growth? previous current = some (current - previous) := by
  apply growth?_of_grown
  · exact previous.toNat_lt
  · exact (current - previous).toNat_lt
  · have before := previous.toNat_lt
    have after := current.toNat_lt
    rw [UInt64.toNat_sub]
    simp only [modulus]
    omega

def Snapshot.bytes (snapshot : Snapshot) (direction : Direction) : UInt64 :=
  direction.pick (snapshot.inBytes, snapshot.outBytes)

namespace Meter

variable {direction : Direction} {meter other : Meter} {round otherRound : Round}
  {previous otherPrevious current otherCurrent : Snapshot}

/-- Two rounds of which a direction sees the same: the same failure, or readings of 64 bits
with the same bytes in this direction. -/
inductive Round.Agrees (direction : Direction) : Round → Round → Prop where
  | fails {since fault cancelled} :
      Agrees direction ⟨since, .error fault, cancelled⟩ ⟨since, .error fault, cancelled⟩
  | reads {since cancelled current other} (wide : current.width = .bits64)
      (otherWide : other.width = .bits64) (same : current.bytes direction = other.bytes direction) :
      Agrees direction ⟨since, .ok current, cancelled⟩ ⟨since, .ok other, cancelled⟩

/-- What a direction sees of the answer to a poll. -/
def seen (direction : Direction) (answer : Attempt FetchError (Option Rate)) :
    Attempt FetchError (Option UInt64) :=
  answer.map (Option.map (·.bytes direction))

/-- Two meters of which a direction sees the same. -/
structure Alike (direction : Direction) (meter other : Meter) : Prop where
  baseline : meter.previous.map (·.bytes direction) = other.previous.map (·.bytes direction)
  pending : meter.pending = other.pending
  filter : meter.filter direction = other.filter direction

/-- Between readings of 64 bits the raw rate of a direction depends on this direction only. -/
theorem between?_bits64 (direction : Direction) (previous : Snapshot)
    (wide : current.width = .bits64) (elapsed : Span) :
    (between? previous current elapsed).map direction.pick =
      if elapsed.toSeconds ≤ 0 then none
      else some (rawRate (current.bytes direction - previous.bytes direction)
        elapsed.toSeconds) := by
  have grown : growth? previous current =
      some (current.inBytes - previous.inBytes, current.outBytes - previous.outBytes) := by
    simp [growth?, wide, Width.growth?_bits64]
  simp only [between?, grown, Option.map_some]
  split
  · rfl
  · cases direction <;> rfl

namespace Alike

theorem gap (alike : Alike direction meter other) (elapsed : Span) :
    Alike direction (if meter.previous.isSome then { meter with pending := elapsed } else meter)
      (if other.previous.isSome then { other with pending := elapsed } else other) := by
  have based : meter.previous.isSome = other.previous.isSome := by
    simpa using congrArg Option.isSome alike.baseline
  rw [based]
  split
  · exact ⟨alike.baseline, rfl, alike.filter⟩
  · exact alike

theorem measure (alike : Alike direction meter other)
    (before : previous.bytes direction = otherPrevious.bytes direction)
    (after : current.bytes direction = otherCurrent.bytes direction)
    (wide : current.width = .bits64) (otherWide : otherCurrent.width = .bits64)
    (elapsed : Span) :
    Alike direction (meter.measure previous current elapsed).1
        (other.measure otherPrevious otherCurrent elapsed).1 ∧
      (meter.measure previous current elapsed).2.map (·.bytes direction) =
        (other.measure otherPrevious otherCurrent elapsed).2.map (·.bytes direction) := by
  -- whether there are raw rates, and the one of this direction, is the same in both runs
  have same : (between? previous current elapsed).map direction.pick =
      (between? otherPrevious otherCurrent elapsed).map direction.pick := by
    rw [between?_bits64 direction previous wide, between?_bits64 direction otherPrevious otherWide,
      before, after]
  cases first : between? previous current elapsed with
  | none =>
      have second : between? otherPrevious otherCurrent elapsed = none := by
        simpa [first] using same.symm
      rw [measure_of_no_raw first, measure_of_no_raw second]
      exact ⟨alike, rfl⟩
  | some raw =>
      rw [first, Option.map_some] at same
      obtain ⟨otherRaw, second, picked⟩ := Option.map_eq_some_iff.mp same.symm
      obtain ⟨rate, told, touched⟩ := measure_of_raw meter first
      obtain ⟨otherRate, otherTold, otherTouched⟩ := measure_of_raw other second
      obtain ⟨fed, answered⟩ := touched direction
      obtain ⟨otherFed, otherAnswered⟩ := otherTouched direction
      rw [picked, ← alike.filter] at otherFed otherAnswered
      constructor
      · exact ⟨by simpa using alike.baseline, by simpa using alike.pending,
          fed.trans otherFed.symm⟩
      · simp [told, otherTold, answered, otherAnswered]

theorem accept (alike : Alike direction meter other)
    (wide : current.width = .bits64) (otherWide : otherCurrent.width = .bits64)
    (same : current.bytes direction = otherCurrent.bytes direction) (elapsed : Span) :
    Alike direction (meter.accept current elapsed).1 (other.accept otherCurrent elapsed).1 ∧
      (meter.accept current elapsed).2.map (·.bytes direction) =
        (other.accept otherCurrent elapsed).2.map (·.bytes direction) := by
  have rebased : Alike direction { meter with previous := some current, pending := .zero }
      { other with previous := some otherCurrent, pending := .zero } :=
    ⟨congrArg some same, rfl, alike.filter⟩
  have baseline := alike.baseline
  unfold Meter.accept
  cases held : meter.previous with
  | none =>
      have unread : other.previous = none := by simpa [held] using baseline.symm
      rw [unread]
      exact ⟨rebased, rfl⟩
  | some previous =>
      rw [held, Option.map_some] at baseline
      obtain ⟨otherPrevious, otherHeld, before⟩ := Option.map_eq_some_iff.mp baseline.symm
      rw [otherHeld]
      exact rebased.measure before.symm same wide otherWide elapsed

/-- A poll of two such rounds leaves two such meters, and shows the direction the same. -/
theorem poll (alike : Alike direction meter other) (agrees : round.Agrees direction otherRound) :
    Alike direction (meter.poll round.since round.fetched round.cancelled).1
        (other.poll otherRound.since otherRound.fetched otherRound.cancelled).1 ∧
      seen direction (meter.poll round.since round.fetched round.cancelled).2 =
        seen direction
          (other.poll otherRound.since otherRound.fetched otherRound.cancelled).2 := by
  have spans (since : Span) : other.elapsed? since = meter.elapsed? since := by
    rw [elapsed?, elapsed?, alike.pending]
  cases agrees with
  | @fails since fault cancelled =>
      simp only [Meter.poll, spans]
      cases meter.elapsed? since with
      | none => exact ⟨alike, rfl⟩
      | some elapsed =>
          cases fault with
          | crash => exact ⟨alike, rfl⟩
          | error cause =>
              cases cancelled with
              | true => exact ⟨alike, rfl⟩
              | false =>
                  cases cause with
                  | cancelled => exact ⟨alike, rfl⟩
                  | _ => exact ⟨alike.gap elapsed, rfl⟩
  | @reads since cancelled current otherCurrent wide otherWide same =>
      simp only [Meter.poll, spans]
      cases meter.elapsed? since with
      | none => exact ⟨alike, rfl⟩
      | some elapsed =>
          cases cancelled with
          | true => exact ⟨alike, rfl⟩
          | false =>
              obtain ⟨kept, shown⟩ := alike.accept wide otherWide same elapsed
              exact ⟨kept, congrArg Except.ok shown⟩

theorem trace (alike : Alike direction meter other) {rounds otherRounds : List Round}
    (agree : List.Forall₂ (Round.Agrees direction) rounds otherRounds) :
    (meter.trace rounds).map (Prod.map (seen direction) id) =
      (other.trace otherRounds).map (Prod.map (seen direction) id) := by
  induction agree generalizing meter other with
  | nil => rfl
  | cons agrees _ ih =>
      obtain ⟨kept, shown⟩ := alike.poll agrees
      simp [Meter.trace, shown, kept.pending, ih kept]

end Alike

/-- Directions do not interfere: of two runs that differ only in the bytes of the other
direction, read from counters of 64 bits, a direction sees the same rates at the same polls. -/
theorem trace_of_agrees (meter : Meter) {rounds otherRounds : List Round}
    (agree : List.Forall₂ (Round.Agrees direction) rounds otherRounds) :
    (meter.trace rounds).map (Prod.map (seen direction) id) =
      (meter.trace otherRounds).map (Prod.map (seen direction) id) := by
  have alike : Alike direction meter meter := ⟨rfl, rfl, rfl⟩
  exact alike.trace agree

/-- Two readings with a failure between them, and with these bytes sent. -/
def upTo (first last : UInt64) : List Round :=
  let second := Span.ofParts 1 0
  [⟨second, .ok ⟨0, first, .bits64⟩, false⟩,
    ⟨second, .error (.error (.timeout second)), false⟩,
    ⟨second, .ok ⟨1000, last, .bits64⟩, false⟩]

/-- A counter of sent bytes that wraps makes no difference to the received bytes. -/
theorem trace_of_agrees_wrapped :
    let second := Span.ofParts 1 0
    List.Forall₂ (Round.Agrees .received) (upTo 7 7) (upTo 18446744073709551615 3) ∧
      (outageMeter.trace (upTo 18446744073709551615 3)).map (Prod.map (seen .received) id) =
        [(.ok none, .zero), (.error (.error (.timeout second)), second),
          (.ok (some 500), .zero)] := by
  have agree : List.Forall₂ (Round.Agrees .received) (upTo 7 7) (upTo 18446744073709551615 3) :=
    .cons (.reads rfl rfl rfl) (.cons .fails (.cons (.reads rfl rfl rfl) .nil))
  refine ⟨agree, (trace_of_agrees outageMeter agree).symm.trans ?_⟩
  rfl

end Meter

end TrafficMeter
