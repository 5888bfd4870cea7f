import Mathlib.Algebra.GroupWithZero.Nat
import Mathlib.Data.List.DropRight
import TrafficMeter.Rate.Meter

/-! # The baseline of a meter and the time since it

A run of polls, told only by what each of them stood for and what its fetch gave,
determines the last good reading and the time that the next rate will span.
No failed poll since the last good reading is left out or counted twice, and a cancelled
one does not count.
-/

namespace TrafficMeter.Meter

/-- One poll of a run, with whether its token is cancelled by the time the fetch
returns. -/
structure Round where
  since : Span
  fetched : Attempt FetchError Snapshot
  cancelled : Bool

namespace Round

/-- The reading that a round takes in. -/
def reading? (round : Round) : Option Snapshot :=
  match round.cancelled, round.fetched with
  | false, .ok current => some current
  | _, _ => none

/-- Whether a round fails with an error other than a cancellation. -/
def isMissed (round : Round) : Bool :=
  match round.cancelled, round.fetched with
  | false, .error (.error (.cancelled _)) => false
  | false, .error (.error _) => true
  | _, _ => false

theorem reading?_eq_some_iff {round : Round} {current : Snapshot} :
    round.reading? = some current ↔ round.cancelled = false ∧ round.fetched = .ok current := by
  rcases round with ⟨since, fetched, cancelled⟩
  cases cancelled <;> cases fetched <;> simp [reading?]

theorem isMissed_iff {round : Round} :
    round.isMissed = true ↔ round.cancelled = false ∧
      ∃ error, round.fetched = .error (.error error) ∧ ∀ cause, error ≠ .cancelled cause := by
  rcases round with ⟨since, fetched, cancelled⟩
  constructor
  · intro missed
    cases cancelled with
    | true => simp [isMissed] at missed
    | false =>
        rcases fetched with fault | current
        · cases fault with
          | crash => simp [isMissed] at missed
          | error error => cases error <;> simp [isMissed] at missed ⊢
        · simp [isMissed] at missed
  · rintro ⟨rfl, error, rfl, ordinary⟩
    cases error with
    | cancelled cause => exact absurd rfl (ordinary cause)
    | _ => rfl

end Round

/-- The meter after a run of rounds. -/
def follow (meter : Meter) : List Round → Meter
  | [] => meter
  | round :: rounds => (meter.poll round.since round.fetched round.cancelled).1.follow rounds

/-- No round of a run finds the time that it would span too long to hold. -/
def Fits (meter : Meter) : List Round → Prop
  | [] => True
  | round :: rounds => (meter.elapsed? round.since).isSome ∧
      (meter.poll round.since round.fetched round.cancelled).1.Fits rounds

/-- The last reading of some rounds. -/
def lastReading? (rounds : List Round) : Option Snapshot :=
  (rounds.filterMap Round.reading?).getLast?

/-- The rounds after the last one with a reading. -/
def sinceReading (rounds : List Round) : List Round :=
  rounds.rtakeWhile (·.reading?.isNone)

/-- The time that the missed ones of some rounds stood for, in nanoseconds. -/
def missedNanos (rounds : List Round) : Nat :=
  ((rounds.filter Round.isMissed).map (·.since.nanos)).sum

section Rounds

variable (rounds : List Round) {round : Round} {current : Snapshot}

@[simp] theorem missedNanos_nil : missedNanos [] = 0 := rfl

theorem lastReading?_concat_of_reading (reads : round.reading? = some current) :
    lastReading? (rounds ++ [round]) = some current := by
  simp [lastReading?, reads]

theorem lastReading?_concat_of_unread (unread : round.reading? = none) :
    lastReading? (rounds ++ [round]) = lastReading? rounds := by
  simp [lastReading?, unread]

theorem sinceReading_concat_of_reading (reads : round.reading? = some current) :
    sinceReading (rounds ++ [round]) = [] :=
  List.rtakeWhile_concat_neg _ _ _ (by simp [reads])

theorem sinceReading_concat_of_unread (unread : round.reading? = none) :
    sinceReading (rounds ++ [round]) = sinceReading rounds ++ [round] :=
  List.rtakeWhile_concat_pos _ _ _ (by simp [unread])

theorem missedNanos_concat_of_missed (missed : round.isMissed = true) :
    missedNanos (rounds ++ [round]) = missedNanos rounds + round.since.nanos := by
  simp [missedNanos, missed]

theorem missedNanos_concat_of_kept (kept : round.isMissed = false) :
    missedNanos (rounds ++ [round]) = missedNanos rounds := by
  simp [missedNanos, kept]

end Rounds

section Poll

variable {meter : Meter} {round : Round} {elapsed : Span} {previous current : Snapshot}

@[simp] theorem measure_previous :
    (meter.measure previous current elapsed).1.previous = meter.previous := by
  unfold measure
  dsimp only
  split
  · rfl
  · split <;> rfl

@[simp] theorem measure_pending :
    (meter.measure previous current elapsed).1.pending = meter.pending := by
  unfold measure
  dsimp only
  split
  · rfl
  · split <;> rfl

@[simp] theorem accept_previous : (meter.accept current elapsed).1.previous = some current := by
  unfold accept
  cases meter.previous <;> simp

@[simp] theorem accept_pending : (meter.accept current elapsed).1.pending = .zero := by
  unfold accept
  cases meter.previous <;> simp

/-- A good reading of an uncancelled poll is taken in. -/
theorem poll_of_reading (fits : meter.elapsed? round.since = some elapsed)
    (reads : round.reading? = some current) :
    meter.poll round.since round.fetched round.cancelled =
      ((meter.accept current elapsed).1, .ok (meter.accept current elapsed).2) := by
  obtain ⟨uncancelled, fetched⟩ := Round.reading?_eq_some_iff.mp reads
  simp [poll, fits, uncancelled, fetched]

/-- A missed poll adds its time to that of the next rate, if there will be one. -/
theorem poll_of_missed (fits : meter.elapsed? round.since = some elapsed)
    (missed : round.isMissed = true) :
    (meter.poll round.since round.fetched round.cancelled).1 =
      if meter.previous.isSome then { meter with pending := elapsed } else meter := by
  obtain ⟨uncancelled, error, fetched, ordinary⟩ := Round.isMissed_iff.mp missed
  cases error with
  | cancelled cause => exact absurd rfl (ordinary cause)
  | _ => simp [poll, fits, uncancelled, fetched]

theorem poll_crash (meter : Meter) (since : Span) (cancelled : Bool) :
    meter.poll since (.error .crash) cancelled = (meter, .error .crash) := by
  unfold poll
  cases meter.elapsed? since <;> rfl

/-- A poll that is cancelled or breaks down leaves no trace. -/
theorem poll_of_neither (unread : round.reading? = none) (kept : round.isMissed = false) :
    (meter.poll round.since round.fetched round.cancelled).1 = meter := by
  rcases round with ⟨since, fetched, cancelled⟩
  cases span : meter.elapsed? since with
  | none => simp [poll, span]
  | some elapsed =>
      rcases fetched with fault | current
      · cases fault with
        | crash => simp [poll, span]
        | error error =>
            cases cancelled with
            | true => simp [poll, span]
            | false => cases error <;> simp [Round.isMissed, poll, span] at kept ⊢
      · cases cancelled with
        | true => simp [poll, span]
        | false => simp [Round.reading?] at unread

end Poll

/-- What a run of rounds says about the meter that took them. -/
structure Accounts (meter : Meter) (rounds : List Round) : Prop where
  baseline : meter.previous = lastReading? rounds
  pending : meter.pending.nanos =
    if (lastReading? rounds).isSome then missedNanos (sinceReading rounds) else 0

namespace Accounts

variable {meter : Meter} {rounds : List Round} {params : Spike.Params}

theorem fresh (built : Meter.new params = .ok meter) : meter.Accounts [] := by
  cases download : Spike.Filter.new params with
  | error fault => simp [Meter.new, download, bind, Except.bind] at built
  | ok filter =>
      simp only [Meter.new, download, bind, Except.bind, pure, Except.pure,
        Except.ok.injEq] at built
      subst built
      exact ⟨rfl, rfl⟩

theorem elapsed_nanos {since elapsed : Span} (accounts : meter.Accounts rounds)
    (based : (lastReading? rounds).isSome) (fits : meter.elapsed? since = some elapsed) :
    elapsed.nanos = missedNanos (sinceReading rounds) + since.nanos := by
  have total := Span.add?_eq_some_iff.mp fits
  rw [total, accounts.pending, if_pos based]

/-- One more round, in each of its three kinds. -/
theorem poll (accounts : meter.Accounts rounds) (round : Round)
    (fits : (meter.elapsed? round.since).isSome) :
    (meter.poll round.since round.fetched round.cancelled).1.Accounts (rounds ++ [round]) := by
  obtain ⟨elapsed, fits⟩ := Option.isSome_iff_exists.mp fits
  cases reads : round.reading? with
  | some current =>
      rw [poll_of_reading fits reads]
      constructor
      · rw [lastReading?_concat_of_reading _ reads, accept_previous]
      · rw [sinceReading_concat_of_reading _ reads, accept_pending]
        simp
  | none =>
      have last := lastReading?_concat_of_unread rounds reads
      have since := sinceReading_concat_of_unread rounds reads
      cases missed : round.isMissed with
      | false =>
          rw [poll_of_neither reads missed]
          constructor
          · rw [last, accounts.baseline]
          · rw [last, since, missedNanos_concat_of_kept _ missed, accounts.pending]
      | true =>
          rw [poll_of_missed fits missed, accounts.baseline]
          -- before the first reading there is no gap that the time could count towards
          by_cases based : (lastReading? rounds).isSome
          · rw [if_pos based]
            constructor
            · exact last.symm
            · rw [last, since, missedNanos_concat_of_missed _ missed, if_pos based]
              exact accounts.elapsed_nanos based fits
          · rw [if_neg based]
            constructor
            · rw [last, accounts.baseline]
            · rw [last, accounts.pending, if_neg based, if_neg based]

/-- The accounts hold after a whole run if they hold before it. -/
theorem follow {done : List Round} (accounts : meter.Accounts done)
    (fits : meter.Fits rounds) : (meter.follow rounds).Accounts (done ++ rounds) := by
  induction rounds generalizing meter done with
  | nil => simpa [Meter.follow] using accounts
  | cons round rounds ih =>
      obtain ⟨first, rest⟩ := fits
      have further := ih (accounts.poll round first) rest
      simpa [Meter.follow] using further

end Accounts

/-- After any run of polls that no overflow breaks, the meter holds the last good reading
and the time of the missed polls after it, and nothing without such a reading. So the
next good reading is measured over the time of the missed polls and its own. -/
theorem follow_accounts {params : Spike.Params} {fresh : Meter} {rounds : List Round}
    (built : Meter.new params = .ok fresh) (fits : fresh.Fits rounds) :
    (fresh.follow rounds).previous = lastReading? rounds ∧
      (fresh.follow rounds).pending.nanos =
        (if (lastReading? rounds).isSome then missedNanos (sinceReading rounds) else 0) ∧
      ∀ previous, lastReading? rounds = some previous → ∀ since elapsed current,
        (fresh.follow rounds).elapsed? since = some elapsed →
          elapsed.nanos = missedNanos (sinceReading rounds) + since.nanos ∧
          (fresh.follow rounds).poll since (.ok current) false =
            Prod.map id .ok ({ fresh.follow rounds with
              previous := some current, pending := .zero }.measure previous current elapsed) := by
  have accounts : (fresh.follow rounds).Accounts rounds := (Accounts.fresh built).follow fits
  refine ⟨accounts.baseline, accounts.pending, ?_⟩
  intro previous last since elapsed current span
  refine ⟨accounts.elapsed_nanos (by simp [last]) span, ?_⟩
  let round : Round := ⟨since, .ok current, false⟩
  have reads : round.reading? = some current := rfl
  have taken := poll_of_reading span reads
  rw [taken, accept, accounts.baseline, last]
  rfl

/-- A reading, then two failures with a cancelled poll between them. -/
def outage : List Round :=
  let second := Span.ofParts 1 0
  [⟨second, .ok ⟨10, 10, .bits64⟩, false⟩,
    ⟨second, .error (.error (.timeout second)), false⟩,
    ⟨second, .ok ⟨30, 30, .bits64⟩, true⟩,
    ⟨second, .error (.error (.unavailable "agent down")), false⟩]

/-- A meter for windows of one sample, without a reading. -/
def outageMeter : Meter :=
  let window : Ring Float := ⟨#[], 1, 0, Nat.zero_le 1, Nat.one_pos, fun _ => rfl⟩
  ⟨none, .zero, ⟨⟨window, 2.0, 1.0⟩, 0.0⟩, ⟨⟨window, 2.0, 1.0⟩, 0.0⟩⟩

theorem follow_accounts_outage :
    Meter.new ⟨1, 2.0, 1.0⟩ = .ok outageMeter ∧ outageMeter.Fits outage ∧
      (outageMeter.follow outage).previous = some ⟨10, 10, .bits64⟩ ∧
      (outageMeter.follow outage).pending.nanos = 2000000000 ∧
      ∀ current, (outageMeter.follow outage).poll (.ofParts 1 0) (.ok current) false =
        Prod.map id .ok ({ outageMeter.follow outage with
          previous := some current, pending := .zero }.measure ⟨10, 10, .bits64⟩ current
            (.ofParts 3 0)) := by
  have built : Meter.new ⟨1, 2.0, 1.0⟩ = .ok outageMeter := rfl
  have fits : outageMeter.Fits outage := ⟨rfl, rfl, rfl, rfl, trivial⟩
  obtain ⟨baseline, pending, spans⟩ := follow_accounts built fits
  refine ⟨built, fits, baseline, pending, ?_⟩
  intro current
  exact (spans ⟨10, 10, .bits64⟩ rfl (.ofParts 1 0) (.ofParts 3 0) current rfl).2

end TrafficMeter.Meter
