import TrafficMeter.Proofs.Rate.Wraparound
import TrafficMeter.Proofs.Spike.Answers

/-! # What the filters are fed

The filters of a meter take the raw rates of the polls that return a rate, and nothing
else. Both directions pass one check before either filter is touched, so no poll feeds one
filter alone: the two windows always hold equally many samples.
-/

namespace TrafficMeter

inductive Direction where
  | received
  | sent
  deriving DecidableEq, Repr

/-- The part of a pair that belongs to a direction. -/
def Direction.pick {α : Type} (pair : α × α) : Direction → α
  | received => pair.1
  | sent => pair.2

def Rate.bytes (rate : Rate) (direction : Direction) : UInt64 :=
  direction.pick (rate.inBytes, rate.outBytes)

namespace Meter

variable {params : Spike.Params} {meter fresh : Meter} {round : Round}
  {previous current : Snapshot} {elapsed : Span} {raw : Float × Float}

def filter (meter : Meter) (direction : Direction) : Spike.Filter :=
  direction.pick (meter.download, meter.upload)

/-- The raw rates between two readings, if time has passed and both growths are known. -/
def between? (previous current : Snapshot) (elapsed : Span) : Option (Float × Float) :=
  let seconds := elapsed.toSeconds
  if seconds ≤ 0 then none
  else (growth? previous current).map fun (received, sent) =>
    (rawRate received seconds, rawRate sent seconds)

/-- The raw rates of a round, from the last good reading to its own. -/
def rawRates? (meter : Meter) (round : Round) : Option (Float × Float) := do
  let elapsed ← meter.elapsed? round.since
  let current ← round.reading?
  let previous ← meter.previous
  between? previous current elapsed

def rawRates (meter : Meter) : List Round → List (Float × Float)
  | [] => []
  | round :: rounds =>
      (meter.rawRates? round).toList ++
        (meter.poll round.since round.fetched round.cancelled).1.rawRates rounds

/-- The rate that a poll returns. -/
def rate? : Attempt FetchError (Option Rate) → Option Rate
  | .ok rate => rate
  | .error _ => none

/-- The rates that the polls of a run return. -/
def rates (meter : Meter) (rounds : List Round) : List Rate :=
  (meter.trace rounds).filterMap (rate? ·.1)

theorem filters_of_new (built : Meter.new params = .ok fresh) :
    ∃ filter, Spike.Filter.new params = .ok filter ∧
      ∀ direction, fresh.filter direction = filter := by
  cases download : Spike.Filter.new params with
  | error fault => simp [Meter.new, download, bind, Except.bind] at built
  | ok filter =>
      simp only [Meter.new, download, bind, Except.bind, pure, Except.pure,
        Except.ok.injEq] at built
      subst built
      refine ⟨filter, rfl, ?_⟩
      rintro (_ | _) <;> rfl

theorem measure_of_no_raw (missing : between? previous current elapsed = none) :
    meter.measure previous current elapsed = (meter, none) := by
  unfold between? at missing
  unfold measure
  dsimp only at missing ⊢
  split
  · rfl
  · rename_i positive
    rw [if_neg positive, Option.map_eq_none_iff] at missing
    rw [missing]

/-- Raw rates in both directions feed both filters, and their answers make the rate. -/
theorem measure_of_raw (meter : Meter)
    (measured : between? previous current elapsed = some raw) :
    ∃ rate, (meter.measure previous current elapsed).2 = some rate ∧ ∀ direction,
      (meter.measure previous current elapsed).1.filter direction =
          ((meter.filter direction).apply (direction.pick raw)).1 ∧
        rate.bytes direction = ((meter.filter direction).apply (direction.pick raw)).2.toUInt64 := by
  unfold between? at measured
  dsimp only at measured
  split at measured
  · cases measured
  · rename_i positive
    obtain ⟨⟨received, sent⟩, grown, rfl⟩ := Option.map_eq_some_iff.mp measured
    simp only [measure, if_neg positive, grown]
    refine ⟨_, rfl, ?_⟩
    rintro (_ | _) <;> exact ⟨rfl, rfl⟩

theorem rate?_of_unread (unread : round.reading? = none) :
    rate? (meter.poll round.since round.fetched round.cancelled).2 = none := by
  rcases round with ⟨since, fetched, cancelled⟩
  cases fits : meter.elapsed? since with
  | none => simp [poll, fits, rate?]
  | some elapsed =>
      cases cancelled with
      | true => rcases fetched with (cause | _) | current <;> simp [poll, fits, rate?]
      | false =>
          rcases fetched with (cause | _) | current
          · cases cause <;> simp [poll, fits, rate?]
          · simp [poll, fits, rate?]
          · cases unread

/-- A round without raw rates returns no rate and feeds neither filter. -/
theorem poll_of_no_raw (missing : meter.rawRates? round = none) :
    rate? (meter.poll round.since round.fetched round.cancelled).2 = none ∧ ∀ direction,
      (meter.poll round.since round.fetched round.cancelled).1.filter direction =
        meter.filter direction := by
  cases fits : meter.elapsed? round.since with
  | none => simp [poll, fits, rate?]
  | some elapsed =>
      cases reads : round.reading? with
      | none =>
          refine ⟨rate?_of_unread reads, ?_⟩
          intro direction
          cases missed : round.isMissed with
          | false => rw [poll_of_neither reads missed]
          | true =>
              rw [poll_of_missed fits missed]
              split <;> rfl
      | some current =>
          rw [poll_of_reading fits reads]
          cases held : meter.previous with
          | none =>
              simp only [accept, held]
              exact ⟨rfl, fun _ => rfl⟩
          | some previous =>
              have unknown : between? previous current elapsed = none := by
                simpa [rawRates?, fits, reads, held] using missing
              simp only [accept, held, measure_of_no_raw unknown]
              exact ⟨rfl, fun _ => rfl⟩

/-- A round with raw rates returns the answers of the filters that it feeds. -/
theorem poll_of_raw (measured : meter.rawRates? round = some raw) :
    ∃ rate, rate? (meter.poll round.since round.fetched round.cancelled).2 = some rate ∧
      ∀ direction,
        (meter.poll round.since round.fetched round.cancelled).1.filter direction =
            ((meter.filter direction).apply (direction.pick raw)).1 ∧
          rate.bytes direction =
            ((meter.filter direction).apply (direction.pick raw)).2.toUInt64 := by
  simp only [rawRates?, Option.bind_eq_bind, Option.bind_eq_some_iff] at measured
  obtain ⟨elapsed, fits, current, reads, previous, held, known⟩ := measured
  rw [poll_of_reading fits reads]
  simp only [accept, held]
  exact measure_of_raw _ known

@[simp] theorem follow_cons (meter : Meter) (round : Round) (rounds : List Round) :
    meter.follow (round :: rounds) =
      (meter.poll round.since round.fetched round.cancelled).1.follow rounds := rfl

theorem rates_cons_of_none (rounds : List Round)
    (silent : rate? (meter.poll round.since round.fetched round.cancelled).2 = none) :
    meter.rates (round :: rounds) =
      (meter.poll round.since round.fetched round.cancelled).1.rates rounds :=
  List.filterMap_cons_none silent

theorem rates_cons_of_some {rate : Rate} (rounds : List Round)
    (told : rate? (meter.poll round.since round.fetched round.cancelled).2 = some rate) :
    meter.rates (round :: rounds) =
      rate :: (meter.poll round.since round.fetched round.cancelled).1.rates rounds :=
  List.filterMap_cons_some told

/-- A run feeds the filter of a direction its raw rates, and returns the answers. -/
theorem filter_follow (meter : Meter) (rounds : List Round) (direction : Direction) :
    (meter.follow rounds).filter direction =
        (meter.filter direction).feed ((meter.rawRates rounds).map direction.pick) ∧
      (meter.rates rounds).map (·.bytes direction) =
        ((meter.filter direction).answers ((meter.rawRates rounds).map direction.pick)).map
          Float.toUInt64 := by
  induction rounds generalizing meter with
  | nil => exact ⟨rfl, rfl⟩
  | cons round rounds ih =>
      obtain ⟨fed, answered⟩ := ih (meter.poll round.since round.fetched round.cancelled).1
      cases measured : meter.rawRates? round with
      | none =>
          obtain ⟨silent, untouched⟩ := poll_of_no_raw measured
          rw [untouched direction] at fed answered
          simpa [rawRates, measured, rates_cons_of_none rounds silent] using
            And.intro fed answered
      | some raw =>
          obtain ⟨rate, told, touched⟩ := poll_of_raw measured
          obtain ⟨applied, reported⟩ := touched direction
          rw [applied] at fed answered
          simpa [rawRates, measured, rates_cons_of_some rounds told, Spike.Filter.answers,
            reported] using And.intro fed answered

/-- After any run of polls, the filter of a direction is a new one fed with the raw rates of
the polls that returned a rate, whose answers are the rates that they returned. A further
poll feeds both filters if it returns a rate, and touches neither if it does not. -/
theorem filters_take_returned_rates (built : Meter.new params = .ok fresh)
    (rounds : List Round) :
    ∃ filter, Spike.Filter.new params = .ok filter ∧
      (∀ direction,
        (fresh.follow rounds).filter direction =
            filter.feed ((fresh.rawRates rounds).map direction.pick) ∧
          (fresh.rates rounds).map (·.bytes direction) =
            (filter.answers ((fresh.rawRates rounds).map direction.pick)).map Float.toUInt64 ∧
          ((fresh.follow rounds).filter direction).detector.window.count =
            min (fresh.rates rounds).length params.lag) ∧
      ∀ round,
        let meter := fresh.follow rounds
        let (next, answer) := meter.poll round.since round.fetched round.cancelled
        (∀ rate, rate? answer = some rate → ∃ raw, meter.rawRates? round = some raw ∧
          ∀ direction,
            next.filter direction = ((meter.filter direction).apply (direction.pick raw)).1 ∧
              rate.bytes direction =
                ((meter.filter direction).apply (direction.pick raw)).2.toUInt64) ∧
        (rate? answer = none → meter.rawRates? round = none ∧
          ∀ direction, next.filter direction = meter.filter direction) := by
  obtain ⟨filter, same, unfed⟩ := filters_of_new built
  refine ⟨filter, same, ?_, ?_⟩
  · intro direction
    obtain ⟨fed, answered⟩ := filter_follow fresh rounds direction
    rw [unfed direction] at fed answered
    refine ⟨fed, answered, ?_⟩
    obtain ⟨empty, capacity⟩ := Spike.Filter.window_of_new same
    have count := congrArg List.length answered
    simp only [List.length_map, Spike.Filter.length_answers] at count
    rw [fed, Spike.Filter.count_feed, empty, capacity, List.length_map, count, Nat.zero_add]
  · intro round
    dsimp only
    cases measured : (fresh.follow rounds).rawRates? round with
    | none =>
        obtain ⟨silent, untouched⟩ := poll_of_no_raw measured
        simp [silent, untouched]
    | some raw =>
        obtain ⟨rate, told, touched⟩ := poll_of_raw measured
        simpa [told] using touched

/-- A reading, a rate, and a reset of the counter of sent bytes alone. -/
def reset : List Round :=
  let second := Span.ofParts 1 0
  [⟨second, .ok ⟨0, 0, .bits64⟩, false⟩, ⟨second, .ok ⟨1000, 5000000000, .bits64⟩, false⟩,
    ⟨second, .ok ⟨2000, 0, .bits32⟩, false⟩]

theorem filters_take_returned_rates_reset :
    Meter.new ⟨1, 2.0, 1.0⟩ = .ok outageMeter ∧
      ∃ filter, Spike.Filter.new ⟨1, 2.0, 1.0⟩ = .ok filter ∧
        (outageMeter.follow reset).download = filter.feed [1000.0] ∧
        (outageMeter.follow reset).upload = filter.feed [5000000000.0] ∧
        (outageMeter.rates reset).length = 1 := by
  have built : Meter.new ⟨1, 2.0, 1.0⟩ = .ok outageMeter := rfl
  have raw : outageMeter.rawRates reset = [(1000.0, 5000000000.0)] := by decide +kernel
  obtain ⟨filter, same, fed, _⟩ := filters_take_returned_rates built reset
  obtain ⟨download, answered, _⟩ := fed .received
  obtain ⟨upload, _⟩ := fed .sent
  rw [raw] at download upload answered
  have counted := congrArg List.length answered
  rw [List.length_map, List.length_map, Spike.Filter.length_answers] at counted
  exact ⟨built, filter, same, download, upload, counted⟩

end Meter

end TrafficMeter
