import TrafficMeter.Proofs.Service.Polls

/-! # Polls that break down by themselves

A poll adds the time that it is told to that of the polls missed since the last reading, before
it fetches anything. The sum may be too long for any span; then the poll breaks down, and a good
reading is lost with it. The time of the missed polls stays as it was, so if it leaves no room
for a single interval, no reading is ever taken again.
-/

namespace TrafficMeter

namespace Meter

/-- There is a baseline, and the polls missed since then stood, together with this time, for
longer than any span. -/
def Overlong (rounds : List Round) (since : Span) : Prop :=
  (lastReading? rounds).isSome ∧
    Span.maxNanos < missedNanos (sinceReading rounds) + since.nanos

variable {meter : Meter} {rounds : List Round} {since : Span}

theorem Accounts.elapsed?_eq_none_iff (accounts : meter.Accounts rounds) :
    meter.elapsed? since = none ↔ Overlong rounds since := by
  rw [elapsed?, Span.add?_eq_none_iff, accounts.pending, Overlong]
  by_cases based : (lastReading? rounds).isSome
  · simp [based]
  · -- without a baseline no time has been kept, and what a poll is told is itself a span
    have short := Nat.not_lt_of_le since.nanos_le_maxNanos
    simpa [based] using short

theorem poll_of_overflow (overflows : meter.elapsed? since = none)
    (fetched : Attempt FetchError Snapshot) (cancelled : Bool) :
    meter.poll since fetched cancelled = (meter, .error .crash) := by
  simp [poll, overflows]

theorem poll_of_fits (fits : meter.elapsed? since ≠ none) (current : Snapshot) :
    ∃ next rate, meter.poll since (.ok current) false = (next, .ok rate) ∧
      next.previous = some current ∧ next.pending = .zero := by
  obtain ⟨elapsed, fits⟩ := Option.ne_none_iff_exists'.mp fits
  let round : Round := ⟨since, .ok current, false⟩
  have reads : round.reading? = some current := rfl
  exact ⟨_, _, poll_of_reading fits reads, accept_previous, accept_pending⟩

theorem Accounts.broken (accounts : meter.Accounts rounds) (since : Span) (cancelled : Bool) :
    meter.Accounts (rounds ++ [⟨since, .error .crash, cancelled⟩]) := by
  let round : Round := ⟨since, .error .crash, cancelled⟩
  have unread : round.reading? = none := by simp [Round.reading?, round]
  have kept : round.isMissed = false := by simp [Round.isMissed, round]
  constructor
  · rw [lastReading?_concat_of_unread _ unread, accounts.baseline]
  · rw [lastReading?_concat_of_unread _ unread, sinceReading_concat_of_unread _ unread,
      missedNanos_concat_of_kept _ kept, accounts.pending]

end Meter

namespace Service

section

variable {first service : Service} {rounds done : List Meter.Round}

/-- The meter accounts for all polls, those that break down by themselves included. -/
theorem Polled.accounts (polled : first.Polled rounds service)
    (accounts : first.meter.Accounts done) : service.meter.Accounts (done ++ rounds) := by
  induction polled with
  | refl => rwa [List.append_nil]
  | aside _ _ meter ih => rwa [meter]
  | @fetched rounds service entered takes result _ tried _ ih =>
      obtain ⟨fits, rfl⟩ := tryPoll_eq_true tried
      rw [← List.append_assoc]
      exact ih.poll ⟨service.loop.told, result, service.loop.cancelled⟩ fits
  | @broken rounds service next _ tried ih =>
      obtain ⟨_, rfl⟩ := tryPoll_eq_false tried
      rw [← List.append_assoc, finishPoll_crash_meter]
      exact ih.broken _ _

end

/-- A poll breaks down before its fetch just if the polls missed since the baseline leave too little
room for its time; otherwise a good reading becomes the baseline. All polls from there on break
down just if there is no room for an interval. What polls a service that is started has are such
polls: it stands inside the fetch of one that did not break down, or where all do. -/
theorem poll_overflows_iff {settings : Settings} {source : List Reading} {fresh : Service}
    (built : Service.new settings source = .ok fresh) :
    (∀ rounds service, fresh.Polled rounds service →
      let told := service.loop.told
      (service.meter.elapsed? told = none ↔ Meter.Overlong rounds told) ∧
      (service.meter.elapsed? told = none → ∀ fetched cancelled,
        service.meter.poll told fetched cancelled = (service.meter, .error .crash)) ∧
      (service.meter.elapsed? told ≠ none → ∀ current, ∃ next rate,
        service.meter.poll told (.ok current) false = (next, .ok rate) ∧
          next.previous = some current ∧ next.pending = .zero) ∧
      ((∀ later last, service.Polled later last →
          last.meter = service.meter ∧ last.meter.elapsed? last.loop.told = none) ↔
        Meter.Overlong rounds settings.interval)) ∧
    ∀ calls,
      ((fresh.run calls).position = .paused ∨ (fresh.run calls).position = .waiting →
        fresh.Fetches (fresh.run calls)) ∧
      ((fresh.run calls).position = .failing →
        ∃ rounds, fresh.Polled rounds (fresh.run calls) ∧
          Meter.Overlong rounds settings.interval) := by
  obtain ⟨positive, start⟩ := due_of_new built
  have accounts {rounds : List Meter.Round} {service : Service}
      (polled : fresh.Polled rounds service) : service.meter.Accounts rounds := by
    obtain ⟨_, meter, made, rfl⟩ := new_eq built
    exact polled.accounts (Meter.Accounts.fresh made)
  have overfull_iff {rounds : List Meter.Round} {service : Service}
      (polled : fresh.Polled rounds service) :
      service.Overfull ↔ Meter.Overlong rounds settings.interval := by
    rw [Overfull, (start.polled positive polled).interval, (accounts polled).elapsed?_eq_none_iff]
  refine ⟨?_, ?_⟩
  · intro rounds service polled told
    refine ⟨(accounts polled).elapsed?_eq_none_iff, ?_, ?_, ?_⟩
    · exact Meter.poll_of_overflow
    · exact Meter.poll_of_fits
    · rw [← (start.polled positive polled).overfull_iff positive, overfull_iff polled]
  · intro calls
    have stands := stands_run built calls
    refine ⟨stands.fetching, ?_⟩
    intro failing
    obtain ⟨rounds, polled, overfull⟩ := stands.failing failing
    exact ⟨rounds, polled, (overfull_iff polled).mp overfull⟩

/-- A service with an interval of 2^62 seconds. -/
def unhurried : Service :=
  let interval := Span.ofParts 4611686018427387904 0
  { observed [] with
    settings := ⟨interval, perSecond.filter, perSecond.joinTimeout⟩
    loop := .new interval
    audience := .empty }

/-- After a reading and three timeouts no reading is taken any more. -/
theorem poll_overflows_iff_unhurried :
    let timeout := .error (.error (.timeout (.ofParts 1 0)))
    ∃ rounds service, Service.new unhurried.settings [] = .ok unhurried ∧
      unhurried.Polled rounds service ∧
      rounds.map Meter.Round.fetched = [.ok ⟨0, 0, .bits64⟩, timeout, timeout, timeout] ∧
      ∀ later last, service.Polled later last → last.meter.previous = some ⟨0, 0, .bits64⟩ ∧
        last.meter.elapsed? last.loop.told = none := by
  intro timeout
  have built : Service.new unhurried.settings [] = .ok unhurried := rfl
  have start : unhurried.Polled [] unhurried := .refl
  have reads := start.fetch .zero (.ok ⟨0, 0, .bits64⟩) (by decide +kernel) (by decide +kernel)
  have first := reads.fetch .zero timeout (by decide +kernel) (by decide +kernel)
  have second := first.fetch .zero timeout (by decide +kernel) (by decide +kernel)
  have third := second.fetch .zero timeout (by decide +kernel) (by decide +kernel)
  obtain ⟨_, _, _, forever⟩ := (poll_overflows_iff built).1 _ _ third
  refine ⟨_, _, built, third, rfl, ?_⟩
  intro later last polled
  obtain ⟨kept, breaks⟩ := forever.mpr ⟨rfl, by decide +kernel⟩ later last polled
  refine ⟨?_, breaks⟩
  rw [kept]
  decide +kernel

/-- After a reading and two failures, the later of which takes a whole interval, a poll breaks down
whatever its fetch would give. The next reading is taken one poll later. -/
theorem unhurried_poll_overflows :
    let interval := Span.ofParts 4611686018427387904 0
    let failure := .error (.error (.unavailable "agent down"))
    let reading := .ok ⟨0, 0, .bits64⟩
    Service.new unhurried.settings [] = .ok unhurried ∧
      (∃ rounds service, unhurried.Polled rounds service ∧
        rounds.map Meter.Round.fetched = [reading, failure, failure] ∧
        service.loop.told = interval.scale 2 ∧
        ∀ fetched cancelled, service.meter.poll (interval.scale 2) fetched cancelled =
          (service.meter, .error .crash)) ∧
      ∃ service, unhurried.Inside [.fetched .zero reading, .fetched .zero failure,
          .fetched interval failure, .fetched .zero reading] service ∧
        service.loop.history =
          [interval, interval, interval, interval.scale 2, interval, interval] := by
  intro interval failure reading
  have start : unhurried.Polled [] unhurried := .refl
  have reads := start.fetch .zero reading (by decide +kernel) (by decide +kernel)
  have fails := reads.fetch .zero failure (by decide +kernel) (by decide +kernel)
  have overruns := fails.fetch interval failure (by decide +kernel) (by decide +kernel)
  refine ⟨rfl, ⟨_, _, overruns, rfl, by decide +kernel, ?_⟩, ?_⟩
  · intro fetched cancelled
    exact Meter.poll_of_overflow (by decide +kernel) fetched cancelled
  · exact Inside.of_seen (fun service => service.loop.history) (by decide +kernel)

end Service

end TrafficMeter
