import TrafficMeter.Proofs.Poll.Timetable
import TrafficMeter.Proofs.Rate.Baseline
import TrafficMeter.Proofs.Service.Advance

/-! # The gap that a rate spans

Between two accepted readings lie polls that fail. The rate of the later reading spans the
whole gap between the two polls just if no fetch in between broke down: a poll that breaks
down loses the time it was told.
-/

namespace TrafficMeter

namespace Reading

/-- The poll that reads this does not saturate. -/
def Regular (interval : Span) : Reading → Prop
  | fetched takes _ => Poll.Regular interval takes
  | pause => True

def snapshot? : Reading → Option Snapshot
  | fetched _ (.ok current) => some current
  | _ => none

def isCrash : Reading → Bool
  | fetched _ (.error .crash) => true
  | _ => false

end Reading

namespace Service

open Poll (slot)

/-- The loop goes on polling at the interval. -/
structure Paced (interval : Span) (service : Service) : Prop where
  interval : service.loop.interval = interval
  live : service.loop.cancelled = false
  running : service.loop.ended = false

/-- The service is inside a fetch, of a poll that began now. -/
structure Fetching (interval : Span) (service : Service) : Prop
    extends service.Paced interval where
  fits : (service.meter.elapsed? service.loop.told).isSome
  entered : service.loop.entries.back? = some ⟨service.loop.now, service.loop.told⟩

/-- Since the start of the poll that read the baseline some time has been lost. The next
rate will span all the rest. -/
structure Spans (begun : Nat) (base : Snapshot) (lost : Nat) (service : Service) : Prop where
  based : service.meter.previous = some base
  told_pos : 0 < service.loop.told.nanos
  now : service.loop.now =
    begun + (service.meter.pending.nanos + service.loop.told.nanos) + lost

/-- The poll is over, and the time since its start is what the next one is told. -/
structure Follows (service next : Service) : Prop where
  now : next.loop.now = service.loop.now + next.loop.told.nanos
  told_pos : 0 < next.loop.told.nanos

/-- Time has been lost just if one of the readings `done` since the baseline broke down,
unless the gap is too long for any span. -/
def Covers (begun : Nat) (base : Snapshot) (done : List Reading) (service : Service) : Prop :=
  ∃ lost, service.Spans begun base lost ∧
    (lost = 0 → ∀ reading ∈ done, reading.isCrash = false) ∧
    ((∀ reading ∈ done, reading.isCrash = false) →
      service.loop.now ≤ begun + Span.maxNanos → lost = 0)

section Polls

variable {service next : Service} {interval takes : Span}
  {result : Attempt FetchError Snapshot}

@[simp] theorem outcome_takes (polled : Attempt FetchError (Option Rate)) :
    (outcome takes polled).takes = takes := by
  rcases polled with (error | _) | rate
  · cases error <;> rfl
  · rfl
  · rfl

theorem finishPoll_loop : (service.finishPoll takes result).loop = service.loop.leave
    (outcome takes (service.meter.poll service.loop.told result service.loop.cancelled).2) :=
  rfl

theorem finishPoll_meter : (service.finishPoll takes result).meter =
    (service.meter.poll service.loop.told result service.loop.cancelled).1 := rfl

theorem finishPoll_audience : (service.finishPoll takes result).audience = publish
    service.audience
    (service.meter.poll service.loop.told result service.loop.cancelled).2 := rfl

theorem Paced.finishPoll (paced : service.Paced interval)
    (going : (service.finishPoll takes result).loop.ended = false) :
    (service.finishPoll takes result).Paced interval := by
  refine ⟨?_, ?_, going⟩
  · rw [finishPoll_loop, Poll.Loop.leave_interval]
    exact paced.interval
  · rw [finishPoll_loop] at going ⊢
    rw [Poll.Loop.leave_of_going going]

theorem Paced.finishPoll_follows (paced : service.Paced interval)
    (positive : 0 < interval.nanos) (short : interval.nanos ≤ Poll.maxDelay)
    (regular : Poll.Regular interval takes)
    (going : (service.finishPoll takes result).loop.ended = false) :
    service.Follows (service.finishPoll takes result) := by
  obtain rfl := paced.interval
  rw [finishPoll_loop] at going
  obtain ⟨now, told⟩ :=
    Poll.Loop.leave_on_time service.loop positive short (by simpa using regular) going
  have later := Poll.lt_slot takes positive
  simp only [outcome_takes] at now told
  refine ⟨?_, ?_⟩
  · rw [finishPoll_loop, now, told]
  · rw [finishPoll_loop, told]
    omega

end Polls

namespace Spans

variable {service next : Service} {begun lost : Nat} {base current : Snapshot} {elapsed : Span}

/-- A poll that leaves the meter alone loses the time it was told. -/
theorem of_untouched (spans : service.Spans begun base lost) (follows : service.Follows next)
    (untouched : next.meter = service.meter) :
    next.Spans begun base (lost + service.loop.told.nanos) := by
  have now := spans.now
  refine ⟨by rw [untouched]; exact spans.based, follows.told_pos, ?_⟩
  rw [follows.now, untouched]
  omega

/-- A poll that misses its reading loses nothing. -/
theorem of_missed (spans : service.Spans begun base lost) (follows : service.Follows next)
    (fits : service.meter.elapsed? service.loop.told = some elapsed)
    (kept : next.meter = { service.meter with pending := elapsed }) :
    next.Spans begun base lost := by
  have now := spans.now
  have total : elapsed.nanos = service.meter.pending.nanos + service.loop.told.nanos :=
    Span.add?_eq_some_iff.mp fits
  refine ⟨by rw [kept]; exact spans.based, follows.told_pos, ?_⟩
  rw [follows.now, kept]
  dsimp only
  omega

/-- A reading is the new baseline, and nothing has been lost since. -/
theorem of_reading (follows : service.Follows next)
    (taken : next.meter = (service.meter.accept current elapsed).1) :
    next.Spans service.loop.now current 0 := by
  refine ⟨by rw [taken, Meter.accept_previous], follows.told_pos, ?_⟩
  rw [follows.now, taken, Meter.accept_pending]
  simp

end Spans

section Beginnings

variable {service next : Service} {interval takes : Span}

theorem tryPoll_eq_true (tried : service.tryPoll = (next, true)) :
    (service.meter.elapsed? service.loop.told).isSome ∧
      next = { service with loop := service.loop.enter } := by
  unfold tryPoll at tried
  dsimp only at tried
  split at tried
  · rename_i fits
    cases tried
    exact ⟨fits, rfl⟩
  · cases tried

theorem tryPoll_eq_false (tried : service.tryPoll = (next, false)) :
    service.meter.elapsed? service.loop.told = none ∧
      next = { service with loop := service.loop.enter }.finishPoll .zero (.error .crash) := by
  unfold tryPoll at tried
  dsimp only at tried
  split at tried
  · cases tried
  · rename_i broken
    cases tried
    exact ⟨by simpa using broken, rfl⟩

theorem beginPoll_eq_true (begins : service.beginPoll = (next, true)) :
    service.tryPoll = (next, true) ∨
      ∃ broken, service.tryPoll = (broken, false) ∧ broken.tryPoll = (next, true) := by
  unfold beginPoll at begins
  cases tried : service.tryPoll with
  | mk attempt fetches =>
      rw [tried] at begins
      cases fetches with
      | true =>
          cases begins
          exact .inl rfl
      | false => exact .inr ⟨attempt, rfl, begins⟩

theorem Paced.entered (paced : service.Paced interval) :
    { service with loop := service.loop.enter }.Paced interval :=
  ⟨paced.interval, paced.live, paced.running⟩

/-- A poll that gets as far as its fetch. -/
theorem Paced.fetching (paced : service.Paced interval)
    (tried : service.tryPoll = (next, true)) : next.Fetching interval := by
  obtain ⟨fits, rfl⟩ := tryPoll_eq_true tried
  exact ⟨paced.entered, fits, by simp [Poll.Loop.enter]; rfl⟩

theorem finishPoll_crash_meter :
    (service.finishPoll takes (.error .crash)).meter = service.meter := by
  rw [finishPoll_meter, Meter.poll_crash]

theorem Paced.going_of_crash (paced : service.Paced interval) (takes : Span) :
    (service.finishPoll takes (.error .crash)).loop.ended = false := by
  rw [finishPoll_loop, Meter.poll_crash]
  simp [outcome, Poll.Loop.leave, Poll.Outcome.isCancellation, paced.live, paced.running]

/-- A cancelled fetch ends the loop. -/
theorem ended_of_cancellation (service : Service) (takes : Span) (cause : Cancelled)
    (fits : (service.meter.elapsed? service.loop.told).isSome) :
    (service.finishPoll takes (.error (.error (.cancelled cause)))).loop.ended = true := by
  obtain ⟨elapsed, fits⟩ := Option.isSome_iff_exists.mp fits
  have polled : (service.meter.poll service.loop.told (.error (.error (.cancelled cause)))
      service.loop.cancelled).2 = .error (.error (.cancelled cause)) := by
    cases cause
    simp [Meter.poll, fits]
  rw [finishPoll_loop, polled]
  rfl

theorem regular_zero (interval : Span) : Poll.Regular interval .zero where
  cycles := by simp [Poll.maxCycles]
  slot := by simpa [slot] using interval.nanos_le_maxNanos

end Beginnings

section Fetches

variable {service next : Service} {interval takes : Span} {begun : Nat} {base : Snapshot}
  {done : List Reading} {reading : Reading} {result : Attempt FetchError Snapshot}

theorem Covers.finishPoll (covers : service.Covers begun base done)
    (fetching : service.Fetching interval)
    (follows : service.Follows (service.finishPoll takes result))
    (unread : (Reading.fetched takes result).snapshot? = none)
    (going : (service.finishPoll takes result).loop.ended = false) :
    (service.finishPoll takes result).Covers begun base
      (done ++ [.fetched takes result]) := by
  obtain ⟨lost, spans, sound, spared⟩ := covers
  obtain ⟨elapsed, fits⟩ := Option.isSome_iff_exists.mp fetching.fits
  have later := follows.now
  rcases result with (error | _) | current
  · let round : Meter.Round :=
      ⟨service.loop.told, .error (.error error), service.loop.cancelled⟩
    have missed : round.isMissed = true := by
      refine Meter.Round.isMissed_iff.mpr ⟨fetching.live, error, rfl, ?_⟩
      rintro cause rfl
      have ended := ended_of_cancellation service takes cause fetching.fits
      rw [ended] at going
      cases going
    have kept := Meter.poll_of_missed fits missed
    rw [if_pos (by simp [spans.based])] at kept
    have spansOn := spans.of_missed follows fits kept
    refine ⟨lost, spansOn, ?_, ?_⟩
    · intro nothing other inside
      rcases List.mem_append.mp inside with before | own
      · exact sound nothing other before
      · rw [List.mem_singleton.mp own]
        rfl
    · intro whole short
      exact spared (fun other inside => whole other (by simp [inside])) (by omega)
  · -- the fetch took the whole poll down before its time was noted
    have spansOn := spans.of_untouched follows finishPoll_crash_meter
    have told := spans.told_pos
    refine ⟨lost + service.loop.told.nanos, spansOn, ?_, ?_⟩
    · intro nothing
      omega
    · intro whole
      have broke := whole (.fetched takes (.error .crash)) (by simp)
      cases broke
  · cases unread

theorem Fetching.poll_of_reading (fetching : service.Fetching interval) (current : Snapshot) :
    ∃ elapsed, service.meter.elapsed? service.loop.told = some elapsed ∧
      service.meter.poll service.loop.told (.ok current) service.loop.cancelled =
        ((service.meter.accept current elapsed).1,
          .ok (service.meter.accept current elapsed).2) := by
  obtain ⟨elapsed, fits⟩ := Option.isSome_iff_exists.mp fetching.fits
  let round : Meter.Round := ⟨service.loop.told, .ok current, service.loop.cancelled⟩
  have reads : round.reading? = some current :=
    Meter.Round.reading?_eq_some_iff.mpr ⟨fetching.live, rfl⟩
  exact ⟨elapsed, fits, Meter.poll_of_reading fits reads⟩

/-- The rate that is published after the baseline, and the time that it spans. -/
theorem Covers.publish {current : Snapshot} (covers : service.Covers begun base done)
    (fetching : service.Fetching interval) :
    ∃ elapsed, service.meter.elapsed? service.loop.told = some elapsed ∧
      (service.finishPoll takes (.ok current)).audience =
        Service.publish service.audience (.ok ({ service.meter with
          previous := some current, pending := .zero }.measure base current elapsed).2) ∧
      elapsed.nanos ≤ service.loop.now - begun ∧
      (elapsed.nanos = service.loop.now - begun ↔
        (∀ reading ∈ done, reading.isCrash = false) ∧
          service.loop.now - begun ≤ Span.maxNanos) := by
  obtain ⟨lost, spans, sound, spared⟩ := covers
  obtain ⟨elapsed, fits, polled⟩ := fetching.poll_of_reading current
  have total : elapsed.nanos = service.meter.pending.nanos + service.loop.told.nanos :=
    Span.add?_eq_some_iff.mp fits
  have bound := elapsed.nanos_le_maxNanos
  have now := spans.now
  refine ⟨elapsed, fits, ?_, by omega, ?_⟩
  · rw [finishPoll_audience, polled, Meter.accept, spans.based]
  · constructor
    · intro whole
      exact ⟨sound (by omega), by omega⟩
    · rintro ⟨whole, short⟩
      have := spared whole (by omega)
      omega

theorem Fetching.framed (fetching : service.Fetching interval) (source : List Reading)
    (position : Position) : { service with source, position }.Fetching interval :=
  ⟨⟨fetching.interval, fetching.live, fetching.running⟩, fetching.fits, fetching.entered⟩

theorem Covers.framed (covers : service.Covers begun base done) (source : List Reading)
    (position : Position) : { service with source, position }.Covers begun base done := by
  obtain ⟨lost, spans, exactly⟩ := covers
  exact ⟨lost, ⟨spans.based, spans.told_pos, spans.now⟩, exactly⟩

end Fetches

section Steady

variable {service next : Service} {interval takes : Span} {begun lost : Nat} {base : Snapshot}
  {done readings : List Reading} {reading : Reading}
  (positive : 0 < interval.nanos) (short : interval.nanos ≤ Poll.maxDelay)

include positive short

/-- A poll that breaks down before its fetch does not end the loop. -/
theorem Paced.broken (paced : service.Paced interval)
    (tried : service.tryPoll = (next, false)) :
    next.Paced interval ∧ service.Follows next ∧ next.meter = service.meter := by
  obtain ⟨_, rfl⟩ := tryPoll_eq_false tried
  have entered := paced.entered
  have going := entered.going_of_crash .zero
  have follows := entered.finishPoll_follows positive short (regular_zero interval) going
  exact ⟨entered.finishPoll going, ⟨follows.now, follows.told_pos⟩, finishPoll_crash_meter⟩

/-- Up to the next fetch no time is lost, unless the gap is too long for any span. -/
theorem Spans.begin (spans : service.Spans begun base lost) (paced : service.Paced interval)
    (begins : service.beginPoll = (next, true)) :
    ∃ more, next.Spans begun base (lost + more) ∧ service.loop.now ≤ next.loop.now ∧
      (more = 0 ∨ begun + Span.maxNanos < next.loop.now) := by
  rcases beginPoll_eq_true begins with fetches | ⟨broken, breaks, fetches⟩
  · obtain ⟨_, rfl⟩ := tryPoll_eq_true fetches
    exact ⟨0, ⟨spans.based, spans.told_pos, spans.now⟩, Nat.le_refl _, .inl rfl⟩
  · -- only a sum too long for any span keeps a poll from its fetch
    obtain ⟨pacedOn, follows, untouched⟩ := paced.broken positive short breaks
    have spansOn := spans.of_untouched follows untouched
    have tooLong := Span.add?_eq_none_iff.mp (tryPoll_eq_false breaks).1
    have now := spans.now
    have later := follows.now
    obtain ⟨_, rfl⟩ := tryPoll_eq_true fetches
    refine ⟨service.loop.told.nanos, ⟨spansOn.based, spansOn.told_pos, spansOn.now⟩, ?_, ?_⟩
    · rw [Poll.Loop.enter_now]
      omega
    · rw [Poll.Loop.enter_now]
      exact .inr (by omega)

theorem Paced.begin (paced : service.Paced interval)
    (begins : service.beginPoll = (next, true)) : next.Fetching interval := by
  rcases beginPoll_eq_true begins with fetches | ⟨broken, breaks, fetches⟩
  · exact paced.fetching fetches
  · exact (paced.broken positive short breaks).1.fetching fetches

theorem Covers.begin (covers : service.Covers begun base done) (paced : service.Paced interval)
    (begins : service.beginPoll = (next, true)) : next.Covers begun base done := by
  obtain ⟨lost, spans, sound, spared⟩ := covers
  obtain ⟨more, spansOn, later, none_or_long⟩ := spans.begin positive short paced begins
  refine ⟨lost + more, spansOn, ?_, ?_⟩
  · intro nothing
    exact sound (by omega)
  · intro whole fits
    have := spared whole (by omega)
    omega

theorem Fetching.advance (fetching : service.Fetching interval)
    (advances : service.Advances reading next) : next.Fetching interval := by
  cases advances with
  | read going begins => exact (fetching.toPaced.finishPoll going).begin positive short begins

theorem Covers.advance (covers : service.Covers begun base done)
    (fetching : service.Fetching interval) (regular : reading.Regular interval)
    (unread : reading.snapshot? = none) (advances : service.Advances reading next) :
    next.Covers begun base (done ++ [reading]) := by
  cases advances with
  | read going begins =>
      have follows := fetching.finishPoll_follows positive short regular going
      have polled := covers.finishPoll fetching follows unread going
      exact polled.begin positive short (fetching.toPaced.finishPoll going) begins

/-- With a reading the count starts anew. -/
theorem Fetching.rebase (fetching : service.Fetching interval)
    (regular : Poll.Regular interval takes)
    (advances : service.Advances (.fetched takes (.ok base)) next) :
    next.Covers service.loop.now base [] := by
  cases advances with
  | read going begins =>
      obtain ⟨elapsed, _, polled⟩ := fetching.poll_of_reading base
      have taken : (service.finishPoll takes (.ok base)).meter =
          (service.meter.accept base elapsed).1 := by
        rw [finishPoll_meter, polled]
      have follows := fetching.finishPoll_follows positive short regular going
      have fresh : (service.finishPoll takes (.ok base)).Covers service.loop.now base [] :=
        ⟨0, .of_reading follows taken, by simp, fun _ _ => rfl⟩
      exact fresh.begin positive short (fetching.toPaced.finishPoll going) begins

theorem Fetching.readOn (fetching : service.Fetching interval)
    (waits : (service.readOn readings).position = .waiting) :
    (service.readOn readings).Fetching interval := by
  apply readOn_keeps (fun _ service => service.Fetching interval) [] ?_ ?_ waits fetching
  · intro _ _ _ _ fetching _ advances
    exact fetching.advance positive short advances
  · intro _ _ _ _ fetching
    exact fetching.framed _ _

/-- Over polls without a reading, up to a later fetch. -/
theorem Covers.readOn (covers : service.Covers begun base done)
    (fetching : service.Fetching interval)
    (regular : ∀ reading ∈ readings, reading.Regular interval)
    (unread : ∀ reading ∈ readings, reading.snapshot? = none)
    (waits : (service.readOn readings).position = .waiting) :
    (service.readOn readings).Covers begun base (done ++ readings) := by
  let property := fun done service => Covers begun base done service ∧ service.Fetching interval
  refine (readOn_keeps property done ?_ ?_ waits ⟨covers, fetching⟩).1
  · rintro done service reading next ⟨covers, fetching⟩ inside advances
    have covered := covers.advance positive short fetching (regular reading inside)
      (unread reading inside) advances
    exact ⟨covered, fetching.advance positive short advances⟩
  · rintro done service source position ⟨covers, fetching⟩
    exact ⟨covers.framed source position, fetching.framed source position⟩

end Steady

theorem fetching_of_inside {settings : Settings} {source readings : List Reading}
    {fresh service : Service} {audience : Audience}
    (built : Service.new settings source = .ok fresh)
    (short : settings.interval.nanos ≤ Poll.maxDelay)
    (inside : { fresh with audience }.Inside readings service) :
    0 < settings.interval.nanos ∧ service.Fetching settings.interval := by
  obtain ⟨positive, loop⟩ := new_eq_ok built
  have waits := inside.2
  obtain ⟨lifecycle, opened, begins, rfl, _⟩ := inside.opens
  have paced : { fresh with audience, lifecycle }.Paced settings.interval := by
    constructor <;> rw [loop] <;> rfl
  have fetching := paced.begin positive short begins
  exact ⟨positive, fetching.readOn positive short waits⟩

/-- A rate is published for a reading after an earlier one, with polls in between that
gave none. The time that it is divided by is at most the time from the start of the
earlier poll to that of the later one, and all of it just if no fetch in between broke
down, unless that time is too long for any span. -/
theorem rate_spans_gap_iff {settings : Settings} {source : List Reading} {fresh : Service}
    (built : Service.new settings source = .ok fresh)
    (short : settings.interval.nanos ≤ Poll.maxDelay) (audience : Audience)
    {before between : List Reading} {earlier : Span} {base : Snapshot}
    (regular : ∀ reading ∈ Reading.fetched earlier (.ok base) :: between,
      reading.Regular settings.interval)
    (unread : ∀ reading ∈ between, reading.snapshot? = none)
    {reader publisher : Service} (reads : { fresh with audience }.Inside before reader)
    (publishes : { fresh with audience }.Inside
      (before ++ Reading.fetched earlier (.ok base) :: between) publisher)
    (takes : Span) (current : Snapshot) :
    (∀ after, { fresh with
        audience
        source := before ++ Reading.fetched earlier (.ok base) :: between ++
          Reading.fetched takes (.ok current) :: after }.start =
      .ok (publisher.readOn (.fetched takes (.ok current) :: after))) ∧
    ∃ first last elapsed, reader.loop.entries.back? = some first ∧
      publisher.loop.entries.back? = some last ∧
      publisher.meter.elapsed? last.told = some elapsed ∧
      (publisher.finishPoll takes (.ok current)).audience =
        publish publisher.audience (.ok ({ publisher.meter with
          previous := some current, pending := .zero }.measure base current elapsed).2) ∧
      elapsed.nanos ≤ last.began - first.began ∧
      (elapsed.nanos = last.began - first.began ↔
        (∀ reading ∈ between, reading.isCrash = false) ∧
          last.began - first.began ≤ Span.maxNanos) := by
  refine ⟨fun after => publishes.start_append _, ?_⟩
  obtain ⟨positive, fetching⟩ := fetching_of_inside built short reads
  obtain ⟨_, fetchingOn⟩ := fetching_of_inside built short publishes
  have further := reads.eq_readOn publishes
  subst further
  have waits := publishes.2
  obtain ⟨next, advances⟩ := advances_of_waiting waits
  rw [advances.readOn] at waits fetchingOn ⊢
  have rebased := fetching.rebase positive short (regular _ List.mem_cons_self) advances
  have covers := rebased.readOn positive short (fetching.advance positive short advances)
    (fun reading inside => regular reading (List.mem_cons_of_mem _ inside)) unread waits
  obtain ⟨elapsed, spans, published, within, exactly⟩ := covers.publish fetchingOn
  exact ⟨_, _, elapsed, fetching.entered, fetchingOn.entered, spans, published, within,
    exactly⟩

def perSecond : Settings := ⟨.ofParts 1 0, ⟨5, 2.0, 1.0⟩, .ofParts 5 0⟩

/-- A service at one poll a second with one subscriber. -/
def observed (readings : List Reading) : Service :=
  let window : Ring Float := ⟨#[], 5, 0, Nat.zero_le 5, Nat.succ_pos 4, fun _ => rfl⟩
  let filter : Spike.Filter := ⟨⟨window, 2.0, 1.0⟩, 0.0⟩
  ⟨perSecond, readings, .notStarted, .new perSecond.interval, ⟨none, .zero, filter, filter⟩,
    (Audience.empty.subscribe Audience.defaultCapacity).1, .notStarted⟩

theorem rate_spans_gap_iff_timeout :
    let failing := Reading.fetched (.ofParts 1 500000000)
      (.error (.error (.timeout (.ofParts 1 500000000))))
    let readings := [.fetched .zero (.ok ⟨0, 0, .bits64⟩), failing]
    ∃ publisher elapsed, (observed []).Inside readings publisher ∧
      publisher.loop.entries.back? = some ⟨3000000000, .ofParts 2 0⟩ ∧
      publisher.meter.elapsed? (.ofParts 2 0) = some elapsed ∧
      elapsed.nanos = 3000000000 := by
  intro failing readings
  have built : Service.new perSecond [] = .ok { observed [] with audience := .empty } := rfl
  obtain ⟨reader, reads, began⟩ : ∃ reader, (observed []).Inside [] reader ∧
      reader.loop.entries.back? = some ⟨0, .ofParts 1 0⟩ :=
    Inside.of_seen (fun service => service.loop.entries.back?) (by decide +kernel)
  obtain ⟨publisher, publishes, ends⟩ : ∃ publisher, (observed []).Inside readings publisher ∧
      publisher.loop.entries.back? = some ⟨3000000000, .ofParts 2 0⟩ :=
    Inside.of_seen (fun service => service.loop.entries.back?) (by decide +kernel)
  have short : perSecond.interval.nanos ≤ Poll.maxDelay := by decide
  have regular : ∀ reading ∈ readings, reading.Regular perSecond.interval := by
    simp only [readings, failing, List.mem_cons, List.not_mem_nil, or_false]
    rintro reading (rfl | rfl) <;> exact ⟨by decide, by decide⟩
  obtain ⟨_, first, last, elapsed, atFirst, atLast, spans, _, _, exactly⟩ :=
    rate_spans_gap_iff built short (observed []).audience regular
      (by simp [failing, Reading.snapshot?]) reads publishes .zero ⟨3000, 3000, .bits64⟩
  obtain rfl := Option.some.inj (began.symm.trans atFirst)
  obtain rfl := Option.some.inj (ends.symm.trans atLast)
  have whole := exactly.mpr ⟨by simp [failing, Reading.isCrash], by decide⟩
  exact ⟨publisher, elapsed, publishes, ends, spans, whole⟩

/-- A reading, a fetch that breaks down, and another reading. -/
def interrupted : List Reading :=
  [.fetched .zero (.ok ⟨0, 0, .bits64⟩), .fetched .zero (.error .crash),
    .fetched .zero (.ok ⟨2000, 1000, .bits64⟩)]

/-- The counters grow by 2000 and 1000 bytes in the two seconds between the two polls, but
the rate is that of a single second. -/
theorem rate_misses_crashed_poll :
    ∃ reader publisher started, (observed interrupted).Inside [] reader ∧
      reader.loop.entries.back? = some ⟨0, .ofParts 1 0⟩ ∧
      (observed interrupted).Inside (interrupted.take 2) publisher ∧
      publisher.loop.entries.back? = some ⟨2000000000, .ofParts 1 0⟩ ∧
      publisher.meter.elapsed? (.ofParts 1 0) = some (.ofParts 1 0) ∧
      (observed interrupted).start = .ok started ∧
      started.audience.feeds.map Feed.queued = [[⟨2000, 1000⟩]] := by
  obtain ⟨reader, reads, began⟩ : ∃ reader, (observed interrupted).Inside [] reader ∧
      reader.loop.entries.back? = some ⟨0, .ofParts 1 0⟩ :=
    Inside.of_seen (fun service => service.loop.entries.back?) (by decide +kernel)
  obtain ⟨publisher, publishes, ends⟩ : ∃ publisher,
      (observed interrupted).Inside (interrupted.take 2) publisher ∧
        (publisher.loop.entries.back?, publisher.meter.elapsed? (.ofParts 1 0)) =
          (some ⟨2000000000, .ofParts 1 0⟩, some (.ofParts 1 0)) :=
    Inside.of_seen
      (fun service => (service.loop.entries.back?, service.meter.elapsed? (.ofParts 1 0)))
      (by decide +kernel)
  obtain ⟨started, ⟨starts, _⟩, sent⟩ : ∃ started,
      (observed interrupted).Inside interrupted started ∧
        started.audience.feeds.map Feed.queued = [[⟨2000, 1000⟩]] :=
    Inside.of_seen (fun service => service.audience.feeds.map Feed.queued) (by decide +kernel)
  obtain ⟨ends, spans⟩ := Prod.mk.inj ends
  exact ⟨reader, publisher, started, reads, began, publishes, ends, spans, starts, sent⟩

end Service

end TrafficMeter
