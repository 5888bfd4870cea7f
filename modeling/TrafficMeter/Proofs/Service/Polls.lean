import TrafficMeter.Proofs.Poll.Moments
import TrafficMeter.Proofs.Service.Disconnection
import TrafficMeter.Proofs.Service.Gap

/-! # The polls of a service

Whatever is called on a service, its loop and its meter only move by whole polls. Each of them is
told at least one interval. A poll that breaks down before its fetch is followed by one that is
told a single interval; if that breaks down as well, so does every poll from there on.
-/

namespace TrafficMeter.Service

/-- From one moment before a poll to another, with the rounds that the meter has in between. A
poll that breaks down before its fetch counts as a round whose fetch broke down. -/
inductive Polled (first : Service) : List Meter.Round → Service → Prop where
  | refl : Polled first [] first
  /-- Between two polls anything but the loop and the meter may change. -/
  | aside {rounds : List Meter.Round} {service next : Service} :
      Polled first rounds service → next.loop = service.loop → next.meter = service.meter →
        Polled first rounds next
  | fetched {rounds : List Meter.Round} {service entered : Service} (takes : Span)
      (result : Attempt FetchError Snapshot) :
      Polled first rounds service → service.tryPoll = (entered, true) →
        (entered.finishPoll takes result).loop.ended = false →
        Polled first (rounds ++ [⟨service.loop.told, result, service.loop.cancelled⟩])
          (entered.finishPoll takes result)
  | broken {rounds : List Meter.Round} {service next : Service} :
      Polled first rounds service → service.tryPoll = (next, false) →
        Polled first (rounds ++ [⟨service.loop.told, .error .crash, service.loop.cancelled⟩]) next

/-- The next poll is told at least an interval. -/
structure Due (interval : Span) (service : Service) : Prop extends service.Paced interval where
  told : service.loop.interval.nanos ≤ service.loop.told.nanos

section Polls

variable {first service next last : Service} {interval takes : Span}
  {rounds done later : List Meter.Round} {result : Attempt FetchError Snapshot}

theorem Polled.fetch (polled : first.Polled rounds service) (takes : Span)
    (result : Attempt FetchError Snapshot) (fits : service.tryPoll.2 = true)
    (going : (service.tryPoll.1.finishPoll takes result).loop.ended = false) :
    first.Polled (rounds ++ [⟨service.loop.told, result, service.loop.cancelled⟩])
      (service.tryPoll.1.finishPoll takes result) :=
  polled.fetched takes result (Prod.ext rfl fits) going

theorem told_finishPoll (paced : service.Paced interval) (positive : 0 < interval.nanos)
    (going : (service.finishPoll takes result).loop.ended = false) :
    (service.finishPoll takes result).loop.told.nanos =
      min (interval.nanos * min (takes.nanos / interval.nanos + 1) Poll.maxCycles)
        Span.maxNanos := by
  obtain rfl := paced.interval
  rw [finishPoll_loop] at going ⊢
  rw [Poll.Loop.leave_of_going going, outcome_takes, Poll.Loop.told, Span.nanos_scale,
    Poll.cycles_limited positive]

theorem Paced.due_finishPoll (paced : service.Paced interval) (positive : 0 < interval.nanos)
    (going : (service.finishPoll takes result).loop.ended = false) :
    (service.finishPoll takes result).Due interval := by
  have pacedOn := paced.finishPoll going
  refine ⟨pacedOn, ?_⟩
  have short := interval.nanos_le_maxNanos
  have once : 0 < min (takes.nanos / interval.nanos + 1) Poll.maxCycles :=
    Nat.lt_min.mpr ⟨Nat.succ_pos _, by decide⟩
  have whole := Nat.le_mul_of_pos_right interval.nanos once
  rw [pacedOn.interval, told_finishPoll paced positive going]
  exact Nat.le_min.mpr ⟨whole, short⟩

/-- A poll that breaks down before its fetch takes no time. -/
theorem Due.broken (due : service.Due interval) (positive : 0 < interval.nanos)
    (tried : service.tryPoll = (next, false)) :
    next.Due interval ∧ next.loop.told = interval ∧ next.meter = service.meter := by
  obtain ⟨_, rfl⟩ := tryPoll_eq_false tried
  have entered := due.entered
  have going := entered.going_of_crash .zero
  refine ⟨entered.due_finishPoll positive going, ?_, finishPoll_crash_meter⟩
  have short := interval.nanos_le_maxNanos
  ext
  rw [told_finishPoll entered positive going]
  simpa [Poll.maxCycles] using Nat.min_eq_left short

theorem Due.polled (due : first.Due interval) (positive : 0 < interval.nanos)
    (polled : first.Polled rounds service) : service.Due interval := by
  induction polled with
  | refl => exact due
  | aside _ loop _ ih =>
      obtain ⟨⟨pace, live, running⟩, told⟩ := ih
      rw [← loop] at pace live running told
      exact ⟨⟨pace, live, running⟩, told⟩
  | fetched _ _ _ tried going ih => exact (ih.fetching tried).toPaced.due_finishPoll positive going
  | broken _ tried ih => exact (ih.broken positive tried).1

/-- Not even a single interval can be added to the time of the missed polls. -/
def Overfull (service : Service) : Prop := service.meter.elapsed? service.loop.interval = none

theorem Due.elapsed?_of_overfull (due : service.Due interval) (overfull : service.Overfull) :
    service.meter.elapsed? service.loop.told = none := by
  have least := due.told
  have long := Span.add?_eq_none_iff.mp overfull
  refine Span.add?_eq_none_iff.mpr ?_
  omega

/-- Once the missed polls leave no room for an interval, all polls break down. -/
theorem Due.polled_of_overfull (due : service.Due interval) (positive : 0 < interval.nanos)
    (overfull : service.Overfull) (polled : service.Polled later last) :
    last.meter = service.meter ∧ last.meter.elapsed? last.loop.told = none := by
  induction polled with
  | refl => exact ⟨rfl, due.elapsed?_of_overfull overfull⟩
  | aside _ loop meter ih => rwa [loop, meter]
  | fetched _ _ _ tried _ ih =>
      have fits := (tryPoll_eq_true tried).1
      rw [ih.2] at fits
      cases fits
  | @broken later before last polled tried ih =>
      -- the meter has not moved, and the next poll is told a single interval
      obtain ⟨dueOn, told, untouched⟩ := (due.polled positive polled).broken positive tried
      have still := untouched.trans ih.1
      refine ⟨still, ?_⟩
      rw [still, told, ← due.interval]
      exact overfull

/-- A poll that breaks down is the only one in a row if the missed polls leave room for an
interval. -/
theorem Due.overfull_of_broken (due : service.Due interval) (positive : 0 < interval.nanos)
    (tried : service.tryPoll = (next, false)) :
    next.meter.elapsed? next.loop.told = none ↔ service.Overfull := by
  obtain ⟨_, told, untouched⟩ := due.broken positive tried
  rw [untouched, told, ← due.interval]
  rfl

/-- All polls from here on break down just if the missed polls leave no room for an interval. -/
theorem Due.overfull_iff (due : service.Due interval) (positive : 0 < interval.nanos) :
    service.Overfull ↔ ∀ later last, service.Polled later last →
      last.meter = service.meter ∧ last.meter.elapsed? last.loop.told = none := by
  constructor
  · intro overfull later last polled
    exact due.polled_of_overfull positive overfull polled
  · intro breaks
    cases tried : service.tryPoll with
    | mk next fetches =>
        cases fetches with
        | true =>
            have fits := (tryPoll_eq_true tried).1
            rw [(breaks [] service .refl).2] at fits
            cases fits
        | false =>
            have again := (breaks _ next (.broken .refl tried)).2
            exact (due.overfull_of_broken positive tried).mp again

end Polls

theorem due_of_new {settings : Settings} {source : List Reading} {fresh : Service}
    (built : Service.new settings source = .ok fresh) :
    0 < settings.interval.nanos ∧ fresh.Due settings.interval := by
  obtain ⟨positive, loop⟩ := new_eq_ok built
  refine ⟨positive, ⟨⟨?_, ?_, ?_⟩, ?_⟩⟩ <;> rw [loop]
  · rfl
  · rfl
  · rfl
  · rw [Poll.Loop.told, Poll.Loop.new, Span.scale_one]

/-- The service is inside the fetch of a poll that has not broken down. -/
def Fetches (first service : Service) : Prop :=
  ∃ rounds before, first.Polled rounds before ∧ before.tryPoll = (service, true)

/-- No poll gets as far as its fetch any more. -/
def Fails (first service : Service) : Prop :=
  ∃ rounds, first.Polled rounds service ∧ service.Overfull

/-- Where a service stands, as far as its polls are concerned. -/
structure Stands (first service : Service) : Prop where
  unstarted : service.lifecycle = .notStarted →
    service.position = .notStarted ∧ first.Polled [] service
  fetching : service.position = .paused ∨ service.position = .waiting → first.Fetches service
  failing : service.position = .failing → first.Fails service

section Calls

variable {first service next : Service} {interval : Span} {rounds : List Meter.Round}

theorem Fetches.aside (fetches : first.Fetches service) (loop : next.loop = service.loop)
    (meter : next.meter = service.meter) : first.Fetches next := by
  obtain ⟨rounds, before, polled, tried⟩ := fetches
  obtain ⟨fits, rfl⟩ := tryPoll_eq_true tried
  change next.loop = before.loop.enter at loop
  change next.meter = before.meter at meter
  refine ⟨rounds, { next with loop := before.loop }, polled.aside rfl meter, ?_⟩
  rw [tryPoll]
  dsimp only
  rw [meter, if_pos fits, ← meter, ← loop]

theorem Fails.aside (fails : first.Fails service) (loop : next.loop = service.loop)
    (meter : next.meter = service.meter) : first.Fails next := by
  obtain ⟨rounds, polled, overfull⟩ := fails
  refine ⟨rounds, polled.aside loop meter, ?_⟩
  rwa [Overfull, loop, meter]

theorem Stands.aside (stands : first.Stands service) (loop : next.loop = service.loop)
    (meter : next.meter = service.meter) (lifecycle : next.lifecycle = service.lifecycle)
    (position : next.position = service.position) : first.Stands next := by
  constructor <;> rw [position]
  · rw [lifecycle]
    intro unstarted
    obtain ⟨standing, polled⟩ := stands.unstarted unstarted
    exact ⟨standing, polled.aside loop meter⟩
  · exact fun standing => (stands.fetching standing).aside loop meter
  · exact fun standing => (stands.failing standing).aside loop meter

theorem Stands.of_fetches (begun : service.lifecycle ≠ .notStarted)
    (going : service.position ≠ .failing) (fetches : first.Fetches service) :
    first.Stands service where
  unstarted unstarted := absurd unstarted begun
  fetching _ := fetches
  failing broken := absurd broken going

theorem Stands.of_fails (begun : service.lifecycle ≠ .notStarted)
    (failing : service.position = .failing) (fails : first.Fails service) :
    first.Stands service where
  unstarted unstarted := absurd unstarted begun
  fetching going := by simp [failing] at going
  failing _ := fails

theorem Stands.of_ended (begun : service.lifecycle ≠ .notStarted)
    (still : service.position = .notStarted ∨ service.position = .ended) :
    first.Stands service where
  unstarted unstarted := absurd unstarted begun
  fetching going := by rcases still with still | still <;> simp [still] at going
  failing broken := by rcases still with still | still <;> simp [still] at broken

theorem position_dispose (service : Service) :
    service.dispose.position = .notStarted ∨ service.dispose.position = .ended := by
  unfold dispose stopLoop
  cases standing : service.position <;> simp

theorem lifecycle_finishPoll (service : Service) (takes : Span)
    (result : Attempt FetchError Snapshot) :
    (service.finishPoll takes result).lifecycle = service.lifecycle := rfl

theorem tryPoll_lifecycle (service : Service) :
    service.tryPoll.1.lifecycle = service.lifecycle := by
  unfold tryPoll
  dsimp only
  split <;> rfl

theorem beginPoll_lifecycle (service : Service) :
    service.beginPoll.1.lifecycle = service.lifecycle := by
  have first := service.tryPoll_lifecycle
  unfold beginPoll
  cases tried : service.tryPoll with
  | mk next fetches =>
      rw [tried] at first
      cases fetches with
      | true => exact first
      | false => exact next.tryPoll_lifecycle.trans first

/-- A start that is not refused begins the first poll. -/
theorem start_eq_ok {started : Service} (starts : service.start = .ok started) :
    service.lifecycle = .notStarted ∧ ∃ next fetches,
      { service with lifecycle := .running }.beginPoll = (next, fetches) ∧
        started = if fetches then next.readOn next.source
          else { next with position := .failing } := by
  cases begun : service.lifecycle.start with
  | error refusal => simp [start, begun, bind, Except.bind] at starts
  | ok lifecycle =>
      obtain ⟨unstarted, rfl⟩ := Poll.Lifecycle.start_eq_ok_iff.mp begun
      simp only [start, begun, bind, Except.bind, pure, Except.pure] at starts
      cases opening : { service with lifecycle := .running }.beginPoll with
      | mk opened fetches =>
          rw [opening] at starts
          refine ⟨unstarted, opened, fetches, rfl, ?_⟩
          cases fetches <;> exact (Except.ok.inj starts).symm

/-- A poll that begins gets as far as its fetch, maybe after one that breaks down. -/
theorem Polled.fetches_begin (polled : first.Polled rounds service)
    (begins : service.beginPoll = (next, true)) : first.Fetches next := by
  rcases beginPoll_eq_true begins with tried | ⟨broken, breaks, tried⟩
  · exact ⟨_, _, polled, tried⟩
  · exact ⟨_, _, polled.broken breaks, tried⟩

/-- If two polls in a row break down, so do all that follow. -/
theorem Polled.fails_begin (polled : first.Polled rounds service) (due : service.Due interval)
    (positive : 0 < interval.nanos) (begins : service.beginPoll = (next, false)) :
    first.Fails next := by
  unfold beginPoll at begins
  cases tried : service.tryPoll with
  | mk broken fetches =>
      rw [tried] at begins
      cases fetches with
      | true => cases begins
      | false =>
          -- the second of the two polls has been told a single interval
          obtain ⟨dueOn, _, untouched⟩ := due.broken positive tried
          obtain ⟨dueLast, _, untouchedOn⟩ := dueOn.broken positive begins
          have breaks := (tryPoll_eq_false begins).1
          have overfull := (due.overfull_of_broken positive tried).mp breaks
          refine ⟨_, (polled.broken tried).broken begins, ?_⟩
          rwa [Overfull, dueLast.interval, untouchedOn, untouched, ← due.interval]

section Runs

variable (due : first.Due interval) (positive : 0 < interval.nanos)

include due positive

theorem Stands.readOn (readings : List Reading) (begun : service.lifecycle ≠ .notStarted)
    (fetches : first.Fetches service) : first.Stands (service.readOn readings) := by
  induction readings generalizing service with
  | nil => exact .of_fetches begun nofun (fetches.aside rfl rfl)
  | cons reading readings ih =>
      cases reading with
      | pause => exact .of_fetches begun nofun (fetches.aside rfl rfl)
      | fetched takes result =>
          obtain ⟨rounds, before, polled, tried⟩ := fetches
          simp only [Service.readOn]
          split
          · exact .of_ended begun (.inr rfl)
          · rename_i running
            have polledOn := polled.fetched takes result tried (Bool.eq_false_iff.mpr running)
            have dueOn := due.polled positive polledOn
            have begunOn := begun
            rw [← lifecycle_finishPoll service takes result, ← beginPoll_lifecycle] at begunOn
            cases begins : (service.finishPoll takes result).beginPoll with
            | mk next fetches =>
                rw [begins] at begunOn
                cases fetches with
                | true => exact ih begunOn (polledOn.fetches_begin begins)
                | false =>
                    have fails := polledOn.fails_begin dueOn positive begins
                    exact .of_fails begunOn rfl (fails.aside rfl rfl)

theorem Stands.start (stands : first.Stands service) {started : Service}
    (starts : service.start = .ok started) : first.Stands started := by
  obtain ⟨unstarted, next, fetches, begins, rfl⟩ := start_eq_ok starts
  have polled := (stands.unstarted unstarted).2
  have opened : first.Polled [] { service with lifecycle := .running } := polled.aside rfl rfl
  have begun : next.lifecycle ≠ .notStarted := by
    have kept := beginPoll_lifecycle { service with lifecycle := .running }
    rw [begins] at kept
    rw [kept]
    exact nofun
  cases fetches with
  | true => exact .readOn due positive _ begun (opened.fetches_begin begins)
  | false =>
      have fails := opened.fails_begin (due.polled positive opened) positive begins
      exact .of_fails begun rfl (fails.aside rfl rfl)

theorem Stands.resume (stands : first.Stands service) : first.Stands service.resume := by
  unfold Service.resume
  split
  · rename_i paused
    have begun : service.lifecycle ≠ .notStarted := by
      intro unstarted
      have standing := (stands.unstarted unstarted).1
      rw [paused] at standing
      cases standing
    exact .readOn due positive _ begun (stands.fetching (.inl paused))
  · exact stands

theorem Stands.perform (stands : first.Stands service) (call : Call) :
    first.Stands (service.perform call) := by
  cases call with
  | subscribe => exact stands.aside rfl rfl rfl rfl
  | drain number limit =>
      rw [perform_drain]
      exact stands.aside rfl rfl rfl rfl
  | start =>
      unfold Service.perform
      cases starts : service.start with
      | ok started => exact stands.start due positive starts
      | error refusal => exact stands
  | resume => exact stands.resume due positive
  | dispose =>
      have disposed := (Closed.of_dispose service).disposed
      refine .of_ended ?_ service.position_dispose
      simp [Service.perform, disposed]

theorem Stands.run (stands : first.Stands service) (calls : List Call) :
    first.Stands (service.run calls) := by
  induction calls generalizing service with
  | nil => exact stands
  | cons call later ih => exact ih (stands.perform due positive call)

end Runs

end Calls

/-- Whatever is called on a new service, it stands inside a fetch of one of its polls, or no
poll gets as far as that any more, or it has not been started or is over. -/
theorem stands_run {settings : Settings} {source : List Reading} {fresh : Service}
    (built : Service.new settings source = .ok fresh) (calls : List Call) :
    fresh.Stands (fresh.run calls) := by
  obtain ⟨positive, due⟩ := due_of_new built
  obtain ⟨_, _, _, rfl⟩ := new_eq built
  refine Stands.run due positive ?_ calls
  constructor
  · exact fun _ => ⟨rfl, .refl⟩
  · simp
  · exact nofun

end TrafficMeter.Service
