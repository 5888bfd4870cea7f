import TrafficMeter.Proofs.Audience.Delivery
import TrafficMeter.Proofs.Rate.Filtering
import TrafficMeter.Service

/-! # When a receiver is disconnected

All that the calls on a service do to its subscribers are operations on the audience, and
only a disposal disconnects. So a receiver is disconnected just if a disposal came after its
subscription. One that subscribes to a service disposed of before is not refused: it stays
connected, and nothing is ever sent to it.
-/

namespace TrafficMeter

namespace Audience

variable {audience : Audience} {number : Nat} {feed last : Feed} {operations : List Operation}

theorem drains_append (audience : Audience) (number : Nat) (earlier later : List Operation) :
    audience.drains number (earlier ++ later) =
      audience.drains number earlier ++ (audience.run earlier).drains number later := by
  induction earlier generalizing audience with
  | nil => rfl
  | cons operation earlier ih => simp [drains, ih]

theorem drains_broadcasts (audience : Audience) (number : Nat) (rates : List Rate) :
    audience.drains number (rates.map Operation.broadcast) = [] := by
  induction rates generalizing audience with
  | nil => rfl
  | cons rate rates ih => simp [drains, drained?, ih]

theorem admitted_of_silent (silent : ∀ rate, .broadcast rate ∉ operations) :
    audience.admitted number operations = [] := by
  induction operations generalizing audience with
  | nil => rfl
  | cons operation later ih =>
      have further : ∀ rate, .broadcast rate ∉ later := by
        intro rate inside
        exact silent rate (List.mem_cons_of_mem _ inside)
      cases operation with
      | broadcast rate => exact absurd List.mem_cons_self (silent rate)
      | dispose => rfl
      | subscribe | drain | drop => exact ih further

/-- Without a disposal a live subscriber stays registered, or struck off. -/
theorem registered_run (found : audience.feeds[number]? = some feed) (live : feed.dropped = false)
    (kept : .drop number ∉ operations) (standing : .dispose ∉ operations)
    (ends : (audience.run operations).feeds[number]? = some last) :
    last.registered = feed.registered := by
  induction operations generalizing audience feed with
  | nil =>
      cases found.symm.trans ends
      rfl
  | cons operation later ih =>
      rw [List.mem_cons, not_or] at kept standing
      have next := feeds_perform found operation
      have liveOn := (Feed.dropped_follow (Ne.symm kept.1)).trans live
      rw [ih next liveOn kept.2 standing.2 ends]
      exact Feed.registered_follow live (Ne.symm standing.1)

end Audience

namespace Service

/-- A call on a service, or its source going on. -/
inductive Call where
  | subscribe
  | start
  | resume
  | drain (number : Nat) (limit : Option Nat)
  | dispose
  deriving DecidableEq

/-- The service after a call. A start that is refused, and a drain for a number that was not
given, leave it as it is. -/
def perform (service : Service) : Call → Service
  | .subscribe => service.subscribe.1
  | .start =>
      match service.start with
      | .ok started => started
      | .error _ => service
  | .resume => service.resume
  | .drain number limit => ((service.drain? number limit).map Prod.fst).getD service
  | .dispose => service.dispose

def run (service : Service) (calls : List Call) : Service := calls.foldl perform service

/-- What the receiver takes with a call, if that is a drain of its queue. -/
def drained? (service : Service) (number : Nat) : Call → Option Drained
  | .drain other limit =>
      if other = number then (service.drain? number limit).map Prod.snd else none
  | _ => none

/-- What the receiver takes with each of its drains among some calls. -/
def drains (service : Service) (number : Nat) : List Call → List Drained
  | [] => []
  | call :: later =>
      (service.drained? number call).toList ++ (service.perform call).drains number later

@[simp] theorem run_cons (service : Service) (call : Call) (later : List Call) :
    service.run (call :: later) = (service.perform call).run later := rfl

theorem run_append (service : Service) (earlier later : List Call) :
    service.run (earlier ++ later) = (service.run earlier).run later :=
  List.foldl_append

/-- One audience comes from the other by broadcasts. -/
def Sends (first last : Audience) : Prop :=
  ∃ rates : List Rate, last = first.run (rates.map Operation.broadcast)

namespace Sends

variable {first second last : Audience}

theorem refl (audience : Audience) : Sends audience audience := ⟨[], rfl⟩

theorem trans (early : Sends first second) (late : Sends second last) : Sends first last := by
  obtain ⟨earlier, rfl⟩ := early
  obtain ⟨later, rfl⟩ := late
  exact ⟨earlier ++ later, by rw [List.map_append, Audience.run_append]⟩

end Sends

section Broadcasts

variable (service : Service)

theorem sends_publish (audience : Audience) (polled : Attempt FetchError (Option Rate)) :
    Sends audience (publish audience polled) := by
  rcases polled with fault | (_ | rate)
  · exact .refl audience
  · exact .refl audience
  · exact ⟨[rate], rfl⟩

theorem publish_of_silent (audience : Audience) {polled : Attempt FetchError (Option Rate)}
    (silent : Meter.rate? polled = none) : publish audience polled = audience := by
  rcases polled with fault | (_ | rate)
  · rfl
  · rfl
  · cases silent

/-- A fetch that gives no reading sends nothing. -/
theorem finishPoll_audience_of_fault (takes : Span) (fault : Fault FetchError) :
    (service.finishPoll takes (.error fault)).audience = service.audience := by
  let round : Meter.Round := ⟨service.loop.told, .error fault, service.loop.cancelled⟩
  have unread : round.reading? = none := by simp [Meter.Round.reading?, round]
  have silent : Meter.rate? (service.meter.poll round.since round.fetched round.cancelled).2 =
      none := Meter.rate?_of_unread unread
  exact publish_of_silent service.audience silent

theorem tryPoll_audience : service.tryPoll.1.audience = service.audience := by
  unfold tryPoll
  dsimp only
  split
  · rfl
  · exact finishPoll_audience_of_fault _ _ _

theorem beginPoll_audience : service.beginPoll.1.audience = service.audience := by
  have first := service.tryPoll_audience
  unfold beginPoll
  cases tried : service.tryPoll with
  | mk next fetches =>
      rw [tried] at first
      cases fetches with
      | true => exact first
      | false => exact next.tryPoll_audience.trans first

theorem sends_readOn (readings : List Reading) :
    Sends service.audience (service.readOn readings).audience := by
  induction readings generalizing service with
  | nil => exact .refl _
  | cons reading readings ih =>
      cases reading with
      | pause => exact .refl _
      | fetched takes result =>
          have sends : Sends service.audience (service.finishPoll takes result).audience :=
            sends_publish _ _
          have begins := beginPoll_audience (service.finishPoll takes result)
          simp only [readOn]
          split
          · exact sends
          · cases begun : (service.finishPoll takes result).beginPoll with
            | mk next fetches =>
                rw [begun] at begins
                rw [← begins] at sends
                cases fetches with
                | true => exact sends.trans (ih next)
                | false => exact sends

theorem sends_start {started : Service} (starts : service.start = .ok started) :
    Sends service.audience started.audience := by
  cases begun : service.lifecycle.start with
  | error refusal => simp [start, begun, bind, Except.bind] at starts
  | ok lifecycle =>
      have begins := beginPoll_audience { service with lifecycle }
      simp only [start, begun, bind, Except.bind, pure, Except.pure] at starts
      cases opening : { service with lifecycle }.beginPoll with
      | mk opened fetches =>
          rw [opening] at begins starts
          have kept : opened.audience = service.audience := begins
          cases fetches with
          | true =>
              cases starts
              rw [← kept]
              exact opened.sends_readOn _
          | false =>
              cases starts
              rw [← kept]
              exact .refl _

theorem sends_resume : Sends service.audience service.resume.audience := by
  unfold resume
  split
  · exact service.sends_readOn _
  · exact .refl _

/-- Disposing of the loop sends nothing, so that a disposal only disconnects. -/
theorem dispose_audience : service.dispose.audience = service.audience.dispose := by
  let cancelled : Service := { service with
    lifecycle := .disposed
    loop := { service.loop with cancelled := true } }
  have finishes : (cancelled.finishPoll .zero
      (.error (.error (.cancelled .cancelled)))).audience = service.audience :=
    cancelled.finishPoll_audience_of_fault .zero _
  have stopped : service.stopLoop.audience = service.audience := by
    simp only [stopLoop]
    split
    · exact finishes
    · exact finishes
    · rfl
    · rfl
  rw [dispose, stopped]

theorem perform_drain (number : Nat) (limit : Option Nat) :
    service.perform (.drain number limit) =
      { service with audience := service.audience.perform (.drain number limit) } := by
  cases drains : service.audience.drain? number limit <;>
    simp [perform, drain?, Audience.perform, drains]

end Broadcasts

/-- The service has been disposed of, and no fetch stands still any more. -/
structure Closed (service : Service) : Prop where
  disposed : service.lifecycle = .disposed
  idle : service.position ≠ .paused

namespace Closed

variable {service : Service}

theorem of_dispose (service : Service) : service.dispose.Closed := by
  unfold dispose stopLoop
  cases standing : service.position <;> constructor <;> simp [finishPoll]

theorem start_eq (closed : service.Closed) : service.perform .start = service := by
  simp [Service.perform, start, closed.disposed, Poll.Lifecycle.start, bind, Except.bind]

theorem resume_eq (closed : service.Closed) : service.perform .resume = service := by
  simp only [Service.perform, resume]
  split
  · exact absurd ‹_› closed.idle
  · rfl

theorem perform (closed : service.Closed) (call : Call) : (service.perform call).Closed := by
  cases call with
  | dispose => exact .of_dispose service
  | start => rwa [closed.start_eq]
  | resume => rwa [closed.resume_eq]
  | subscribe => exact ⟨closed.disposed, closed.idle⟩
  | drain number limit =>
      rw [perform_drain]
      exact ⟨closed.disposed, closed.idle⟩

theorem run (closed : service.Closed) (calls : List Call) : (service.run calls).Closed := by
  induction calls generalizing service with
  | nil => exact closed
  | cons call later ih => exact ih (closed.perform call)

theorem of_mem {calls : List Call} (disposed : .dispose ∈ calls) (service : Service) :
    (service.run calls).Closed := by
  obtain ⟨early, late, rfl⟩ := List.append_of_mem disposed
  rw [run_append]
  exact (of_dispose _).run late

end Closed

/-- What some calls do to a receiver, as operations on the audience. -/
structure Enacts (number : Nat) (operations : List Operation) (service : Service)
    (calls : List Call) : Prop where
  audience : (service.run calls).audience = service.audience.run operations
  drains : service.audience.drains number operations = service.drains number calls
  kept : .drop number ∉ operations
  disposes : .dispose ∈ operations ↔ .dispose ∈ calls
  silent : service.Closed → ∀ rate, .broadcast rate ∉ operations

namespace Enacts

variable {service : Service} {number : Nat} {call : Call} {later : List Call}
  {first rest : List Operation}

/-- A call that at most sends something, and sends nothing once the service is closed. -/
theorem of_sends (sends : Sends service.audience (service.perform call).audience)
    (still : service.Closed → service.perform call = service)
    (undrained : service.drained? number call = none) (standing : call ≠ .dispose) :
    ∃ operations, Enacts number operations service [call] := by
  -- the rates that were sent are not known, except that a closed service sends none
  by_cases closed : service.Closed
  · refine ⟨[], ?_, ?_, ?_, ?_, ?_⟩
    · exact congrArg Service.audience (still closed)
    · simp [Service.drains, Audience.drains, undrained]
    · simp
    · simpa using standing.symm
    · simp
  · obtain ⟨rates, sent⟩ := sends
    refine ⟨rates.map Operation.broadcast, sent, ?_, ?_, ?_, ?_⟩
    · rw [Audience.drains_broadcasts]
      simp [Service.drains, undrained]
    · simp
    · simpa using standing.symm
    · exact fun done => absurd done closed

theorem of_call (service : Service) (number : Nat) (call : Call) :
    ∃ operations, Enacts number operations service [call] := by
  cases call with
  | start =>
      refine of_sends ?_ Closed.start_eq rfl (by simp)
      cases starts : service.start with
      | ok started => simpa [perform, starts] using service.sends_start starts
      | error refusal => simpa [perform, starts] using Sends.refl service.audience
  | resume => exact of_sends service.sends_resume Closed.resume_eq rfl (by simp)
  | subscribe =>
      refine ⟨[.subscribe Audience.defaultCapacity], rfl, rfl, ?_, ?_, ?_⟩ <;> simp
  | drain other limit =>
      refine ⟨[.drain other limit], ?_, ?_, ?_, ?_, ?_⟩
      · simp only [run_cons, perform_drain]
        rfl
      · simp [Audience.drains, Audience.drained?, Service.drains, drained?, drain?,
          Function.comp_def]
      all_goals simp
  | dispose =>
      refine ⟨[.dispose], service.dispose_audience, rfl, ?_, ?_, ?_⟩ <;> simp

theorem cons (head : Enacts number first service [call])
    (tail : Enacts number rest (service.perform call) later) :
    Enacts number (first ++ rest) service (call :: later) := by
  have performed : (service.perform call).audience = service.audience.run first := head.audience
  have taken : service.audience.drains number first = (service.drained? number call).toList := by
    simpa [Service.drains] using head.drains
  constructor
  · rw [Audience.run_append, ← performed]
    exact tail.audience
  · rw [Audience.drains_append, ← performed, taken, tail.drains]
    rfl
  · simp [head.kept, tail.kept]
  · have disposes := head.disposes
    simp only [List.mem_singleton] at disposes
    simp [disposes, tail.disposes]
  · intro closed rate inside
    rcases List.mem_append.mp inside with early | late
    · exact head.silent closed rate early
    · exact tail.silent (closed.perform call) rate late

end Enacts

theorem exists_enacts (service : Service) (number : Nat) (calls : List Call) :
    ∃ operations, Enacts number operations service calls := by
  induction calls generalizing service with
  | nil => exact ⟨[], rfl, rfl, by simp, by simp, by simp⟩
  | cons call later ih =>
      obtain ⟨first, head⟩ := Enacts.of_call service number call
      obtain ⟨rest, tail⟩ := ih (service.perform call)
      exact ⟨first ++ rest, head.cons tail⟩

section Receivers

variable {service : Service} {number : Nat} {feed last : Feed} {calls : List Call}

/-- After some calls a live receiver is registered just if no disposal was among them. -/
theorem feeds_run (found : service.audience.feeds[number]? = some feed)
    (live : feed.dropped = false) (calls : List Call) :
    ∃ last, (service.run calls).audience.feeds[number]? = some last ∧ last.dropped = false ∧
      last.registered = (feed.registered && !decide (.dispose ∈ calls)) := by
  obtain ⟨operations, enacts⟩ := exists_enacts service number calls
  obtain ⟨last, ends⟩ := Audience.feeds_run operations found
  obtain ⟨liveLast, struck⟩ := Audience.flags_run found live enacts.kept ends
  refine ⟨last, by rw [enacts.audience, ends], liveLast, ?_⟩
  by_cases disposed : .dispose ∈ calls
  · simp [disposed, struck (.inr (enacts.disposes.mpr disposed))]
  · have standing : .dispose ∉ operations := fun inside => disposed (enacts.disposes.mp inside)
    simp [disposed, Audience.registered_run found live enacts.kept standing ends]

theorem drain_to_end (found : service.audience.feeds[number]? = some feed)
    (live : feed.dropped = false) {limit : Option Nat}
    (enough : ∀ taken ∈ limit, feed.queued.length < taken) :
    (service.drain? number limit).map Prod.snd =
      some ⟨feed.queued, if feed.registered then .empty else .disconnected⟩ := by
  rw [drain?, Audience.drain?_of_feed found, Option.map_some, Option.map_some,
    Feed.drain_whole live enough]

/-- A receiver takes what it had queued when the service was disposed of. -/
theorem rates_of_disposed (found : service.audience.feeds[number]? = some feed)
    (live : feed.dropped = false)
    (ends : (service.dispose.run calls).audience.feeds[number]? = some last) :
    (service.dispose.drains number calls).flatMap Drained.rates ++ last.queued = feed.queued := by
  obtain ⟨operations, enacts⟩ := exists_enacts service.dispose number calls
  have struck : service.audience.dispose.feeds[number]? =
      some { feed with registered := false } := Audience.feeds_perform found .dispose
  rw [enacts.audience, service.dispose_audience] at ends
  rw [← enacts.drains, service.dispose_audience]
  exact (Audience.rates_append_of_struck struck live rfl enacts.kept ends).trans rfl

/-- A service that is closed sends nothing more to a receiver that is still registered. -/
theorem rates_of_closed (closed : service.Closed)
    (found : service.audience.feeds[number]? = some feed)
    (live : feed.dropped = false) (registered : feed.registered = true)
    (ends : (service.run calls).audience.feeds[number]? = some last) :
    (service.drains number calls).flatMap Drained.rates ++ last.queued = feed.queued := by
  obtain ⟨operations, enacts⟩ := exists_enacts service number calls
  rw [enacts.audience] at ends
  have balance := Audience.rates_append_of_registered found live registered enacts.kept ends
  rwa [enacts.drains, Audience.admitted_of_silent (enacts.silent closed),
    List.append_nil] at balance

end Receivers

/-- A receiver is disconnected just if a disposal came after its subscription, and takes what
it had queued by then. If the only disposals came before, it stays connected, with nothing
ever queued. -/
theorem disconnected_iff_disposed_since (service : Service) (before after : List Call) :
    let subscribed := (service.run before).subscribe.1
    let number := (service.run before).subscribe.2
    ∃ feed, (subscribed.run after).audience.feeds[number]? = some feed ∧
      (∀ limit, (∀ taken ∈ limit, feed.queued.length < taken) →
        ((subscribed.run after).drain? number limit).map Prod.snd =
          some ⟨feed.queued, if .dispose ∈ after then .disconnected else .empty⟩) ∧
      (∀ early late, after = early ++ .dispose :: late →
        ∃ held, (subscribed.run early).audience.feeds[number]? = some held ∧
          ((subscribed.run early).dispose.drains number late).flatMap Drained.rates ++
            feed.queued = held.queued) ∧
      (.dispose ∈ before →
        (subscribed.drains number after).flatMap Drained.rates ++ feed.queued = []) := by
  intro subscribed number
  have found : subscribed.audience.feeds[number]? = some (.new Audience.defaultCapacity) := by
    simp [subscribed, number, subscribe, Audience.subscribe]
  obtain ⟨feed, ends, live, registered⟩ := feeds_run found rfl after
  refine ⟨feed, ends, ?_, ?_, ?_⟩
  · intro limit enough
    rw [drain_to_end ends live enough, registered]
    by_cases disposed : .dispose ∈ after <;> simp [Feed.new, disposed]
  · rintro early late rfl
    obtain ⟨held, still, heldLive, _⟩ := feeds_run found rfl early
    rw [run_append] at ends
    exact ⟨held, still, rates_of_disposed still heldLive ends⟩
  · intro disposed
    have closed : subscribed.Closed := (Closed.of_mem disposed service).perform .subscribe
    exact rates_of_closed closed found rfl rfl ends

/-- A service that has not been started, and whose source has nothing to read. -/
def idle : Service :=
  let second := Span.ofParts 1 0
  ⟨⟨second, ⟨1, 2.0, 1.0⟩, .ofParts 20 0⟩, [], .notStarted, .new second, Meter.outageMeter,
    .empty, .notStarted⟩

/-- Who subscribes to a service that has been disposed of is left waiting. -/
theorem late_receiver_left_waiting :
    Service.new idle.settings [] = .ok idle ∧
      let (subscribed, number) := (idle.run [.dispose]).subscribe
      subscribed.lifecycle = .disposed ∧
        (subscribed.drain? number none).map Prod.snd = some ⟨[], .empty⟩ := by
  refine ⟨rfl, rfl, ?_⟩
  rfl

end Service

end TrafficMeter
