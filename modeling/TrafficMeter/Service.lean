import TrafficMeter.Audience
import TrafficMeter.Poll.Loop
import TrafficMeter.Rate.Meter

/-! # The rate service

Polls a source of readings on the poll loop and sends every rate to the subscribers.
A failed poll is skipped and the next good one spans the gap; a cancelled one ends
the loop.
-/

namespace TrafficMeter

/-- What a source gives to a fetch. -/
inductive Reading where
  /-- The fetch takes some time and gives a result. -/
  | fetched (takes : Span) (result : Attempt FetchError Snapshot)
  /-- The fetch stops until it is resumed, then goes on with the next reading. -/
  | pause

/-- Where the loop of a service is. -/
inductive Position where
  | notStarted
  /-- Inside a fetch that has stopped. -/
  | paused
  /-- Inside a fetch after the last reading. -/
  | waiting
  /-- The loop is over. -/
  | ended
  /-- Every further poll breaks down before its fetch. -/
  | failing
  deriving DecidableEq, Repr

/-- A service with the readings that its source has left. -/
structure Service where
  settings : Settings
  source : List Reading
  lifecycle : Poll.Lifecycle
  loop : Poll.Loop
  meter : Meter
  audience : Audience
  position : Position

namespace Service

/-- A service that has not been started. The settings are checked before anything
else is built. -/
def new (settings : Settings) (source : List Reading) : Attempt SettingsError Service := do
  settings.validate
  let meter ← (Meter.new settings.filter).widen SettingsError.filter
  return ⟨settings, source, .notStarted, .new settings.interval, meter, .empty, .notStarted⟩

/-- What a poll with a given result does to the loop: only a cancellation is passed
on. -/
def outcome (takes : Span) : Attempt FetchError (Option Rate) → Poll.Outcome
  | .ok _ => ⟨takes, false, .ok ()⟩
  | .error .crash => ⟨takes, false, .error .crash⟩
  | .error (.error (.cancelled cause)) =>
      ⟨takes, false, .error (.error (.of (.fetch (.cancelled cause))))⟩
  | .error (.error _) => ⟨takes, false, .ok ()⟩

/-- Sends the rate of a poll to the subscribers, if it has one. -/
def publish (audience : Audience) : Attempt FetchError (Option Rate) → Audience
  | .ok (some rate) => audience.broadcast rate
  | _ => audience

/-- The poll that is under way gets the result of its fetch. -/
def finishPoll (service : Service) (takes : Span) (fetched : Attempt FetchError Snapshot) :
    Service :=
  let (meter, polled) := service.meter.poll service.loop.told fetched service.loop.cancelled
  { service with
    meter
    audience := publish service.audience polled
    loop := service.loop.leave (outcome takes polled) }

/-- The next poll begins, and breaks down at once if the time it would span is too
long. -/
def tryPoll (service : Service) : Service × Bool :=
  let entered := { service with loop := service.loop.enter }
  if (service.meter.elapsed? service.loop.told).isSome then (entered, true)
  else (entered.finishPoll .zero (.error .crash), false)

/-- Begins polls until one gets as far as its fetch. A poll that breaks down before
takes no time, so the one after it stands for a single interval; if that is too long
as well, so are all that follow. -/
def beginPoll (service : Service) : Service × Bool :=
  match service.tryPoll with
  | (service, true) => (service, true)
  | (service, false) => service.tryPoll

/-- Lets the poll under way read the source, and the loop go on, until the source
stops or the loop is over. -/
def readOn (service : Service) : List Reading → Service
  | [] => { service with source := [], position := .waiting }
  | .pause :: source => { service with source, position := .paused }
  | .fetched takes result :: source =>
      let service := service.finishPoll takes result
      if service.loop.ended then { service with source, position := .ended }
      else
        match service.beginPoll with
        | (service, true) => service.readOn source
        | (service, false) => { service with source, position := .failing }

/-- Starts the loop and lets it run. -/
def start (service : Service) : Except Poll.StartError Service := do
  let lifecycle ← service.lifecycle.start
  match { service with lifecycle }.beginPoll with
  | (service, true) => return service.readOn service.source
  | (service, false) => return { service with position := .failing }

/-- Lets a stopped fetch go on. -/
def resume (service : Service) : Service :=
  match service.position with
  | .paused => service.readOn service.source
  | _ => service

/-- Adds a subscriber; gives its number. -/
def subscribe (service : Service) : Service × Nat :=
  let (audience, number) := service.audience.subscribe Audience.defaultCapacity
  ({ service with audience }, number)

/-- Takes the updates queued for a subscriber. -/
def drain? (service : Service) (number : Nat) (limit : Option Nat) :
    Option (Service × Drained) :=
  (service.audience.drain? number limit).map fun (audience, drained) =>
    ({ service with audience }, drained)

/-- Disposes of the loop: it is cancelled, a fetch that stands still is cancelled with
it, and no poll begins any more. -/
def stopLoop (service : Service) : Service :=
  let cancelled := { service with
    lifecycle := .disposed
    loop := { service.loop with cancelled := true } }
  match service.position with
  | .paused | .waiting =>
      { cancelled.finishPoll .zero (.error (.error (.cancelled .cancelled))) with
        position := .ended }
  | .failing => { cancelled with position := .ended }
  | _ => cancelled

/-- Disposes of the service: first of the loop, then of the subscribers. -/
def dispose (service : Service) : Service :=
  let stopped := service.stopLoop
  { stopped with audience := stopped.audience.dispose }

end Service

end TrafficMeter
