import TrafficMeter.Counter.FetchError
import TrafficMeter.Counter.Snapshot

/-! # Fetching with a deadline

A caller hands its fetches to a worker and gives up on one that takes too long or is
cancelled. The worker keeps only the newest of the requests that have queued up, and
replies carry the number of their request, so a reply to a request that was given up
is never taken for another's. Caller, worker and cancellations may interleave in any
way; each event below is one step of one of them.
-/

namespace TrafficMeter.Deadline

/-- A request: its number, and the token of the call that made it. -/
structure Request where
  number : Nat
  token : Nat
  deriving DecidableEq, Repr

/-- A reply: the request it answers, the ordinal of the fetch that gave it, and what
that fetch gave. -/
structure Reply where
  request : Request
  fetch : Nat
  result : Except FetchError Snapshot

/-- What the worker is doing. -/
inductive Worker where
  | idle
  /-- It has taken a request and looks for a newer one. -/
  | holding (request : Request)
  /-- It has found no newer request. -/
  | settled (request : Request)
  /-- It is inside the fetch with that ordinal. -/
  | fetching (request : Request) (fetch : Nat)
  /-- A fetch has broken down and taken the worker with it. -/
  | gone
  deriving DecidableEq, Repr

/-- How a call ends. -/
inductive Answer where
  | replied (reply : Reply)
  | refused (error : FetchError)

/-- The result of a call. -/
def Answer.result : Answer → Except FetchError Snapshot
  | replied reply => reply.result
  | refused error => .error error

/-- The state shared by the caller and the worker. -/
structure Fetcher where
  /-- How long a call waits for its reply. -/
  limit : Span
  /-- The number of the latest request. -/
  lastNumber : Nat
  /-- Requests on their way to the worker, oldest first. -/
  requests : List Request
  /-- Replies on their way to the caller, oldest first. -/
  replies : List Reply
  worker : Worker
  /-- The request that the caller waits for. -/
  waiting : Option Request
  /-- How many fetches the worker has begun. -/
  fetches : Nat
  cancelledTokens : List Nat

/-- One step of the caller, the worker or an owner of a token. -/
inductive Event where
  /-- The caller begins a call. -/
  | call (token : Nat)
  /-- The caller takes the next reply, or learns that none can come. -/
  | receive
  /-- The caller notices that its token is cancelled. -/
  | notice
  /-- The time of the call is over. -/
  | expire
  /-- The worker takes the oldest request. -/
  | take
  /-- The worker goes on to the next request, if there is one. -/
  | advance
  /-- The worker begins the fetch, unless its token is cancelled. -/
  | begin
  /-- The fetch returns. -/
  | finish (result : Except FetchError Snapshot)
  /-- The fetch breaks down. -/
  | breakDown
  /-- A token is cancelled. -/
  | cancel (token : Nat)

namespace Fetcher

/-- A fetcher without requests. -/
def new (limit : Span) : Fetcher := ⟨limit, 0, [], [], .idle, none, 0, []⟩

/-- The error of a call whose worker is gone. -/
def workerGone : FetchError := .unavailable "fetch worker stopped"

def isCancelled (fetcher : Fetcher) (token : Nat) : Bool :=
  fetcher.cancelledTokens.contains token

/-- The caller's call ends. -/
def conclude (fetcher : Fetcher) (answer : Answer) : Option (Fetcher × Option Answer) :=
  some ({ fetcher with waiting := none }, some answer)

/-- A step that ends no call. -/
def proceed (fetcher : Fetcher) : Option (Fetcher × Option Answer) := some (fetcher, none)

/-- The caller begins a call. A cancelled token and a worker that is gone end it at
once; otherwise a request is sent. -/
def call (fetcher : Fetcher) (token : Nat) : Option (Fetcher × Option Answer) :=
  if fetcher.waiting.isSome then none
  else if fetcher.isCancelled token then
    fetcher.conclude (.refused (.cancelled .cancelled))
  else
    let request : Request := ⟨fetcher.lastNumber + 1, token⟩
    let numbered := { fetcher with lastNumber := request.number }
    if fetcher.worker = .gone then numbered.conclude (.refused workerGone)
    else proceed { numbered with
      requests := fetcher.requests ++ [request], waiting := some request }

/-- The caller takes the next reply. One to another request is dropped. -/
def receive (fetcher : Fetcher) : Option (Fetcher × Option Answer) :=
  match fetcher.waiting, fetcher.replies with
  | none, _ => none
  | some request, reply :: replies =>
      let rest := { fetcher with replies }
      if reply.request.number = request.number then rest.conclude (.replied reply)
      else rest.proceed
  | some _, [] =>
      if fetcher.worker = .gone then fetcher.conclude (.refused workerGone) else none

/-- One step; none if it cannot happen now. A step that ends a call gives its
answer. -/
def step (fetcher : Fetcher) : Event → Option (Fetcher × Option Answer)
  | .call token => fetcher.call token
  | .receive => fetcher.receive
  | .notice =>
      match fetcher.waiting with
      | some request =>
          if fetcher.isCancelled request.token then
            fetcher.conclude (.refused (.cancelled .cancelled))
          else none
      | none => none
  | .expire =>
      match fetcher.waiting with
      | some _ => fetcher.conclude (.refused (.timeout fetcher.limit))
      | none => none
  | .take =>
      match fetcher.worker, fetcher.requests with
      | .idle, request :: requests =>
          proceed { fetcher with requests, worker := .holding request }
      | _, _ => none
  | .advance =>
      match fetcher.worker, fetcher.requests with
      | .holding _, newer :: requests =>
          proceed { fetcher with requests, worker := .holding newer }
      | .holding request, [] => proceed { fetcher with worker := .settled request }
      | _, _ => none
  | .begin =>
      match fetcher.worker with
      | .settled request =>
          if fetcher.isCancelled request.token then proceed { fetcher with worker := .idle }
          else proceed { fetcher with
            fetches := fetcher.fetches + 1
            worker := .fetching request (fetcher.fetches + 1) }
      | _ => none
  | .finish result =>
      match fetcher.worker with
      | .fetching request fetch =>
          proceed { fetcher with
            replies := fetcher.replies ++ [⟨request, fetch, result⟩], worker := .idle }
      | _ => none
  | .breakDown =>
      match fetcher.worker with
      | .fetching _ _ => proceed { fetcher with requests := [], worker := .gone }
      | _ => none
  | .cancel token =>
      proceed { fetcher with cancelledTokens := token :: fetcher.cancelledTokens }

/-- Takes those of some events that can happen, in order; gives the first answer. -/
def play (fetcher : Fetcher) : List Event → Fetcher × Option Answer
  | [] => (fetcher, none)
  | event :: events =>
      match fetcher.step event with
      | none => fetcher.play events
      | some (next, answer) =>
          let (last, later) := next.play events
          (last, answer.or later)

end Fetcher

end TrafficMeter.Deadline
