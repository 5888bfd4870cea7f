import TrafficMeter.Deadline.Fetcher

/-! # A session of fetches

A caller that makes one call after another over a source that counts its fetches. A
fetch may hang until it is released; the calls made meanwhile time out and wait
behind it.
-/

namespace TrafficMeter.Deadline

/-- What the source does in a fetch. -/
inductive Behaviour where
  | succeed
  | fail
  | breakDown
  /-- The fetch hangs and the call times out. -/
  | hang
  /-- The fetch hangs and the call is cancelled. -/
  | hangCancelled
  deriving DecidableEq, Repr

/-- One thing that happens in a session. -/
inductive Action where
  | call (behaviour : Behaviour)
  /-- The current token is cancelled. -/
  | cancel
  /-- A new token replaces the current one. -/
  | newToken
  /-- A hanging fetch returns, and the worker turns to what has queued up. -/
  | release
  deriving DecidableEq, Repr

/-- A fetcher and the token that calls are made with. -/
structure Session where
  fetcher : Fetcher
  token : Nat

namespace Session

def new (limit : Span) : Session := ⟨.new limit, 0⟩

/-- The reading of the source's fetch with a given ordinal. -/
def reading (fetch : Nat) : Snapshot := ⟨UInt64.ofNat fetch, UInt64.ofNat fetch, .bits64⟩

/-- The worker takes up what has queued and begins a fetch. -/
def takeUp (queued : Nat) : List Event :=
  .take :: List.replicate queued .advance ++ [.begin]

/-- The caller takes replies until its own comes. -/
def await (replies : Nat) : List Event := List.replicate (replies + 1) .receive

/-- Whether a fetch hangs. -/
def hangs (session : Session) : Bool :=
  match session.fetcher.worker with
  | .fetching _ _ => true
  | _ => false

/-- The events of a call. -/
def callEvents (session : Session) (behaviour : Behaviour) : List Event :=
  let fetch := session.fetcher.fetches + 1
  let replies := session.fetcher.replies.length
  let called := Event.call session.token
  if session.hangs then [called, .expire]
  else if session.fetcher.worker = .gone then [called]
  else
    called :: takeUp 1 ++ match behaviour with
      | .succeed => .finish (.ok (reading fetch)) :: await replies
      | .fail =>
          .finish (.error (.unavailable ("fetch " ++ Decimal.text fetch))) :: await replies
      | .breakDown => .breakDown :: await replies
      | .hang => [.expire]
      | .hangCancelled => [.cancel session.token, .notice]

/-- The events of releasing a hanging fetch. -/
def releaseEvents (session : Session) : List Event :=
  let fetch := session.fetcher.fetches
  .finish (.ok (reading fetch)) :: takeUp session.fetcher.requests.length ++
    [.finish (.ok (reading (fetch + 1)))]

/-- The events of an action. -/
def events (session : Session) : Action → List Event
  | .call behaviour => session.callEvents behaviour
  | .cancel => [.cancel session.token]
  | .newToken => []
  | .release => session.releaseEvents

/-- Performs an action; a call gives its answer. -/
def perform (session : Session) (action : Action) : Session × Option Answer :=
  let (fetcher, answer) := session.fetcher.play (session.events action)
  let token := if action = .newToken then session.token + 1 else session.token
  (⟨fetcher, token⟩, answer)

end Session

end TrafficMeter.Deadline
