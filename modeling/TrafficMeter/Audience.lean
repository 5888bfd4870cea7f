import TrafficMeter.Counter.Snapshot

/-! # Subscribers

Each subscriber has a queue of its own with a bounded number of updates. A broadcast
reaches every registered queue that has room; a full queue misses the update and
stays registered, and a queue whose receiver is gone is struck off.
-/

namespace TrafficMeter

/-- The queue of one subscriber. -/
structure Feed where
  capacity : Nat
  queued : List Rate
  /-- Whether broadcasts still go to the queue. -/
  registered : Bool
  /-- Whether the receiver is gone. -/
  dropped : Bool
  deriving DecidableEq, Repr

/-- How a drain ends: at its limit, at the end of a live queue, at the end of a queue
that nothing will follow, or at once because the receiver is gone. -/
inductive DrainEnd where
  | limit
  | empty
  | disconnected
  | dropped
  deriving DecidableEq, Repr

/-- The updates that a drain took, and why it stopped. -/
structure Drained where
  rates : List Rate
  ending : DrainEnd
  deriving DecidableEq, Repr

namespace Feed

/-- The largest capacity of a queue: its places take 24 bytes each and must fit into
half of a 64-bit address space. -/
def maxCapacity : Nat := 0x7fffffffffffffff / 24

/-- The queue of a new subscriber. -/
def new (capacity : Nat) : Feed := ⟨capacity, [], true, false⟩

/-- Offers an update to a queue. -/
def offer (rate : Rate) (feed : Feed) : Feed :=
  if !feed.registered then feed
  else if feed.dropped then { feed with registered := false }
  else if feed.queued.length < feed.capacity then
    { feed with queued := feed.queued ++ [rate] }
  else feed

/-- Takes updates without waiting, up to a limit. -/
def drain (feed : Feed) (limit : Option Nat) : Feed × Drained :=
  if feed.dropped then (feed, ⟨[], .dropped⟩)
  else
    let taken := limit.getD (feed.queued.length + 1)
    let ending :=
      if taken ≤ feed.queued.length then DrainEnd.limit
      else if feed.registered then .empty
      else .disconnected
    ({ feed with queued := feed.queued.drop taken }, ⟨feed.queued.take taken, ending⟩)

end Feed

/-- All subscribers so far, in the order of their subscriptions. -/
structure Audience where
  feeds : List Feed
  deriving DecidableEq, Repr

namespace Audience

/-- The number of updates queued for a subscriber that does not say otherwise. -/
def defaultCapacity : Nat := 256

def empty : Audience := ⟨[]⟩

/-- Adds a subscriber; gives its number. -/
def subscribe (audience : Audience) (capacity : Nat) : Audience × Nat :=
  (⟨audience.feeds ++ [.new capacity]⟩, audience.feeds.length)

/-- Adds a subscriber with a queue of any capacity; none if no memory can hold the
queue. -/
def subscribe? (audience : Audience) (capacity : Nat) : Option (Audience × Nat) :=
  if capacity ≤ Feed.maxCapacity then some (audience.subscribe capacity) else none

/-- Sends an update to every subscriber. -/
def broadcast (audience : Audience) (rate : Rate) : Audience :=
  ⟨audience.feeds.map (Feed.offer rate)⟩

/-- The number of registered subscribers. -/
def size (audience : Audience) : Nat := audience.feeds.countP Feed.registered

/-- Takes the updates queued for a subscriber; none for a number that was not given. -/
def drain? (audience : Audience) (number : Nat) (limit : Option Nat) :
    Option (Audience × Drained) :=
  match audience.feeds[number]? with
  | none => none
  | some feed =>
      let (feed, drained) := feed.drain limit
      some (⟨audience.feeds.set number feed⟩, drained)

/-- The receiver of a subscriber goes away. -/
def drop (audience : Audience) (number : Nat) : Audience :=
  ⟨audience.feeds.modify number fun feed => { feed with dropped := true }⟩

/-- Strikes off every subscriber. What is queued can still be drained. -/
def dispose (audience : Audience) : Audience :=
  ⟨audience.feeds.map fun feed => { feed with registered := false }⟩

end Audience

end TrafficMeter
