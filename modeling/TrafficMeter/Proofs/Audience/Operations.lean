import TrafficMeter.Audience

/-! # Operations on an audience

An audience lives through a sequence of operations. What one of them does to the queue of
a subscriber depends on that queue alone.
-/

namespace TrafficMeter

inductive Operation where
  | subscribe (capacity : Nat)
  | broadcast (rate : Rate)
  | drain (number : Nat) (limit : Option Nat)
  | drop (number : Nat)
  | dispose

namespace Audience

/-- The audience after an operation. A queue that no memory can hold is not made, and a
number that was not given is not drained. -/
def perform (audience : Audience) : Operation → Audience
  | .subscribe capacity => ((audience.subscribe? capacity).map Prod.fst).getD audience
  | .broadcast rate => audience.broadcast rate
  | .drain number limit => ((audience.drain? number limit).map Prod.fst).getD audience
  | .drop number => audience.drop number
  | .dispose => audience.dispose

/-- The audience after some operations. -/
def run (audience : Audience) (operations : List Operation) : Audience :=
  operations.foldl perform audience

/-- What the subscriber takes with an operation, if that is a drain of its queue. -/
def drained? (audience : Audience) (number : Nat) : Operation → Option Drained
  | .drain other limit =>
      if other = number then (audience.drain? number limit).map Prod.snd else none
  | _ => none

/-- What the subscriber takes with each of its drains among some operations. -/
def drains (audience : Audience) (number : Nat) : List Operation → List Drained
  | [] => []
  | operation :: later =>
      (audience.drained? number operation).toList ++
        (audience.perform operation).drains number later

@[simp] theorem run_cons (audience : Audience) (operation : Operation)
    (later : List Operation) :
    audience.run (operation :: later) = (audience.perform operation).run later := rfl

theorem run_append (audience : Audience) (earlier later : List Operation) :
    audience.run (earlier ++ later) = (audience.run earlier).run later :=
  List.foldl_append

end Audience

namespace Feed

/-- What an operation does to the queue of the subscriber with that number. -/
def follow (feed : Feed) (number : Nat) : Operation → Feed
  | .subscribe _ => feed
  | .broadcast rate => feed.offer rate
  | .drain other limit => if other = number then (feed.drain limit).1 else feed
  | .drop other => if other = number then { feed with dropped := true } else feed
  | .dispose => { feed with registered := false }

/-- What the subscriber with that number takes from its queue with an operation. -/
def taken? (feed : Feed) (number : Nat) : Operation → Option Drained
  | .drain other limit => if other = number then some (feed.drain limit).2 else none
  | _ => none

section Offers

variable {feed : Feed} {rate : Rate}

@[simp] theorem dropped_offer : (feed.offer rate).dropped = feed.dropped := by
  unfold offer
  repeat' split
  all_goals rfl

theorem registered_offer (live : feed.dropped = false) :
    (feed.offer rate).registered = feed.registered := by
  unfold offer
  rw [live]
  repeat' split
  all_goals simp_all

theorem offer_of_unregistered (struck : feed.registered = false) : feed.offer rate = feed := by
  simp [offer, struck]

theorem offer_of_room (registered : feed.registered = true) (live : feed.dropped = false)
    (room : feed.queued.length < feed.capacity) :
    feed.offer rate = { feed with queued := feed.queued ++ [rate] } := by
  simp [offer, registered, live, room]

theorem offer_of_full (live : feed.dropped = false)
    (full : ¬ feed.queued.length < feed.capacity) : feed.offer rate = feed := by
  simp [offer, live, full]

end Offers

section Drains

variable {feed : Feed} {limit : Option Nat}

@[simp] theorem registered_drain : (feed.drain limit).1.registered = feed.registered := by
  unfold drain
  split <;> rfl

@[simp] theorem dropped_drain : (feed.drain limit).1.dropped = feed.dropped := by
  unfold drain
  split <;> rfl

/-- A drain moves the front of the queue to the subscriber. -/
theorem rates_append_drain (live : feed.dropped = false) :
    (feed.drain limit).2.rates ++ (feed.drain limit).1.queued = feed.queued := by
  simp [drain, live]

/-- A drain that its limit does not cut off takes all that is queued. -/
theorem drain_whole (live : feed.dropped = false)
    (enough : ∀ taken ∈ limit, feed.queued.length < taken) :
    (feed.drain limit).2 =
      ⟨feed.queued, if feed.registered then .empty else .disconnected⟩ := by
  have beyond : feed.queued.length < limit.getD (feed.queued.length + 1) := by
    cases limit with
    | none => exact Nat.lt_succ_self _
    | some taken => exact enough taken rfl
  have whole : feed.queued.take (limit.getD (feed.queued.length + 1)) = feed.queued :=
    List.take_of_length_le (Nat.le_of_lt beyond)
  simp [drain, live, whole, Nat.not_le_of_lt beyond]

end Drains

section Steps

variable {feed : Feed} {number : Nat} {operation : Operation}

theorem dropped_follow (kept : operation ≠ .drop number) :
    (feed.follow number operation).dropped = feed.dropped := by
  cases operation with
  | drop other =>
      have others : other ≠ number := fun same => kept (same ▸ rfl)
      simp [follow, others]
  | drain other limit => by_cases mine : other = number <;> simp [follow, mine]
  | broadcast rate => exact dropped_offer
  | _ => rfl

theorem registered_follow (live : feed.dropped = false) (standing : operation ≠ .dispose) :
    (feed.follow number operation).registered = feed.registered := by
  cases operation with
  | broadcast rate => exact registered_offer live
  | drain other limit => by_cases mine : other = number <;> simp [follow, mine]
  | drop other => by_cases mine : other = number <;> simp [follow, mine]
  | dispose => exact absurd rfl standing
  | subscribe => rfl

/-- Only a broadcast adds to what the subscriber has taken and still has queued. -/
theorem taken_append_follow (live : feed.dropped = false)
    (silent : ∀ rate, operation ≠ .broadcast rate) :
    (feed.taken? number operation).toList.flatMap Drained.rates ++
      (feed.follow number operation).queued = feed.queued := by
  cases operation with
  | broadcast rate => exact absurd rfl (silent rate)
  | drain other limit =>
      by_cases mine : other = number
      · simpa [taken?, follow, mine] using feed.rates_append_drain live
      · simp [taken?, follow, mine]
  | drop other => by_cases mine : other = number <;> simp [taken?, follow, mine]
  | _ => rfl

end Steps

end Feed

namespace Audience

variable {audience : Audience} {number : Nat} {feed : Feed}

theorem drain?_of_feed (found : audience.feeds[number]? = some feed) (limit : Option Nat) :
    audience.drain? number limit =
      some (⟨audience.feeds.set number (feed.drain limit).1⟩, (feed.drain limit).2) := by
  simp [drain?, found]

/-- Every operation does to the queue of a subscriber what follows from that queue. -/
theorem feeds_perform (found : audience.feeds[number]? = some feed) (operation : Operation) :
    (audience.perform operation).feeds[number]? = some (feed.follow number operation) := by
  have inside : number < audience.feeds.length := (List.getElem?_eq_some_iff.mp found).1
  cases operation with
  | subscribe capacity =>
      by_cases fits : capacity ≤ Feed.maxCapacity
      · simpa [perform, subscribe?, fits, subscribe, Feed.follow, List.getElem?_append_left inside]
          using found
      · simp [perform, subscribe?, fits, Feed.follow, found]
  | broadcast rate => simp [perform, broadcast, Feed.follow, found]
  | drain other limit =>
      by_cases own : other = number
      · subst own
        simp [perform, drain?_of_feed found, Feed.follow, inside]
      · cases there : audience.feeds[other]? with
        | none => simp [perform, drain?, there, Feed.follow, own, found]
        | some others =>
            simp [perform, drain?_of_feed there, Feed.follow, own, List.getElem?_set_ne own, found]
  | drop other =>
      by_cases own : other = number
      · simp [perform, drop, Feed.follow, own, found]
      · simp [perform, drop, Feed.follow, own, found]
  | dispose => simp [perform, dispose, Feed.follow, found]

theorem drained?_of_feed (found : audience.feeds[number]? = some feed)
    (operation : Operation) :
    audience.drained? number operation = feed.taken? number operation := by
  cases operation with
  | drain other limit => simp [drained?, Feed.taken?, drain?_of_feed found]
  | _ => rfl

end Audience

end TrafficMeter
