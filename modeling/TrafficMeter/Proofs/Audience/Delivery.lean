import TrafficMeter.Proofs.Audience.Operations

/-! # What reaches a subscriber

A subscriber gets the updates that are sent while it is registered and that its queue has
room for, each of them once and in order. The other subscribers make no difference to it,
and what was queued when the audience was disposed of can still be taken.
-/

namespace TrafficMeter.Audience

/-- Whether the queue of a subscriber holds fewer updates than its capacity. -/
def hasRoom (audience : Audience) (number : Nat) : Bool :=
  audience.feeds[number]?.any fun feed => feed.queued.length < feed.capacity

/-- The updates that are broadcast before the first disposal among the operations, at a
moment when the queue of the subscriber has room. -/
def admitted (audience : Audience) (number : Nat) : List Operation → List Rate
  | [] => []
  | .dispose :: _ => []
  | .broadcast rate :: later =>
      let rest := (audience.broadcast rate).admitted number later
      if audience.hasRoom number then rate :: rest else rest
  | operation :: later => (audience.perform operation).admitted number later

/-- The operations as a subscriber would know them that had the audience for itself. -/
def own (number : Nat) : Operation → Option Operation
  | .subscribe _ => none
  | .broadcast rate => some (.broadcast rate)
  | .drain other limit => if other = number then some (.drain 0 limit) else none
  | .drop other => if other = number then some (.drop 0) else none
  | .dispose => some .dispose

section Runs

variable {audience alone : Audience} {number : Nat} {feed : Feed} {operations : List Operation}

theorem feeds_run (operations : List Operation) (found : audience.feeds[number]? = some feed) :
    ∃ last, (audience.run operations).feeds[number]? = some last := by
  induction operations generalizing audience feed with
  | nil => exact ⟨feed, found⟩
  | cons operation later ih => exact ih (feeds_perform found operation)

/-- An operation that is not the subscriber's own does nothing to its queue, and one that
is does the same to it in an audience of one. -/
theorem follow_own (operation : Operation) :
    match own number operation with
    | none => feed.follow number operation = feed ∧ feed.taken? number operation = none
    | some same => feed.follow 0 same = feed.follow number operation ∧
        feed.taken? 0 same = feed.taken? number operation := by
  cases operation with
  | drain other limit | drop other =>
      by_cases mine : other = number <;> simp [own, Feed.follow, Feed.taken?, mine]
  | _ => exact ⟨rfl, rfl⟩

/-- A subscriber that has the audience for itself sees and does the same. -/
theorem run_own (operations : List Operation) (found : audience.feeds[number]? = some feed)
    (single : alone.feeds[0]? = some feed) :
    (alone.run (operations.filterMap (own number))).feeds[0]? =
        (audience.run operations).feeds[number]? ∧
      alone.drains 0 (operations.filterMap (own number)) =
        audience.drains number operations := by
  induction operations generalizing audience alone feed with
  | nil => exact ⟨single.trans found.symm, rfl⟩
  | cons operation later ih =>
      have next := feeds_perform found operation
      have takes := drained?_of_feed found operation
      have follows := @follow_own number feed operation
      cases known : own number operation with
      | none =>
          rw [known] at follows
          rw [follows.1] at next
          rw [follows.2] at takes
          simpa [drains, known, takes] using ih next single
      | some same =>
          rw [known] at follows
          have aside := feeds_perform single same
          rw [follows.1] at aside
          have taken : alone.drained? 0 same = audience.drained? number operation := by
            rw [takes, drained?_of_feed single, follows.2]
          obtain ⟨queue, rest⟩ := ih next aside
          simpa [drains, known, taken, rest] using queue

end Runs

section Accounts

variable {audience : Audience} {number : Nat} {feed : Feed} {operations : List Operation}

theorem feeds_of_subscribe? {capacity : Nat} {subscribed : Audience}
    (subscribes : audience.subscribe? capacity = some (subscribed, number)) :
    subscribed.feeds[number]? = some (.new capacity) := by
  unfold subscribe? at subscribes
  split at subscribes
  · cases subscribes
    simp
  · cases subscribes

theorem hasRoom_of_feed (found : audience.feeds[number]? = some feed) :
    audience.hasRoom number = decide (feed.queued.length < feed.capacity) := by
  simp [hasRoom, found]

theorem drains_cons (found : audience.feeds[number]? = some feed) (operation : Operation)
    (later : List Operation) :
    (audience.drains number (operation :: later)).flatMap Drained.rates =
      (feed.taken? number operation).toList.flatMap Drained.rates ++
        ((audience.perform operation).drains number later).flatMap Drained.rates := by
  rw [drains, drained?_of_feed found, List.flatMap_append]

/-- Once the audience is disposed of, a subscriber takes what it has queued. -/
theorem rates_append_of_struck {last : Feed} (found : audience.feeds[number]? = some feed)
    (live : feed.dropped = false) (struck : feed.registered = false)
    (kept : .drop number ∉ operations)
    (ends : (audience.run operations).feeds[number]? = some last) :
    (audience.drains number operations).flatMap Drained.rates ++ last.queued = feed.queued := by
  induction operations generalizing audience feed with
  | nil =>
      cases found.symm.trans ends
      rfl
  | cons operation later ih =>
      rw [List.mem_cons, not_or] at kept
      have next := feeds_perform found operation
      have liveOn := (Feed.dropped_follow (Ne.symm kept.1)).trans live
      have struckOn : (feed.follow number operation).registered = false := by
        cases operation with
        | dispose => rfl
        | _ => exact (Feed.registered_follow live (by simp)).trans struck
      have rest := ih next liveOn struckOn kept.2 ends
      rw [drains_cons found, List.append_assoc, rest]
      cases operation with
      | broadcast rate =>
          simp [Feed.taken?, Feed.follow, Feed.offer_of_unregistered struck]
      | _ => exact Feed.taken_append_follow live (by simp)

/-- What a registered subscriber takes and still has queued is what it had queued before
and all that has been admitted since. -/
theorem rates_append_of_registered {last : Feed} (found : audience.feeds[number]? = some feed)
    (live : feed.dropped = false) (registered : feed.registered = true)
    (kept : .drop number ∉ operations)
    (ends : (audience.run operations).feeds[number]? = some last) :
    (audience.drains number operations).flatMap Drained.rates ++ last.queued =
      feed.queued ++ audience.admitted number operations := by
  induction operations generalizing audience feed with
  | nil =>
      cases found.symm.trans ends
      simp [drains, admitted]
  | cons operation later ih =>
      rw [List.mem_cons, not_or] at kept
      have next := feeds_perform found operation
      have liveOn := (Feed.dropped_follow (Ne.symm kept.1)).trans live
      have registeredOn (standing : operation ≠ .dispose) :
          (feed.follow number operation).registered = true :=
        (Feed.registered_follow live standing).trans registered
      rw [drains_cons found, List.append_assoc]
      cases operation with
      | dispose =>
          -- nothing more is admitted, whatever comes after the disposal
          rw [rates_append_of_struck next live rfl kept.2 ends]
          simp [Feed.taken?, Feed.follow, admitted]
      | broadcast rate =>
          rw [ih next liveOn (registeredOn (by simp)) kept.2 ends, admitted, hasRoom_of_feed found]
          by_cases room : feed.queued.length < feed.capacity
          · simp [Feed.taken?, Feed.follow, Feed.offer_of_room registered live room, room, perform]
          · simp [Feed.taken?, Feed.follow, Feed.offer_of_full live room, room, perform]
      | subscribe | drain | drop =>
          rw [ih next liveOn (registeredOn (by simp)) kept.2 ends, ← List.append_assoc,
            Feed.taken_append_follow live (by simp)]
          rfl

theorem flags_run {last : Feed} (found : audience.feeds[number]? = some feed)
    (live : feed.dropped = false) (kept : .drop number ∉ operations)
    (ends : (audience.run operations).feeds[number]? = some last) :
    last.dropped = false ∧ ((feed.registered = false ∨ .dispose ∈ operations) →
      last.registered = false) := by
  induction operations generalizing audience feed with
  | nil =>
      cases found.symm.trans ends
      simp [live]
  | cons operation later ih =>
      rw [List.mem_cons, not_or] at kept
      have liveOn := (Feed.dropped_follow (Ne.symm kept.1)).trans live
      obtain ⟨liveLast, struck⟩ := ih (feeds_perform found operation) liveOn kept.2 ends
      refine ⟨liveLast, ?_⟩
      intro before
      apply struck
      cases operation with
      | dispose => exact .inl rfl
      | _ =>
          rw [Feed.registered_follow live (by simp)]
          simpa using before

end Accounts

/-- A live subscriber takes and has queued exactly the updates that were broadcast after
its subscription, before the next disposal, while its queue had room. It is the same as if
there were no other subscribers. After a disposal it takes what was queued then, and a drain
that reaches the end of the queue finds it disconnected. -/
theorem deliveries_balance {before after : List Operation} {capacity number : Nat}
    {audience : Audience}
    (subscribes : (empty.run before).subscribe? capacity = some (audience, number))
    (live : .drop number ∉ after) :
    let alone := (empty.subscribe capacity).1
    ∃ feed, (audience.run after).feeds[number]? = some feed ∧
      (audience.drains number after).flatMap Drained.rates ++ feed.queued =
        audience.admitted number after ∧
      (alone.run (after.filterMap (own number))).feeds[0]? = some feed ∧
      alone.drains 0 (after.filterMap (own number)) = audience.drains number after ∧
      ∀ early late, after = early ++ .dispose :: late →
        (∃ held, (audience.run early).feeds[number]? = some held ∧
          ((audience.run early).dispose.drains number late).flatMap Drained.rates ++
            feed.queued = held.queued) ∧
        ∀ limit, (∀ taken ∈ limit, feed.queued.length < taken) →
          ((audience.run after).drain? number limit).map Prod.snd =
            some ⟨feed.queued, .disconnected⟩ := by
  intro alone
  have found := feeds_of_subscribe? subscribes
  obtain ⟨feed, ends⟩ := feeds_run after found
  have balance := rates_append_of_registered found rfl rfl live ends
  have single : alone.feeds[0]? = some (.new capacity) := rfl
  obtain ⟨queue, taken⟩ := run_own after found single
  refine ⟨feed, ends, balance, queue.trans ends, taken, ?_⟩
  rintro early late rfl
  have kept : .drop number ∉ early ∧ .drop number ∉ late := by simpa using live
  obtain ⟨held, still⟩ := feeds_run early found
  have heldLive := (flags_run found rfl kept.1 still).1
  have disposed := feeds_perform still .dispose
  rw [run_append, run_cons] at ends
  have rest := rates_append_of_struck disposed heldLive rfl kept.2 ends
  obtain ⟨lastLive, struck⟩ := flags_run disposed heldLive kept.2 ends
  refine ⟨⟨held, still, rest⟩, ?_⟩
  intro limit enough
  rw [run_append, run_cons, drain?_of_feed ends, Option.map_some,
    Feed.drain_whole lastLive enough, struck (.inl rfl)]
  rfl

/-- A subscriber with room for two updates among others that come, go and drain: it misses
the third of four updates, and drains before and after a disposal. -/
def crowded : List Operation :=
  [.broadcast ⟨1, 1⟩, .subscribe 0, .broadcast ⟨2, 2⟩, .drop 0, .broadcast ⟨3, 3⟩,
    .drain 1 (some 1), .broadcast ⟨4, 4⟩, .drain 2 none, .dispose, .broadcast ⟨5, 5⟩,
    .drain 1 (some 1)]

theorem deliveries_balance_crowded :
    let audience : Audience := ⟨[.new 5, .new 2]⟩
    (empty.run [.subscribe 5]).subscribe? 2 = some (audience, 1) ∧
      .drop 1 ∉ crowded ∧
      audience.admitted 1 crowded = [⟨1, 1⟩, ⟨2, 2⟩, ⟨4, 4⟩] ∧
      ∃ feed, (audience.run crowded).feeds[1]? = some feed ∧
        (audience.drains 1 crowded).flatMap Drained.rates ++ feed.queued =
          [⟨1, 1⟩, ⟨2, 2⟩, ⟨4, 4⟩] ∧
        ((audience.run crowded).drain? 1 none).map Prod.snd =
          some ⟨feed.queued, .disconnected⟩ := by
  intro audience
  have subscribes : (empty.run [.subscribe 5]).subscribe? 2 = some (audience, 1) := by decide
  have live : .drop 1 ∉ crowded := by simp [crowded]
  have admits : audience.admitted 1 crowded = [⟨1, 1⟩, ⟨2, 2⟩, ⟨4, 4⟩] := by decide
  obtain ⟨feed, ends, balance, _, _, after⟩ := deliveries_balance subscribes live
  have last := (after (crowded.take 8) (crowded.drop 9) rfl).2 none (by simp)
  exact ⟨subscribes, live, admits, feed, ends, balance.trans admits, last⟩

end TrafficMeter.Audience
