import TrafficMeter.Proofs.Audience.Operations

/-! # Who is registered

A subscriber is registered from its subscription until the next disposal, or until the first
broadcast after its receiver has gone. Nothing else strikes it off: a queue that is full, or that
has no room at all, misses updates and stays.
-/

namespace TrafficMeter

/-- The operation adds a subscriber, as its queue fits into memory. -/
def Operation.subscribes : Operation → Bool
  | .subscribe capacity => capacity ≤ Feed.maxCapacity
  | _ => false

/-- No broadcast among the operations finds the receiver of the subscriber gone. -/
def Spared (number : Nat) (gone : Prop) (operations : List Operation) : Prop :=
  ∀ early rate late, operations = early ++ .broadcast rate :: late →
    ¬gone ∧ .drop number ∉ early

section Spared

variable {number : Nat} {gone : Prop} {operation : Operation} {later : List Operation}

theorem spared_nil : Spared number gone [] := by
  intro early rate late split
  cases early <;> cases split

/-- The first operation may be a broadcast itself, or may be what takes the receiver away. -/
theorem spared_cons :
    Spared number gone (operation :: later) ↔
      ((∃ rate, operation = .broadcast rate) → ¬gone) ∧
        Spared number (gone ∨ operation = .drop number) later := by
  constructor
  · intro spared
    refine ⟨?_, ?_⟩
    · rintro ⟨rate, rfl⟩
      exact (spared [] rate later rfl).1
    · rintro early rate late rfl
      obtain ⟨live, kept⟩ := spared (operation :: early) rate late rfl
      rw [List.mem_cons, not_or] at kept
      exact ⟨not_or.mpr ⟨live, Ne.symm kept.1⟩, kept.2⟩
  · rintro ⟨first, rest⟩ early rate late split
    cases early with
    | nil =>
        cases split
        exact ⟨first ⟨rate, rfl⟩, List.not_mem_nil⟩
    | cons head early =>
        cases split
        obtain ⟨live, kept⟩ := rest early rate late rfl
        rw [not_or] at live
        exact ⟨live.1, by simpa [kept] using Ne.symm live.2⟩

/-- A broadcast at the end comes after all that could have taken the receiver away. -/
theorem spared_concat {rate : Rate} {operations : List Operation} :
    Spared number gone (operations ++ [.broadcast rate]) ↔
      Spared number gone operations ∧ ¬gone ∧ .drop number ∉ operations := by
  induction operations generalizing gone with
  | nil => simp [spared_nil, spared_cons]
  | cons operation operations ih =>
      rw [List.cons_append, spared_cons, ih, spared_cons, List.mem_cons]
      grind

end Spared

namespace Feed

variable {feed : Feed} {number : Nat} {operation : Operation}

/-- A broadcast strikes off a queue whose receiver is gone, and only that. -/
theorem registered_offer_eq (rate : Rate) :
    (feed.offer rate).registered = (feed.registered && !feed.dropped) := by
  cases gone : feed.dropped with
  | false => rw [registered_offer gone, Bool.not_false, Bool.and_true]
  | true =>
      cases registered : feed.registered with
      | false => rw [offer_of_unregistered registered, registered, Bool.false_and]
      | true => simp [offer, registered, gone]

theorem registered_follow_iff :
    (feed.follow number operation).registered = true ↔
      feed.registered = true ∧ operation ≠ .dispose ∧
        ((∃ rate, operation = .broadcast rate) → ¬feed.dropped = true) := by
  cases operation with
  | broadcast rate => simp [follow, registered_offer_eq]
  | drain other limit | drop other => by_cases mine : other = number <;> simp [follow, mine]
  | subscribe | dispose => simp [follow]

theorem dropped_follow_iff :
    (feed.follow number operation).dropped = true ↔
      feed.dropped = true ∨ operation = .drop number := by
  cases operation with
  | drain other limit | drop other => by_cases mine : other = number <;> simp [follow, mine]
  | subscribe | broadcast | dispose => simp [follow]

end Feed

namespace Audience

variable {audience : Audience} {number : Nat} {feed : Feed}

/-- Whether broadcasts go to the queue of the subscriber with that number. -/
def isRegistered (audience : Audience) (number : Nat) : Bool :=
  audience.feeds[number]?.any Feed.registered

theorem isRegistered_of_feed (found : audience.feeds[number]? = some feed) :
    audience.isRegistered number = feed.registered := by
  rw [isRegistered, found, Option.any_some]

theorem registered_run_iff {operations : List Operation}
    (found : audience.feeds[number]? = some feed) :
    (audience.run operations).isRegistered number = true ↔
      feed.registered = true ∧ .dispose ∉ operations ∧
        Spared number (feed.dropped = true) operations := by
  induction operations generalizing audience feed with
  | nil => simp [run, isRegistered_of_feed found, spared_nil]
  | cons operation later ih =>
      rw [run_cons, ih (feeds_perform found operation), Feed.registered_follow_iff, spared_cons,
        List.mem_cons, propext Feed.dropped_follow_iff]
      grind

theorem length_perform (audience : Audience) (operation : Operation) :
    (audience.perform operation).feeds.length =
      audience.feeds.length + if operation.subscribes then 1 else 0 := by
  cases operation with
  | subscribe capacity =>
      by_cases fits : capacity ≤ Feed.maxCapacity <;>
        simp [perform, subscribe?, subscribe, Operation.subscribes, fits]
  | drain other limit =>
      cases there : audience.feeds[other]? <;>
        simp [perform, drain?, there, Operation.subscribes]
  | broadcast | drop | dispose =>
      simp [perform, broadcast, drop, dispose, Operation.subscribes]

theorem length_run (audience : Audience) (operations : List Operation) :
    (audience.run operations).feeds.length =
      audience.feeds.length + operations.countP Operation.subscribes := by
  induction operations generalizing audience with
  | nil => rfl
  | cons operation later ih =>
      rw [run_cons, ih, length_perform, List.countP_cons]
      omega

/-- The subscriber with that number was added, and then came the later ones of the operations. -/
inductive Joined (operations : List Operation) (number : Nat) (after : List Operation) : Prop where
  | mk {before : List Operation} {capacity : Nat}
      (split : operations = before ++ .subscribe capacity :: after)
      (fits : capacity ≤ Feed.maxCapacity)
      (number_eq : before.countP Operation.subscribes = number)

variable {operations after : List Operation}

theorem Joined.cons {operation : Operation} (joined : Joined operations number after) :
    Joined (operation :: operations)
      (number + if operation.subscribes then 1 else 0) after := by
  obtain ⟨rfl, fits, rfl⟩ := joined
  exact ⟨rfl, fits, List.countP_cons⟩

theorem Joined.concat (joined : Joined operations number after) (operation : Operation) :
    Joined (operations ++ [operation]) number (after ++ [operation]) := by
  obtain ⟨rfl, fits, rfl⟩ := joined
  exact ⟨by simp, fits, rfl⟩

theorem length_run_empty (operations : List Operation) :
    (empty.run operations).feeds.length = operations.countP Operation.subscribes := by
  rw [length_run]
  exact Nat.zero_add _

/-- Every number below the count of subscribers was given to one of them. -/
theorem exists_joined (given : number < operations.countP Operation.subscribes) :
    ∃ after, Joined operations number after := by
  induction operations generalizing number with
  | nil => cases given
  | cons operation later ih =>
      by_cases first : operation.subscribes = true ∧ number = 0
      · obtain ⟨adds, rfl⟩ := first
        cases operation with
        | subscribe capacity =>
            have split : Operation.subscribe capacity :: later =
                [] ++ .subscribe capacity :: later := rfl
            exact ⟨later, split, of_decide_eq_true adds, rfl⟩
        | _ => cases adds
      · obtain ⟨earlier, rfl⟩ :
            ∃ earlier, number = earlier + if operation.subscribes then 1 else 0 :=
          ⟨number - if operation.subscribes then 1 else 0, by grind⟩
        rw [List.countP_cons] at given
        obtain ⟨after, joined⟩ := ih (Nat.lt_of_add_lt_add_right given)
        exact ⟨after, joined.cons⟩

theorem exists_joined_of_registered
    (registered : (empty.run operations).isRegistered number = true) :
    ∃ after, Joined operations number after := by
  apply exists_joined
  rw [← length_run_empty]
  apply Nat.lt_of_not_le
  intro beyond
  rw [isRegistered, List.getElem?_eq_none beyond] at registered
  cases registered

/-- A new subscriber has an empty queue of its own, which only the later operations change. -/
theorem Joined.exists_run (joined : Joined operations number after) :
    ∃ (audience : Audience) (capacity : Nat),
      audience.feeds[number]? = some (.new capacity) ∧
        empty.run operations = audience.run after := by
  obtain ⟨rfl, fits, rfl⟩ := joined
  rename_i before capacity
  refine ⟨(empty.run before).perform (.subscribe capacity), capacity, ?_, ?_⟩
  · simp [perform, subscribe?, subscribe, fits, ← length_run_empty]
  · rw [run_append, run_cons]

theorem Joined.registered_iff (joined : Joined operations number after) :
    (empty.run operations).isRegistered number = true ↔
      .dispose ∉ after ∧ Spared number False after := by
  obtain ⟨audience, capacity, found, same⟩ := joined.exists_run
  rw [same, registered_run_iff found]
  simp [Feed.new]

/-- The registered subscribers are those since whose subscription there has been neither a
disposal nor a broadcast after the loss of the receiver. A further broadcast keeps a subscriber
that still has its receiver as it is, whatever its queue holds, and strikes off every other. -/
theorem registered_iff_spared_since (operations : List Operation) (number : Nat) :
    ((empty.run operations).isRegistered number = true ↔
        ∃ after, Joined operations number after ∧ .dispose ∉ after ∧
          ∀ early rate late, after = early ++ .broadcast rate :: late → .drop number ∉ early) ∧
      ∀ after rate, Joined operations number after →
        (.drop number ∉ after → ((empty.run operations).broadcast rate).isRegistered number =
          (empty.run operations).isRegistered number) ∧
        (.drop number ∈ after →
          ((empty.run operations).broadcast rate).isRegistered number = false) := by
  refine ⟨⟨?_, ?_⟩, ?_⟩
  · intro registered
    obtain ⟨after, joined⟩ := exists_joined_of_registered registered
    obtain ⟨undisposed, spared⟩ := joined.registered_iff.mp registered
    exact ⟨after, joined, undisposed, fun _ _ _ split => (spared _ _ _ split).2⟩
  · rintro ⟨after, joined, undisposed, kept⟩
    exact joined.registered_iff.mpr
      ⟨undisposed, fun _ _ _ split => ⟨not_false, kept _ _ _ split⟩⟩
  · intro after rate joined
    have next := (joined.concat (.broadcast rate)).registered_iff
    rw [run_append, spared_concat] at next
    change ((empty.run operations).broadcast rate).isRegistered number = true ↔ _ at next
    refine ⟨?_, ?_⟩
    · intro live
      rw [Bool.eq_iff_iff, next, joined.registered_iff]
      simp [live]
    · intro gone
      rw [Bool.eq_false_iff, Ne, next]
      simp [gone]

/-- Of a subscriber without room, one whose receiver goes while its queue is full, one that comes
late and one whose receiver goes after the last broadcast only the second is struck off. -/
example :
    let audience := empty.run [.subscribe 0, .subscribe 1, .broadcast ⟨1, 1⟩, .drop 1,
      .subscribe 1, .broadcast ⟨2, 2⟩, .subscribe 1, .drop 3]
    (List.range 4).map audience.isRegistered = [true, false, true, true] := by
  decide

end Audience

end TrafficMeter
