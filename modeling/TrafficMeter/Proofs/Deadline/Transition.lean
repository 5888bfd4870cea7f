import TrafficMeter.Deadline.Fetcher

/-! # Transitions and runs of a fetcher

Everything that one step can do, by name, and the runs that steps make up. What a run
keeps follows from what a transition does to three parts of the state: the number of the
latest request, the requests that still circulate, and the fetches whose result may still
be taken.
-/

namespace TrafficMeter.Deadline

/-- The request that the worker has in hand. -/
def Worker.request? : Worker → Option Request
  | idle | gone => none
  | holding request | settled request | fetching request _ => some request

/-- The fetch that the worker is inside. -/
def Worker.fetch? : Worker → Option Nat
  | fetching _ fetch => some fetch
  | _ => none

namespace Fetcher

/-- What one step of the caller, the worker or an owner of a token can do. -/
inductive Transition (fetcher : Fetcher) : Event → Fetcher → Option Answer → Prop where
  | refuseCancelled {token : Nat} (free : fetcher.waiting = none)
      (cancelled : fetcher.isCancelled token = true) :
      Transition fetcher (.call token) { fetcher with waiting := none }
        (some (.refused (.cancelled .cancelled)))
  | refuseGone {token : Nat} (free : fetcher.waiting = none)
      (live : fetcher.isCancelled token = false) (gone : fetcher.worker = .gone) :
      Transition fetcher (.call token)
        { fetcher with lastNumber := fetcher.lastNumber + 1, waiting := none }
        (some (.refused workerGone))
  | send {token : Nat} (free : fetcher.waiting = none)
      (live : fetcher.isCancelled token = false) (present : fetcher.worker ≠ .gone) :
      Transition fetcher (.call token)
        { fetcher with
          lastNumber := fetcher.lastNumber + 1
          requests := fetcher.requests ++ [⟨fetcher.lastNumber + 1, token⟩]
          waiting := some ⟨fetcher.lastNumber + 1, token⟩ } none
  | receive {request : Request} {reply : Reply} {replies : List Reply}
      (waits : fetcher.waiting = some request) (queued : fetcher.replies = reply :: replies)
      (own : reply.request.number = request.number) :
      Transition fetcher .receive { fetcher with replies, waiting := none }
        (some (.replied reply))
  | discard {request : Request} {reply : Reply} {replies : List Reply}
      (waits : fetcher.waiting = some request) (queued : fetcher.replies = reply :: replies)
      (stale : reply.request.number ≠ request.number) :
      Transition fetcher .receive { fetcher with replies } none
  | learn {request : Request} (waits : fetcher.waiting = some request)
      (empty : fetcher.replies = []) (gone : fetcher.worker = .gone) :
      Transition fetcher .receive { fetcher with waiting := none }
        (some (.refused workerGone))
  | notice {request : Request} (waits : fetcher.waiting = some request)
      (cancelled : fetcher.isCancelled request.token = true) :
      Transition fetcher .notice { fetcher with waiting := none }
        (some (.refused (.cancelled .cancelled)))
  | expire {request : Request} (waits : fetcher.waiting = some request) :
      Transition fetcher .expire { fetcher with waiting := none }
        (some (.refused (.timeout fetcher.limit)))
  | take {request : Request} {requests : List Request} (idle : fetcher.worker = .idle)
      (queued : fetcher.requests = request :: requests) :
      Transition fetcher .take { fetcher with requests, worker := .holding request } none
  | advance {held newer : Request} {requests : List Request}
      (holding : fetcher.worker = .holding held)
      (queued : fetcher.requests = newer :: requests) :
      Transition fetcher .advance { fetcher with requests, worker := .holding newer } none
  | settle {request : Request} (holding : fetcher.worker = .holding request)
      (empty : fetcher.requests = []) :
      Transition fetcher .advance { fetcher with worker := .settled request } none
  | skip {request : Request} (settled : fetcher.worker = .settled request)
      (cancelled : fetcher.isCancelled request.token = true) :
      Transition fetcher .begin { fetcher with worker := .idle } none
  | begin {request : Request} (settled : fetcher.worker = .settled request)
      (live : fetcher.isCancelled request.token = false) :
      Transition fetcher .begin
        { fetcher with
          fetches := fetcher.fetches + 1
          worker := .fetching request (fetcher.fetches + 1) } none
  | finish {request : Request} {fetch : Nat} {result : Except FetchError Snapshot}
      (fetching : fetcher.worker = .fetching request fetch) :
      Transition fetcher (.finish result)
        { fetcher with
          replies := fetcher.replies ++ [⟨request, fetch, result⟩]
          worker := .idle } none
  | breakDown {request : Request} {fetch : Nat}
      (fetching : fetcher.worker = .fetching request fetch) :
      Transition fetcher .breakDown { fetcher with requests := [], worker := .gone } none
  | cancel {token : Nat} :
      Transition fetcher (.cancel token)
        { fetcher with cancelledTokens := token :: fetcher.cancelledTokens } none

section Steps

variable {fetcher next : Fetcher} {event : Event} {answer : Option Answer}

private theorem eq_of_conclude {given : Answer}
    (steps : fetcher.conclude given = some (next, answer)) :
    { fetcher with waiting := none } = next ∧ some given = answer := by
  simpa [conclude] using steps

private theorem eq_of_proceed (steps : fetcher.proceed = some (next, answer)) :
    fetcher = next ∧ none = answer := by
  simpa [proceed] using steps

private theorem transition_of_call {token : Nat}
    (steps : fetcher.call token = some (next, answer)) :
    fetcher.Transition (.call token) next answer := by
  unfold call at steps
  cases waiting : fetcher.waiting with
  | some request => simp [waiting] at steps
  | none =>
      rw [waiting, if_neg (by simp)] at steps
      cases cancelled : fetcher.isCancelled token with
      | true =>
          rw [if_pos cancelled] at steps
          obtain ⟨rfl, rfl⟩ := eq_of_conclude steps
          exact .refuseCancelled waiting cancelled
      | false =>
          rw [if_neg (by simp [cancelled])] at steps
          dsimp only at steps
          split at steps
          · rename_i gone
            obtain ⟨rfl, rfl⟩ := eq_of_conclude steps
            exact .refuseGone waiting cancelled gone
          · rename_i present
            obtain ⟨rfl, rfl⟩ := eq_of_proceed steps
            exact .send waiting cancelled present

private theorem transition_of_receive
    (steps : fetcher.receive = some (next, answer)) :
    fetcher.Transition .receive next answer := by
  unfold receive at steps
  split at steps
  · cases steps
  · rename_i request reply replies waits queued
    dsimp only at steps
    split at steps
    · rename_i own
      obtain ⟨rfl, rfl⟩ := eq_of_conclude steps
      exact .receive waits queued own
    · rename_i stale
      obtain ⟨rfl, rfl⟩ := eq_of_proceed steps
      exact .discard waits queued stale
  · rename_i request waits empty
    split at steps
    · rename_i gone
      obtain ⟨rfl, rfl⟩ := eq_of_conclude steps
      exact .learn waits empty gone
    · cases steps

/-- A step is one of the transitions. -/
theorem transition_of_step (steps : fetcher.step event = some (next, answer)) :
    fetcher.Transition event next answer := by
  cases event with
  | call token => exact transition_of_call steps
  | receive => exact transition_of_receive steps
  | notice =>
      cases waits : fetcher.waiting with
      | none => simp [step, waits] at steps
      | some request =>
          cases cancelled : fetcher.isCancelled request.token with
          | false => simp [step, waits, cancelled] at steps
          | true =>
              simp only [step, waits, cancelled, if_true] at steps
              obtain ⟨rfl, rfl⟩ := eq_of_conclude steps
              exact .notice waits cancelled
  | expire =>
      cases waits : fetcher.waiting with
      | none => simp [step, waits] at steps
      | some request =>
          simp only [step, waits] at steps
          obtain ⟨rfl, rfl⟩ := eq_of_conclude steps
          exact .expire waits
  | take =>
      cases idle : fetcher.worker with
      | idle =>
          cases queued : fetcher.requests with
          | nil => simp [step, idle, queued] at steps
          | cons request requests =>
              simp only [step, idle, queued] at steps
              obtain ⟨rfl, rfl⟩ := eq_of_proceed steps
              exact .take idle queued
      | _ => simp [step, idle] at steps
  | advance =>
      cases holding : fetcher.worker with
      | holding request =>
          cases queued : fetcher.requests with
          | nil =>
              simp only [step, holding, queued] at steps
              obtain ⟨rfl, rfl⟩ := eq_of_proceed steps
              simpa [queued] using Transition.settle holding queued
          | cons newer requests =>
              simp only [step, holding, queued] at steps
              obtain ⟨rfl, rfl⟩ := eq_of_proceed steps
              exact .advance holding queued
      | _ => simp [step, holding] at steps
  | begin =>
      cases settled : fetcher.worker with
      | settled request =>
          cases cancelled : fetcher.isCancelled request.token with
          | true =>
              simp only [step, settled, cancelled, if_true] at steps
              obtain ⟨rfl, rfl⟩ := eq_of_proceed steps
              exact .skip settled cancelled
          | false =>
              simp only [step, settled, cancelled, Bool.false_eq_true, if_false] at steps
              obtain ⟨rfl, rfl⟩ := eq_of_proceed steps
              exact .begin settled cancelled
      | _ => simp [step, settled] at steps
  | finish result =>
      cases fetching : fetcher.worker with
      | fetching request fetch =>
          simp only [step, fetching] at steps
          obtain ⟨rfl, rfl⟩ := eq_of_proceed steps
          exact .finish fetching
      | _ => simp [step, fetching] at steps
  | breakDown =>
      cases fetching : fetcher.worker with
      | fetching request fetch =>
          simp only [step, fetching] at steps
          obtain ⟨rfl, rfl⟩ := eq_of_proceed steps
          exact .breakDown fetching
      | _ => simp [step, fetching] at steps
  | cancel token =>
      obtain ⟨rfl, rfl⟩ := eq_of_proceed steps
      exact .cancel

end Steps

/-- The requests that are queued, in the worker's hand, or answered by a reply on its
way. -/
def circulating (fetcher : Fetcher) : List Request :=
  fetcher.requests ++ fetcher.worker.request?.toList ++ fetcher.replies.map Reply.request

/-- The fetches whose result may still be taken, oldest first. -/
def outstanding (fetcher : Fetcher) : List Nat :=
  fetcher.replies.map Reply.fetch ++ fetcher.worker.fetch?.toList

namespace Transition

variable {fetcher next : Fetcher} {event : Event} {answer : Option Answer}

theorem lastNumber_le (moves : fetcher.Transition event next answer) :
    fetcher.lastNumber ≤ next.lastNumber := by
  cases moves <;> simp

/-- A call that is under way was so before, or this is the step that sends its request. -/
theorem waiting {request : Request} (moves : fetcher.Transition event next answer)
    (waits : next.waiting = some request) :
    (fetcher.waiting = some request ∧ next.lastNumber = fetcher.lastNumber ∧
        ∀ token, event ≠ .call token) ∨
      (event = .call request.token ∧ request.number = fetcher.lastNumber + 1 ∧
        next.lastNumber = fetcher.lastNumber + 1) := by
  cases moves with
  | send =>
      cases waits
      exact .inr ⟨rfl, rfl, rfl⟩
  | refuseCancelled | refuseGone | receive | learn | notice | expire => cases waits
  | _ => exact .inl ⟨waits, rfl, fun _ same => by cases same⟩

/-- Only sending brings a request into circulation. -/
theorem circulating {request : Request} (moves : fetcher.Transition event next answer)
    (held : request ∈ next.circulating) :
    request ∈ fetcher.circulating ∨
      (next.waiting = some request ∧ request.number = fetcher.lastNumber + 1) := by
  cases moves <;> simp_all [Fetcher.circulating, Worker.request?] <;> grind

/-- Only beginning a fetch adds to those whose result may still be taken. -/
theorem outstanding (moves : fetcher.Transition event next answer) :
    (next.outstanding.Sublist fetcher.outstanding ∧ next.fetches = fetcher.fetches) ∨
      (next.outstanding = fetcher.outstanding ++ [fetcher.fetches + 1] ∧
        next.fetches = fetcher.fetches + 1) := by
  cases moves <;> simp_all [Fetcher.outstanding, Worker.fetch?]

end Transition

/-- What holds of a fetcher at every moment: the caller waits for the latest request, no
other request has its number, and fetches are begun and answered in order. -/
structure Lawful (fetcher : Fetcher) : Prop where
  circulating_le : ∀ request ∈ fetcher.circulating, request.number ≤ fetcher.lastNumber
  latest : ∀ request, fetcher.waiting = some request → request.number = fetcher.lastNumber
  only : ∀ request, fetcher.waiting = some request → ∀ other ∈ fetcher.circulating,
    other.number = request.number → other = request
  ascending : fetcher.outstanding.Pairwise (· < ·)
  outstanding_le : ∀ fetch ∈ fetcher.outstanding, fetch ≤ fetcher.fetches

namespace Lawful

variable {fetcher next : Fetcher} {event : Event} {answer : Option Answer}

theorem new (limit : Span) : (Fetcher.new limit).Lawful where
  circulating_le := by simp [Fetcher.new, circulating, Worker.request?]
  latest := by simp [Fetcher.new]
  only := by simp [Fetcher.new]
  ascending := by simp [Fetcher.new, outstanding, Worker.fetch?]
  outstanding_le := by simp [Fetcher.new, outstanding, Worker.fetch?]

theorem step (lawful : fetcher.Lawful) (moves : fetcher.Transition event next answer) :
    next.Lawful where
  circulating_le := by
    intro request held
    have grown := moves.lastNumber_le
    rcases moves.circulating held with before | ⟨waits, number⟩
    · have := lawful.circulating_le request before
      omega
    · rcases moves.waiting waits with ⟨earlier, _⟩ | ⟨_, _, last⟩
      · have := lawful.latest request earlier
        omega
      · omega
  latest := by
    intro request waits
    rcases moves.waiting waits with ⟨earlier, same, _⟩ | ⟨_, number, last⟩
    · rw [same]
      exact lawful.latest request earlier
    · rw [number, last]
  only := by
    intro request waits other held number
    rcases moves.waiting waits with ⟨earlier, same, _⟩ | ⟨_, fresh, _⟩
    · rcases moves.circulating held with before | ⟨waits', _⟩
      · exact lawful.only request earlier other before number
      · exact Option.some.inj (waits'.symm.trans waits)
    · rcases moves.circulating held with before | ⟨waits', _⟩
      · -- what circulated before the sending has a smaller number
        have := lawful.circulating_le other before
        omega
      · exact Option.some.inj (waits'.symm.trans waits)
  ascending := by
    rcases moves.outstanding with ⟨fewer, _⟩ | ⟨one_more, _⟩
    · exact lawful.ascending.sublist fewer
    · rw [one_more, List.pairwise_append]
      refine ⟨lawful.ascending, List.pairwise_singleton _ _, ?_⟩
      intro fetch before last begun
      have := lawful.outstanding_le fetch before
      rw [List.mem_singleton.mp begun]
      omega
  outstanding_le := by
    intro fetch held
    rcases moves.outstanding with ⟨fewer, same⟩ | ⟨one_more, count⟩
    · rw [same]
      exact lawful.outstanding_le fetch (fewer.subset held)
    · rw [one_more, List.mem_append, List.mem_singleton] at held
      rcases held with before | rfl
      · have := lawful.outstanding_le fetch before
        omega
      · omega

end Lawful

/-- All of the events happen, one after the other. -/
inductive Run (first : Fetcher) : List Event → Fetcher → Prop where
  | start : Run first [] first
  | step {events : List Event} {event : Event} {middle last : Fetcher} {answer : Option Answer} :
      Run first events middle → middle.step event = some (last, answer) →
      Run first (events ++ [event]) last

namespace Run

variable {first last : Fetcher} {events : List Event}

/-- What every transition keeps holds after a run. -/
theorem keeps {property : Fetcher → Prop} (run : first.Run events last)
    (preserved : ∀ {fetcher next : Fetcher} {event : Event} {answer : Option Answer},
      property fetcher → fetcher.Transition event next answer → property next)
    (initial : property first) : property last := by
  induction run with
  | start => exact initial
  | step _ steps ih => exact preserved ih (transition_of_step steps)

theorem lawful {limit : Span} (run : (Fetcher.new limit).Run events last) : last.Lawful :=
  run.keeps Lawful.step (Lawful.new limit)

end Run

end Fetcher

end TrafficMeter.Deadline
