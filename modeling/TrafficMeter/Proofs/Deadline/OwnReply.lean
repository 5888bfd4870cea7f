import TrafficMeter.Proofs.Deadline.Transition

/-! # A call is answered by its own fetch

However caller, worker and cancellations interleave, a result that a call returns comes
from a fetch that began after the call had sent its request and that ran with the call's
own token; no result is returned twice.
-/

namespace TrafficMeter.Deadline.Fetcher

/-- After the events `before`, a call sends the request. -/
def Sends (limit : Span) (before : List Event) (request : Request) : Prop :=
  ∃ fetcher next, (new limit).Run before fetcher ∧
    fetcher.step (.call request.token) = some (next, none) ∧ next.waiting = some request

/-- After the events `before`, the worker begins that fetch with the request's token. -/
def Begins (limit : Span) (before : List Event) (request : Request) (fetch : Nat) : Prop :=
  ∃ fetcher next, (new limit).Run before fetcher ∧
    fetcher.step .begin = some (next, none) ∧ next.worker = .fetching request fetch

/-- After the events `before`, the worker is inside the fetch that the reply is from. -/
def Finishes (limit : Span) (before : List Event) (reply : Reply) : Prop :=
  ∃ fetcher, (new limit).Run before fetcher ∧
    fetcher.worker = .fetching reply.request reply.fetch

/-- The result of the reply was produced among the events `after` a call sent its
request, by a fetch that began among them. -/
def ProducedIn (limit : Span) (before after : List Event) (reply : Reply) : Prop :=
  ∃ meanwhile hanging rest,
    after = meanwhile ++ .begin :: hanging ++ .finish reply.result :: rest ∧
    Begins limit (before ++ .call reply.request.token :: meanwhile) reply.request reply.fetch ∧
    Finishes limit (before ++ .call reply.request.token :: meanwhile ++ .begin :: hanging) reply

namespace Transition

variable {fetcher next : Fetcher} {event : Event} {answer : Option Answer}

theorem fetching {request : Request} {fetch : Nat}
    (moves : fetcher.Transition event next answer)
    (inside : next.worker = .fetching request fetch) :
    fetcher.worker = .fetching request fetch ∨ event = .begin := by
  cases moves <;> simp_all

theorem replies {reply : Reply} (moves : fetcher.Transition event next answer)
    (queued : reply ∈ next.replies) :
    reply ∈ fetcher.replies ∨ (event = .finish reply.result ∧
      fetcher.worker = .fetching reply.request reply.fetch) := by
  cases moves with
  | finish fetching =>
      rcases List.mem_append.mp queued with before | own
      · exact .inl before
      · rw [List.mem_singleton.mp own]
        exact .inr ⟨rfl, fetching⟩
  | receive _ before _ | discard _ before _ =>
      exact .inl (before ▸ List.mem_cons_of_mem _ queued)
  | _ => exact .inl queued

end Transition

/-- The call that sent the request is under way: what has happened since, and where the
results for it have come from. -/
structure Course (limit : Span) (before after : List Event) (request : Request)
    (fetcher : Fetcher) : Prop where
  sent : Sends limit before request
  quiet : ∀ token, .call token ∉ after
  begun : ∀ fetch, fetcher.worker = .fetching request fetch →
    ∃ meanwhile hanging, after = meanwhile ++ .begin :: hanging ∧
      Begins limit (before ++ .call request.token :: meanwhile) request fetch
  produced : ∀ reply ∈ fetcher.replies, reply.request = request →
    ProducedIn limit before after reply

section Histories

variable {limit : Span} {events before after : List Event} {event : Event}
  {request : Request} {fetcher next : Fetcher} {answer : Option Answer}

/-- A call that has just sent its request: nothing has been begun for it. -/
theorem Course.start (run : (new limit).Run events fetcher)
    (steps : fetcher.step (.call request.token) = some (next, none))
    (waits : next.waiting = some request) : Course limit events [] request next := by
  have fresh : ∀ other ∈ fetcher.circulating, other ≠ request := by
    intro other before same
    have := run.lawful.circulating_le other before
    rcases (transition_of_step steps).waiting waits with ⟨_, _, quiet⟩ | ⟨_, number, _⟩
    · exact quiet _ rfl
    · rw [same] at this
      omega
  refine ⟨⟨fetcher, next, run, steps, waits⟩, by simp, ?_, ?_⟩
  · intro fetch inside
    rcases (transition_of_step steps).fetching inside with held | other
    · exact absurd rfl (fresh request (by simp [circulating, held, Worker.request?]))
    · cases other
  · intro reply queued own
    rcases (transition_of_step steps).replies queued with held | ⟨other, _⟩
    · exact absurd own (fresh reply.request (by simp [circulating, List.mem_map_of_mem held]))
    · cases other

theorem Course.step (course : Course limit before after request fetcher)
    (run : (new limit).Run (before ++ .call request.token :: after) fetcher)
    (steps : fetcher.step event = some (next, answer)) (noCall : ∀ token, event ≠ .call token) :
    Course limit before (after ++ [event]) request next := by
  have moves := transition_of_step steps
  refine ⟨course.sent, ?_, ?_, ?_⟩
  · intro token called
    rcases List.mem_append.mp called with earlier | this
    · exact course.quiet token earlier
    · exact noCall token (List.mem_singleton.mp this).symm
  · intro fetch inside
    rcases moves.fetching inside with held | rfl
    · obtain ⟨meanwhile, hanging, rfl, begins⟩ := course.begun fetch held
      exact ⟨meanwhile, hanging ++ [event], by simp, begins⟩
    · cases moves with
      | skip => cases inside
      | begin =>
          -- the fetch begins with this very event, after all that followed the call
          exact ⟨after, [], rfl, fetcher, _, run, steps, inside⟩
  · intro reply queued own
    rcases moves.replies queued with held | ⟨rfl, inside⟩
    · obtain ⟨meanwhile, hanging, rest, rfl, begins, finishes⟩ :=
        course.produced reply held own
      exact ⟨meanwhile, hanging, rest ++ [event], by simp, begins, finishes⟩
    · subst own
      obtain ⟨meanwhile, hanging, rfl, begins⟩ := course.begun reply.fetch inside
      refine ⟨meanwhile, hanging, [], rfl, begins, fetcher, ?_, inside⟩
      simpa using run

/-- Whatever has happened, the call under way is the latest one, with its course. -/
theorem Run.course (run : (new limit).Run events fetcher)
    (waits : fetcher.waiting = some request) :
    ∃ before after, events = before ++ .call request.token :: after ∧
      Course limit before after request fetcher := by
  induction run with
  | start => cases waits
  | @step events event middle last answer run steps ih =>
      rcases (transition_of_step steps).waiting waits with ⟨earlier, _, noCall⟩ | ⟨rfl, _, _⟩
      · obtain ⟨before, after, rfl, course⟩ := ih earlier
        exact ⟨before, after ++ [event], by simp, course.step run steps noCall⟩
      · have silent : answer = none := by
          cases transition_of_step steps with
          | send => rfl
          | refuseCancelled | refuseGone => cases waits
        subst silent
        exact ⟨events, [], rfl, .start run steps waits⟩

end Histories

/-- A fetch whose result cannot be taken any more. -/
structure Past (fetch : Nat) (fetcher : Fetcher) : Prop where
  begun : fetch ≤ fetcher.fetches
  newer : ∀ other ∈ fetcher.outstanding, fetch < other

/-- A number that no call waits for and that none will get. -/
structure Spent (number : Nat) (fetcher : Fetcher) : Prop where
  given : number ≤ fetcher.lastNumber
  newer : ∀ request, fetcher.waiting = some request → number < request.number

section Endings

variable {fetcher next last : Fetcher} {event : Event} {later : List Event}
  {fetch number : Nat} {request : Request} {reply : Reply} {answer : Answer}

theorem Past.step {answer : Option Answer} (past : Past fetch fetcher)
    (moves : fetcher.Transition event next answer) : Past fetch next := by
  rcases moves.outstanding with ⟨fewer, same⟩ | ⟨one_more, count⟩
  · refine ⟨by rw [same]; exact past.begun, ?_⟩
    intro other held
    exact past.newer other (fewer.subset held)
  · have := past.begun
    refine ⟨by omega, ?_⟩
    intro other held
    rw [one_more, List.mem_append, List.mem_singleton] at held
    rcases held with before | rfl
    · exact past.newer other before
    · omega

theorem Spent.step {answer : Option Answer} (spent : Spent number fetcher)
    (moves : fetcher.Transition event next answer) : Spent number next := by
  refine ⟨Nat.le_trans spent.given moves.lastNumber_le, ?_⟩
  intro request waits
  rcases moves.waiting waits with ⟨earlier, _, _⟩ | ⟨_, fresh, _⟩
  · exact spent.newer request earlier
  · have := spent.given
    omega

/-- A result is only returned by receiving it from the front of the queue. -/
theorem Transition.replied (moves : fetcher.Transition event next (some (.replied reply))) :
    ∃ request replies, fetcher.waiting = some request ∧ fetcher.replies = reply :: replies ∧
      reply.request.number = request.number ∧
      next = { fetcher with replies, waiting := none } := by
  cases moves with
  | receive waits queued own => exact ⟨_, _, waits, queued, own, rfl⟩

/-- The result that is returned is one for the call under way. -/
theorem Lawful.replied_request (lawful : fetcher.Lawful)
    (moves : fetcher.Transition event next (some (.replied reply))) :
    fetcher.waiting = some reply.request ∧ reply ∈ fetcher.replies := by
  obtain ⟨request, replies, waits, queued, own, _⟩ := moves.replied
  have front : reply ∈ fetcher.replies := by simp [queued]
  have held : reply.request ∈ fetcher.circulating := by
    simp [circulating, List.mem_map_of_mem front]
  rw [lawful.only request waits reply.request held own]
  exact ⟨waits, front⟩

theorem Lawful.past_of_replied (lawful : fetcher.Lawful)
    (moves : fetcher.Transition event next (some (.replied reply))) :
    Past reply.fetch next := by
  obtain ⟨request, replies, _, queued, _, rfl⟩ := moves.replied
  have front : fetcher.outstanding =
      reply.fetch :: { fetcher with replies, waiting := none }.outstanding := by
    simp [outstanding, queued]
  constructor
  · exact lawful.outstanding_le reply.fetch (by simp [front])
  · have ascending := lawful.ascending
    rw [front, List.pairwise_cons] at ascending
    exact ascending.1

/-- A call that has ended, in whatever way, leaves its number behind. -/
theorem Lawful.spent_of_answer (lawful : fetcher.Lawful)
    (waits : fetcher.waiting = some request)
    (moves : fetcher.Transition event next (some answer)) : Spent request.number next := by
  have latest := lawful.latest request waits
  cases moves with
  | refuseCancelled free | refuseGone free => cases free.symm.trans waits
  | receive | learn | notice | expire => exact ⟨Nat.le_of_eq latest, by simp⟩

theorem Past.never_replied (past : Past fetch next) (run : next.Run later last)
    {final : Fetcher} (steps : last.step event = some (final, some (.replied reply))) :
    reply.fetch ≠ fetch := by
  have past := run.keeps Past.step past
  obtain ⟨_, _, _, queued, _, _⟩ := (transition_of_step steps).replied
  have := past.newer reply.fetch (by simp [outstanding, queued])
  omega

theorem Spent.never_replied (spent : Spent number next) (run : next.Run later last)
    {final : Fetcher} (steps : last.step event = some (final, some (.replied reply))) :
    reply.request.number ≠ number := by
  have spent := run.keeps Spent.step spent
  obtain ⟨request, _, waits, _, own, _⟩ := (transition_of_step steps).replied
  have := spent.newer request waits
  omega

end Endings

/-- A result that ends a call comes from a fetch that began after the call's own request
was sent and had the call's own token. No later call returns the result of that fetch, and
none returns a result for a call that has ended, also if it was given up. -/
theorem answers_are_own {limit : Span} {events : List Event} {fetcher next : Fetcher}
    {event : Event} {answer : Answer} (run : (new limit).Run events fetcher)
    (ends : fetcher.step event = some (next, some answer)) :
    (∀ reply, answer = .replied reply →
      ∃ before after, events = before ++ .call reply.request.token :: after ∧
        (∀ token, .call token ∉ after) ∧ fetcher.waiting = some reply.request ∧
        Sends limit before reply.request ∧ ProducedIn limit before after reply) ∧
    ∀ later last final laterEvent other, next.Run later last →
      last.step laterEvent = some (final, some (.replied other)) →
      (∀ reply, answer = .replied reply → other.fetch ≠ reply.fetch) ∧
      ∀ request, fetcher.waiting = some request → other.request.number ≠ request.number := by
  have lawful := run.lawful
  have moves := transition_of_step ends
  constructor
  · rintro reply rfl
    obtain ⟨waits, front⟩ := lawful.replied_request moves
    obtain ⟨before, after, split, course⟩ := run.course waits
    exact ⟨before, after, split, course.quiet, waits, course.sent,
      course.produced reply front rfl⟩
  · intro later last final laterEvent other onward steps
    constructor
    · rintro reply rfl
      exact (lawful.past_of_replied moves).never_replied onward steps
    · intro request waits
      exact (lawful.spent_of_answer waits moves).never_replied onward steps

/-- A call that runs out of time, and a second one with the same token, which the late
result of the first one precedes in the queue. -/
def belated : List Event :=
  [.call 0, .take, .advance, .begin, .expire, .call 0, .finish (.ok ⟨10, 10, .bits64⟩),
    .receive, .take, .advance, .begin, .finish (.ok ⟨20, 20, .bits64⟩)]

theorem answers_are_own_belated :
    let limit := Span.ofParts 1 0
    let reply : Reply := ⟨⟨2, 0⟩, 2, .ok ⟨20, 20, .bits64⟩⟩
    ∃ fetcher next, (new limit).Run belated fetcher ∧
      fetcher.step .receive = some (next, some (.replied reply)) ∧
      ∃ before after, belated = before ++ .call 0 :: after ∧ (∀ token, .call token ∉ after) ∧
        fetcher.waiting = some reply.request ∧ Sends limit before reply.request ∧
        ProducedIn limit before after reply := by
  intro limit reply
  have given_up : (new limit).Run [.call 0, .take, .advance, .begin, .expire]
      ⟨limit, 1, [], [], .fetching ⟨1, 0⟩ 1, none, 1, []⟩ :=
    .step (.step (.step (.step (.step .start rfl) rfl) rfl) rfl) rfl
  have discarded : (new limit).Run (belated.take 8)
      ⟨limit, 2, [⟨2, 0⟩], [], .idle, some ⟨2, 0⟩, 1, []⟩ :=
    .step (.step (.step given_up rfl) rfl) rfl
  let fetcher : Fetcher := ⟨limit, 2, [], [reply], .idle, some ⟨2, 0⟩, 2, []⟩
  have run : (new limit).Run belated fetcher :=
    .step (.step (.step (.step discarded rfl) rfl) rfl) rfl
  let next : Fetcher := ⟨limit, 2, [], [], .idle, none, 2, []⟩
  have ends : fetcher.step .receive = some (next, some (.replied reply)) := rfl
  obtain ⟨own, _⟩ := answers_are_own run ends
  exact ⟨fetcher, next, run, ends, own reply rfl⟩

end TrafficMeter.Deadline.Fetcher
