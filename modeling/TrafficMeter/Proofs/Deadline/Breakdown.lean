import Mathlib.Data.List.Induction
import TrafficMeter.Proofs.Deadline.Backlog
import TrafficMeter.Proofs.Deadline.OwnReply

/-! # After a breakdown

A fetch that breaks down takes the worker with it. What is left are the replies to requests
that were given up, all of them older than the request of the call that still waits, so that
no call ever takes one: it is refused, and so is every later call, at once.
-/

namespace TrafficMeter.Deadline.Fetcher

/-- The requests on their way through the fetcher, from the next reply to the latest request. -/
def pipeline (fetcher : Fetcher) : List Request :=
  fetcher.replies.map Reply.request ++ fetcher.worker.request?.toList ++ fetcher.requests

/-- How often the caller tries to take a reply. -/
def receptions (events : List Event) : Nat := events.countP fun event => event matches .receive

section Steps

variable {fetcher next : Fetcher} {event : Event} {answer : Option Answer} {request : Request}

theorem mem_circulating_of_pipeline (held : request ∈ fetcher.pipeline) :
    request ∈ fetcher.circulating := by
  simp only [pipeline, circulating, List.mem_append] at held ⊢
  rcases held with (replied | worked) | queued
  · exact .inr replied
  · exact .inl (.inr worked)
  · exact .inl (.inl queued)

namespace Transition

theorem limit (moves : fetcher.Transition event next answer) : next.limit = fetcher.limit := by
  cases moves <;> rfl

/-- Requests go through the pipeline in the order of sending; some are thrown away. -/
theorem pipeline (moves : fetcher.Transition event next answer) :
    next.pipeline.Sublist fetcher.pipeline ∨
      ∃ token, next.pipeline = fetcher.pipeline ++ [⟨fetcher.lastNumber + 1, token⟩] := by
  cases moves <;> simp_all [Fetcher.pipeline, Worker.request?]

end Transition

end Steps

/-- What holds of the pipeline at every moment: the requests in it are in the order of
sending. -/
structure Serial (fetcher : Fetcher) : Prop extends fetcher.Lawful where
  rising : fetcher.pipeline.Pairwise (·.number < ·.number)

/-- The worker is gone, and every reply that it has left is older than the call that waits. -/
structure Forsaken (fetcher : Fetcher) : Prop where
  gone : fetcher.worker = .gone
  stale : ∀ request, fetcher.waiting = some request →
    ∀ reply ∈ fetcher.replies, reply.request.number < request.number

section Invariants

variable {fetcher next : Fetcher} {event : Event} {answer : Option Answer} {request : Request}

theorem Serial.new (limit : Span) : (Fetcher.new limit).Serial where
  toLawful := Lawful.new limit
  rising := by simp [Fetcher.new, pipeline, Worker.request?]

theorem Serial.step (serial : fetcher.Serial) (moves : fetcher.Transition event next answer) :
    next.Serial where
  toLawful := serial.toLawful.step moves
  rising := by
    rcases moves.pipeline with fewer | ⟨token, one_more⟩
    · exact serial.rising.sublist fewer
    · rw [one_more, List.pairwise_append]
      refine ⟨serial.rising, List.pairwise_singleton _ _, ?_⟩
      intro request held last sent
      have := serial.circulating_le request (mem_circulating_of_pipeline held)
      rw [List.mem_singleton.mp sent]
      dsimp only
      omega

/-- The fetch that breaks down is for a later request than every reply on its way, and the call
that waits has sent the latest one. -/
theorem Serial.forsaken (serial : fetcher.Serial)
    (moves : fetcher.Transition .breakDown next answer) : next.Forsaken := by
  cases moves with
  | @breakDown served fetch fetching =>
      refine ⟨rfl, ?_⟩
      intro request waits reply queued
      have latest := serial.latest request waits
      have in_hand : served ∈ fetcher.circulating := by
        simp [circulating, fetching, Worker.request?]
      have := serial.circulating_le served in_hand
      have rising := serial.rising
      simp only [pipeline, fetching, Worker.request?, Option.toList_some] at rising
      rw [List.pairwise_append, List.pairwise_append] at rising
      have := rising.1.2.2 reply.request (List.mem_map_of_mem queued) served (by simp)
      omega

theorem Forsaken.waited (forsaken : fetcher.Forsaken)
    (moves : fetcher.Transition event next answer) (waits : next.waiting = some request) :
    fetcher.waiting = some request := by
  cases moves with
  | send _ _ present => exact absurd forsaken.gone present
  | refuseCancelled | refuseGone | receive | learn | notice | expire => cases waits
  | _ => exact waits

theorem Forsaken.step (forsaken : fetcher.Forsaken)
    (moves : fetcher.Transition event next answer) : next.Forsaken := by
  have gone := moves.stays_gone forsaken.gone
  refine ⟨gone, ?_⟩
  intro request waits reply queued
  rcases moves.replies queued with before | ⟨_, fetching⟩
  · exact forsaken.stale request (forsaken.waited moves waits) reply before
  · cases forsaken.gone.symm.trans fetching

end Invariants

section Refusals

variable {fetcher next last : Fetcher} {event : Event} {later : List Event} {request : Request}

theorem Forsaken.served_eq_nil (forsaken : fetcher.Forsaken) (later : List Event) :
    fetcher.served later = [] := by
  apply List.eq_nil_iff_forall_not_mem.mpr
  apply served_keeps Forsaken (fun _ => False) Forsaken.step ?_ forsaken
  intro fetcher request forsaken settled _
  cases forsaken.gone.symm.trans settled

theorem Forsaken.call (forsaken : fetcher.Forsaken) (free : fetcher.waiting = none)
    (token : Nat) :
    ∃ next, fetcher.step (.call token) = some (next, some (.refused
      (if fetcher.isCancelled token then .cancelled .cancelled else workerGone))) ∧
      next.waiting = none := by
  cases cancelled : fetcher.isCancelled token <;>
    simp [Fetcher.step, Fetcher.call, free, cancelled, forsaken.gone, conclude]

/-- A reply at the front of the queue is thrown away; without one the caller learns that none
can come. -/
theorem Forsaken.receive (forsaken : fetcher.Forsaken) (waits : fetcher.waiting = some request) :
    ∃ next answer, fetcher.step .receive = some (next, answer) := by
  cases queued : fetcher.replies with
  | nil => simp [Fetcher.step, Fetcher.receive, waits, queued, forsaken.gone, conclude]
  | cons reply replies =>
      have older := forsaken.stale request waits reply (by simp [queued])
      have other : reply.request.number ≠ request.number := by omega
      simp [Fetcher.step, Fetcher.receive, waits, queued, other, proceed]

/-- Left alone, the call that waits goes through the replies that are left and is refused. -/
theorem Forsaken.play_await (forsaken : fetcher.Forsaken)
    (waits : fetcher.waiting = some request) :
    (fetcher.play (Session.await fetcher.replies.length)).2 = some (.refused workerGone) := by
  generalize queued : fetcher.replies = replies
  induction replies generalizing fetcher with
  | nil =>
      simp [Session.await, play, Fetcher.step, Fetcher.receive, waits, queued, forsaken.gone,
        conclude]
  | cons reply replies ih =>
      have older := forsaken.stale request waits reply (by simp [queued])
      have other : reply.request.number ≠ request.number := by omega
      have discards : fetcher.step .receive = some ({ fetcher with replies }, none) := by
        simp [Fetcher.step, Fetcher.receive, waits, queued, other, proceed]
      have left := forsaken.step (transition_of_step discards)
      rw [Session.await, List.length_cons, List.replicate_succ, play, discards]
      exact ih left waits rfl

theorem Forsaken.answer {answer : Answer} (forsaken : fetcher.Forsaken)
    (moves : fetcher.Transition event next (some answer)) :
    answer = .refused workerGone ∨ answer = .refused (.timeout fetcher.limit) ∨
      answer = .refused (.cancelled .cancelled) := by
  cases moves with
  | refuseCancelled | notice => exact .inr (.inr rfl)
  | refuseGone | learn => exact .inl rfl
  | expire => exact .inr (.inl rfl)
  | @receive request reply replies waits queued own =>
      have older := forsaken.stale request waits reply (by simp [queued])
      omega

/-- As long as the call waits, every attempt to take a reply uses up one of those that are
left. -/
theorem Forsaken.receptions_add (forsaken : fetcher.Forsaken) (run : fetcher.Run later last)
    (waits : last.waiting = some request) :
    fetcher.waiting = some request ∧
      receptions later + last.replies.length = fetcher.replies.length := by
  induction run with
  | start => exact ⟨waits, by simp [receptions]⟩
  | @step later event middle last answer run steps ih =>
      have moves := transition_of_step steps
      have left := run.keeps Forsaken.step forsaken
      obtain ⟨waited, used⟩ := ih (left.waited moves waits)
      refine ⟨waited, ?_⟩
      have one : receptions [event] + last.replies.length = middle.replies.length := by
        cases moves with
        | discard _ queued _ => simp [receptions, queued, Nat.add_comm]
        | receive | learn => cases waits
        | finish fetching => cases left.gone.symm.trans fetching
        | _ => simp [receptions]
      simp only [receptions, List.countP_append] at one used ⊢
      omega

end Refusals

section Histories

variable {first last : Fetcher} {before after : List Event} {event : Event}

theorem Run.limit (run : first.Run before last) : last.limit = first.limit := by
  induction run with
  | start => rfl
  | step _ steps ih => exact (transition_of_step steps).limit.trans ih

/-- A run can be parted between any two of its events. -/
theorem Run.split (run : first.Run (before ++ after) last) :
    ∃ middle, first.Run before middle ∧ middle.Run after last := by
  induction after using List.reverseRecOn generalizing last with
  | nil => exact ⟨last, by simpa using run, .start⟩
  | append_singleton after event ih =>
      rw [← List.append_assoc] at run
      generalize all : before ++ after ++ [event] = events at run
      cases run with
      | start => simp at all
      | step run steps =>
          obtain ⟨rfl, same⟩ := List.append_inj' all rfl
          cases same
          obtain ⟨middle, earlier, later⟩ := ih run
          exact ⟨middle, earlier, .step later steps⟩

theorem Run.of_singleton (run : first.Run [event] last) :
    ∃ answer, first.step event = some (last, answer) := by
  generalize all : [event] = events at run
  cases run with
  | start => cases all
  | @step earlier _ middle _ answer run steps =>
      rw [← List.nil_append [event]] at all
      obtain ⟨none, same⟩ := List.append_inj' all rfl
      subst none
      cases same
      generalize empty : ([] : List Event) = nothing at run
      cases run with
      | start => exact ⟨answer, steps⟩
      | step => simp at empty

end Histories

/-- After a breakdown no fetch is begun any more, whatever else happens. A call that is begun then
is refused at once: it is cancelled if its token is, and unavailable otherwise. The call that waits
was begun before; it never ends with a snapshot, and it ends after the last of the replies that are
left, if it is not cancelled or out of time before that. -/
theorem breakdown_is_final {limit : Span} {before after : List Event} {fetcher : Fetcher}
    (run : (new limit).Run (before ++ .breakDown :: after) fetcher) :
    (∀ later, fetcher.served later = []) ∧
      (fetcher.waiting = none → ∀ token, ∃ next,
        fetcher.step (.call token) = some (next, some (.refused
          (if fetcher.isCancelled token then .cancelled .cancelled
          else .unavailable "fetch worker stopped"))) ∧ next.waiting = none) ∧
      (∀ event next answer, fetcher.step event = some (next, some answer) →
        answer = .refused (.unavailable "fetch worker stopped") ∨
          answer = .refused (.timeout limit) ∨ answer = .refused (.cancelled .cancelled)) ∧
      ∀ request, fetcher.waiting = some request →
        (∃ broken, (new limit).Run (before ++ [.breakDown]) broken ∧
          broken.waiting = some request) ∧
        (∃ next answer, fetcher.step .receive = some (next, answer)) ∧
        (∀ later last, fetcher.Run later last → last.waiting = some request →
          receptions later ≤ fetcher.replies.length) ∧
        (fetcher.play (Session.await fetcher.replies.length)).2 =
          some (.refused (.unavailable "fetch worker stopped")) := by
  have same_limit : fetcher.limit = limit := run.limit
  rw [List.append_cons] at run
  obtain ⟨broken, broke, onward⟩ := run.split
  have forsaken_then : broken.Forsaken := by
    obtain ⟨unbroken, earlier, breaks⟩ := broke.split
    obtain ⟨answer, steps⟩ := breaks.of_singleton
    have serial := earlier.keeps Serial.step (Serial.new limit)
    exact serial.forsaken (transition_of_step steps)
  have forsaken := onward.keeps Forsaken.step forsaken_then
  refine ⟨forsaken.served_eq_nil, forsaken.call, ?_, ?_⟩
  · intro event next answer ends
    rw [← same_limit]
    exact forsaken.answer (transition_of_step ends)
  · intro request waits
    obtain ⟨waited, _⟩ := forsaken_then.receptions_add onward waits
    refine ⟨⟨broken, broke, waited⟩, forsaken.receive waits, ?_, forsaken.play_await waits⟩
    intro later last onward still
    obtain ⟨_, used⟩ := forsaken.receptions_add onward still
    omega

/-- A second call is being fetched for while the late reply to the first one is on its way. -/
def followed : List Event :=
  [.call 0, .take, .advance, .begin, .expire, .finish (.ok ⟨10, 10, .bits64⟩), .call 0, .take,
    .advance, .begin]

theorem breakdown_is_final_followed :
    let limit := Span.ofParts 1 0
    let unavailable := Answer.refused (.unavailable "fetch worker stopped")
    ∃ fetcher last, (new limit).Run (followed ++ .breakDown :: [.cancel 7]) fetcher ∧
      (new limit).Run (followed ++ .breakDown :: [.cancel 7, .receive, .receive]) last ∧
      fetcher.waiting = some ⟨2, 0⟩ ∧
      fetcher.replies = [⟨⟨1, 0⟩, 1, .ok ⟨10, 10, .bits64⟩⟩] ∧
      (fetcher.play (Session.await 1)).2 = some unavailable ∧
      last.waiting = none ∧ (∀ later, last.served later = []) ∧
      (∃ next, last.step (.call 0) = some (next, some unavailable)) ∧
      ∃ next, last.step (.call 7) = some (next, some (.refused (.cancelled .cancelled))) := by
  intro limit unavailable
  let late : Reply := ⟨⟨1, 0⟩, 1, .ok ⟨10, 10, .bits64⟩⟩
  let fetcher : Fetcher := ⟨limit, 2, [], [late], .gone, some ⟨2, 0⟩, 2, [7]⟩
  let last : Fetcher := ⟨limit, 2, [], [], .gone, none, 2, [7]⟩
  have replied : (new limit).Run (followed.take 6) ⟨limit, 1, [], [late], .idle, none, 1, []⟩ :=
    .step (.step (.step (.step (.step (.step .start rfl) rfl) rfl) rfl) rfl) rfl
  have run : (new limit).Run (followed ++ .breakDown :: [.cancel 7]) fetcher :=
    .step (.step (.step (.step (.step (.step replied rfl) rfl) rfl) rfl) rfl) rfl
  have run_on : (new limit).Run (followed ++ .breakDown :: [.cancel 7, .receive, .receive]) last :=
    .step (.step run rfl) rfl
  obtain ⟨_, _, _, waiting⟩ := breakdown_is_final run
  obtain ⟨_, _, _, refused⟩ := waiting ⟨2, 0⟩ rfl
  obtain ⟨unserved, calls, _, _⟩ := breakdown_is_final run_on
  obtain ⟨next, unavailable_now, _⟩ := calls rfl 0
  obtain ⟨next', cancelled_now, _⟩ := calls rfl 7
  exact ⟨fetcher, last, run, run_on, rfl, rfl, refused, rfl, unserved, ⟨next, unavailable_now⟩,
    next', cancelled_now⟩

end TrafficMeter.Deadline.Fetcher
