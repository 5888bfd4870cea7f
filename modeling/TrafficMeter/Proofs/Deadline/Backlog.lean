import TrafficMeter.Deadline.Session
import TrafficMeter.Proofs.Deadline.Transition

/-! # What becomes of a backlog

Requests queue up behind a slow fetch, and the worker throws all but the newest of them
away. The requests that it does fetch for have rising numbers, and a request that a call
still waits for is never among those thrown away.
-/

namespace TrafficMeter.Deadline

/-- The request that the worker has taken without having begun a fetch for it. -/
def Worker.undecided? : Worker → Option Request
  | holding request | settled request => some request
  | _ => none

namespace Fetcher

/-- The requests that no fetch has been begun for, oldest first. -/
def backlog (fetcher : Fetcher) : List Request :=
  fetcher.worker.undecided?.toList ++ fetcher.requests

/-- The request that a fetch is begun for with the event. -/
def served? (fetcher : Fetcher) (event : Event) : Option Request :=
  match event, fetcher.step event with
  | .begin, some ({ worker := .fetching request _, .. }, _) => some request
  | _, _ => none

/-- The requests that fetches are begun for when those of the events happen that can. -/
def served (fetcher : Fetcher) : List Event → List Request
  | [] => []
  | event :: events =>
      match fetcher.step event with
      | none => fetcher.served events
      | some (next, _) => (fetcher.served? event).toList ++ next.served events

/-- With the event a request leaves the backlog although no fetch is begun for it. -/
def Discards (fetcher : Fetcher) (event : Event) (request : Request) : Prop :=
  ∃ next answer, fetcher.step event = some (next, answer) ∧ request ∈ fetcher.backlog ∧
    request ∉ next.backlog ∧ fetcher.served? event ≠ some request

section Steps

variable {fetcher next : Fetcher} {event : Event} {answer : Option Answer} {request : Request}

theorem served?_eq_some_iff : fetcher.served? event = some request ↔
    event = .begin ∧ fetcher.worker = .settled request ∧
      fetcher.isCancelled request.token = false := by
  cases event with
  | begin =>
      cases settled : fetcher.worker with
      | settled held =>
          cases cancelled : fetcher.isCancelled held.token with
          | true =>
              have skips : fetcher.served? .begin = none := by
                simp [served?, step, settled, cancelled, proceed]
              rw [skips]
              simp +contextual [← cancelled]
          | false =>
              have serves : fetcher.served? .begin = some held := by
                simp [served?, step, settled, cancelled, proceed]
              rw [serves]
              simp +contextual [← cancelled, eq_comm]
      | _ => simp [served?, step, settled]
  | _ => simp [served?]

namespace Transition

/-- The backlog loses requests at its old end, or gets a new one at the other. -/
theorem backlog (moves : fetcher.Transition event next answer) :
    (next.backlog <:+ fetcher.backlog ∧
        (fetcher.worker = .gone ∨ next.lastNumber = fetcher.lastNumber)) ∨
      (∃ token, next.backlog = fetcher.backlog ++ [⟨fetcher.lastNumber + 1, token⟩] ∧
        next.lastNumber = fetcher.lastNumber + 1) := by
  cases moves <;> simp_all [Fetcher.backlog, Worker.undecided?]

theorem emptied (moves : fetcher.Transition event next answer) (gone : next.worker = .gone) :
    next.requests = [] ∨ (fetcher.worker = .gone ∧ next.requests = fetcher.requests) := by
  cases moves <;> simp_all

theorem stays_gone (moves : fetcher.Transition event next answer)
    (gone : fetcher.worker = .gone) : next.worker = .gone := by
  cases moves <;> simp_all

theorem settled (moves : fetcher.Transition event next answer)
    (settles : next.worker = .settled request) :
    fetcher.worker = .settled request ∨ fetcher.backlog = [request] := by
  cases moves <;> simp_all [Fetcher.backlog, Worker.undecided?]

theorem isCancelled {token : Nat} (moves : fetcher.Transition event next answer)
    (cancelled : fetcher.isCancelled token = true) : next.isCancelled token = true := by
  cases moves <;> simp_all [Fetcher.isCancelled]

end Transition

theorem Transition.of_served (moves : fetcher.Transition event next answer)
    (serves : fetcher.served? event = some request) :
    next = { fetcher with
      fetches := fetcher.fetches + 1
      worker := .fetching request (fetcher.fetches + 1) } := by
  obtain ⟨rfl, settled, live⟩ := served?_eq_some_iff.mp serves
  cases moves with
  | skip other cancelled =>
      cases settled.symm.trans other
      simp [live] at cancelled
  | begin other =>
      cases settled.symm.trans other
      rfl

theorem backlog_of_settled (settled : fetcher.worker = .settled request) :
    fetcher.backlog = request :: fetcher.requests := by
  simp [backlog, settled, Worker.undecided?]

theorem mem_circulating_iff : request ∈ fetcher.circulating ↔
    request ∈ fetcher.backlog ∨ (∃ fetch, fetcher.worker = .fetching request fetch) ∨
      ∃ reply ∈ fetcher.replies, reply.request = request := by
  cases worker : fetcher.worker <;>
    simp [circulating, backlog, worker, Worker.request?, Worker.undecided?, eq_comm] <;> grind

end Steps

/-- What holds of the backlog at every moment: it is in the order of sending, and its
newest request is the latest of all. -/
structure Queued (fetcher : Fetcher) : Prop extends fetcher.Lawful where
  rising : fetcher.backlog.Pairwise (·.number < ·.number)
  newest : ∀ request, fetcher.backlog.getLast? = some request →
    request.number = fetcher.lastNumber
  emptied : fetcher.worker = .gone → fetcher.requests = []

namespace Queued

variable {fetcher next : Fetcher} {event : Event} {answer : Option Answer}

theorem new (limit : Span) : (Fetcher.new limit).Queued where
  toLawful := Lawful.new limit
  rising := by simp [Fetcher.new, backlog, Worker.undecided?]
  newest := by simp [Fetcher.new, backlog, Worker.undecided?]
  emptied := by simp [Fetcher.new]

theorem backlog_le (queued : fetcher.Queued) {request : Request}
    (held : request ∈ fetcher.backlog) : request.number ≤ fetcher.lastNumber :=
  queued.circulating_le request (mem_circulating_iff.mpr (.inl held))

theorem backlog_of_gone (queued : fetcher.Queued) (gone : fetcher.worker = .gone) :
    fetcher.backlog = [] := by
  simp [backlog, gone, Worker.undecided?, queued.emptied gone]

theorem step (queued : fetcher.Queued) (moves : fetcher.Transition event next answer) :
    next.Queued where
  toLawful := queued.toLawful.step moves
  rising := by
    rcases moves.backlog with ⟨fewer, _⟩ | ⟨token, one_more, _⟩
    · exact queued.rising.sublist fewer.sublist
    · rw [one_more, List.pairwise_append]
      refine ⟨queued.rising, List.pairwise_singleton _ _, ?_⟩
      intro request held last sent
      have := queued.backlog_le held
      rw [List.mem_singleton.mp sent]
      dsimp only
      omega
  newest := by
    intro request last
    rcases moves.backlog with ⟨⟨dropped, whole⟩, gone | same⟩ | ⟨token, one_more, count⟩
    · have none_left : next.backlog = [] := by
        have empty := queued.backlog_of_gone gone
        rw [← whole] at empty
        exact (List.append_eq_nil_iff.mp empty).2
      simp [none_left] at last
    · rw [same]
      apply queued.newest
      rw [← whole, List.getLast?_append, last]
      rfl
    · rw [one_more, List.getLast?_concat] at last
      cases last
      exact count.symm
  emptied := by
    intro gone
    rcases moves.emptied gone with empty | ⟨before, same⟩
    · exact empty
    · rw [same]
      exact queued.emptied before

end Queued

theorem Run.queued {limit : Span} {events : List Event} {last : Fetcher}
    (run : (new limit).Run events last) : last.Queued :=
  run.keeps Queued.step (Queued.new limit)

/-- No request up to that number will be fetched for any more. -/
structure Beyond (number : Nat) (fetcher : Fetcher) : Prop where
  given : number ≤ fetcher.lastNumber
  backlog : ∀ request ∈ fetcher.backlog, number < request.number

/-- The worker only settles on requests from that number on. -/
structure SettlesFrom (number : Nat) (fetcher : Fetcher) : Prop extends fetcher.Queued where
  given : number ≤ fetcher.lastNumber
  settled : ∀ request, fetcher.worker = .settled request → number ≤ request.number

section Services

variable {fetcher next : Fetcher} {event : Event} {events : List Event}
  {answer : Option Answer} {number token : Nat} {request : Request}

theorem Beyond.step (beyond : Beyond number fetcher)
    (moves : fetcher.Transition event next answer) : Beyond number next := by
  have given := beyond.given
  refine ⟨Nat.le_trans given moves.lastNumber_le, ?_⟩
  intro request held
  rcases moves.backlog with ⟨fewer, _⟩ | ⟨token, one_more, _⟩
  · exact beyond.backlog request (fewer.subset held)
  · rw [one_more, List.mem_append, List.mem_singleton] at held
    rcases held with before | rfl
    · exact beyond.backlog request before
    · dsimp only
      omega

theorem SettlesFrom.step (settles : SettlesFrom number fetcher)
    (moves : fetcher.Transition event next answer) : SettlesFrom number next := by
  refine ⟨settles.toQueued.step moves, Nat.le_trans settles.given moves.lastNumber_le, ?_⟩
  intro request settled
  rcases moves.settled settled with before | only
  · exact settles.settled request before
  · -- the queue has run empty, so the request in hand is the latest of all
    rw [settles.newest request (by rw [only]; rfl)]
    exact settles.given

/-- What a transition keeps and every request that is served with it has holds of all
requests that are served from then on. -/
theorem served_keeps (property : Fetcher → Prop) (served : Request → Prop)
    (preserved : ∀ {fetcher next : Fetcher} {event : Event} {answer : Option Answer},
      property fetcher → fetcher.Transition event next answer → property next)
    (serves : ∀ {fetcher : Fetcher} {request : Request}, property fetcher →
      fetcher.worker = .settled request → fetcher.isCancelled request.token = false →
      served request)
    (initial : property fetcher) : ∀ request ∈ fetcher.served events, served request := by
  induction events generalizing fetcher with
  | nil => simp [Fetcher.served]
  | cons event events ih =>
      intro request inside
      rw [Fetcher.served] at inside
      cases steps : fetcher.step event with
      | none =>
          rw [steps] at inside
          exact ih initial request inside
      | some result =>
          obtain ⟨next, answer⟩ := result
          rw [steps] at inside
          rcases List.mem_append.mp inside with now | later
          · obtain ⟨_, settled, live⟩ := served?_eq_some_iff.mp (Option.mem_toList.mp now)
            exact serves initial settled live
          · exact ih (preserved initial (transition_of_step steps)) request later

theorem Beyond.lt_served (beyond : Beyond number fetcher) :
    ∀ request ∈ fetcher.served events, number < request.number := by
  apply served_keeps (Beyond number) (number < ·.number) Beyond.step ?_ beyond
  intro fetcher request beyond settled _
  exact beyond.backlog request (by simp [backlog_of_settled settled])

theorem SettlesFrom.le_served (settles : SettlesFrom number fetcher) :
    ∀ request ∈ fetcher.served events, number ≤ request.number := by
  apply served_keeps (SettlesFrom number) (number ≤ ·.number) SettlesFrom.step ?_ settles
  intro fetcher request settles settled _
  exact settles.settled request settled

theorem token_ne_of_served (cancelled : fetcher.isCancelled token = true) :
    ∀ request ∈ fetcher.served events, request.token ≠ token := by
  apply served_keeps (·.isCancelled token = true) (·.token ≠ token) ?_ ?_ cancelled
  · intro _ _ _ _ cancelled moves
    exact moves.isCancelled cancelled
  · rintro fetcher request cancelled _ live rfl
    cases cancelled.symm.trans live

/-- Beginning a fetch leaves only later requests in the backlog. -/
theorem Queued.beyond_of_served? (queued : fetcher.Queued)
    (serves : fetcher.served? event = some request)
    (moves : fetcher.Transition event next answer) : Beyond request.number next := by
  have before := backlog_of_settled (served?_eq_some_iff.mp serves).2.1
  have rising := queued.rising
  rw [before, List.pairwise_cons] at rising
  refine ⟨Nat.le_trans (queued.backlog_le (by simp [before])) moves.lastNumber_le, ?_⟩
  rw [moves.of_served serves]
  exact rising.1

/-- Fetches are begun for requests with rising numbers. -/
theorem Queued.served_rising (queued : fetcher.Queued) :
    (fetcher.served events).Pairwise (·.number < ·.number) := by
  induction events generalizing fetcher with
  | nil => exact .nil
  | cons event events ih =>
      rw [served]
      cases steps : fetcher.step event with
      | none => exact ih queued
      | some result =>
          obtain ⟨next, answer⟩ := result
          have moves := transition_of_step steps
          have later := ih (queued.step moves)
          cases serves : fetcher.served? event with
          | none => simpa using later
          | some request =>
              have beyond := queued.beyond_of_served? serves moves
              exact List.pairwise_cons.mpr ⟨beyond.lt_served, later⟩

theorem Run.served_append {first last : Fetcher} {earlier : List Event}
    (run : first.Run earlier last) (later : List Event) :
    first.served (earlier ++ later) = first.served earlier ++ last.served later := by
  induction run generalizing later with
  | start => rfl
  | @step earlier event middle last answer run steps ih =>
      rw [List.append_assoc, ih, ih, List.append_assoc]
      simp [served, steps]

end Services

/-- While the worker is there, the request of a live call is queued, in the worker's hand,
or answered by a reply on its way. -/
def Attended (fetcher : Fetcher) : Prop :=
  fetcher.worker ≠ .gone → ∀ request, fetcher.waiting = some request →
    fetcher.isCancelled request.token = false → request ∈ fetcher.circulating

section Attendance

variable {fetcher next : Fetcher} {event : Event} {answer : Option Answer} {request : Request}

/-- A request that leaves the backlog without a fetch was not the latest one, or its token
is cancelled, unless a fetch breaks down. -/
theorem Queued.of_discarded (queued : fetcher.Queued) (intact : event ≠ .breakDown)
    (moves : fetcher.Transition event next answer) (held : request ∈ fetcher.backlog)
    (left : request ∉ next.backlog) (unserved : fetcher.served? event ≠ some request) :
    request.number < fetcher.lastNumber ∨ fetcher.isCancelled request.token = true := by
  cases moves with
  | @advance other newer requests holding waiting =>
      have before : fetcher.backlog = other :: newer :: requests := by
        simp [backlog, holding, waiting, Worker.undecided?]
      have rising := queued.rising
      rw [before, List.pairwise_cons] at rising
      rw [before, List.mem_cons] at held
      rcases held with rfl | kept
      · have newer_le : newer.number ≤ fetcher.lastNumber := queued.backlog_le (by simp [before])
        have := rising.1 newer (by simp)
        exact .inl (by omega)
      · exact absurd kept left
  | @skip other settled cancelled =>
      rw [backlog_of_settled settled, List.mem_cons] at held
      rcases held with rfl | kept
      · exact .inr cancelled
      · exact absurd kept left
  | @begin other settled live =>
      rw [backlog_of_settled settled, List.mem_cons] at held
      rcases held with rfl | kept
      · exact absurd (served?_eq_some_iff.mpr ⟨rfl, settled, live⟩) unserved
      · exact absurd kept left
  | breakDown => exact absurd rfl intact
  | _ =>
      refine absurd ?_ left
      simp_all [backlog, Worker.undecided?]

/-- The request of a waiting call with a live token leaves the backlog only for a fetch,
unless one breaks down. -/
theorem Queued.served_of_left (queued : fetcher.Queued) (intact : event ≠ .breakDown)
    (moves : fetcher.Transition event next answer) (waits : fetcher.waiting = some request)
    (live : fetcher.isCancelled request.token = false) (held : request ∈ fetcher.backlog)
    (left : request ∉ next.backlog) : fetcher.served? event = some request := by
  by_cases serves : fetcher.served? event = some request
  · exact serves
  · -- a call waits for the latest request, and only older or cancelled ones are discarded
    have latest := queued.latest request waits
    rcases queued.of_discarded intact moves held left serves with older | cancelled
    · omega
    · cases cancelled.symm.trans live

/-- While a call with a live token waits, its request stays in circulation, unless a fetch
breaks down. -/
theorem Queued.circulates (queued : fetcher.Queued) (intact : event ≠ .breakDown)
    (moves : fetcher.Transition event next answer) (waited : fetcher.waiting = some request)
    (waits : next.waiting = some request) (live : fetcher.isCancelled request.token = false)
    (held : request ∈ fetcher.circulating) : request ∈ next.circulating := by
  rw [mem_circulating_iff] at held ⊢
  rcases held with pending | ⟨fetch, fetching⟩ | ⟨reply, replied, own⟩
  · by_cases left : request ∈ next.backlog
    · exact .inl left
    · rw [moves.of_served (queued.served_of_left intact moves waited live pending left)]
      exact .inr (.inl ⟨_, rfl⟩)
  · cases moves with
    | finish other =>
        cases fetching.symm.trans other
        exact .inr (.inr ⟨_, List.mem_append_right _ List.mem_cons_self, rfl⟩)
    | breakDown => exact absurd rfl intact
    | take other | advance other | settle other | skip other | begin other =>
        cases fetching.symm.trans other
    | _ => exact .inr (.inl ⟨fetch, fetching⟩)
  · cases moves with
    | discard waiting front stale =>
        cases waiting.symm.trans waits
        rw [front, List.mem_cons] at replied
        rcases replied with rfl | later
        · exact absurd (congrArg Request.number own) stale
        · exact .inr (.inr ⟨reply, later, own⟩)
    | receive => cases waits
    | finish => exact .inr (.inr ⟨reply, by simp [replied], own⟩)
    | _ => exact .inr (.inr ⟨reply, replied, own⟩)

theorem Transition.circulates_of_sent (moves : fetcher.Transition (.call request.token) next answer)
    (waits : next.waiting = some request) : request ∈ next.circulating := by
  cases moves with
  | send =>
      have same := Option.some.inj waits
      simp [Fetcher.circulating, same]
  | refuseCancelled | refuseGone => cases waits

theorem Transition.live (moves : fetcher.Transition event next answer) {token : Nat}
    (live : next.isCancelled token = false) : fetcher.isCancelled token = false := by
  cases cancelled : fetcher.isCancelled token with
  | true => exact (moves.isCancelled cancelled).symm.trans live
  | false => rfl

theorem Attended.step (queued : fetcher.Queued) (attended : fetcher.Attended)
    (moves : fetcher.Transition event next answer) : next.Attended := by
  intro present request waits live
  rcases moves.waiting waits with ⟨earlier, _, _⟩ | ⟨rfl, _, _⟩
  · have intact : event ≠ .breakDown := by
      rintro rfl
      cases moves
      exact present rfl
    have there : fetcher.worker ≠ .gone := by
      intro gone
      exact present (moves.stays_gone gone)
    have liveBefore := moves.live live
    have held := attended there request earlier liveBefore
    exact queued.circulates intact moves earlier waits liveBefore held
  · exact moves.circulates_of_sent waits

theorem Run.attended {limit : Span} {events : List Event} {last : Fetcher}
    (run : (new limit).Run events last) : last.Attended := by
  have both : last.Queued ∧ last.Attended := by
    apply run.keeps
    · rintro fetcher next event answer ⟨queued, attended⟩ moves
      exact ⟨queued.step moves, attended.step queued moves⟩
    · exact ⟨.new limit, by simp [Attended, new]⟩
  exact both.2

end Attendance

section Draining

variable {fetcher : Fetcher} {request : Request}

theorem served_cons {next : Fetcher} {event : Event} {events : List Event}
    {answer : Option Answer} (steps : fetcher.step event = some (next, answer)) :
    fetcher.served (event :: events) =
      (fetcher.served? event).toList ++ next.served events := by
  simp [served, steps]

theorem served_begin (settled : fetcher.worker = .settled request) :
    fetcher.served [.begin] = if fetcher.isCancelled request.token then [] else [request] := by
  cases cancelled : fetcher.isCancelled request.token <;>
    simp [served, served?, step, settled, cancelled, proceed]

/-- A worker that is left alone throws away all but the newest request. -/
theorem served_advance (holding : fetcher.worker = .holding request) :
    fetcher.served (List.replicate (fetcher.requests.length + 1) .advance ++ [.begin]) =
      let newest := fetcher.requests.getLastD request
      if fetcher.isCancelled newest.token then [] else [newest] := by
  generalize queue : fetcher.requests = requests
  induction requests generalizing fetcher request with
  | nil =>
      have settles : fetcher.step .advance =
          some ({ fetcher with worker := .settled request }, none) := by
        simp [step, holding, queue, proceed]
      have begins : { fetcher with worker := .settled request }.served [.begin] =
          if fetcher.isCancelled request.token then [] else [request] := served_begin rfl
      show fetcher.served [.advance, .begin] = _
      rw [served_cons settles]
      exact begins
  | cons newer requests ih =>
      let next := { fetcher with requests, worker := .holding newer }
      have advances : fetcher.step .advance = some (next, none) := by
        simp [step, holding, queue, proceed, next]
      have holds : next.worker = .holding newer := rfl
      rw [List.length_cons, List.replicate_succ, List.cons_append, served_cons advances,
        List.getLastD_cons]
      exact ih holds rfl

theorem served_takeUp (idle : fetcher.worker = .idle) {older : List Request}
    (queue : fetcher.requests = older ++ [request]) :
    fetcher.served (Session.takeUp fetcher.requests.length) =
      if fetcher.isCancelled request.token then [] else [request] := by
  obtain ⟨oldest, rest, front⟩ : ∃ oldest rest, older ++ [request] = oldest :: rest :=
    List.exists_cons_of_ne_nil (by simp)
  let next := { fetcher with requests := rest, worker := .holding oldest }
  have takes : fetcher.step .take = some (next, none) := by
    simp [step, idle, queue, front, proceed, next]
  have holds : next.worker = .holding oldest := rfl
  have last : next.requests.getLastD oldest = request := calc
    rest.getLastD oldest = (oldest :: rest).getLastD request := List.getLastD_cons.symm
    _ = (older ++ [request]).getLastD request := by rw [front]
    _ = request := List.getLastD_concat
  have drained := served_advance holds
  rw [last] at drained
  rw [Session.takeUp, queue, front, List.cons_append, served_cons takes]
  exact drained

end Draining

theorem sublist_singleton_of_rising {requests : List Request} {request : Request}
    (rising : requests.Pairwise (·.number < ·.number))
    (only : ∀ other ∈ requests, other = request) : requests.Sublist [request] := by
  match requests with
  | [] => exact List.nil_sublist _
  | [single] => simp [only single (by simp)]
  | first :: second :: _ =>
      have first_eq := only first (by simp)
      have second_eq := only second (by simp)
      have := (List.pairwise_cons.mp rising).1 second (by simp)
      rw [first_eq, second_eq] at this
      omega

/-- Of the requests queued when the worker is free, only the newest one is ever fetched
for. -/
theorem Queued.eq_newest_of_served {fetcher : Fetcher} (queued : fetcher.Queued)
    (idle : fetcher.worker = .idle) {older : List Request} {newest request : Request}
    {events : List Event}
    (queue : fetcher.requests = older ++ [newest]) (inside : request ∈ fetcher.requests)
    (served : request ∈ fetcher.served events) : request = newest := by
  have backlog : fetcher.backlog = older ++ [newest] := by
    simp [Fetcher.backlog, idle, Worker.undecided?, queue]
  have settles : SettlesFrom fetcher.lastNumber fetcher := by
    refine ⟨queued, Nat.le_refl _, ?_⟩
    intro other settled
    cases idle.symm.trans settled
  have from_now := settles.le_served request served
  have latest := queued.newest newest (by rw [backlog, List.getLast?_concat])
  have rising := queued.rising
  rw [backlog, List.pairwise_append] at rising
  rw [queue, List.mem_append, List.mem_singleton] at inside
  rcases inside with before | same
  · have := rising.2.2 request before newest (by simp)
    omega
  · exact same

/-- Fetches are begun for requests with rising numbers. Of the requests that are queued
when the worker is free, only the newest one is ever fetched for, once at most, and not at
all if its token is cancelled by then; left alone, the worker goes straight to it. The
request of a waiting call with a live token stays with the fetcher while the worker is
there, and no step but a breakdown discards it. -/
theorem backlog_collapses {limit : Span} {events : List Event} {fetcher : Fetcher}
    (run : (new limit).Run events fetcher) :
    ((new limit).served events).Pairwise (·.number < ·.number) ∧
    (fetcher.worker = .idle → ∀ older newest, fetcher.requests = older ++ [newest] →
      (∀ later, ((fetcher.served later).filter (· ∈ fetcher.requests)).Sublist [newest]) ∧
      (∀ earlier middle later, fetcher.Run earlier middle →
        newest ∉ fetcher.served earlier → middle.isCancelled newest.token = true →
        ∀ request ∈ fetcher.requests, request ∉ fetcher.served (earlier ++ later)) ∧
      fetcher.served (Session.takeUp fetcher.requests.length) =
        if fetcher.isCancelled newest.token then [] else [newest]) ∧
    ∀ request, fetcher.waiting = some request → fetcher.isCancelled request.token = false →
      (fetcher.worker ≠ .gone → request ∈ fetcher.circulating) ∧
      ∀ event, event ≠ .breakDown → ¬ fetcher.Discards event request := by
  have queued := run.queued
  refine ⟨(Queued.new limit).served_rising, ?_, ?_⟩
  · intro idle older newest queue
    refine ⟨?_, ?_, served_takeUp idle queue⟩
    · intro later
      apply sublist_singleton_of_rising (queued.served_rising.filter _)
      intro request kept
      rw [List.mem_filter, decide_eq_true_eq] at kept
      exact queued.eq_newest_of_served idle queue kept.2 kept.1
    · intro earlier middle later onward unserved cancelled request inside served
      obtain rfl := queued.eq_newest_of_served idle queue inside served
      rw [onward.served_append, List.mem_append] at served
      rcases served with before | after
      · exact unserved before
      · exact token_ne_of_served cancelled request after rfl
  · intro request waits live
    refine ⟨fun present => run.attended present request waits live, ?_⟩
    rintro event intact ⟨next, answer, steps, held, left, unserved⟩
    have moves := transition_of_step steps
    exact unserved (queued.served_of_left intact moves waits live held left)

/-- A fetch hangs while its call and another one run out of time and a third one waits. -/
def backedUp : List Event :=
  [.call 0, .take, .advance, .begin, .expire, .call 0, .expire, .call 0,
    .finish (.ok ⟨10, 10, .bits64⟩)]

theorem backlog_collapses_backedUp :
    let limit := Span.ofParts 1 0
    ∃ fetcher, (new limit).Run backedUp fetcher ∧ fetcher.worker = .idle ∧
      fetcher.requests = [⟨2, 0⟩] ++ [⟨3, 0⟩] ∧ fetcher.waiting = some ⟨3, 0⟩ ∧
      fetcher.isCancelled 0 = false ∧ fetcher.worker ≠ .gone ∧
      fetcher.served (Session.takeUp 2) = [⟨3, 0⟩] ∧
      (∀ later, ((fetcher.served later).filter (· ∈ fetcher.requests)).Sublist [⟨3, 0⟩]) ∧
      (∀ later, ⟨3, 0⟩ ∉ fetcher.served (.cancel 0 :: later)) ∧
      ∀ event, event ≠ .breakDown → ¬ fetcher.Discards event ⟨3, 0⟩ := by
  intro limit
  let fetcher : Fetcher :=
    ⟨limit, 3, [⟨2, 0⟩, ⟨3, 0⟩], [⟨⟨1, 0⟩, 1, .ok ⟨10, 10, .bits64⟩⟩], .idle,
      some ⟨3, 0⟩, 1, []⟩
  have hanging : (new limit).Run (backedUp.take 4)
      ⟨limit, 1, [], [], .fetching ⟨1, 0⟩ 1, some ⟨1, 0⟩, 1, []⟩ :=
    .step (.step (.step (.step .start rfl) rfl) rfl) rfl
  have run : (new limit).Run backedUp fetcher :=
    .step (.step (.step (.step (.step hanging rfl) rfl) rfl) rfl) rfl
  obtain ⟨_, free, waiting⟩ := backlog_collapses run
  obtain ⟨one, unless_cancelled, straight⟩ := free rfl [⟨2, 0⟩] ⟨3, 0⟩ rfl
  have cancels : fetcher.Run [.cancel 0] { fetcher with cancelledTokens := [0] } :=
    .step .start rfl
  refine ⟨fetcher, run, rfl, rfl, rfl, rfl, by simp [fetcher], straight, one, ?_,
    (waiting ⟨3, 0⟩ rfl rfl).2⟩
  intro later
  exact unless_cancelled [.cancel 0] _ later cancels (by simp [served, step, served?, proceed])
    rfl ⟨3, 0⟩ (by simp [fetcher])

end Fetcher

end TrafficMeter.Deadline
