import TrafficMeter.Proofs.Poll.Calls

/-! # The life of a scheduler

Whatever happens to a scheduler, and at whatever moments of its loop, it goes through its
lifecycle once: one start succeeds at most, a later one is told why it does not, and after
a disposal the loop neither polls nor sleeps any more. Calls on a scheduler whose polls
stand still and are released lead to the same, one call after the other: after a disposal
they leave its record of polls and sleeps as it is.
-/

namespace TrafficMeter.Poll

open Event (answer? answers disposed lifecycleAfter polls sleeps started)

/-- How far a lifecycle has got. -/
def Lifecycle.age : Lifecycle → Nat
  | notStarted => 0
  | running => 1
  | disposed => 2

/-- A history of events that a scheduler can have. -/
structure Orderly (events : List Event) : Prop where
  /-- The lifecycle only moves forward. -/
  forward : (answers events).Pairwise (·.age ≤ ·.age)
  /-- At most one start succeeds. -/
  once : (started events).length ≤ 1
  /-- What went before a start decides its answer. -/
  answered : ∀ before script answer after,
    events = before ++ .start script answer :: after →
      (answer = .ok () ↔ started before = [] ∧ disposed before = false) ∧
      (answer = .error .alreadyStarted ↔ started before ≠ [] ∧ disposed before = false) ∧
      (answer = .error .disposed ↔ disposed before = true)
  /-- The polls are those of the script that was started, and none of any other. -/
  own : polls events <+: (started events).flatMap course
  /-- After a disposal no poll begins and no sleep is recorded. -/
  quiet : ∀ before after, events = before ++ after → disposed before = true →
    polls after = [] ∧ sleeps after = []

/-- A scheduler that goes through its lifecycle once, whatever it is called and whatever it is
called after that. -/
structure Scheduler.OrderlyUnder (scheduler : Scheduler) (calls further : List Call) : Prop where
  /-- The lifecycle only moves forward. -/
  forward : (scheduler.run calls).lifecycle.age ≤ (scheduler.run (calls ++ further)).lifecycle.age
  /-- A start after the first one, or after a disposal, leaves the scheduler as it is. -/
  refused : (scheduler.run calls).lifecycle ≠ .notStarted → ∀ script,
    scheduler.run (calls ++ [.start script]) = scheduler.run calls
  /-- The loop is on the way of the one script that has been started, and gets no further on it
  than to a poll that disposes of the scheduler. -/
  own : ∀ active, (scheduler.run calls).active = some active →
    ∃ script, started (scheduler.replies calls) = [script] ∧
      active.loop.Precedes ((Loop.new scheduler.interval).run (script.map Scripted.outcome)) ∧
      ∀ (i : Nat) poll, script[i]? = some poll → poll.outcome.cancels = true →
        active.loop.entries.size ≤ i + 1 ∧ active.loop.sleeps.size ≤ i
  /-- Who has disposed of a scheduler finds it disposed of. -/
  disposes : Call.dispose ∈ calls → (scheduler.run calls).lifecycle = .disposed
  /-- After a disposal no poll begins and no sleep is recorded. -/
  quiet : (scheduler.run calls).lifecycle = .disposed →
    (scheduler.run (calls ++ further)).lifecycle = .disposed ∧
      (scheduler.run (calls ++ further)).record = (scheduler.run calls).record

namespace Situation.Accounts

variable {situation next last : Situation} {events later : List Event} {event : Event}

theorem once (accounts : situation.Accounts events) : (started events).length ≤ 1 := by
  cases present : situation.worker with
  | none => simp [(accounts.idle present).1]
  | some worker =>
      obtain ⟨script, only, _⟩ := accounts.busy worker present
      simp [only]

theorem own (accounts : situation.Accounts events) :
    polls events <+: (started events).flatMap course := by
  cases present : situation.worker with
  | none => simp [(accounts.idle present).2.1]
  | some worker =>
      obtain ⟨script, only, kept⟩ := accounts.busy worker present
      simpa [only] using kept.within

theorem answered {script : List Scripted} {answer : Except StartError Unit}
    (accounts : situation.Accounts events) (step : Step situation (.start script answer) next) :
    (answer = .ok () ↔ started events = [] ∧ disposed events = false) ∧
      (answer = .error .alreadyStarted ↔ started events ≠ [] ∧ disposed events = false) ∧
      (answer = .error .disposed ↔ disposed events = true) := by
  rw [← lifecycleAfter_eq_notStarted_iff, ← lifecycleAfter_eq_running_iff,
    ← lifecycleAfter_eq_disposed_iff, ← accounts.lifecycle]
  cases step with
  | start starts =>
      obtain ⟨before, _⟩ := Lifecycle.start_eq_ok_iff.mp starts
      simp [before]
  | refuse refused =>
      cases before : situation.lifecycle <;> rw [before] at refused <;> cases refused <;> simp

/-- After a disposal a loop looks before it polls or sleeps, and does neither. -/
theorem quiet_step (accounts : situation.Accounts events) (disposal : disposed events = true)
    (step : Step situation event next) : event.poll? = none ∧ event.sleep? = none := by
  have cancelled : ∀ worker, situation.worker = some worker → worker.loop.cancelled = true := by
    intro worker present
    obtain ⟨_, _, kept⟩ := accounts.busy worker present
    rw [kept.cancelled, disposal]
  cases step with
  | poll looking uncancelled =>
      rw [cancelled _ looking] at uncancelled
      cases uncancelled
  | sleep polling _ going =>
      rw [(Loop.leave_of_cancelled _ (cancelled _ polling)).1] at going
      cases going
  | _ => exact ⟨rfl, rfl⟩

theorem quiet (accounts : situation.Accounts events) (disposal : disposed events = true)
    (steps : Steps situation later last) : polls later = [] ∧ sleeps later = [] := by
  induction steps generalizing events with
  | nil => exact ⟨rfl, rfl⟩
  | cons step _ ih =>
      obtain ⟨unpolled, unslept⟩ := accounts.quiet_step disposal step
      have rest := ih (accounts.step step) (by simp [disposal])
      simpa [unpolled, unslept] using rest

end Situation.Accounts

/-- The lifecycle never goes back, and whoever asks is told where it is. -/
theorem Step.age_le {situation next : Situation} {event : Event}
    (step : Step situation event next) : situation.lifecycle.age ≤ next.lifecycle.age ∧
      ∀ answer, event.answer? = some answer → answer = situation.lifecycle := by
  cases step with
  | ask => exact ⟨Nat.le_refl _, fun _ told => (Option.some.inj told).symm⟩
  | start starts =>
      obtain ⟨before, rfl⟩ := Lifecycle.start_eq_ok_iff.mp starts
      simp [before, Lifecycle.age, answer?]
  | dispose | disposeInside =>
      cases situation.lifecycle <;> simp [Situation.dispose, Lifecycle.age, answer?]
  | _ => simp [answer?]

theorem Steps.age_le {first last : Situation} {events : List Event}
    (steps : Steps first events last) : first.lifecycle.age ≤ last.lifecycle.age := by
  induction steps with
  | nil => exact Nat.le_refl _
  | cons step _ ih => exact Nat.le_trans step.age_le.1 ih

theorem Steps.forward {first last : Situation} {events : List Event}
    (steps : Steps first events last) : (answers events).Pairwise (·.age ≤ ·.age) ∧
      ∀ answer ∈ answers events, first.lifecycle.age ≤ answer.age := by
  induction steps with
  | nil => exact ⟨.nil, by simp [answers]⟩
  | @cons first second last event events step _ ih =>
      obtain ⟨older, told⟩ := step.age_le
      obtain ⟨sorted, above⟩ := ih
      have rest : ∀ answer ∈ answers events, first.lifecycle.age ≤ answer.age :=
        fun answer inside => Nat.le_trans older (above answer inside)
      cases asked : event.answer? with
      | none => simpa [asked] using And.intro sorted rest
      | some answer =>
          obtain rfl := told answer asked
          simpa [asked] using And.intro (And.intro rest sorted) rest

theorem Steps.orderly {interval : Span} {events : List Event} {situation : Situation}
    (steps : Steps (.fresh interval) events situation) : Orderly events := by
  have accounts : situation.Accounts events := by
    simpa using (Situation.Accounts.fresh interval).steps steps
  refine ⟨steps.forward.1, accounts.once, ?_, accounts.own, ?_⟩
  · rintro before script answer after rfl
    obtain ⟨second, early, late⟩ := steps.split
    cases late with
    | cons step _ =>
        have kept := (Situation.Accounts.fresh interval).steps early
        exact (by simpa using kept : second.Accounts before).answered step
  · rintro before after rfl disposal
    obtain ⟨second, early, late⟩ := steps.split
    have kept := (Situation.Accounts.fresh interval).steps early
    exact (by simpa using kept : second.Accounts before).quiet disposal late

theorem Scheduler.orderlyUnder {interval : Span} {scheduler : Scheduler}
    (built : Scheduler.new interval = .ok scheduler) (calls further : List Call) :
    scheduler.OrderlyUnder calls further := by
  have unused := accounts_of_new built
  obtain ⟨events, lived⟩ := exists_lived unused calls
  have accounts := unused.steps lived.steps
  have follows := scheduler.run_append calls further
  refine ⟨?_, ?_, ?_, fun disposes => (run_stopped disposes).disposed, ?_⟩
  · obtain ⟨later, livedOn⟩ := exists_lived accounts further
    rw [follows]
    exact livedOn.steps.age_le
  · intro used script
    rw [scheduler.run_append]
    exact perform_start_of_ne used script
  · intro active running
    obtain rfl := eq_of_new built
    obtain ⟨script, only, within⟩ := within_of_run rfl rfl running
    exact ⟨script, only, within.precedes, fun _ _ there cancels => within.disposes there cancels⟩
  · intro disposed
    obtain ⟨still, same⟩ := (stopped_of_disposed accounts disposed).run further
    rw [follows]
    exact ⟨still.disposed, same⟩

/-- However calls, disposals from inside polls and the moments of a loop fall together, a
scheduler goes through its lifecycle once, answers every start by what went before it, makes
polls of the one script that it has started, and after a disposal neither polls nor sleeps.
All that calls on a scheduler do, with polls that stand still until they are released, happens
in this way, call by call, and they find the scheduler as orderly: once its lifecycle has reached
the end, none of them, a release of the poll that stands still included, makes its loop begin a
poll or record a sleep. -/
theorem life_is_orderly {interval : Span} {scheduler : Scheduler}
    (built : Scheduler.new interval = .ok scheduler) :
    (∀ events situation, Steps (.fresh interval) events situation →
      Orderly events ∧ situation.lifecycle = lifecycleAfter events ∧
        ∀ worker, situation.worker = some worker →
          worker.loop.entries.size = (polls events).length ∧
            worker.loop.sleeps.toList = sleeps events) ∧
      (∀ calls, ∃ events, scheduler.Lived calls events ∧
        Steps (.fresh interval) events (scheduler.run calls).situation ∧
        events.filter Event.isCall = scheduler.replies calls) ∧
      ∀ calls further, scheduler.OrderlyUnder calls further := by
  refine ⟨?_, ?_, Scheduler.orderlyUnder built⟩
  · intro events situation steps
    have accounts : situation.Accounts events := by
      simpa using (Situation.Accounts.fresh interval).steps steps
    refine ⟨steps.orderly, accounts.lifecycle, ?_⟩
    intro worker present
    obtain ⟨_, _, kept⟩ := accounts.busy worker present
    exact ⟨kept.entries, kept.sleeps⟩
  · intro calls
    obtain rfl := Scheduler.eq_of_new built
    obtain ⟨events, lived⟩ := Scheduler.exists_lived (Scheduler.accounts_of_new built) calls
    exact ⟨events, lived, lived.steps, lived.replied⟩

/-- A poll, and one that stands still. -/
def stuck : List Scripted :=
  [⟨⟨.ofNanos 300000000, false, .ok ()⟩, false⟩, ⟨⟨.zero, false, .ok ()⟩, true⟩]

/-- A poll that disposes of the scheduler, and one that is not made any more. -/
def parting : List Scripted :=
  [⟨⟨.zero, true, .ok ()⟩, false⟩, ⟨⟨.zero, false, .ok ()⟩, false⟩]

/-- Without the disposal the poll that stands still would be followed by one more. -/
theorem life_is_orderly_stuck :
    let second := Span.ofParts 1 0
    let scheduler : Scheduler := ⟨second, .notStarted, none⟩
    let calls : List Call := [.lifecycle, .start stuck, .start [], .dispose]
    let further : List Call := [.release, .start stuck, .lifecycle]
    let entries : Array Entry := #[⟨0, second⟩, ⟨1000000000, second⟩]
    Scheduler.new second = .ok scheduler ∧
      (∃ events, scheduler.Lived (calls ++ further) events ∧
        Steps (.fresh second) events (scheduler.run (calls ++ further)).situation ∧
        events.filter Event.isCall = [.lifecycle .notStarted, .start stuck (.ok ()),
          .start [] (.error .alreadyStarted), .dispose false, .start stuck (.error .disposed),
          .lifecycle .disposed] ∧
        (polls events).length = 2 ∧ sleeps events = [.ofNanos 700000000]) ∧
      (scheduler.run calls).lifecycle = .disposed ∧
      (scheduler.run calls).record = some (entries, #[.ofNanos 700000000]) ∧
      (scheduler.run (calls ++ further)).lifecycle = .disposed ∧
      (scheduler.run (calls ++ further)).record = some (entries, #[.ofNanos 700000000]) ∧
      (scheduler.run [.start stuck, .release]).record =
        some (entries.push ⟨2000000000, second⟩, #[.ofNanos 700000000, second]) ∧
      (scheduler.run [.start parting]).lifecycle = .disposed ∧
      (scheduler.run ([.start parting] ++ further)).record = some (#[⟨0, second⟩], #[]) := by
  intro second scheduler calls further entries
  have built : Scheduler.new second = .ok scheduler := rfl
  obtain ⟨orderly, follows, orderlyUnder⟩ := life_is_orderly built
  have recorded : (scheduler.run calls).record = some (entries, #[.ofNanos 700000000]) := by
    decide +kernel
  have disposed := (orderlyUnder calls further).disposes (by simp [calls])
  obtain ⟨still, same⟩ := (orderlyUnder calls further).quiet disposed
  have recordedStill := same.trans recorded
  obtain ⟨active, running, shown⟩ := Option.map_eq_some_iff.mp recordedStill
  obtain ⟨entries_eq, sleeps_eq⟩ := Prod.mk.inj shown
  obtain ⟨events, lived, steps, replied⟩ := follows (calls ++ further)
  obtain ⟨_, _, records⟩ := orderly events _ steps
  obtain ⟨polled, slept⟩ := records active.worker (by simp [Scheduler.situation, running])
  have parted : (scheduler.run [.start parting]).lifecycle = .disposed := by decide +kernel
  obtain ⟨_, kept⟩ := (orderlyUnder [.start parting] further).quiet parted
  refine ⟨built, ⟨events, lived, steps, replied, ?_, ?_⟩, disposed, recorded, still,
    recordedStill, ?_, parted, kept.trans ?_⟩
  · rw [← polled, show active.worker.loop.entries = entries from entries_eq]
    rfl
  · rw [← slept, show active.worker.loop.sleeps = #[.ofNanos 700000000] from sleeps_eq]
  · decide +kernel
  · decide +kernel

end TrafficMeter.Poll
