import TrafficMeter.Service

/-! # One reading after another

A service reads on in steps, from inside one fetch to inside the next. What it reads does
not depend on what its source has left, so the run on a script passes through the runs on
all beginnings of the script.
-/

namespace TrafficMeter.Service

/-- A reading takes the service from inside one fetch to inside the next one. -/
inductive Advances (service : Service) : Reading → Service → Prop where
  | read {takes : Span} {result : Attempt FetchError Snapshot} {next : Service} :
      (service.finishPoll takes result).loop.ended = false →
      (service.finishPoll takes result).beginPoll = (next, true) →
      Advances service (.fetched takes result) next

/-- The service, when it is started with these readings, is inside the fetch after the
last of them. -/
def Inside (fresh : Service) (readings : List Reading) (service : Service) : Prop :=
  { fresh with source := readings }.start = .ok service ∧ service.position = .waiting

/-- All that a service is before its first call. -/
theorem new_eq {settings : Settings} {source : List Reading} {fresh : Service}
    (built : Service.new settings source = .ok fresh) :
    settings.validate = .ok () ∧ ∃ meter, Meter.new settings.filter = .ok meter ∧ fresh =
      ⟨settings, source, .notStarted, .new settings.interval, meter, .empty, .notStarted⟩ := by
  unfold Service.new at built
  cases valid : settings.validate with
  | error fault => simp [valid, bind, Except.bind] at built
  | ok _ =>
      cases made : Meter.new settings.filter with
      | error fault => simp [valid, made, bind, Except.bind] at built
      | ok meter =>
          simp only [valid, made, Attempt.widen_ok, bind, Except.bind, pure, Except.pure,
            Except.ok.injEq] at built
          exact ⟨rfl, meter, rfl, built.symm⟩

/-- What is built is a loop before its first poll, at an interval that is not zero. -/
theorem new_eq_ok {settings : Settings} {source : List Reading} {fresh : Service}
    (built : Service.new settings source = .ok fresh) :
    0 < settings.interval.nanos ∧ fresh.loop = .new settings.interval := by
  obtain ⟨valid, _, _, rfl⟩ := new_eq built
  refine ⟨Nat.pos_of_ne_zero ?_, rfl⟩
  intro zero
  rw [Settings.validate, if_pos zero] at valid
  cases valid

section Frames

variable (service : Service) (source : List Reading) (position : Position)

theorem tryPoll_with : { service with source, position }.tryPoll =
    ({ service.tryPoll.1 with source, position }, service.tryPoll.2) := by
  unfold tryPoll
  dsimp only
  split <;> rfl

theorem beginPoll_with : { service with source, position }.beginPoll =
    ({ service.beginPoll.1 with source, position }, service.beginPoll.2) := by
  unfold beginPoll
  rw [tryPoll_with]
  obtain ⟨tried, begun⟩ := service.tryPoll
  cases begun with
  | true => rfl
  | false => exact tryPoll_with tried source position

/-- Reading on takes the readings that it is given, whatever the source holds. -/
theorem readOn_with (readings : List Reading) :
    { service with source, position }.readOn readings = service.readOn readings := by
  induction readings generalizing service with
  | nil => rfl
  | cons reading readings ih =>
      cases reading with
      | pause => rfl
      | fetched takes result =>
          have finishes : { service with source, position }.finishPoll takes result =
              { service.finishPoll takes result with source, position } := rfl
          have begins := beginPoll_with (service.finishPoll takes result) source position
          rw [readOn, readOn, finishes]
          dsimp only
          split
          · rfl
          · rw [begins]
            obtain ⟨next, begun⟩ := (service.finishPoll takes result).beginPoll
            cases begun with
            | true => exact ih next
            | false => rfl

end Frames

section Readings

variable {service next : Service} {reading : Reading} {before : List Reading}

theorem Advances.readOn (advances : service.Advances reading next) (after : List Reading) :
    service.readOn (reading :: after) = next.readOn after := by
  cases advances with
  | read going begins => simp [Service.readOn, going, begins]

theorem advances_of_waiting
    (waits : (service.readOn (reading :: before)).position = .waiting) :
    ∃ next, service.Advances reading next := by
  cases reading with
  | pause => cases waits
  | fetched takes result =>
      cases going : (service.finishPoll takes result).loop.ended with
      | true => simp [readOn, going] at waits
      | false =>
          cases begins : (service.finishPoll takes result).beginPoll with
          | mk next begun =>
              cases begun with
              | true => exact ⟨next, .read going begins⟩
              | false => simp [readOn, going, begins] at waits

/-- A service that gets through the first readings goes on with the others from there. -/
theorem readOn_append (waits : (service.readOn before).position = .waiting)
    (after : List Reading) :
    service.readOn (before ++ after) = (service.readOn before).readOn after := by
  induction before generalizing service with
  | nil => exact (readOn_with service [] .waiting after).symm
  | cons reading before ih =>
      obtain ⟨next, advances⟩ := advances_of_waiting waits
      rw [List.cons_append, advances.readOn]
      rw [advances.readOn] at waits ⊢
      exact ih waits

/-- What holds inside one fetch and is kept by every reading still holds after them. -/
theorem readOn_keeps (property : List Reading → Service → Prop) (done : List Reading)
    (step : ∀ {done service reading next}, property done service → reading ∈ before →
      service.Advances reading next → property (done ++ [reading]) next)
    (framed : ∀ {done service source position}, property done service →
      property done { service with source, position })
    (waits : (service.readOn before).position = .waiting) (holds : property done service) :
    property (done ++ before) (service.readOn before) := by
  induction before generalizing service done with
  | nil => simpa [readOn] using framed holds
  | cons reading before ih =>
      obtain ⟨next, advances⟩ := advances_of_waiting waits
      rw [advances.readOn] at waits ⊢
      have further := ih (done ++ [reading])
        (fun {_ _ _ _} kept inside => step kept (by simp [inside])) waits
        (step holds (by simp) advances)
      simpa using further

end Readings

namespace Inside

variable {fresh service last : Service} {before after : List Reading}

/-- A service that gets as far as a fetch first begins a poll, whatever its source. -/
theorem opens (inside : fresh.Inside before service) :
    ∃ lifecycle opened, { fresh with lifecycle }.beginPoll = (opened, true) ∧
      service = opened.readOn before ∧
      ∀ source, { fresh with source }.start = .ok (opened.readOn source) := by
  obtain ⟨started, waits⟩ := inside
  cases begun : fresh.lifecycle.start with
  | error refusal => simp [start, begun, bind, Except.bind] at started
  | ok lifecycle =>
      have begins := fun source => beginPoll_with { fresh with lifecycle } source fresh.position
      cases opening : { fresh with lifecycle }.beginPoll with
      | mk opened fetches =>
          simp only [opening] at begins
          cases fetches with
          | false =>
              simp only [start, begun, begins, bind, Except.bind, pure, Except.pure,
                Except.ok.injEq] at started
              subst started
              cases waits
          | true =>
              have starts : ∀ source, { fresh with source }.start =
                  .ok (opened.readOn source) := by
                intro source
                simp only [start, begun, begins, bind, Except.bind, pure, Except.pure]
                rw [readOn_with]
              refine ⟨lifecycle, opened, opening, ?_, starts⟩
              exact Except.ok.inj (started.symm.trans (starts before))

/-- With more readings the service goes on from there. -/
theorem start_append (inside : fresh.Inside before service) (after : List Reading) :
    { fresh with source := before ++ after }.start = .ok (service.readOn after) := by
  have waits := inside.2
  obtain ⟨_, opened, _, rfl, starts⟩ := inside.opens
  rw [starts, readOn_append waits]

theorem eq_readOn (inside : fresh.Inside before service)
    (further : fresh.Inside (before ++ after) last) : last = service.readOn after :=
  Except.ok.inj (further.1.symm.trans (inside.start_append after))

/-- A start that is seen to stop inside a fetch. -/
theorem of_seen {α : Type} (observe : Service → α) {value : α}
    (seen : Except.map (fun service : Service => (service.position, observe service))
      { fresh with source := before }.start = .ok (Position.waiting, value)) :
    ∃ service, fresh.Inside before service ∧ observe service = value := by
  cases started : { fresh with source := before }.start with
  | error refusal =>
      rw [started] at seen
      cases seen
  | ok service =>
      rw [started] at seen
      simp only [Except.map, Except.ok.injEq, Prod.mk.injEq] at seen
      exact ⟨service, ⟨started, seen.1⟩, seen.2⟩

end Inside

end TrafficMeter.Service
