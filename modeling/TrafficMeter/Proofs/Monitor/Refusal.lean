import TrafficMeter.Poll.Scheduler
import TrafficMeter.Proofs.Counter.Readers
import TrafficMeter.Proofs.Settings.Validation

/-! # When a monitor is refused

A monitor is refused before its first line for its options, or for its file if no interface is
given. The options come first: while they have a fault, the file makes no difference. What has
been accepted once is not refused by any later check.
-/

namespace TrafficMeter

namespace Contents

variable {path : String} {contents : Contents} {rows : List Row}

/-- The file is a table with these rows. -/
inductive Holds : Contents → List Row → Prop where
  | table {data : ByteArray} {text : String} {rows : List Row}
      (decoded : String.fromUTF8? data = some text)
      (denote : List.Forall₂ Row.Denotes (Table.rowLines text.toList) rows) :
      Holds (.bytes data) rows

/-- The file cannot be read, is no text, or has a line that should be a row and is none. -/
inductive Damaged : Contents → Prop where
  | refused (cause : SystemError) : Damaged (.refused cause)
  | notText {data : ByteArray} (undecoded : String.fromUTF8? data = none) : Damaged (.bytes data)
  | malformed {data : ByteArray} {text : String} {line : List Char}
      (decoded : String.fromUTF8? data = some text) (due : line ∈ Table.rowLines text.toList)
      (bad : ¬∃ row, Row.Denotes line row) : Damaged (.bytes data)

theorem rows_of_holds (path : String) (holds : contents.Holds rows) :
    contents.rows path = .ok rows := by
  cases holds with
  | table decoded denote =>
      rw [Contents.rows, readText, decoded]
      exact Table.readRows_of_denotes denote

theorem rows_of_damaged (path : String) (damaged : contents.Damaged) :
    ∃ error, contents.rows path = .error error := by
  cases damaged with
  | refused cause => exact ⟨_, rfl⟩
  | notText undecoded =>
      refine ⟨.unreadable path .invalidUtf8, ?_⟩
      rw [Contents.rows, readText, undecoded]
  | malformed decoded due bad =>
      rw [Contents.rows, readText, decoded]
      cases accepted : Table.readRows (Table.rowLines _) with
      | error error => exact ⟨error, accepted⟩
      | ok rows => exact absurd (Table.exists_row (Table.readRows_eq_ok_iff.mp accepted) _ due) bad

theorem holds_or_damaged (contents : Contents) :
    (∃ rows, contents.Holds rows) ∨ contents.Damaged := by
  cases contents with
  | refused cause => exact .inr (.refused cause)
  | bytes data =>
      cases decoded : String.fromUTF8? data with
      | none => exact .inr (.notText decoded)
      | some text =>
          by_cases denote : ∀ line ∈ Table.rowLines text.toList, ∃ row, Row.Denotes line row
          · obtain ⟨rows, denote⟩ := Table.exists_rows denote
            exact .inl ⟨rows, .table decoded denote⟩
          · push Not at denote
            obtain ⟨line, due, bad⟩ := denote
            exact .inr (.malformed decoded due (not_exists.mpr bad))

end Contents

/-- The rows besides those of the loopback interface. -/
def Row.besides (rows : List Row) : List Row := rows.filter fun row => row.name ≠ "lo"

namespace Choice

variable {contents : Contents} {rows : List Row} {row : Row} {error : FetchError}

theorem select_of_no_rows {path : String} (unread : contents.rows path = .error error) :
    select none path contents = .error (.of (.fetch error)) := by
  rw [select, Contents.interfaces_besides_loopback, Contents.interfaces_all, unread]
  rfl

theorem select_of_holds (path : String) (holds : contents.Holds rows) :
    select none path contents =
      match decide none ((Row.besides rows).map Row.name) with
      | .error error => .error (.of (.choice error))
      | .ok name => .ok name := by
  rw [select, Contents.interfaces_besides_loopback, Contents.interfaces_all,
    Contents.rows_of_holds path holds]
  rfl

theorem select_of_nothing (path : String) (holds : contents.Holds rows)
    (nothing : Row.besides rows = []) :
    select none path contents = .error (.of (.choice .noInterfaces)) := by
  rw [select_of_holds path holds, nothing]
  rfl

theorem select_of_several (path : String) (holds : contents.Holds rows)
    (more : 2 ≤ (Row.besides rows).length) : select none path contents =
      .error (.of (.choice (.multipleInterfaces ((Row.besides rows).map Row.name)))) := by
  rw [select_of_holds path holds]
  rcases names : Row.besides rows with _ | ⟨first, _ | ⟨second, others⟩⟩
  · simp [names] at more
  · simp [names] at more
  · rfl

theorem select_of_single (path : String) (holds : contents.Holds rows)
    (single : Row.besides rows = [row]) : select none path contents = .ok row.name := by
  rw [select_of_holds path holds, single]
  rfl

end Choice

namespace MonitorOptions

/-- The settings in effect and the timeout can be used. -/
structure Sound (options : MonitorOptions) : Prop where
  settings : options.choices.Sound
  timeout : ∃ timeout, Settings.Measures options.choices.timeout timeout

end MonitorOptions

namespace Monitor

/-- The monitor is refused, with this exit code. -/
inductive Refused (options : MonitorOptions) (contents : Contents) : Nat → Prop where
  | options (unsound : ¬options.Sound) : Refused options contents 4
  | file (sound : options.Sound) (unnamed : options.interface = none)
      (damaged : contents.Damaged) : Refused options contents 5
  | nothing {rows : List Row} (sound : options.Sound) (unnamed : options.interface = none)
      (holds : contents.Holds rows) (none : Row.besides rows = []) : Refused options contents 2
  | several {rows : List Row} (sound : options.Sound) (unnamed : options.interface = none)
      (holds : contents.Holds rows) (more : 2 ≤ (Row.besides rows).length) :
      Refused options contents 3

variable {options : MonitorOptions} {contents : Contents}

section Checks

variable {settings : Settings} {meter : Meter}

/-- Who accepts the choices accepts what any other check looks at. -/
theorem sound_of_accepted {choices : Settings.Choices}
    (accepted : Settings.ofChoices choices = .ok settings) :
    settings.Sound ∧ settings.filter.lag ≤ Ring.maxCapacity := by
  rcases Settings.ofChoices_cases choices with
    ⟨interval, measures, usable, fits, same⟩ | ⟨_, _, refused⟩ | ⟨_, _, breaks⟩
  · obtain rfl := Except.ok.inj (same.symm.trans accepted)
    exact ⟨⟨measures.nonempty, usable⟩, Settings.lag_filter_le_iff.mpr fits⟩
  · cases accepted.symm.trans refused
  · cases accepted.symm.trans breaks

theorem meter_of_sound (fits : settings.filter.lag ≤ Ring.maxCapacity) (sound : settings.Sound) :
    ∃ meter, Meter.new settings.filter = .ok meter := by
  have built := Spike.Detector.new_of_usable fits sound.filter
  rw [Meter.new, Spike.Filter.new, built]
  exact ⟨_, rfl⟩

theorem scheduler_of_sound (sound : settings.Sound) :
    ∃ scheduler, Poll.Scheduler.new settings.interval = .ok scheduler :=
  ⟨_, if_neg (Nat.ne_of_gt sound.interval)⟩

theorem service_of_sound (fits : settings.filter.lag ≤ Ring.maxCapacity) (sound : settings.Sound)
    (built : Meter.new settings.filter = .ok meter) (source : List Reading) :
    Service.new settings source = .ok ⟨settings, source, .notStarted, .new settings.interval,
      meter, .empty, .notStarted⟩ := by
  rw [Service.new, Settings.validate_of_sound fits sound, built]
  rfl

theorem start_of_notStarted (service : Service) (fresh : service.lifecycle = .notStarted) :
    ∃ started, service.start = .ok started := by
  rw [Service.start, fresh]
  simp only [Poll.Lifecycle.start, bind, Except.bind]
  split <;> exact ⟨_, rfl⟩

end Checks

section Preparation

theorem plan_eq (options : MonitorOptions) (contents : Contents) :
    plan options contents =
      match Settings.ofChoices options.choices with
      | .error fault => .error (fault.map settingsReport)
      | .ok settings =>
          match Settings.timeoutOf options.choices.timeout with
          | .error error => .error (.error (settingsReport error))
          | .ok timeout =>
              match Choice.select options.interface options.counters contents with
              | .error report => .error (.error report)
              | .ok interface => .ok ⟨interface, settings, timeout⟩ := by
  unfold plan
  cases Settings.ofChoices options.choices with
  | error fault => rfl
  | ok settings =>
      cases Settings.timeoutOf options.choices.timeout with
      | error error => rfl
      | ok timeout =>
          cases Choice.select options.interface options.counters contents <;> rfl

/-- With a fault in the options the file makes no difference. -/
theorem plan_of_unsound (fits : options.choices.Fits) (unsound : ¬options.Sound) :
    ∃ error, ∀ contents, plan options contents = .error (.error (.of (.settings error))) := by
  rcases Settings.ofChoices_cases options.choices with
    ⟨interval, measures, usable, _, accepted⟩ | ⟨_, error, refused⟩ | ⟨_, unfit, _⟩
  · have unmeasured : ¬∃ timeout, Settings.Measures options.choices.timeout timeout := by
      intro measured
      exact unsound ⟨⟨interval, measures, usable⟩, measured⟩
    obtain ⟨error, refused⟩ := Settings.positiveSeconds_of_unmeasured .nonPositiveTimeout
      (.timeoutOutOfRange options.choices.timeout) unmeasured
    refine ⟨error, fun contents => ?_⟩
    rw [plan_eq, accepted, Settings.timeoutOf, refused]
    rfl
  · refine ⟨error, fun contents => ?_⟩
    rw [plan_eq, refused]
    rfl
  · exact absurd fits unfit

/-- Without a fault in the options it depends on the choice of the interface alone. -/
theorem prepare_of_sound (fits : options.choices.Fits) (sound : options.Sound) :
    ∃ settings timeout meter, ∀ contents, prepare options contents =
      match Choice.select options.interface options.counters contents with
      | .error report => .error (.error report)
      | .ok interface => .ok (⟨interface, settings, timeout⟩, meter) := by
  obtain ⟨⟨interval, measures, usable⟩, timeout, timed⟩ := sound
  have within : (options.choices.chosen interval).filter.lag ≤ Ring.maxCapacity :=
    Settings.lag_filter_le_iff.mpr fits
  have chosen : (options.choices.chosen interval).Sound := ⟨measures.nonempty, usable⟩
  have accepted : Settings.ofChoices options.choices = .ok (options.choices.chosen interval) := by
    rw [Settings.ofChoices_of_measures measures, Settings.validate_of_sound within chosen]
    rfl
  have limited : Settings.timeoutOf options.choices.timeout = .ok timeout :=
    Settings.positiveSeconds_of_measures timed
  obtain ⟨meter, built⟩ := meter_of_sound within chosen
  have served := service_of_sound within chosen built []
  refine ⟨options.choices.chosen interval, timeout, meter, fun contents => ?_⟩
  rw [prepare, plan_eq, accepted, limited]
  cases Choice.select options.interface options.counters contents with
  | error report => rfl
  | ok interface =>
      simp only [bind, Except.bind, served, Attempt.widen_ok]
      rfl

variable {states : List Contents} {stopped : Bool} {sink : Sink} {report : Report}

theorem run_of_unprepared (unprepared : prepare options contents = .error (.error report)) :
    run options contents states stopped sink = .error (.error report) := by
  rw [run, unprepared]
  rfl

theorem run_of_prepared {ready : Plan × Meter} (prepared : prepare options contents = .ok ready) :
    ∃ result, run options contents states stopped sink = .ok result := by
  rw [run, prepared]
  cases stopped <;> exact ⟨_, rfl⟩

theorem run_of_refused_choice (fits : options.choices.Fits) (sound : options.Sound)
    (refused : Choice.select options.interface options.counters contents = .error report) :
    run options contents states stopped sink = .error (.error report) := by
  obtain ⟨settings, timeout, meter, prepares⟩ := prepare_of_sound fits sound
  have unprepared := prepares contents
  rw [refused] at unprepared
  exact run_of_unprepared unprepared

theorem run_of_choice {name : String} (fits : options.choices.Fits) (sound : options.Sound)
    (chosen : Choice.select options.interface options.counters contents = .ok name) :
    ∃ result, run options contents states stopped sink = .ok result := by
  obtain ⟨settings, timeout, meter, prepares⟩ := prepare_of_sound fits sound
  have prepared := prepares contents
  rw [chosen] at prepared
  exact run_of_prepared prepared

/-- With a fault in the options a run ends in the same error whatever else it is given. -/
theorem run_of_unsound (fits : options.choices.Fits) (unsound : ¬options.Sound) :
    ∃ error, ∀ contents states stopped sink,
      run options contents states stopped sink = .error (.error (.of (.settings error))) := by
  obtain ⟨error, refused⟩ := plan_of_unsound fits unsound
  refine ⟨error, fun contents states stopped sink => run_of_unprepared ?_⟩
  rw [prepare, refused]
  rfl

end Preparation

section Verdicts

variable {code : Nat}

/-- A monitor that is refused ends with its exit code. -/
theorem Refused.ends (refused : Refused options contents code) (fits : options.choices.Fits)
    (states : List Contents) (stopped : Bool) (sink : Sink) :
    ∃ report, run options contents states stopped sink = .error (.error report) ∧
      report.exitCode = code := by
  cases refused with
  | options unsound =>
      obtain ⟨error, refused⟩ := run_of_unsound fits unsound
      exact ⟨_, refused contents states stopped sink, Report.exitCode_settings error⟩
  | file sound unnamed damaged =>
      obtain ⟨error, unread⟩ := Contents.rows_of_damaged options.counters damaged
      have refused := Choice.select_of_no_rows unread
      rw [← unnamed] at refused
      exact ⟨_, run_of_refused_choice fits sound refused, rfl⟩
  | nothing sound unnamed holds nothing =>
      have refused := Choice.select_of_nothing options.counters holds nothing
      rw [← unnamed] at refused
      exact ⟨_, run_of_refused_choice fits sound refused, rfl⟩
  | several sound unnamed holds more =>
      have refused := Choice.select_of_several options.counters holds more
      rw [← unnamed] at refused
      exact ⟨_, run_of_refused_choice fits sound refused, rfl⟩

/-- A monitor is refused or goes on to its updates. -/
theorem refused_or_runs (options : MonitorOptions) (contents : Contents)
    (fits : options.choices.Fits) (states : List Contents) (stopped : Bool) (sink : Sink) :
    (∃ code, Refused options contents code) ∨
      ∃ result, run options contents states stopped sink = .ok result := by
  by_cases sound : options.Sound
  · cases named : options.interface with
    | some name =>
        have chosen : Choice.select options.interface options.counters contents = .ok name := by
          rw [named]
          rfl
        exact .inr (run_of_choice fits sound chosen)
    | none =>
        rcases contents.holds_or_damaged with ⟨rows, holds⟩ | damaged
        · rcases names : Row.besides rows with _ | ⟨first, _ | ⟨second, others⟩⟩
          · exact .inl ⟨_, .nothing sound named holds names⟩
          · have chosen := Choice.select_of_single options.counters holds names
            rw [← named] at chosen
            exact .inr (run_of_choice fits sound chosen)
          · exact .inl ⟨_, .several sound named holds (by simp [names])⟩
        · exact .inl ⟨_, .file sound named damaged⟩
  · exact .inl ⟨_, .options sound⟩

end Verdicts

/-- A monitor is refused before its first line in four cases, each with an exit code of its own:
a fault in its options, whatever the file holds; and if no interface is given, a damaged file, a
file without an interface to choose, and one with several. Otherwise it goes on to its updates,
and no later check finds a fault in settings that were accepted. -/
theorem refused_with_exit_code (options : MonitorOptions) (fits : options.choices.Fits)
    (contents : Contents) (states : List Contents) (stopped : Bool) (sink : Sink) :
    (∀ code, (∃ report, run options contents states stopped sink = .error (.error report) ∧
        report.exitCode = code) ↔ Refused options contents code) ∧
      (¬options.Sound → ∃ error, ∀ contents states stopped sink,
        run options contents states stopped sink = .error (.error (.of (.settings error)))) ∧
      ((¬∃ code, Refused options contents code) →
        ∃ result, run options contents states stopped sink = .ok result) ∧
      (options.Sound → options.interface.isSome → ∀ contents, ∃ result,
        run options contents states stopped sink = .ok result) ∧
      (∀ settings, Settings.ofChoices options.choices = .ok settings →
        settings.validate = .ok () ∧
          (∃ scheduler, Poll.Scheduler.new settings.interval = .ok scheduler) ∧
          (∃ meter, Meter.new settings.filter = .ok meter) ∧
          ∀ source, ∃ service started, Service.new settings source = .ok service ∧
            service.start = .ok started) := by
  refine ⟨?_, ?_, ?_, ?_, ?_⟩
  · intro code
    constructor
    · rintro ⟨report, ended, rfl⟩
      rcases refused_or_runs options contents fits states stopped sink with
        ⟨code, refused⟩ | ⟨result, runs⟩
      · obtain ⟨other, same, own⟩ := refused.ends fits states stopped sink
        cases ended.symm.trans same
        rwa [own]
      · cases ended.symm.trans runs
    · exact fun refused => refused.ends fits states stopped sink
  · exact run_of_unsound fits
  · intro accepted
    exact (refused_or_runs options contents fits states stopped sink).resolve_left accepted
  · intro sound named contents
    refine (refused_or_runs options contents fits states stopped sink).resolve_left ?_
    rintro ⟨code, refused⟩
    cases refused with
    | options unsound => exact unsound sound
    | file _ unnamed | nothing _ unnamed | several _ unnamed => simp [unnamed] at named
  · intro settings accepted
    obtain ⟨sound, within⟩ := sound_of_accepted accepted
    obtain ⟨meter, built⟩ := meter_of_sound within sound
    refine ⟨Settings.validate_of_sound within sound, scheduler_of_sound sound, ⟨meter, built⟩, ?_⟩
    intro source
    have served := service_of_sound within sound built source
    obtain ⟨started, starts⟩ := start_of_notStarted ⟨settings, source, .notStarted,
      .new settings.interval, meter, .empty, .notStarted⟩ rfl
    exact ⟨_, started, served, starts⟩

/-- Two interfaces besides the loopback one. -/
def crowded : String :=
  "h1\nh2\nlo: 1 0 0 0 0 0 0 0 1\neth0: 2 0 0 0 0 0 0 0 2\nwlan0: 3 0 0 0 0 0 0 0 3\n"

theorem refused_with_exit_code_crowded :
    let choices : Settings.Choices := ⟨0.5, some 6, none, some 0.5, 5.0⟩
    let options : MonitorOptions := ⟨none, choices, some 3, .json, "net_dev"⟩
    options.choices.Fits ∧ options.Sound ∧
      (∃ report, run options (.ofText crowded) [] false .unlimited = .error (.error report) ∧
        report.exitCode = 3) ∧
      ∃ report, run options .directory [] true .unlimited = .error (.error report) ∧
        report.exitCode = 5 := by
  intro choices options
  have fits : options.choices.Fits := by
    intro lag inside
    cases inside
    decide
  have sound : options.Sound := by
    refine ⟨⟨.ofParts 0 500000000, ⟨by decide +kernel, by decide⟩, ⟨by decide, ?_, ?_⟩⟩,
      .ofParts 5 0, ⟨by decide +kernel, by decide⟩⟩
    · decide +kernel
    · decide +kernel
  have holds : (Contents.ofText crowded).Holds [⟨"lo", 1, 1⟩, ⟨"eth0", 2, 2⟩, ⟨"wlan0", 3, 3⟩] :=
    .table (dif_pos crowded.isValidUTF8) (Table.readRows_eq_ok_iff.mp rfl)
  obtain ⟨exits, _⟩ :=
    refused_with_exit_code options fits (.ofText crowded) [] false .unlimited
  obtain ⟨exitsUnread, _⟩ :=
    refused_with_exit_code options fits .directory [] true .unlimited
  exact ⟨fits, sound, (exits 3).mpr (.several sound rfl holds (by decide)),
    (exitsUnread 5).mpr (.file sound rfl (.refused .isDirectory))⟩

end Monitor

end TrafficMeter
