import TrafficMeter.Report

/-! # The chain of an error

Below an error stands its source, below that its own source, and so on down to an error without
one; above it stand its contexts. What an error means is read off that chain, and no context has a
part in it: the exit code is that of the outermost error with one of its own, and a cancellation
counts at any depth.
-/

namespace TrafficMeter

namespace Failure

/-- An error and the error that it gives as its source. -/
inductive Source : Failure → Failure → Prop where
  | capacity (cause : RingError) : Source (.detector (.lag cause)) (.ring cause)
  | tuning (cause : Spike.DetectorError) : Source (.settings (.filter cause)) (.detector cause)
  | file (path : String) (cause : SystemError) :
      Source (.fetch (.unreadable path cause)) (.system cause)
  | interruption (cause : Cancelled) : Source (.fetch (.cancelled cause)) (.cancelled cause)
  | thread (cause : SystemError) : Source (.start (.spawn cause)) (.system cause)

/-- An error and the sources below it, down to one without a source. -/
inductive Lineage : Failure → List Failure → Prop where
  | last {failure : Failure} (bare : ∀ cause, ¬Source failure cause) : Lineage failure [failure]
  | above {failure cause : Failure} {links : List Failure} (source : Source failure cause)
      (rest : Lineage cause links) : Lineage failure (failure :: links)

variable {failure other cause : Failure} {links rest : List Failure} {code : Nat}

theorem causes_of_source (source : Source failure cause) :
    failure.causes = cause :: cause.causes := by
  cases source <;> rfl

theorem source_of_causes (listed : failure.causes = cause :: rest) : Source failure cause := by
  cases failure with
  | detector error =>
      cases error with
      | lag inner =>
          cases listed
          exact .capacity inner
      | threshold | influence => cases listed
  | settings error =>
      cases error with
      | filter inner =>
          cases listed
          exact .tuning inner
      | _ => cases listed
  | fetch error =>
      cases error with
      | unreadable path inner =>
          cases listed
          exact .file path inner
      | cancelled inner =>
          cases listed
          exact .interruption inner
      | _ => cases listed
  | start error =>
      cases error with
      | spawn inner =>
          cases listed
          exact .thread inner
      | _ => cases listed
  | _ => cases listed

/-- The causes of an error are the sources below it. -/
theorem lineage (failure : Failure) : Lineage failure (failure :: failure.causes) := by
  -- on the list of causes, since the source of an error is no subterm of it
  induction listed : failure.causes generalizing failure with
  | nil =>
      refine .last fun cause source => ?_
      rw [causes_of_source source] at listed
      cases listed
  | cons cause rest ih =>
      have source := source_of_causes listed
      rw [causes_of_source source] at listed
      exact .above source (ih cause (List.cons.inj listed).2)

/-- A source stands in the chain with the error that gives it. -/
theorem Lineage.mem_of_source (lineage : Lineage failure links) (inside : other ∈ links)
    (source : Source other cause) : cause ∈ links := by
  induction lineage with
  | last bare =>
      obtain rfl := List.mem_singleton.mp inside
      exact absurd source (bare cause)
  | above first rest ih =>
      rcases List.mem_cons.mp inside with rfl | below
      · have same := (causes_of_source source).symm.trans (causes_of_source first)
        obtain ⟨rfl, _⟩ := List.cons.inj same
        cases rest <;> simp
      · exact List.mem_cons_of_mem _ (ih below)

/-- The errors with an exit code of their own. -/
inductive Decides : Failure → Nat → Prop where
  | nothing : Decides (.choice .noInterfaces) 2
  | several (names : List String) : Decides (.choice (.multipleInterfaces names)) 3
  | settings (error : SettingsError) : Decides (.settings error) 4
  | fetch (error : FetchError) : Decides (.fetch error) 5

theorem exitCode?_eq_some_iff : failure.exitCode? = some code ↔ failure.Decides code := by
  constructor
  · intro found
    fun_cases exitCode? failure with
    | case1 => cases found; exact .nothing
    | case2 names => cases found; exact .several names
    | case3 error => cases found; exact .settings error
    | case4 error => cases found; exact .fetch error
    | case5 => simp_all [exitCode?]
  · intro decides
    cases decides <;> rfl

theorem exitCode?_eq_none_iff : failure.exitCode? = none ↔ ∀ code, ¬failure.Decides code := by
  simp only [Option.eq_none_iff_forall_ne_some, ne_eq, exitCode?_eq_some_iff]

end Failure

namespace Report

open Failure (Decides Lineage Source)

variable {report : Report} {other cause : Failure} {contexts : List String} {code : Nat}

/-- Reports an error inside more contexts, the outermost one first. -/
def withinAll (contexts : List String) (report : Report) : Report := contexts.foldr within report

@[simp] theorem withinAll_cons (context : String) :
    report.withinAll (context :: contexts) = (report.withinAll contexts).within context := rfl

@[simp] theorem chain_within (context : String) :
    (report.within context).chain = .message context :: report.chain := rfl

theorem chain_withinAll (contexts : List String) (report : Report) :
    (report.withinAll contexts).chain = contexts.map .message ++ report.chain := by
  induction contexts with
  | nil => rfl
  | cons context contexts ih =>
      rw [withinAll_cons, chain_within, ih]
      rfl

@[simp] theorem exitCode_within (context : String) :
    (report.within context).exitCode = report.exitCode := rfl

@[simp] theorem isCancellation_within (context : String) :
    (report.within context).isCancellation = report.isCancellation := rfl

@[simp] theorem exitCode_withinAll : (report.withinAll contexts).exitCode = report.exitCode := by
  induction contexts with
  | nil => rfl
  | cons context contexts ih => rw [withinAll_cons, exitCode_within, ih]

@[simp] theorem isCancellation_withinAll :
    (report.withinAll contexts).isCancellation = report.isCancellation := by
  induction contexts with
  | nil => rfl
  | cons context contexts ih => rw [withinAll_cons, isCancellation_within, ih]

theorem mem_chain_of_source (inside : other ∈ report.chain) (source : Source other cause) :
    cause ∈ report.chain := by
  rcases List.mem_append.mp inside with above | below
  · -- a context has no source
    obtain ⟨text, _, rfl⟩ := List.mem_map.mp above
    cases source
  · exact List.mem_append_right _ (report.failure.lineage.mem_of_source below source)

@[simp] theorem exitCode_settings (error : SettingsError) :
    (Report.of (.settings error)).exitCode = 4 := rfl

theorem exitCode_detector (error : Spike.DetectorError) :
    (Report.of (.detector error)).exitCode = 1 := by
  cases error <;> rfl

/-- The exit code of the outermost error in a chain that has one of its own, or 1 if there is
none. -/
inductive Decided (chain : List Failure) : Nat → Prop where
  | outermost {before after : List Failure} {link : Failure} {code : Nat}
      (parts : chain = before ++ link :: after)
      (above : ∀ other ∈ before, ∀ code, ¬other.Decides code) (decides : link.Decides code) :
      Decided chain code
  | nowhere (undecided : ∀ link ∈ chain, ∀ code, ¬link.Decides code) : Decided chain 1

theorem exitCode_decided (report : Report) : Decided report.chain report.exitCode := by
  rw [exitCode]
  cases found : report.chain.findSome? Failure.exitCode? with
  | none =>
      refine .nowhere fun link inside => ?_
      exact Failure.exitCode?_eq_none_iff.mp (List.findSome?_eq_none_iff.mp found link inside)
  | some code =>
      obtain ⟨before, link, after, parts, decides, above⟩ := List.findSome?_eq_some_iff.mp found
      exact .outermost parts
        (fun other outer => Failure.exitCode?_eq_none_iff.mp (above other outer))
        (Failure.exitCode?_eq_some_iff.mp decides)

theorem exitCode_eq_iff : report.exitCode = code ↔ Decided report.chain code := by
  constructor
  · rintro rfl
    exact report.exitCode_decided
  · intro decided
    rw [exitCode]
    cases decided with
    | outermost parts above decides =>
        have found := List.findSome?_eq_some_iff.mpr ⟨_, _, _, parts,
          Failure.exitCode?_eq_some_iff.mpr decides,
          fun other outer => Failure.exitCode?_eq_none_iff.mpr (above other outer)⟩
        rw [found]
        rfl
    | nowhere undecided =>
        have missing := List.findSome?_eq_none_iff.mpr fun link inside =>
          Failure.exitCode?_eq_none_iff.mpr (undecided link inside)
        rw [missing]
        rfl

theorem isCancellation_iff :
    report.isCancellation = true ↔ ∃ cause, Failure.cancelled cause ∈ report.chain := by
  rw [isCancellation, List.any_eq_true]
  constructor
  · rintro ⟨failure, inside, marks⟩
    cases failure with
    | cancelled cause => exact ⟨cause, inside⟩
    | _ => simp [Failure.marksCancellation] at marks
  · rintro ⟨cause, inside⟩
    exact ⟨_, inside, rfl⟩

/-- Contexts change neither the exit code of an error nor whether it is a cancellation, however many
they are and whatever they say: below them the chain is the error with its sources. The outermost
error with an exit code of its own decides, so a detector's error counts as one of the settings
below an error of theirs, and as any other error where it stands alone. A cancellation counts
wherever it stands, and so does a fetch that was cancelled. -/
theorem contexts_leave_verdicts (failure : Failure) (contexts : List String) :
    let report := (Report.of failure).withinAll contexts
    (∃ links, Lineage failure links ∧ report.chain = contexts.map .message ++ links) ∧
      report.exitCode = (Report.of failure).exitCode ∧
      report.isCancellation = (Report.of failure).isCancellation ∧
      (∀ code, report.exitCode = code ↔ Decided report.chain code) ∧
      (report.isCancellation = true ↔ ∃ cause, Failure.cancelled cause ∈ report.chain) ∧
      (∀ cause, Failure.fetch (.cancelled cause) ∈ report.chain → report.isCancellation = true) ∧
      ∀ cause, ((Report.of (.settings (.filter cause))).withinAll contexts).exitCode = 4 ∧
        ((Report.of (.detector cause)).withinAll contexts).exitCode = 1 := by
  intro report
  refine ⟨⟨_, failure.lineage, chain_withinAll contexts _⟩, exitCode_withinAll,
    isCancellation_withinAll, fun _ => exitCode_eq_iff, isCancellation_iff, ?_, ?_⟩
  · intro cause inside
    exact isCancellation_iff.mpr ⟨cause, mem_chain_of_source inside (.interruption cause)⟩
  · intro cause
    rw [exitCode_withinAll, exitCode_withinAll]
    exact ⟨exitCode_settings _, exitCode_detector cause⟩

/-- A cancelled fetch, and an error of no kind, both inside contexts that repeat the texts of
other errors. -/
theorem contexts_leave_verdicts_repeated :
    let contexts := ["invalid spike filter parameters", "operation cancelled",
      "counter fetch cancelled"]
    let fetch := (Report.of (.fetch (.cancelled .cancelled))).withinAll contexts
    let words := (Report.of (.message "operation cancelled")).withinAll contexts
    fetch.chain.map Failure.text = contexts ++ ["counter fetch cancelled", "operation cancelled"] ∧
      Failure.fetch (.cancelled .cancelled) ∈ fetch.chain ∧
      fetch.exitCode = 5 ∧ fetch.isCancellation = true ∧
      words.chain.map Failure.text = contexts ++ ["operation cancelled"] ∧
      words.exitCode = 1 ∧ words.isCancellation = false := by
  intro contexts fetch words
  obtain ⟨_, fetchCode, _, _, _, cancels, _⟩ :=
    contexts_leave_verdicts (.fetch (.cancelled .cancelled)) contexts
  obtain ⟨_, wordsCode, ordinary, _⟩ :=
    contexts_leave_verdicts (.message "operation cancelled") contexts
  have inside : Failure.fetch (.cancelled .cancelled) ∈ fetch.chain := by decide
  exact ⟨rfl, inside, fetchCode, cancels .cancelled inside, rfl, wordsCode, ordinary⟩

end Report

end TrafficMeter
