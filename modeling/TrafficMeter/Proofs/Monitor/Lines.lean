import Mathlib.Order.Lattice
import TrafficMeter.Monitor

/-! # The lines of a monitor

The count of a monitor is looked at after every line, so a monitor with a count writes as many lines
as it says, one for each of the first updates, but never less than one: a count of zero is not
looked at before the first line has been written.
-/

namespace TrafficMeter

namespace Sink

variable {sink : Sink} {first second text : String}

/-- The sink with a text written to it. -/
def append (sink : Sink) (text : String) : Sink := { sink with written := sink.written ++ text }

/-- The text does not go past the limit, and so no beginning of it does. -/
def Accepts (sink : Sink) (text : String) : Prop :=
  ∀ limit ∈ sink.limit, (sink.written ++ text).utf8ByteSize ≤ limit

theorem append_append : (sink.append first).append second = sink.append (first ++ second) := by
  simp [append, String.append_assoc]

theorem Accepts.head (accepts : sink.Accepts (first ++ second)) : sink.Accepts first := by
  intro limit inside
  have whole := accepts limit inside
  simp only [String.utf8ByteSize_append] at whole ⊢
  omega

theorem Accepts.tail (accepts : sink.Accepts (first ++ second)) :
    (sink.append first).Accepts second := by
  intro limit inside
  have whole := accepts limit inside
  rwa [← String.append_assoc] at whole

theorem write_of_accepts (accepts : sink.Accepts text) :
    sink.write text = .ok (sink.append text) := by
  unfold write
  split
  · rfl
  · rename_i limit limited
    rw [if_neg]
    · rfl
    · exact Nat.not_lt_of_le (accepts limit limited)

theorem writeRate_of_accepts {format : Format} {interface : String} {rate : Rate}
    (accepts : sink.Accepts (rate.line format interface)) :
    sink.writeRate format interface rate = .ok (sink.append (rate.line format interface)) := by
  have body := write_of_accepts accepts.head
  have ending := write_of_accepts accepts.tail
  rw [writeRate, body]
  dsimp only
  rw [ending, append_append]
  rfl

end Sink

namespace Monitor

variable {options : MonitorOptions} {interface : String} {count : Nat}

/-- The lines for some updates. -/
def lines (format : Format) (interface : String) (rates : List Rate) : String :=
  String.join (rates.map (Rate.line format interface))

theorem lines_cons (format : Format) (interface : String) (rate : Rate) (rates : List Rate) :
    lines format interface (rate :: rates) =
      rate.line format interface ++ lines format interface rates := by
  simp [lines]

/-- As many lines are written as are left of the count, but at least one. -/
theorem emit_of_count (counted : options.count = some count) {sink : Sink} {emitted : Nat}
    {rates : List Rate} (enough : max (count - emitted) 1 ≤ rates.length)
    (accepts : sink.Accepts
      (lines options.format interface (rates.take (max (count - emitted) 1)))) :
    emit options interface sink emitted rates =
      (sink.append (lines options.format interface (rates.take (max (count - emitted) 1))),
        .finished) := by
  induction rates generalizing sink emitted with
  | nil => simp at enough
  | cons rate rates ih =>
      obtain ⟨more, left⟩ : ∃ more, max (count - emitted) 1 = more + 1 :=
        ⟨max (count - emitted) 1 - 1, by omega⟩
      rw [left, List.take_succ_cons, lines_cons] at accepts ⊢
      rw [emit, Sink.writeRate_of_accepts accepts.head, counted]
      by_cases last : count ≤ emitted + 1
      · obtain rfl : more = 0 := by omega
        simp [last, lines]
      · have fewer : max (count - (emitted + 1)) 1 = more := by omega
        have still : max (count - (emitted + 1)) 1 ≤ rates.length := by
          rw [List.length_cons] at enough
          omega
        rw [← fewer] at accepts ⊢
        have rest := ih still accepts.tail
        rw [Sink.append_append] at rest
        simp [last, rest]

/-- With a count a monitor writes the lines of its first updates, as many as the count says but at
least one, and is done. -/
theorem count_limits_lines (counted : options.count = some count) :
    (∀ interface sink delivered, max count 1 ≤ delivered.length →
        sink.Accepts (lines options.format interface (delivered.take (max count 1))) →
        emit options interface sink 0 delivered =
          (sink.append (lines options.format interface (delivered.take (max count 1))),
            .finished)) ∧
      ∀ contents plan meter, prepare options contents = .ok (plan, meter) → ∀ states sink,
        let delivered :=
          updates meter plan.settings.interval (fetches plan options.counters states)
        max count 1 ≤ delivered.length →
          sink.Accepts (lines options.format plan.interface (delivered.take (max count 1))) →
          run options contents states false sink =
            .ok (sink.append (lines options.format plan.interface (delivered.take (max count 1))),
              .finished) := by
  have emits : ∀ interface sink delivered, max count 1 ≤ delivered.length →
      sink.Accepts (lines options.format interface (delivered.take (max count 1))) →
      emit options interface sink 0 delivered =
        (sink.append (lines options.format interface (delivered.take (max count 1))),
          .finished) := fun _ _ _ enough accepts => emit_of_count counted enough accepts
  refine ⟨emits, ?_⟩
  intro contents plan meter prepared states sink delivered enough accepts
  rw [run, prepared]
  exact congrArg Except.ok (emits _ _ _ enough accepts)

/-- A counter file with one interface. -/
def quiet : Contents := .ofText "h1\nh2\neth0: 1 0 0 0 0 0 0 0 2\n"

/-- A monitor of one poll a second that stops at a count. -/
def counting (count : Nat) : MonitorOptions :=
  ⟨some "eth0", ⟨1.0, some 1, none, none, 5.0⟩, some count, .json, "net_dev"⟩

def quietLine : String :=
  "\x7b\"interface\":\"eth0\",\"in_bytes_per_sec\":0,\"out_bytes_per_sec\":0\x7d\n"

/-- Two of three lines are written to an output that has just the room for them. -/
theorem count_limits_lines_quiet :
    let window : Ring Float := ⟨#[], 1, 0, Nat.zero_le 1, Nat.one_pos, fun _ => rfl⟩
    let filter : Spike.Filter := ⟨⟨window, 2.0, 1.0⟩, 0.0⟩
    let meter : Meter := ⟨none, .zero, filter, filter⟩
    let plan : Plan := ⟨"eth0", ⟨.ofParts 1 0, ⟨1, 2.0, 1.0⟩, .ofParts 5 0⟩, .ofParts 5 0⟩
    let states := List.replicate 4 quiet
    prepare (counting 2) quiet = .ok (plan, meter) ∧
      updates meter (.ofParts 1 0) (fetches plan "net_dev" states) = List.replicate 3 ⟨0, 0⟩ ∧
      run (counting 2) quiet states false ⟨some 135, "# eth0\n"⟩ =
        .ok (⟨some 135, "# eth0\n" ++ quietLine ++ quietLine⟩, .finished) := by
  intro window filter meter plan states
  have prepared : prepare (counting 2) quiet = .ok (plan, meter) := rfl
  have delivered : updates meter (.ofParts 1 0) (fetches plan "net_dev" states) =
      List.replicate 3 ⟨0, 0⟩ := by decide +kernel
  have counted : (counting 2).count = some 2 := rfl
  have runs := (count_limits_lines counted).2 quiet plan meter prepared states
    ⟨some 135, "# eth0\n"⟩
  change let rates := updates meter (.ofParts 1 0) (fetches plan "net_dev" states)
    _ at runs
  rw [delivered] at runs
  have written := runs (by decide) (by rintro limit ⟨⟩; decide +kernel)
  refine ⟨prepared, delivered, written.trans ?_⟩
  decide +kernel

/-- A count of zero does not keep a monitor from its first line. -/
theorem zero_count_writes_line :
    run (counting 0) quiet (List.replicate 2 quiet) false .unlimited =
        .ok (Sink.unlimited.append quietLine, .finished) ∧
      quietLine ≠ "" := by
  decide +kernel

end Monitor

end TrafficMeter
