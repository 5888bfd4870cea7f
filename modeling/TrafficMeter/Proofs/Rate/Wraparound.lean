import TrafficMeter.Proofs.Rate.Baseline

/-! # Counters that start again at zero

Where a counter of a fixed width stands when a run begins makes no difference to the
run: moving every reading on by the same number of bytes, around the end of the counter
where needed, changes no answer and no pending time. The meter with the moved baseline
stays in step with the other one, because the growth of a counter is the one number of
bytes below its modulus that leads from a reading to the next.
-/

namespace TrafficMeter

namespace Width

variable {width : Width} {previous current growth : UInt64}

/-- Where a counter stands `bytes` later. -/
def shift (width : Width) (bytes : Nat) (counter : UInt64) : UInt64 :=
  .ofNat ((counter.toNat + bytes) % width.modulus)

theorem modulus_pos (width : Width) : 0 < width.modulus := by
  cases width <;> decide

theorem modulus_le (width : Width) : width.modulus ≤ 18446744073709551616 := by
  cases width <;> decide

theorem toNat_ofNat_mod (width : Width) (bytes : Nat) :
    (UInt64.ofNat (bytes % width.modulus)).toNat = bytes % width.modulus := by
  have below := Nat.mod_lt bytes width.modulus_pos
  have held := width.modulus_le
  rw [UInt64.toNat_ofNat']
  exact Nat.mod_eq_of_lt (by omega)

theorem toNat_shift (width : Width) (bytes : Nat) (counter : UInt64) :
    (width.shift bytes counter).toNat = (counter.toNat + bytes) % width.modulus :=
  width.toNat_ofNat_mod _

theorem shift_lt (width : Width) (bytes : Nat) (counter : UInt64) :
    (width.shift bytes counter).toNat < width.modulus := by
  rw [toNat_shift]
  exact Nat.mod_lt _ width.modulus_pos

/-- Some growth below the modulus leads from any reading to any other. -/
theorem exists_growth (before : previous.toNat < width.modulus)
    (after : current.toNat < width.modulus) :
    ∃ growth : UInt64, growth.toNat < width.modulus ∧
      (previous.toNat + growth.toNat) % width.modulus = current.toNat := by
  refine ⟨.ofNat ((current.toNat + (width.modulus - previous.toNat)) % width.modulus), ?_, ?_⟩
  · rw [toNat_ofNat_mod]
    exact Nat.mod_lt _ width.modulus_pos
  · have around : previous.toNat + (current.toNat + (width.modulus - previous.toNat)) =
        current.toNat + width.modulus := by omega
    rw [toNat_ofNat_mod, Nat.add_mod_mod, around, Nat.add_mod_right, Nat.mod_eq_of_lt after]

/-- Such a growth is the one found, whether the counter wraps on the way or not. -/
theorem growth?_of_grown (before : previous.toNat < width.modulus)
    (short : growth.toNat < width.modulus)
    (grown : (previous.toNat + growth.toNat) % width.modulus = current.toNat) :
    width.growth? previous current = some growth := by
  unfold growth?
  by_cases wrapped : width.modulus ≤ previous.toNat + growth.toNat
  · -- the growth is short of a whole round, so the counter comes back below where it was
    rw [Nat.mod_eq_sub_mod wrapped, Nat.mod_eq_of_lt (by omega)] at grown
    have fell : ¬ previous ≤ current := by
      rw [UInt64.le_iff_toNat_le]
      omega
    have back : current.toNat + width.modulus - previous.toNat = growth.toNat := by omega
    rw [if_neg fell, if_pos (by omega), back, UInt64.ofNat_toNat]
  · rw [Nat.mod_eq_of_lt (by omega)] at grown
    have rose : previous ≤ current := by
      rw [UInt64.le_iff_toNat_le]
      omega
    rw [if_pos rose, Option.some.injEq, ← UInt64.toNat_inj, UInt64.toNat_sub_of_le _ _ rose]
    omega

theorem growth?_shift (before : previous.toNat < width.modulus)
    (after : current.toNat < width.modulus) (bytes : Nat) :
    width.growth? (width.shift bytes previous) (width.shift bytes current) =
      width.growth? previous current := by
  -- the growth that leads from one reading to the other does so from the moved one as well
  obtain ⟨growth, short, grown⟩ := exists_growth before after
  have moved : ((width.shift bytes previous).toNat + growth.toNat) % width.modulus =
      (width.shift bytes current).toNat := by
    rw [toNat_shift, toNat_shift, ← grown, Nat.mod_add_mod, Nat.mod_add_mod, Nat.add_right_comm]
  rw [growth?_of_grown before short grown,
    growth?_of_grown (width.shift_lt bytes previous) short moved]

end Width

namespace Snapshot

/-- A reading of counters of that width. -/
structure Reads (width : Width) (snapshot : Snapshot) : Prop where
  same : snapshot.width = width
  inBytes : snapshot.inBytes.toNat < width.modulus
  outBytes : snapshot.outBytes.toNat < width.modulus

/-- What the counters would read if each had started further on. -/
def shift (received sent : Nat) (snapshot : Snapshot) : Snapshot :=
  { snapshot with
    inBytes := snapshot.width.shift received snapshot.inBytes
    outBytes := snapshot.width.shift sent snapshot.outBytes }

end Snapshot

namespace Meter

variable {width : Width} {meter : Meter} {previous current : Snapshot} {round : Round}

namespace Round

/-- The round with its reading moved on. -/
def shift (received sent : Nat) (round : Round) : Round :=
  { round with fetched := round.fetched.map (Snapshot.shift received sent) }

/-- Any reading of the round is one of counters of that width. -/
def Reads (width : Width) (round : Round) : Prop :=
  ∀ current, round.fetched = .ok current → current.Reads width

end Round

/-- The answer of every poll of a run, with the pending time after it. -/
def trace (meter : Meter) : List Round → List (Attempt FetchError (Option Rate) × Span)
  | [] => []
  | round :: rounds =>
      let (meter, answer) := meter.poll round.since round.fetched round.cancelled
      (answer, meter.pending) :: meter.trace rounds

/-- The meter with its baseline moved on. -/
def shift (received sent : Nat) (meter : Meter) : Meter :=
  { meter with previous := meter.previous.map (Snapshot.shift received sent) }

/-- The baseline is a reading of counters of that width. -/
def Reads (width : Width) (meter : Meter) : Prop :=
  ∀ previous, meter.previous = some previous → previous.Reads width

theorem growth?_shift (before : previous.Reads width) (after : current.Reads width)
    (received sent : Nat) :
    growth? (previous.shift received sent) (current.shift received sent) =
      growth? previous current := by
  obtain ⟨rfl, received_before, sent_before⟩ := before
  obtain ⟨same, received_after, sent_after⟩ := after
  simp only [growth?, Snapshot.shift, same, Width.growth?_shift received_before received_after,
    Width.growth?_shift sent_before sent_after]

theorem measure_shift (before : previous.Reads width) (after : current.Reads width)
    (received sent : Nat) (meter : Meter) (elapsed : Span) :
    (meter.shift received sent).measure (previous.shift received sent)
        (current.shift received sent) elapsed =
      Prod.map (shift received sent) id (meter.measure previous current elapsed) := by
  unfold measure
  rw [growth?_shift before after]
  dsimp only
  split
  · rfl
  · cases growth? previous current with
    | none => rfl
    | some growth => rfl

theorem accept_shift (based : meter.Reads width) (after : current.Reads width)
    (received sent : Nat) (elapsed : Span) :
    (meter.shift received sent).accept (current.shift received sent) elapsed =
      Prod.map (shift received sent) id (meter.accept current elapsed) := by
  unfold accept
  cases held : meter.previous with
  | none => simp [shift, held]
  | some previous =>
      have measured := measure_shift (based previous held) after received sent
        { meter with previous := some current, pending := .zero } elapsed
      simpa [shift, held] using measured

/-- A poll of the moved meter that fetches the moved reading answers the same, and leaves
the moved meter behind. -/
theorem poll_shift (based : meter.Reads width) (reads : round.Reads width)
    (received sent : Nat) :
    (meter.shift received sent).poll round.since (round.shift received sent).fetched
        round.cancelled =
      Prod.map (shift received sent) id
        (meter.poll round.since round.fetched round.cancelled) := by
  rcases round with ⟨since, fetched, cancelled⟩
  have same : (meter.shift received sent).elapsed? since = meter.elapsed? since := rfl
  simp only [poll, Round.shift, same]
  cases meter.elapsed? since with
  | none => rfl
  | some elapsed =>
      cases fetched with
      | ok current =>
          have accepted := accept_shift based (reads current rfl) received sent elapsed
          cases cancelled with
          | true => rfl
          | false => simp [Except.map, accepted]
      | error fault =>
          cases fault with
          | crash => rfl
          | error error =>
              cases cancelled with
              | true => rfl
              | false =>
                  cases error with
                  | cancelled cause => rfl
                  | _ => cases held : meter.previous <;> simp [Except.map, shift, held]

/-- What a poll leaves as the baseline is the old one, or the reading that it fetched. -/
theorem poll_reads (based : meter.Reads width) (reads : round.Reads width) :
    (meter.poll round.since round.fetched round.cancelled).1.Reads width := by
  cases fits : meter.elapsed? round.since with
  | none => simpa [poll, fits] using based
  | some elapsed =>
      cases taken : round.reading? with
      | some current =>
          rw [poll_of_reading fits taken, Reads, accept_previous]
          rintro _ ⟨rfl⟩
          exact reads current (Round.reading?_eq_some_iff.mp taken).2
      | none =>
          cases missed : round.isMissed with
          | false =>
              rw [poll_of_neither taken missed]
              exact based
          | true =>
              rw [poll_of_missed fits missed]
              split
              · exact based
              · exact based

theorem trace_shift_of_reads (based : meter.Reads width) {rounds : List Round}
    (reads : ∀ round ∈ rounds, round.Reads width) (received sent : Nat) :
    (meter.shift received sent).trace (rounds.map (Round.shift received sent)) =
      meter.trace rounds := by
  induction rounds generalizing meter with
  | nil => rfl
  | cons round rounds ih =>
      have first := reads round List.mem_cons_self
      have rest := ih (poll_reads based first)
        (fun later inside => reads later (List.mem_cons_of_mem _ inside))
      have polled := poll_shift based first received sent
      have same : (round.shift received sent).since = round.since ∧
          (round.shift received sent).cancelled = round.cancelled := ⟨rfl, rfl⟩
      simp only [List.map_cons, trace, same, polled, Prod.map_fst, Prod.map_snd, id_eq, rest]
      rfl

/-- Where the counters of a run started cannot be told from its answers and pending
times: a run of readings moved on by the same numbers of bytes modulo the width gives the
same at every poll. -/
theorem trace_shift {params : Spike.Params} {fresh : Meter} {rounds : List Round}
    (built : Meter.new params = .ok fresh) (reads : ∀ round ∈ rounds, round.Reads width)
    (received sent : Nat) :
    fresh.trace (rounds.map (Round.shift received sent)) = fresh.trace rounds := by
  have unread : fresh.previous = none := (Accounts.fresh built).baseline
  have unmoved : fresh.shift received sent = fresh := by
    rw [shift, unread, Option.map_none, ← unread]
  have based : fresh.Reads width := by
    rw [Reads, unread]
    rintro _ ⟨⟩
  have moved := trace_shift_of_reads based reads received sent
  rwa [unmoved] at moved

/-- Counters of 32 bits that wrap after the second reading, with a failure on the way. -/
def wrapping : List Round :=
  let second := Span.ofParts 1 0
  [⟨second, .ok ⟨4294967195, 4294967245, .bits32⟩, false⟩,
    ⟨second, .ok ⟨4294967295, 4294967295, .bits32⟩, false⟩,
    ⟨second, .error (.error (.unavailable "agent down")), false⟩,
    ⟨second, .ok ⟨99, 49, .bits32⟩, false⟩,
    ⟨second, .ok ⟨150, 60, .bits32⟩, true⟩]

theorem trace_shift_wrapping :
    let second := Span.ofParts 1 0
    Meter.new ⟨1, 2.0, 1.0⟩ = .ok outageMeter ∧ (∀ round ∈ wrapping, round.Reads .bits32) ∧
      outageMeter.trace wrapping = outageMeter.trace
        [⟨second, .ok ⟨0, 0, .bits32⟩, false⟩, ⟨second, .ok ⟨100, 50, .bits32⟩, false⟩,
          ⟨second, .error (.error (.unavailable "agent down")), false⟩,
          ⟨second, .ok ⟨200, 100, .bits32⟩, false⟩,
          ⟨second, .ok ⟨251, 111, .bits32⟩, true⟩] := by
  have built : Meter.new ⟨1, 2.0, 1.0⟩ = .ok outageMeter := rfl
  have reads : ∀ round ∈ wrapping, round.Reads .bits32 := by
    intro round inside current fetched
    simp only [wrapping, List.mem_cons, List.not_mem_nil, or_false] at inside
    rcases inside with rfl | rfl | rfl | rfl | rfl <;> cases fetched <;>
      exact ⟨rfl, by decide, by decide⟩
  exact ⟨built, reads, (trace_shift built reads 101 51).symm⟩

end Meter

end TrafficMeter
