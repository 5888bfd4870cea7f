import Mathlib.Data.List.DropRight
import TrafficMeter.Sample.Statistics

/-! # Rings keep the latest samples

However often it has turned, a ring of capacity `c` shows the last `c` samples that were
put into it, oldest first. Every place that an operation looks up is inside the buffer.
-/

namespace TrafficMeter.Ring

variable {α : Type} {capacity : Nat}

/-- The ring of a capacity, without a sample. -/
def empty (α : Type) (capacity : Nat) (positive : 0 < capacity) : Ring α :=
  ⟨#[], capacity, 0, Nat.zero_le capacity, positive, fun (_ : 0 < capacity) => rfl⟩

def pushAll (ring : Ring α) (samples : List α) : Ring α := samples.foldl push ring

/-- The places that the operations look up: where the view is split, where a full ring is
written to, and where the latest sample stands. -/
structure PlacesInside (ring : Ring α) : Prop where
  split : ring.start ≤ ring.buffer.size
  write : ring.isFull = true → ring.start < ring.buffer.size
  latest : 0 < ring.buffer.size →
    (ring.start + ring.buffer.size - 1) % ring.buffer.size < ring.buffer.size

theorem placesInside (ring : Ring α) : ring.PlacesInside := by
  have start_lt := ring.start_lt
  have of_room := ring.start_of_room
  refine ⟨?_, ?_, fun nonempty => Nat.mod_lt _ nonempty⟩
  · by_cases room : ring.buffer.size < ring.capacity
    · rw [of_room room]
      exact Nat.zero_le _
    · omega
  · intro full
    rw [isFull_iff] at full
    unfold count at full
    omega

theorem new_of_fits (positive : 0 < capacity) (fits : capacity ≤ maxCapacity) :
    Ring.new α capacity = .ok (empty α capacity positive) := by
  simp [Ring.new, empty, positive, fits]

theorem eq_empty_of_new {ring : Ring α} (built : Ring.new α capacity = .ok ring) :
    ∃ positive : 0 < capacity, ring = empty α capacity positive := by
  unfold Ring.new at built
  split at built
  · rename_i positive
    split at built
    · cases built
      exact ⟨positive, rfl⟩
    · cases built
  · cases built

@[simp] theorem pushAll_nil (ring : Ring α) : ring.pushAll [] = ring := rfl

@[simp] theorem pushAll_cons (ring : Ring α) (sample : α) (samples : List α) :
    ring.pushAll (sample :: samples) = (ring.push sample).pushAll samples := rfl

theorem pushAll_concat (ring : Ring α) (samples : List α) (sample : α) :
    ring.pushAll (samples ++ [sample]) = (ring.pushAll samples).push sample := by
  simp [pushAll]

@[simp] theorem capacity_pushAll (ring : Ring α) (samples : List α) :
    (ring.pushAll samples).capacity = ring.capacity := by
  induction samples generalizing ring with
  | nil => rfl
  | cons sample samples ih => rw [pushAll_cons, ih, capacity_push]

theorem count_push (ring : Ring α) (sample : α) :
    (ring.push sample).count = min (ring.count + 1) ring.capacity := by
  rcases Nat.lt_or_eq_of_le ring.count_le_capacity with room | full
  · rw [count_push_of_room sample room]
    omega
  · rw [count_push_of_full sample full]
    omega

theorem length_rtake (samples : List α) (count : Nat) :
    (samples.rtake count).length = min samples.length count := by
  rw [List.rtake, List.length_drop]
  omega

/-- One more sample drops the oldest of the latest `count`, if there were that many. -/
theorem rtake_concat_of_full {samples : List α} {count : Nat} (sample : α) (positive : 0 < count)
    (full : count ≤ samples.length) :
    (samples ++ [sample]).rtake count = (samples.rtake count).tail ++ [sample] := by
  obtain ⟨rest, rfl⟩ := Nat.exists_eq_add_one_of_ne_zero (Nat.ne_of_gt positive)
  have oldest : samples.length - (rest + 1) + 1 = samples.length - rest := by omega
  rw [List.rtake_concat_succ, List.rtake, List.rtake, List.tail_drop, oldest]

theorem rtake_of_length_le {samples : List α} {count : Nat} (short : samples.length ≤ count) :
    samples.rtake count = samples := by
  rw [List.rtake, Nat.sub_eq_zero_of_le short, List.drop_zero]

/-- A ring shows the latest samples after a push, if it did before. -/
theorem toList_push_eq_rtake {ring : Ring α} {samples : List α} (sample : α)
    (shown : ring.toList = samples.rtake ring.capacity) :
    (ring.push sample).toList = (samples ++ [sample]).rtake ring.capacity := by
  have held : ring.count = min samples.length ring.capacity := by
    rw [← length_toList, shown, length_rtake]
  by_cases room : ring.count < ring.capacity
  · have short : samples.length < ring.capacity := by omega
    have longer : (samples ++ [sample]).length ≤ ring.capacity := by
      rw [List.length_append, List.length_singleton]
      exact short
    rw [toList_push_of_room sample room, shown, rtake_of_length_le (Nat.le_of_lt short),
      rtake_of_length_le longer]
  · have full : ring.count = ring.capacity := by
      have := ring.count_le_capacity
      omega
    rw [toList_push_of_full sample full, shown,
      rtake_concat_of_full sample ring.capacity_pos (by omega)]

theorem toList_pushAll (positive : 0 < capacity) (samples : List α) :
    ((empty α capacity positive).pushAll samples).toList = samples.rtake capacity := by
  induction samples using List.reverseRecOn with
  | nil => simp [empty, toList, List.rtake]
  | append_singleton samples sample ih =>
      have kept : ((empty α capacity positive).pushAll samples).capacity = capacity :=
        capacity_pushAll _ _
      rw [pushAll_concat, toList_push_eq_rtake sample (by rw [kept, ih]), kept]

theorem count_pushAll (ring : Ring α) (samples : List α) :
    (ring.pushAll samples).count = min (ring.count + samples.length) ring.capacity := by
  induction samples generalizing ring with
  | nil =>
      have within := ring.count_le_capacity
      rw [pushAll_nil, List.length_nil, Nat.add_zero, Nat.min_eq_left within]
  | cons sample samples ih =>
      rw [pushAll_cons, ih, count_push, capacity_push, List.length_cons]
      omega

theorem count_pushAll_empty (positive : 0 < capacity) (samples : List α) :
    ((empty α capacity positive).pushAll samples).count = min samples.length capacity := by
  rw [count_pushAll]
  exact congrArg (min · capacity) (Nat.zero_add _)

theorem getLast?_rtake (positive : 0 < capacity) (samples : List α) :
    (samples.rtake capacity).getLast? = samples.getLast? := by
  cases samples using List.reverseRecOn with
  | nil => simp [List.rtake]
  | append_singleton samples sample =>
      obtain ⟨rest, rfl⟩ := Nat.exists_eq_add_one_of_ne_zero (Nat.ne_of_gt positive)
      rw [List.rtake_concat_succ, List.getLast?_append, List.getLast?_append]
      rfl

/-- A ring of any capacity is the list of the latest samples: nothing is looked up outside
the buffer, and view, number, fullness and latest sample are those of the list. So are mean
and deviation, whose sums run over that list from its oldest sample on. -/
theorem pushAll_keeps_latest (positive : 0 < capacity) :
    (capacity ≤ maxCapacity → ∀ α, Ring.new α capacity = .ok (empty α capacity positive)) ∧
    (∀ {α : Type} (samples : List α),
      let ring := (empty α capacity positive).pushAll samples
      ring.PlacesInside ∧
        ring.toList = samples.rtake capacity ∧
        ring.count = min samples.length capacity ∧
        (ring.isFull = true ↔ capacity ≤ samples.length) ∧
        ring.newest? = samples.getLast? ∧
        (ring.newest? = none ↔ samples.length = 0)) ∧
    ∀ samples : List Float,
      let ring := (empty Float capacity positive).pushAll samples
      let latest := samples.rtake capacity
      let count := min samples.length capacity
      ring.mean =
          (if count = 0 then 0.0 else latest.foldl (· + ·) (-0.0) / Binary64.ofNat count) ∧
        ∀ around, ring.deviation around =
          if count < 2 then Binary64.notANumber
          else ((latest.map fun x => (x - around) * (x - around)).foldl (· + ·) (-0.0) /
            Binary64.ofNat (count - 1)).sqrt := by
  refine ⟨fun fits α => new_of_fits positive fits, ?_, ?_⟩
  · intro α samples ring
    have newest : ring.newest? = samples.getLast? := by
      rw [newest?_eq_getLast?, toList_pushAll, getLast?_rtake positive]
    refine ⟨ring.placesInside, toList_pushAll positive samples,
      count_pushAll_empty positive samples, ?_, newest, ?_⟩
    · rw [isFull_iff, count_pushAll_empty, capacity_pushAll]
      change min samples.length capacity = capacity ↔ _
      omega
    · rw [newest, List.getLast?_eq_none_iff, List.length_eq_zero_iff]
  · intro samples ring latest count
    have shown : ring.toList = latest := toList_pushAll positive samples
    have length : latest.length = count := length_rtake samples capacity
    have none_left : latest.isEmpty = true ↔ count = 0 := by
      rw [List.isEmpty_iff, ← List.length_eq_zero_iff, length]
    constructor
    · simp only [Ring.mean, Sample.mean, Sample.sum, shown, length, none_left]
    · intro around
      simp only [Ring.deviation, Sample.deviation, Sample.sum, shown, length]

theorem pushAll_keeps_latest_rotated :
    0 < 3 ∧
      let ring := (empty Float 3 (by decide)).pushAll [9.0, 2.0, 4.0, 4.0, 7.0]
      ring.start = 2 ∧ ring.toList = [4.0, 4.0, 7.0] ∧ ring.newest? = some 7.0 ∧
        ring.mean = 5.0 ∧ ring.deviation 5.0 = Float.sqrt 3.0 := by
  obtain ⟨_, view, statistics⟩ := @pushAll_keeps_latest 3 (by decide)
  obtain ⟨_, shown, _, _, newest, _⟩ := view [9.0, 2.0, 4.0, 4.0, 7.0]
  obtain ⟨mean, deviation⟩ := statistics [9.0, 2.0, 4.0, 4.0, 7.0]
  refine ⟨by decide, rfl, shown, newest, ?_, ?_⟩
  · rw [mean]
    decide +kernel
  · rw [deviation]
    decide +kernel

end TrafficMeter.Ring
