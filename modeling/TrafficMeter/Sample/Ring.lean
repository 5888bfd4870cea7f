import TrafficMeter.Fault

/-! # Ring buffers

A buffer for the latest samples. It grows up to its capacity; from then on every
sample takes the place of the oldest one, so the oldest one wanders through the
buffer. The view of a ring is the list of its samples, oldest first.
-/

namespace TrafficMeter

/-- Why there is no ring of a capacity. -/
inductive RingError where
  | zeroCapacity
  deriving DecidableEq, Repr

namespace RingError

def message : RingError → String
  | zeroCapacity => "sliding window capacity must be at least 1"

end RingError

/-- A ring holds at most `capacity` samples; `start` is the place of the oldest. -/
structure Ring (α : Type) where
  buffer : Array α
  capacity : Nat
  start : Nat
  size_le : buffer.size ≤ capacity
  start_lt : start < capacity
  start_of_room : buffer.size < capacity → start = 0

namespace Ring

variable {α : Type}

/-- The largest capacity: a buffer of eight-byte samples must fit into half of a
64-bit address space. -/
def maxCapacity : Nat := 0x7fffffffffffffff / 8

/-- An empty ring. A capacity of zero is refused; one that no memory can hold breaks
down. -/
def new (α : Type) (capacity : Nat) : Attempt RingError (Ring α) :=
  if h : 0 < capacity then
    if capacity ≤ maxCapacity then .ok ⟨#[], capacity, 0, Nat.zero_le _, h, fun _ => rfl⟩
    else .error .crash
  else .error (.error .zeroCapacity)

/-- Adds a sample, in place of the oldest one if the ring is full. -/
def push (ring : Ring α) (sample : α) : Ring α :=
  if room : ring.buffer.size < ring.capacity then
    { ring with
      buffer := ring.buffer.push sample
      size_le := Nat.le_trans (Nat.le_of_eq (Array.size_push ..)) room
      start_of_room := fun _ => ring.start_of_room room }
  else
    have full : ring.buffer.size = ring.capacity := Nat.le_antisymm ring.size_le (Nat.not_lt.1 room)
    have inside : ring.start < ring.buffer.size := full ▸ ring.start_lt
    { ring with
      buffer := ring.buffer.set ring.start sample inside
      start := (ring.start + 1) % ring.capacity
      size_le := Nat.le_trans (Nat.le_of_eq (Array.size_set ..)) ring.size_le
      start_lt := Nat.mod_lt _ (Nat.lt_of_le_of_lt (Nat.zero_le _) ring.start_lt)
      start_of_room := fun still =>
        absurd (Nat.lt_of_lt_of_eq still (full.symm.trans (Array.size_set ..).symm))
          (Nat.lt_irrefl _) }

/-- Whether the ring holds as many samples as it can. -/
def isFull (ring : Ring α) : Bool := ring.buffer.size == ring.capacity

/-- The number of samples in the ring. -/
def count (ring : Ring α) : Nat := ring.buffer.size

/-- The latest sample. -/
def newest? (ring : Ring α) : Option α :=
  ring.buffer[(ring.start + ring.buffer.size - 1) % ring.buffer.size]?

/-- The samples, oldest first. -/
def toList (ring : Ring α) : List α :=
  ring.buffer.toList.drop ring.start ++ ring.buffer.toList.take ring.start

theorem capacity_pos (ring : Ring α) : 0 < ring.capacity :=
  Nat.lt_of_le_of_lt (Nat.zero_le _) ring.start_lt

@[simp] theorem capacity_push (ring : Ring α) (sample : α) :
    (ring.push sample).capacity = ring.capacity := by
  unfold push
  split <;> rfl

theorem isFull_iff (ring : Ring α) : ring.isFull = true ↔ ring.count = ring.capacity := by
  simp [isFull, count]

@[simp] theorem length_toList (ring : Ring α) : ring.toList.length = ring.count := by
  simp only [toList, count, List.length_append, List.length_drop, List.length_take,
    Array.length_toList]
  omega

/-- While there is room a sample is added at the end. -/
theorem toList_push_of_room {ring : Ring α} (sample : α) (room : ring.count < ring.capacity) :
    (ring.push sample).toList = ring.toList ++ [sample] := by
  have start_eq := ring.start_of_room room
  unfold count at room
  simp [push, toList, room, start_eq]

/-- Writing over the first element of a rotation and rotating by one more place moves
the new element to the end. -/
private theorem rotate_set (l : List α) (i : Nat) (x : α) (h : i < l.length) :
    (l.set i x).drop (i + 1) ++ (l.set i x).take (i + 1) =
      (l.drop i ++ l.take i).tail ++ [x] := by
  have first : (l.set i x).drop (i + 1) = l.drop (i + 1) := by
    rw [List.drop_set_of_lt (Nat.lt_succ_self i)]
  have last : (l.set i x).take (i + 1) = l.take i ++ [x] := by
    rw [List.take_add_one, List.take_set_of_le (Nat.le_refl i), List.getElem?_set_self h]
    rfl
  rw [first, last, List.drop_eq_getElem_cons h, List.cons_append, List.tail_cons,
    List.append_assoc]

/-- A full ring gives up its oldest sample. -/
theorem toList_push_of_full {ring : Ring α} (sample : α) (full : ring.count = ring.capacity) :
    (ring.push sample).toList = ring.toList.tail ++ [sample] := by
  unfold count at full
  have no_room : ¬ring.buffer.size < ring.capacity := by omega
  have inside : ring.start < ring.buffer.toList.length := by
    have := ring.start_lt
    simp only [Array.length_toList]
    omega
  have rotated := rotate_set ring.buffer.toList ring.start sample inside
  by_cases last : ring.start + 1 < ring.capacity
  · have next : (ring.start + 1) % ring.capacity = ring.start + 1 := Nat.mod_eq_of_lt last
    simpa [push, toList, no_room, next] using rotated
  · have at_end : ring.start + 1 = ring.capacity := by
      have := ring.start_lt
      omega
    have next : (ring.start + 1) % ring.capacity = 0 := by rw [at_end, Nat.mod_self]
    have whole : ring.start + 1 = ring.buffer.toList.length := by
      simp only [Array.length_toList]
      omega
    have replaced : ring.buffer.toList.length =
        (ring.buffer.toList.set ring.start sample).length := List.length_set.symm
    rw [whole, replaced, List.drop_length, List.take_length, List.nil_append] at rotated
    simpa [push, toList, no_room, next] using rotated

theorem count_le_capacity (ring : Ring α) : ring.count ≤ ring.capacity := ring.size_le

theorem count_push_of_room {ring : Ring α} (sample : α) (room : ring.count < ring.capacity) :
    (ring.push sample).count = ring.count + 1 := by
  rw [← length_toList, toList_push_of_room sample room, List.length_append, length_toList]
  rfl

theorem count_push_of_full {ring : Ring α} (sample : α) (full : ring.count = ring.capacity) :
    (ring.push sample).count = ring.capacity := by
  have := ring.capacity_pos
  rw [← length_toList, toList_push_of_full sample full, List.length_append, List.length_tail,
    length_toList, List.length_singleton]
  omega

/-- The latest sample is the last one of the view. -/
theorem newest?_eq_getLast? (ring : Ring α) : ring.newest? = ring.toList.getLast? := by
  have start_lt := ring.start_lt
  have size_le := ring.size_le
  have of_room := ring.start_of_room
  unfold newest? toList
  by_cases at_front : ring.start = 0
  · cases size : ring.buffer.size with
    | zero => simp [at_front, Array.eq_empty_of_size_eq_zero size]
    | succ n =>
      have place : (0 + (n + 1) - 1) % (n + 1) = n := by
        rw [Nat.zero_add, Nat.add_sub_cancel, Nat.mod_eq_of_lt (Nat.lt_succ_self n)]
      rw [at_front, place, List.drop_zero, List.take_zero, List.append_nil,
        List.getLast?_eq_getElem?, Array.length_toList, size, Nat.add_sub_cancel,
        Array.getElem?_toList]
  · have full : ring.buffer.size = ring.capacity := by
      by_cases room : ring.buffer.size < ring.capacity
      · exact absurd (of_room room) at_front
      · omega
    have place : (ring.start + ring.buffer.size - 1) % ring.buffer.size = ring.start - 1 := by
      rw [show ring.start + ring.buffer.size - 1 = ring.start - 1 + ring.buffer.size by omega,
        Nat.add_mod_right, Nat.mod_eq_of_lt (by omega)]
    have dropped : (ring.buffer.toList.drop ring.start).length =
        ring.buffer.size - ring.start := by simp
    have last_index : ring.buffer.size - 1 - (ring.buffer.size - ring.start) = ring.start - 1 := by
      omega
    rw [place, List.getLast?_eq_getElem?, List.length_append, List.length_drop, List.length_take,
      Array.length_toList, Nat.min_eq_left (by omega), Nat.sub_add_cancel (by omega),
      List.getElem?_append_right (by omega), dropped, last_index,
      List.getElem?_take_of_lt (by omega), Array.getElem?_toList]

end Ring

end TrafficMeter
