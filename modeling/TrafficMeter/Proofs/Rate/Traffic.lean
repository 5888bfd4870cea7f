import TrafficMeter.Proofs.Rate.Wraparound

/-! # Traffic behind the readings

A counter shows the bytes it has counted modulo its width. As long as it counts less than one
round between two readings, each growth found is what was counted meanwhile, so that the
growths of a run add up to its traffic, however often the counter started again at zero. A
growth is unknown exactly where a single wrap cannot explain the fall.
-/

namespace TrafficMeter.Width

variable {width : Width} {previous current : UInt64}

/-- What a counter shows once it has counted `total` bytes. -/
def reading (width : Width) (total : Nat) : UInt64 := .ofNat (total % width.modulus)

/-- The growths between successive readings, if all of them are known. -/
def growths? (width : Width) : List UInt64 → Option (List UInt64)
  | previous :: current :: later => do
      let growth ← width.growth? previous current
      let growths ← width.growths? (current :: later)
      return growth :: growths
  | _ => some []

/-- What a counter shows at the start of a run that counts `traffic`, and after each part of it. -/
def readings (width : Width) (start : Nat) (traffic : List Nat) : List UInt64 :=
  (traffic.scanl (· + ·) start).map width.reading

theorem toNat_reading (width : Width) (total : Nat) :
    (width.reading total).toNat = total % width.modulus :=
  width.toNat_ofNat_mod total

theorem reading_lt (width : Width) (total : Nat) :
    (width.reading total).toNat < width.modulus := by
  rw [toNat_reading]
  exact Nat.mod_lt _ width.modulus_pos

theorem growth?_eq_none_iff :
    width.growth? previous current = none ↔
      current.toNat + width.modulus < previous.toNat := by
  unfold growth?
  by_cases rose : previous ≤ current
  · have rose_nat := UInt64.le_iff_toNat_le.mp rose
    rw [if_pos rose]
    simp only [reduceCtorEq, false_iff]
    omega
  · rw [if_neg rose]
    split <;> simp only [reduceCtorEq, false_iff, true_iff] <;> omega

/-- No fall is too deep for a wrap of 64 bits. -/
theorem growth?_eq_none_iff_deep :
    width.growth? previous current = none ↔
      width = .bits32 ∧ current.toNat + 4294967296 < previous.toNat := by
  have most := previous.toNat_lt
  rw [growth?_eq_none_iff]
  cases width <;> simp [modulus]
  omega

theorem toNat_ofNat_of_short {bytes : Nat} (short : bytes < width.modulus) :
    (UInt64.ofNat bytes).toNat = bytes :=
  UInt64.toNat_ofNat_of_lt (Nat.lt_of_lt_of_le short width.modulus_le)

theorem growth?_reading (total : Nat) {bytes : Nat} (short : bytes < width.modulus) :
    width.growth? (width.reading total) (width.reading (total + bytes)) =
      some (.ofNat bytes) := by
  apply growth?_of_grown (width.reading_lt total)
  · rwa [toNat_ofNat_of_short short]
  · rw [toNat_ofNat_of_short short, toNat_reading, toNat_reading, Nat.mod_add_mod]

/-- Every part of the traffic is found again. -/
theorem growths?_readings (start : Nat) {traffic : List Nat}
    (short : ∀ bytes ∈ traffic, bytes < width.modulus) :
    width.growths? (width.readings start traffic) = some (traffic.map UInt64.ofNat) := by
  induction traffic generalizing start with
  | nil => rfl
  | cons bytes traffic ih =>
      have found := growth?_reading start (short bytes (by simp))
      have rest := ih (start + bytes) fun more inside => short more (by simp [inside])
      -- the readings of the rest begin where the first part of the traffic ends
      cases traffic with
      | nil => simp [readings, growths?, found]
      | cons next later =>
          simp only [readings, List.scanl_cons, List.map_cons] at rest ⊢
          simp [growths?, found, rest]

theorem map_toNat_map_ofNat {traffic : List Nat}
    (short : ∀ bytes ∈ traffic, bytes < width.modulus) :
    (traffic.map UInt64.ofNat).map UInt64.toNat = traffic := by
  calc (traffic.map UInt64.ofNat).map UInt64.toNat
      = traffic.map (UInt64.toNat ∘ UInt64.ofNat) := List.map_map
    _ = traffic.map id :=
        List.map_congr_left fun bytes inside => toNat_ofNat_of_short (short bytes inside)
    _ = traffic := List.map_id traffic

/-- A counter loses no traffic: a growth below its width is found from the two readings around
it, and those of a run add up to all that was counted, however often the counter wrapped. Only
a counter of 32 bits that fell by more than a wrap leaves a growth unknown. -/
theorem growths_recover_traffic (width : Width) :
    (∀ previous bytes : Nat, previous < width.modulus → bytes < width.modulus →
      width.growth? (.ofNat previous) (.ofNat ((previous + bytes) % width.modulus)) =
        some (.ofNat bytes)) ∧
    (∀ (start : Nat) (traffic : List Nat), (∀ bytes ∈ traffic, bytes < width.modulus) →
      ∃ growths, width.growths? (width.readings start traffic) = some growths ∧
        (growths.map UInt64.toNat).sum = traffic.sum) ∧
    ∀ previous current : UInt64, width.growth? previous current = none ↔
      width = .bits32 ∧ current.toNat + 4294967296 < previous.toNat := by
  refine ⟨?_, ?_, fun previous current => growth?_eq_none_iff_deep⟩
  · intro previous bytes before short
    have found := growth?_reading previous short
    rwa [reading, Nat.mod_eq_of_lt before] at found
  · intro start traffic short
    refine ⟨_, growths?_readings start short, ?_⟩
    rw [map_toNat_map_ofNat short]

/-- A counter of 32 bits that wraps once, and one that wraps three times in as many readings. -/
theorem growths_recover_traffic_wrapping :
    let traffic := [4294967295, 4294967295, 151]
    4294967295 < Width.bits32.modulus ∧ Width.bits32.growth? 4294967295 150 = some 151 ∧
      (∀ bytes ∈ traffic, bytes < Width.bits32.modulus) ∧
      Width.bits32.readings 8589934490 traffic =
        [4294967194, 4294967193, 4294967192, 47] ∧
      ∃ growths, Width.bits32.growths? [4294967194, 4294967193, 4294967192, 47] =
        some growths ∧ (growths.map UInt64.toNat).sum = 8589934741 := by
  intro traffic
  have most : 4294967295 < Width.bits32.modulus := by decide
  have short : ∀ bytes ∈ traffic, bytes < Width.bits32.modulus := by decide
  have shown : Width.bits32.readings 8589934490 traffic =
      [4294967194, 4294967193, 4294967192, 47] := by decide
  obtain ⟨once, run, _⟩ := growths_recover_traffic .bits32
  have grown := once 4294967295 151 most (short 151 (by simp [traffic]))
  have found := run 8589934490 traffic short
  rw [shown] at found
  exact ⟨most, grown, short, shown, found⟩

end TrafficMeter.Width
