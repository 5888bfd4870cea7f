import TrafficMeter.Proofs.Number.Order

/-! # Zeros, ones, and numbers that are not negative

A zero of either sign stays a zero through differences, products, quotients and roots, and
changes no other number that it is added to. A product with one, or with its negative, is
exact. Nothing exceeds an infinite multiple of a number that is not negative.
-/

namespace TrafficMeter.Binary64

open Float.Model (UnpackedFloat Format pack)
open Float.Model.UnpackedFloat hiding pack

variable {x y : Float} {q : ℚ}

/-- A zero of either sign. -/
def IsZero (x : Float) : Prop := ∃ s, parts x = .zero s

theorem isZero_zero : IsZero 0.0 := ⟨.positive, rfl⟩

theorem isZero_negZero : IsZero (-0.0) := ⟨.negative, rfl⟩

theorem IsZero.eq (zero : IsZero x) : x = 0.0 ∨ x = -0.0 := by
  obtain ⟨s, zero⟩ := zero
  cases s with
  | positive => exact Or.inl (parts_inj.mp zero)
  | negative => exact Or.inr (parts_inj.mp zero)

theorem isFinite_iff : x.isFinite = true ↔ (parts x).isFinite = true := Iff.rfl

section Arithmetic

theorem IsZero.add (left : IsZero x) (right : IsZero y) : IsZero (x + y) := by
  obtain ⟨s, left⟩ := left
  obtain ⟨s', right⟩ := right
  unfold IsZero
  rw [parts_add, left, right]
  cases s <;> cases s' <;> exact ⟨_, rfl⟩

theorem IsZero.sub (left : IsZero x) (right : IsZero y) : IsZero (x - y) := by
  obtain ⟨s, left⟩ := left
  obtain ⟨s', right⟩ := right
  unfold IsZero
  rw [parts_sub, left, right]
  cases s <;> cases s' <;> exact ⟨_, rfl⟩

theorem IsZero.abs (zero : IsZero x) : IsZero x.abs := by
  obtain ⟨s, zero⟩ := zero
  unfold IsZero
  rw [parts_abs, zero]
  exact ⟨.positive, unpack_pack_zero .positive⟩

theorem IsZero.sqrt (zero : IsZero x) : IsZero x.sqrt := by
  obtain ⟨s, zero⟩ := zero
  unfold IsZero
  rw [parts_sqrt, zero]
  exact ⟨s, unpack_pack_zero s⟩

theorem IsZero.mul_finite (zero : IsZero x) (finite : y.isFinite = true) : IsZero (x * y) := by
  obtain ⟨s, zero⟩ := zero
  rw [isFinite_iff] at finite
  unfold IsZero
  rw [parts_mul, zero]
  generalize parts y = v at *
  match v with
  | .zero s' => exact ⟨s * s', unpack_pack_zero (s * s')⟩
  | .finite s' _ _ _ => exact ⟨s * s', unpack_pack_zero (s * s')⟩

theorem IsZero.finite_mul (zero : IsZero y) (finite : x.isFinite = true) : IsZero (x * y) := by
  obtain ⟨s, zero⟩ := zero
  rw [isFinite_iff] at finite
  unfold IsZero
  rw [parts_mul, zero]
  generalize parts x = u at *
  match u with
  | .zero s' => exact ⟨s' * s, unpack_pack_zero (s' * s)⟩
  | .finite s' _ _ _ => exact ⟨s' * s, unpack_pack_zero (s' * s)⟩

theorem isNaN_iff_parts : x.isNaN = true ↔ parts x = .notANumber := isNaN_iff

theorem isNaN_mul (nan : y.isNaN = true) : (x * y).isNaN = true := by
  rw [isNaN_iff_parts] at *
  rw [parts_mul, nan]
  cases parts x <;> exact unpack_pack_notANumber

theorem isNaN_add (nan : y.isNaN = true) : (x + y).isNaN = true := by
  rw [isNaN_iff_parts] at *
  rw [parts_add, nan]
  cases parts x <;> exact unpack_pack_notANumber

/-- A product with a zero is a zero, or no number if the other factor is infinite. -/
theorem isZero_or_isNaN_mul (right : IsZero y ∨ y.isNaN = true) :
    IsZero (x * y) ∨ (x * y).isNaN = true := by
  rcases right with ⟨s, zero⟩ | nan
  · unfold IsZero
    rw [isNaN_iff_parts, parts_mul, zero]
    generalize parts x = u
    match u with
    | .notANumber => exact Or.inr unpack_pack_notANumber
    | .infinity _ => exact Or.inr unpack_pack_notANumber
    | .zero s' => exact Or.inl ⟨s' * s, unpack_pack_zero (s' * s)⟩
    | .finite s' _ _ _ => exact Or.inl ⟨s' * s, unpack_pack_zero (s' * s)⟩
  · exact Or.inr (isNaN_mul nan)

theorem IsZero.isFinite (zero : IsZero x) : x.isFinite = true := by
  obtain ⟨s, zero⟩ := zero
  rw [isFinite_iff, zero]
  rfl

/-- A zero over a number that reaches a positive bound. -/
theorem IsZero.div (zero : IsZero x) (q_pos : 0 < q) (reached : Reaches q (parts y)) :
    IsZero (x / y) := by
  obtain ⟨s, zero⟩ := zero
  unfold IsZero
  rw [parts_div, zero]
  generalize parts y = v at *
  cases reached with
  | zero q_le => exact absurd q_pos (not_lt_of_ge q_le)
  | infinite =>
      simp only [UnpackedFloat.div]
      exact ⟨_, unpack_pack_zero _⟩
  | finite _ =>
      simp only [UnpackedFloat.div]
      exact ⟨_, unpack_pack_zero _⟩

/-- A whole number of a word is at least one. -/
theorem reaches_ofNat {n : ℕ} (n_pos : 0 < n) (word : n < 2 ^ 64) :
    Reaches 1 (parts (ofNat n)) := by
  have kept : (UInt64.ofNat n).toNat = n := by
    rw [UInt64.toNat_ofNat', Nat.mod_eq_of_lt word]
  change Reaches 1 (pack (UnpackedFloat.normalize .binary64 ((UInt64.ofNat n).toNat : ℤ) 0
    .positive)).unpack
  rw [kept]
  apply reaches_normalize
  · exact_mod_cast n_pos
  · exact ⟨1, 0, by norm_num, by norm_num, by norm_num⟩
  · simpa using (show (1 : ℚ) ≤ n by exact_mod_cast n_pos)

theorem one_mul_of_finite (finite : x.isFinite = true) : 1.0 * x = x := by
  have canonical := canonical_parts x
  have one : parts 1.0 = .finite .positive (2 ^ 52) (-52) (by norm_num) := rfl
  rw [isFinite_iff] at finite
  rw [← parts_inj, parts_mul, one]
  generalize parts x = u at *
  match u with
  | .zero s => cases s <;> rfl
  | .finite s m e positive =>
      have sign : Sign.positive * s = s := by cases s <;> rfl
      have exponent : -52 + e = e - (52 : ℕ) := by
        push_cast
        ring
      simp only [UnpackedFloat.mul, sign]
      rw [Nat.mul_comm, exponent, roundWithAccuracy_exact canonical, unpack_pack canonical]

theorem parts_mul_negOne {m : ℕ} {e : ℤ} {positive : 0 < m}
    (given : parts x = .finite .positive m e positive) :
    parts (x * -1.0) = .finite .negative m e positive := by
  have canonical : Canonical (.finite .negative m e positive) := by
    have canonical := canonical_parts x
    rwa [given] at canonical
  have one : parts (-1.0) = .finite .negative (2 ^ 52) (-52) (by norm_num) := rfl
  have sign : Sign.positive * Sign.negative = Sign.negative := rfl
  have exponent : e + -52 = e - (52 : ℕ) := by
    push_cast
    ring
  rw [parts_mul, given, one]
  simp only [UnpackedFloat.mul, sign]
  rw [exponent, roundWithAccuracy_exact canonical, unpack_pack canonical]

/-- A zero changes no other finite number. -/
theorem add_isZero (finite : x.isFinite = true) (nonzero : ¬IsZero x) (zero : IsZero y) :
    x + y = x := by
  obtain ⟨s, zero⟩ := zero
  have kept := pack_parts x
  unfold IsZero at nonzero
  rw [isFinite_iff] at finite
  rw [← parts_inj, parts_add, zero]
  generalize parts x = u at *
  match u with
  | .zero s' => exact absurd ⟨s', rfl⟩ nonzero
  | .finite _ _ _ _ => exact kept

end Arithmetic

section Signs

/-- A finite number that is not negative is a zero or positive. -/
theorem isZero_or_positive (finite : x.isFinite = true) (nonneg : 0 ≤ x) :
    IsZero x ∨ ∃ (m : ℕ) (e : ℤ) (positive : 0 < m), parts x = .finite .positive m e positive := by
  have zero : parts 0 = .zero .positive := rfl
  rw [le_iff, zero] at nonneg
  rw [isFinite_iff] at finite
  unfold IsZero
  generalize parts x = u at *
  match u with
  | .zero s => exact Or.inl ⟨s, rfl⟩
  | .finite .positive m e positive => exact Or.inr ⟨m, e, positive, rfl⟩
  | .finite .negative _ _ _ => cases nonneg

theorem isFinite_of_le_one (nonneg : 0 ≤ x) (le : x ≤ 1) : x.isFinite = true := by
  have zero : parts 0 = .zero .positive := rfl
  have one : parts 1 = .finite .positive (2 ^ 52) (-52) (by norm_num) := rfl
  rw [le_iff, zero] at nonneg
  rw [le_iff, one] at le
  rw [isFinite_iff]
  generalize parts x = u at *
  match u with
  | .notANumber => cases nonneg
  | .infinity .positive => cases le
  | .infinity .negative => cases nonneg
  | .zero _ => rfl
  | .finite _ _ _ _ => rfl

/-- A finite number above one that is not negative is positive. -/
theorem positive_of_lt (nonneg : 0 ≤ x) (less : x < y) (finite_x : x.isFinite = true)
    (finite_y : y.isFinite = true) :
    ∃ (m : ℕ) (e : ℤ) (positive : 0 < m), parts y = .finite .positive m e positive := by
  have lower := isZero_or_positive finite_x nonneg
  rw [isFinite_iff] at finite_y
  rw [lt_iff] at less
  unfold IsZero at lower
  generalize parts x = u at *
  generalize parts y = v at *
  cases v with
  | notANumber => cases finite_y
  | infinity => cases finite_y
  | zero => rcases lower with ⟨s, rfl⟩ | ⟨_, _, _, rfl⟩ <;> simp [UnpackedFloat.compare] at less
  | finite s m e positive =>
      cases s with
      | positive => exact ⟨m, e, positive, rfl⟩
      | negative =>
          rcases lower with ⟨s, rfl⟩ | ⟨_, _, _, rfl⟩ <;> simp [UnpackedFloat.compare] at less

theorem IsZero.lt_of_reaches (zero : IsZero x) (q_pos : 0 < q) (reached : Reaches q (parts y)) :
    x < y := by
  obtain ⟨s, zero⟩ := zero
  rw [lt_iff, zero]
  generalize parts y = v at *
  cases reached with
  | zero q_le => exact absurd q_pos (not_lt_of_ge q_le)
  | infinite => rfl
  | finite _ => rfl

/-- What a bound from below reaches. -/
theorem reaches_of_le {m : ℕ} {e : ℤ} {positive : 0 < m}
    (bound : parts x = .finite .positive m e positive) (le : x ≤ y) :
    Reaches (m * 2 ^ e) (parts y) := by
  have canonical_x := canonical_parts x
  have canonical_y := canonical_parts y
  rw [le_iff, bound] at le
  rw [bound] at canonical_x
  generalize parts y = v at *
  match v with
  | .notANumber => cases le
  | .infinity .positive => exact .infinite
  | .infinity .negative => cases le
  | .zero _ => cases le
  | .finite .negative _ _ _ => cases le
  | .finite .positive m' e' positive' =>
      apply Reaches.finite
      rcases less : UnpackedFloat.compare (.finite .positive m e positive)
        (.finite .positive m' e' positive') with _ | _ | _ | _
      · simp [UnpackedFloat.le, less] at le
      · have := value_add_gap_le canonical_x canonical_y less
        have := gap_pos e'
        linarith
      · simp only [UnpackedFloat.compare, Option.some.injEq, Ordering.then_eq_eq,
          Int.compare_eq_eq, Nat.compare_eq_eq] at less
        rw [less.1, less.2]
      · simp [UnpackedFloat.le, less] at le

theorem finite_of_reaches (q_pos : 0 < q) (reached : Reaches q (parts x))
    (finite : x.isFinite = true) :
    ∃ (m : ℕ) (e : ℤ) (positive : 0 < m), parts x = .finite .positive m e positive := by
  rw [isFinite_iff] at finite
  generalize parts x = u at *
  cases reached with
  | zero q_le => exact absurd q_pos (not_lt_of_ge q_le)
  | infinite => cases finite
  | finite _ => exact ⟨_, _, _, rfl⟩

theorem not_lt_of_isNaN (nan : x.isNaN = true) : ¬x < y := by
  rw [lt_iff, isNaN_iff_parts.mp nan]
  simp [UnpackedFloat.compare]

/-- Neither a zero nor what is no number is below a zero. -/
theorem not_lt_isZero (left : IsZero x ∨ x.isNaN = true) (right : IsZero y) : ¬x < y := by
  obtain ⟨s', right⟩ := right
  rcases left with ⟨s, left⟩ | nan
  · rw [lt_iff, left, right]
    simp [UnpackedFloat.compare]
  · exact not_lt_of_isNaN nan

/-- A number is positive or at most zero. -/
theorem pos_iff : 0 < x ↔ x.isNaN = false ∧ ¬x ≤ 0 := by
  have zero : parts 0 = .zero .positive := rfl
  rw [← Bool.not_eq_true, isNaN_iff_parts, lt_iff, le_iff, zero]
  match parts x with
  | .notANumber => simp [UnpackedFloat.compare]
  | .zero _ => simp [UnpackedFloat.compare, UnpackedFloat.le]
  | .infinity .positive | .infinity .negative => simp [UnpackedFloat.compare, UnpackedFloat.le]
  | .finite .positive _ _ _ | .finite .negative _ _ _ =>
      simp [UnpackedFloat.compare, UnpackedFloat.le]

theorem isZero_of_le (le : x ≤ 0) (not_less : ¬x < 0) : IsZero x := by
  have zero : parts 0 = .zero .positive := rfl
  rw [le_iff, zero] at le
  rw [lt_iff, zero] at not_less
  unfold IsZero
  generalize parts x = u at *
  match u with
  | .notANumber => cases le
  | .zero s => exact ⟨s, rfl⟩
  | .infinity .positive | .finite .positive _ _ _ => cases le
  | .infinity .negative | .finite .negative _ _ _ => exact absurd rfl not_less

end Signs

section Infinities

theorem isNaN_or_reaches_sqrt (x : Float) : x.sqrt.isNaN = true ∨ Reaches 0 (parts x.sqrt) := by
  rw [isNaN_iff_parts, parts_sqrt]
  generalize parts x = u
  match u with
  | .notANumber => exact Or.inl unpack_pack_notANumber
  | .infinity .positive => exact Or.inr reaches_infinity
  | .infinity .negative => exact Or.inl unpack_pack_notANumber
  | .zero s =>
      simp only [UnpackedFloat.sqrt, unpack_pack_zero]
      exact Or.inr (.zero (le_refl 0))
  | .finite .negative _ _ _ => exact Or.inl unpack_pack_notANumber
  | .finite .positive m e positive =>
      right
      simp only [UnpackedFloat.sqrt, sqrtCore_eq]
      apply reaches_roundWithAccuracy _ (fine_root positive e)
      · exact ⟨0, 0, by norm_num, by norm_num, by norm_num⟩
      · positivity

theorem not_infinity_lt (infinite : parts x = .infinity .positive) : ¬x < y := by
  rw [lt_iff, infinite]
  match parts y with
  | .notANumber => simp [UnpackedFloat.compare]
  | .infinity .positive => decide
  | .infinity .negative => decide
  | .zero _ => simp [UnpackedFloat.compare]
  | .finite _ _ _ _ => simp [UnpackedFloat.compare]

theorem isNaN_or_infinity_mul (infinite : parts x = .infinity .positive)
    (nonneg : Reaches 0 (parts y)) :
    (x * y).isNaN = true ∨ parts (x * y) = .infinity .positive := by
  rw [isNaN_iff_parts, parts_mul, infinite]
  generalize parts y = v at *
  cases nonneg with
  | zero => exact Or.inl unpack_pack_notANumber
  | infinite => exact Or.inr (unpack_pack (show Canonical (.infinity .positive) from trivial))
  | finite => exact Or.inr (unpack_pack (show Canonical (.infinity .positive) from trivial))

theorem infinity_of_isInf (infinite : x.isInf = true) (positive : ¬x ≤ 0) :
    parts x = .infinity .positive := by
  have zero : parts 0 = .zero .positive := rfl
  change (parts x).isInf = true at infinite
  rw [le_iff, zero] at positive
  generalize parts x = u at *
  match u with
  | .infinity .positive => rfl
  | .infinity .negative => exact absurd rfl positive

theorem isFinite_of_not_isInf (number : x.isNaN = false) (bounded : ¬x.isInf = true) :
    x.isFinite = true := by
  change ¬(parts x).isInf = true at bounded
  rw [← Bool.not_eq_true, isNaN_iff_parts] at number
  rw [isFinite_iff]
  generalize parts x = u at *
  match u with
  | .notANumber => exact absurd rfl number
  | .infinity _ => exact absurd rfl bounded
  | .zero _ => rfl
  | .finite _ _ _ _ => rfl

end Infinities

section Weights

/-- Only the whole weight leaves minus one as it is, blended with a zero. -/
theorem weight_eq_one (nonneg : 0 ≤ x) (le : x ≤ 1) (zero : IsZero y)
    (kept : x * -1.0 + (1.0 - x) * y = -1.0) : x = 1.0 := by
  have minus : parts (-1.0) = .finite .negative (2 ^ 52) (-52) (by norm_num) := rfl
  have one : parts 1.0 = .finite .positive (2 ^ 52) (-52) (by norm_num) := rfl
  rcases isZero_or_isNaN_mul (x := 1.0 - x) (Or.inl zero) with nothing | nan
  · rcases isZero_or_positive (isFinite_of_le_one nonneg le) nonneg with
      weightless | ⟨m, e, positive, held⟩
    · -- without weight the blend would be a zero
      have sum_zero : IsZero (-1.0) := by
        rw [← kept]
        exact (weightless.mul_finite rfl).add nothing
      obtain ⟨s, vanished⟩ := sum_zero
      cases minus.symm.trans vanished
    · have weighted := parts_mul_negOne held
      have nonzero : ¬IsZero (x * -1.0) := by
        rintro ⟨s, vanished⟩
        cases weighted.symm.trans vanished
      have finite : (x * -1.0).isFinite = true := by
        rw [isFinite_iff, weighted]
        rfl
      rw [add_isZero finite nonzero nothing] at kept
      rw [kept, minus] at weighted
      rw [← parts_inj, held, one]
      cases weighted
      rfl
  · have number := isNaN_add (x := x * -1.0) nan
    rw [kept] at number
    cases number

end Weights

end TrafficMeter.Binary64
