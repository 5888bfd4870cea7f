import TrafficMeter.Number.Fixed
import TrafficMeter.Proofs.Number.Exact
import TrafficMeter.Proofs.Number.Nearest

/-! # Texts with fixed places

A positive number is shown as the count of units of the last place that is nearest to its value,
without a sign; the digits of that count stand around the point. Numbers that are not negative are
compared by their values, and a value that passes a representable bound passes it after a division
as well.
-/

namespace TrafficMeter.Binary64

open Float.Model (UnpackedFloat Format pack)
open Float.Model.UnpackedFloat hiding pack

section Values

variable {x y : Float} {u : UnpackedFloat} {p q r s : ℚ}

theorem Holds.reaches (holds : Holds u p) (le : q ≤ p) : Reaches q u := by
  cases holds with
  | zero => exact .zero le
  | finite => exact .finite le

theorem Holds.le_of_reaches (holds : Holds u p) (reached : Reaches q u) : q ≤ p := by
  cases holds with
  | zero =>
      cases reached with
      | zero le => exact le
  | finite =>
      cases reached with
      | finite le => exact le

theorem Holds.le_iff (left : Holds (parts x) p) (right : Holds (parts y) q) : x ≤ y ↔ p ≤ q := by
  have canonical_x := canonical_parts x
  have canonical_y := canonical_parts y
  rw [Binary64.le_iff]
  generalize parts x = u at *
  generalize parts y = v at *
  cases left with
  | zero =>
      cases right with
      | zero => exact iff_of_true rfl (le_refl 0)
      | finite => exact iff_of_true rfl (by positivity)
  | @finite m e positive =>
      have value_pos : (0 : ℚ) < m * 2 ^ e := by positivity
      cases right with
      | zero => exact iff_of_false Bool.false_ne_true (not_le_of_gt value_pos)
      | @finite m' e' positive' =>
          rcases less : UnpackedFloat.compare (.finite .positive m e positive)
            (.finite .positive m' e' positive') with _ | _ | _ | _
          · simp [UnpackedFloat.compare] at less
          · have apart := value_add_gap_le canonical_x canonical_y less
            have := gap_pos e'
            exact iff_of_true (by simp [UnpackedFloat.le, less]) (by linarith)
          · simp only [UnpackedFloat.compare, Option.some.injEq, Ordering.then_eq_eq,
              Int.compare_eq_eq, Nat.compare_eq_eq] at less
            obtain ⟨rfl, rfl⟩ := less
            exact iff_of_true (by simp [UnpackedFloat.le, UnpackedFloat.compare]) (le_refl _)
          · have turned : UnpackedFloat.compare (.finite .positive m' e' positive')
                (.finite .positive m e positive) = some .lt := by
              simp only [UnpackedFloat.compare, Option.some.injEq, Ordering.then_eq_gt,
                Ordering.then_eq_lt, Int.compare_eq_gt, Int.compare_eq_lt, Int.compare_eq_eq,
                Nat.compare_eq_gt, Nat.compare_eq_lt] at less ⊢
              omega
            have apart := value_add_gap_le canonical_y canonical_x turned
            have := gap_pos e
            exact iff_of_false (by simp [UnpackedFloat.le, less]) (by linarith)

/-- A word passes what is representable below it. -/
theorem Holds.le_toFloat {n : UInt64} (holds : Holds (parts n.toFloat) p) (n_pos : 0 < n.toNat)
    (representable : Representable q) (le : q ≤ n.toNat) : q ≤ p := by
  apply holds.le_of_reaches
  change Reaches q (pack (UnpackedFloat.normalize .binary64 (n.toNat : ℤ) 0 .positive)).unpack
  apply reaches_normalize .positive (by exact_mod_cast n_pos) representable
  simpa using le

/-- A quotient passes what is representable below it. -/
theorem Holds.le_div (left : Holds (parts x) p) (right : Holds (parts y) q)
    (quotient : Holds (parts (x / y)) r) (p_pos : 0 < p) (q_pos : 0 < q)
    (representable : Representable s) (le : s * q ≤ p) : s ≤ r := by
  apply quotient.le_of_reaches
  generalize divisor : parts y = v at right
  cases right with
  | zero => exact absurd q_pos (lt_irrefl 0)
  | finite => exact reaches_div (left.reaches (le_refl p)) divisor p_pos representable le

end Values

section Texts

variable {x : Float} {p : ℚ} {places n : ℕ}

theorem magnitude_times (holds : Holds (parts x) p) (p_pos : 0 < p) (factor : ℕ) :
    0 < ((magnitude x).times factor).2 ∧
      (((magnitude x).times factor).1 : ℚ) / ((magnitude x).times factor).2 = p * factor := by
  generalize given : parts x = u at holds
  cases holds with
  | zero => exact absurd p_pos (lt_irrefl 0)
  | @finite m e positive =>
      rw [magnitude_of_finite given]
      exact times_value m e factor

/-- The units of the last place are the nearest whole number of them. -/
theorem toPlaces_near (holds : Holds (parts x) p) (p_pos : 0 < p) (places : ℕ) :
    |((magnitude x).toPlaces places : ℚ) - p * 10 ^ places| ≤ 1 / 2 := by
  obtain ⟨den_pos, value⟩ := magnitude_times holds p_pos (Nat.pow 10 places)
  obtain ⟨lower, upper⟩ := @roundQuotient_near ((magnitude x).times (Nat.pow 10 places)).1 _ den_pos
  have unit : ((Nat.pow 10 places : ℕ) : ℚ) = 10 ^ places := by
    rw [Nat.pow_eq, Nat.cast_pow, Nat.cast_ofNat]
  rw [value, unit] at lower upper
  rw [abs_le, Magnitude.toPlaces]
  constructor <;> linarith

theorem isNegative_of_positive {m : ℕ} {e : ℤ} {positive : 0 < m}
    (given : parts x = .finite .positive m e positive) : isNegative x = false := by
  have bits_eq : x.toBits.toNat = x.toModel.toBits.toBitVec.toNat := by
    rw [Float.toBits]
    rfl
  unfold parts Float.Model.unpack at given
  simp only [isNegative, bits_eq]
  generalize x.toModel.toBits.toBitVec = bits at given
  have word := bits.isLt
  have sign : (@unpackSign .binary64 bits).toNat = bits.toNat / signUnit % 2 := by
    rw [unpackSign_def, BitVec.extractLsb'_toNat, Nat.shiftRight_eq_div_pow]
    rfl
  have plus : Sign.ofBitVec (@unpackSign .binary64 bits) = .positive := by
    unfold unpack at given
    dsimp only at given
    split at given
    · split at given <;> cases given
    · split at given
      · split at given
        · cases given
        · injection given
      · injection given
  have zero : (@unpackSign .binary64 bits).toNat = 0 := by
    unfold Sign.ofBitVec at plus
    split at plus
    · rename_i unset
      rw [unset]
      rfl
    · cases plus
  rw [zero] at sign
  have bound : bits.toNat < 2 * signUnit := word
  have below : ¬signUnit ≤ bits.toNat := by
    have positive : 0 < signUnit := by decide
    intro above
    have one : bits.toNat / signUnit = 1 := Nat.div_eq_of_lt_le (by omega) (by omega)
    omega
  exact decide_eq_false below

/-- A positive number is shown without a sign. -/
theorem fixed_of_holds (holds : Holds (parts x) p) (p_pos : 0 < p) (places : ℕ) :
    fixed places x = placeText places ((magnitude x).toPlaces places) := by
  generalize given : parts x = u at holds
  cases holds with
  | zero => exact absurd p_pos (lt_irrefl 0)
  | finite =>
      have number : x.isNaN = false := by
        rw [← Bool.not_eq_true, isNaN_iff_parts, given]
        exact UnpackedFloat.noConfusion
      have bounded : x.isInf = false := by
        change (parts x).isInf = false
        rw [given]
        rfl
      have unsigned := isNegative_of_positive given
      simp only [fixed, number, bounded, unsigned, Bool.false_eq_true, if_false, List.nil_append]

/-- With one place the point stands before the last digit. -/
theorem placeText_one {n : ℕ} (whole : 10 ≤ n) :
    placeText 1 n = Decimal.digits (n / 10) ++ '.' :: Decimal.digits (n % 10) := by
  have last : Decimal.digits (n % 10) = [(n % 10).digitChar] :=
    Nat.toDigits_of_lt_base (Nat.mod_lt n (by decide))
  have shown : Decimal.digits n = Decimal.digits (n / 10) ++ [(n % 10).digitChar] :=
    Nat.toDigits_of_base_le (by decide) whole
  have some_digit : 0 < (Decimal.digits (n / 10)).length :=
    List.length_pos_iff.mpr Nat.toDigits_ne_nil
  have no_zeros : Decimal.padded 2 n = Decimal.digits n := by
    have none : 2 - (Decimal.digits n).length = 0 := by
      rw [shown, List.length_append, List.length_singleton]
      omega
    rw [Decimal.padded, none]
    rfl
  simp only [placeText, no_zeros, shown, last]
  simp

end Texts

end TrafficMeter.Binary64
