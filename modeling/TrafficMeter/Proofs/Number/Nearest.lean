import TrafficMeter.Proofs.Number.Order

/-! # Rounding to the nearest number

Rounding goes to a nearest number: the two bits that it keeps of what it drops are enough to tell
which one that is. So a value of 53 bits stays as it is, and any other one of ordinary size is
multiplied or divided by at most 1 + 2^-53. Such factors multiply along a computation.
-/

namespace TrafficMeter.Binary64

open Float.Model (UnpackedFloat Format pack)
open Float.Model.UnpackedFloat hiding pack

section Factors

variable {j k : ℕ} {p q r p' q' : ℚ}

/-- The largest factor by which one rounding moves a value. -/
def slack : ℚ := 1 + 1 / 2 ^ 53

/-- Two values apart by at most as many roundings. -/
def Within (k : ℕ) (p q : ℚ) : Prop := p ≤ q * slack ^ k ∧ q ≤ p * slack ^ k

theorem one_le_slack_pow (k : ℕ) : 1 ≤ slack ^ k := one_le_pow₀ (by norm_num [slack])

theorem slack_pow_pos (k : ℕ) : 0 < slack ^ k := zero_lt_one.trans_le (one_le_slack_pow k)

theorem within_self (k : ℕ) (nonneg : 0 ≤ p) : Within k p p :=
  ⟨le_mul_of_one_le_right nonneg (one_le_slack_pow k),
    le_mul_of_one_le_right nonneg (one_le_slack_pow k)⟩

theorem le_slack_trans (left : p ≤ q * slack ^ j) (right : q ≤ r * slack ^ k) :
    p ≤ r * slack ^ (j + k) := by
  calc p ≤ q * slack ^ j := left
    _ ≤ r * slack ^ k * slack ^ j := mul_le_mul_of_nonneg_right right (slack_pow_pos j).le
    _ = r * slack ^ (j + k) := by ring

theorem Within.trans (left : Within j p q) (right : Within k q r) : Within (j + k) p r := by
  have back := le_slack_trans right.2 left.2
  rw [Nat.add_comm] at back
  exact ⟨le_slack_trans left.1 right.1, back⟩

theorem Within.pos (within : Within k p q) (q_pos : 0 < q) : 0 < p := by
  by_contra none
  have nothing := mul_nonpos_of_nonpos_of_nonneg (not_lt.mp none) (slack_pow_pos k).le
  exact absurd q_pos (not_lt_of_ge (within.2.trans nothing))

theorem Within.add (left : Within k p q) (right : Within k p' q') :
    Within k (p + p') (q + q') := by
  constructor
  · rw [add_mul]
    exact add_le_add left.1 right.1
  · rw [add_mul]
    exact add_le_add left.2 right.2

theorem Within.mul_right (within : Within k p q) (nonneg : 0 ≤ r) : Within k (p * r) (q * r) := by
  constructor
  · rw [mul_right_comm]
    exact mul_le_mul_of_nonneg_right within.1 nonneg
  · rw [mul_right_comm]
    exact mul_le_mul_of_nonneg_right within.2 nonneg

theorem div_le_slack (left : p ≤ q * slack ^ j) (right : q' ≤ p' * slack ^ k) (nonneg : 0 ≤ q)
    (p_pos : 0 < p') (q_pos : 0 < q') : p / p' ≤ q / q' * slack ^ (j + k) := by
  have quotient_nonneg : 0 ≤ q / q' * slack ^ j :=
    mul_nonneg (div_nonneg nonneg q_pos.le) (slack_pow_pos j).le
  rw [div_le_iff₀ p_pos]
  calc p ≤ q * slack ^ j := left
    _ = q / q' * slack ^ j * q' := by field_simp
    _ ≤ q / q' * slack ^ j * (p' * slack ^ k) := mul_le_mul_of_nonneg_left right quotient_nonneg
    _ = q / q' * slack ^ (j + k) * p' := by ring

theorem Within.div (left : Within j p q) (right : Within k p' q') (p_nonneg : 0 ≤ p)
    (q_nonneg : 0 ≤ q) (p_pos : 0 < p') (q_pos : 0 < q') : Within (j + k) (p / p') (q / q') :=
  ⟨div_le_slack left.1 right.2 q_nonneg p_pos q_pos,
    div_le_slack left.2 right.1 p_nonneg q_pos p_pos⟩

/-- Few roundings at most double a value. -/
theorem Within.le_double (within : Within k p q) (few : k ≤ 8) (p_nonneg : 0 ≤ p)
    (q_nonneg : 0 ≤ q) : p ≤ q * 2 ∧ q ≤ p * 2 := by
  have small : slack ^ k ≤ 2 :=
    (pow_le_pow_right₀ (by norm_num [slack]) few).trans (by norm_num [slack])
  exact ⟨within.1.trans (mul_le_mul_of_nonneg_left small q_nonneg),
    within.2.trans (mul_le_mul_of_nonneg_left small p_nonneg)⟩

/-- A value of at most 53 bits. -/
def Short (q : ℚ) : Prop := ∃ (c : ℕ) (i : ℤ), c < 2 ^ 53 ∧ q = c * 2 ^ i

theorem short_natCast {n : ℕ} (bound : n < 2 ^ 53) : Short n := ⟨n, 0, bound, by simp⟩

/-- Whole part and fraction have no more bits than the value. -/
theorem Short.split {whole : ℕ} {f : ℚ} (short : Short (whole + f)) (nonneg : 0 ≤ f)
    (less : f < 1) : Short whole ∧ Short f := by
  obtain ⟨c, i, bound, same⟩ := short
  rcases le_or_gt 0 i with whole_unit | fraction
  · obtain ⟨up, rfl⟩ := Int.eq_ofNat_of_zero_le whole_unit
    have total : (whole : ℚ) + f = (c * 2 ^ up : ℕ) := by
      rw [same, zpow_natCast]
      push_cast
      rfl
    have equal : c * 2 ^ up = whole := by
      have above : (whole : ℚ) ≤ (c * 2 ^ up : ℕ) := by linarith
      have below : ((c * 2 ^ up : ℕ) : ℚ) < whole + 1 := by linarith
      have above : whole ≤ c * 2 ^ up := by exact_mod_cast above
      have below : c * 2 ^ up < whole + 1 := by exact_mod_cast below
      omega
    have none : f = (0 : ℕ) := by
      rw [equal] at total
      simpa using total
    rw [none] at same ⊢
    exact ⟨⟨c, up, bound, by simpa using same⟩, short_natCast (by norm_num)⟩
  · obtain ⟨down, rfl⟩ := Int.exists_eq_neg_ofNat fraction.le
    have unit_pos : (0 : ℚ) < 2 ^ down := by positivity
    have scaled : whole * 2 ^ down + f * 2 ^ down = c := by
      rw [← add_mul, same, zpow_neg, zpow_natCast]
      field_simp
    have below : whole * 2 ^ down ≤ c := by
      have below : (whole * 2 ^ down : ℚ) ≤ c := by
        have := mul_nonneg nonneg unit_pos.le
        linarith
      exact_mod_cast below
    have whole_le : whole ≤ whole * 2 ^ down := Nat.le_mul_of_pos_right whole (Nat.two_pow_pos down)
    refine ⟨short_natCast (by omega), c - whole * 2 ^ down, -(down : ℤ), by omega, ?_⟩
    rw [Nat.cast_sub below, zpow_neg, zpow_natCast, eq_mul_inv_iff_mul_eq₀ unit_pos.ne']
    push_cast
    linarith

/-- What rounding makes of a value `q`. -/
structure Rounded (p q : ℚ) : Prop where
  within : Within 1 p q
  exact : Short q → p = q

theorem rounded_self (nonneg : 0 ≤ p) : Rounded p p := ⟨within_self 1 nonneg, fun _ => rfl⟩

/-- A quotient of numbers of 53 bits is rounded to none on the other side of a whole number. -/
theorem floor_of_rounded {a n : ℕ} (n_pos : 0 < n) (bound : a < 2 ^ 53)
    (rounded : Rounded p (a / n)) : ⌊p⌋₊ = a / n := by
  have n_pos' : (0 : ℚ) < n := by exact_mod_cast n_pos
  have short : (a : ℚ) + 1 ≤ 2 ^ 53 := by exact_mod_cast bound
  have parts := Nat.div_add_mod a n
  have rest_lt := Nat.mod_lt a n_pos
  generalize a / n = whole at parts
  generalize a % n = rest at parts rest_lt
  have a_eq : (a : ℚ) = n * whole + rest := by exact_mod_cast parts.symm
  have rest_le : (rest : ℚ) + 1 ≤ n := by exact_mod_cast rest_lt
  rcases Nat.eq_zero_or_pos rest with rfl | some_rest
  · have even : (a : ℚ) / n = whole := by
      rw [a_eq]
      field_simp
      simp
    have whole_le : whole ≤ a := by
      rw [← parts]
      exact (Nat.le_mul_of_pos_left whole n_pos).trans (Nat.le_add_right _ _)
    rw [even] at rounded
    rw [rounded.exact (short_natCast (whole_le.trans_lt bound)), Nat.floor_natCast]
  · have one_le_rest : (1 : ℚ) ≤ rest := by exact_mod_cast some_rest
    obtain ⟨upper, lower⟩ := rounded.within
    rw [pow_one, slack] at upper lower
    rw [div_mul_eq_mul_div, le_div_iff₀ n_pos'] at upper
    rw [div_le_iff₀ n_pos'] at lower
    -- the numerator is too short for its rounding error to make up for a unit
    have above : (whole : ℚ) < p := by
      by_contra below
      have scaled := mul_le_mul_of_nonneg_right (not_lt.mp below) n_pos'.le
      linarith
    have below : p < whole + 1 := by
      have scaled : p * n < (whole + 1) * n := by linarith
      exact lt_of_mul_lt_mul_right scaled n_pos'.le
    rw [Nat.floor_eq_iff ((Nat.cast_nonneg whole).trans above.le)]
    exact ⟨above.le, below⟩

end Factors

section Significands

variable {extended : ExtendedMantissa} {w : ℚ} {m r : ℕ} {e : ℤ} {accuracy : Accuracy}

/-- Half a unit for a set bit. -/
def half (bit : Bool) : ℚ := if bit then 1 / 2 else 0

/-- The significand and its two bits bound the value that they are kept of. -/
def Describes (extended : ExtendedMantissa) (w : ℚ) : Prop :=
  extended.mantissa + half extended.roundBit ≤ w ∧
    w ≤ extended.mantissa + half extended.roundBit + half extended.stickyBit

theorem half_nonneg (bit : Bool) : 0 ≤ half bit := by
  cases bit <;> norm_num [half]

theorem Describes.mantissa_le (described : Describes extended w) : extended.mantissa ≤ w :=
  (le_add_of_nonneg_right (half_nonneg _)).trans described.1

theorem describes_exact (m : ℕ) : Describes (.ofMantissaAndAccuracy m .exact) m := by
  simp [Describes, ExtendedMantissa.ofMantissaAndAccuracy, half]

theorem describes_quotient {scaled divisor : ℕ} (positive : 0 < divisor) :
    Describes (.ofMantissaAndAccuracy (scaled / divisor)
      (accuracyOfFraction (scaled % divisor) divisor)) (scaled / divisor) := by
  have divisor_pos : (0 : ℚ) < divisor := by exact_mod_cast positive
  have parts : (scaled : ℚ) = divisor * (scaled / divisor : ℕ) + (scaled % divisor : ℕ) := by
    exact_mod_cast (Nat.div_add_mod scaled divisor).symm
  have rest_lt := Nat.mod_lt scaled positive
  generalize scaled / divisor = whole at *
  generalize scaled % divisor = rest at *
  have value : (scaled : ℚ) / divisor = whole + rest / divisor := by
    rw [parts]
    field_simp
  have fraction_nonneg : (0 : ℚ) ≤ rest / divisor := by positivity
  have fraction_le : (rest : ℚ) / divisor ≤ 1 := by
    rw [div_le_one divisor_pos]
    exact_mod_cast rest_lt.le
  rw [value]
  unfold accuracyOfFraction
  split
  · rename_i none
    simp [Describes, ExtendedMantissa.ofMantissaAndAccuracy, half, none]
  · rcases compared : compare (2 * rest) divisor with _ | _ | _
    · have bound : (2 * rest : ℚ) ≤ divisor := by
        exact_mod_cast (Nat.compare_eq_lt.mp compared).le
      have le_half : (rest : ℚ) / divisor ≤ 1 / 2 := by
        rw [div_le_iff₀ divisor_pos]
        linarith
      simp only [Describes, ExtendedMantissa.ofMantissaAndAccuracy, half]
      constructor <;> norm_num <;> linarith
    · have tie : (2 * rest : ℚ) = divisor := by exact_mod_cast Nat.compare_eq_eq.mp compared
      have eq_half : (rest : ℚ) / divisor = 1 / 2 := by
        rw [div_eq_iff divisor_pos.ne']
        linarith
      simp [Describes, ExtendedMantissa.ofMantissaAndAccuracy, half, eq_half]
    · have bound : (divisor : ℚ) ≤ 2 * rest := by
        exact_mod_cast (Nat.compare_eq_gt.mp compared).le
      have half_le : (1 / 2 : ℚ) ≤ rest / divisor := by
        rw [le_div_iff₀ divisor_pos]
        linarith
      simp only [Describes, ExtendedMantissa.ofMantissaAndAccuracy, half]
      constructor <;> norm_num <;> linarith

theorem Describes.shiftRightOne (described : Describes extended w) :
    Describes extended.shiftRightOne (w / 2) := by
  obtain ⟨lower, upper⟩ := described
  rcases extended with ⟨m, round, sticky⟩
  have parts : (m : ℚ) = 2 * (m / 2 : ℕ) + (m % 2 : ℕ) := by
    exact_mod_cast (Nat.div_add_mod m 2).symm
  dsimp only at lower upper
  rw [parts] at lower upper
  unfold Describes ExtendedMantissa.shiftRightOne
  rcases Nat.mod_two_eq_zero_or_one m with even | odd
  · rw [even] at lower upper ⊢
    cases round <;> cases sticky <;> norm_num [half] at lower upper ⊢ <;>
      constructor <;> linarith
  · rw [odd] at lower upper ⊢
    cases round <;> cases sticky <;> norm_num [half] at lower upper ⊢ <;>
      constructor <;> linarith

theorem Describes.shift (described : Describes extended w) (k : ℕ) :
    Describes (extended >>> k) (w / 2 ^ k) := by
  induction k with
  | zero =>
      rw [pow_zero, div_one]
      exact described
  | succ k ih =>
      rw [pow_succ, ← div_div]
      exact ih.shiftRightOne

theorem Describes.near (described : Describes extended w) :
    w ≤ extended.roundedMantissa + 1 / 2 ∧ extended.roundedMantissa ≤ w + 1 / 2 := by
  obtain ⟨lower, upper⟩ := described
  rcases extended with ⟨m, round, sticky⟩
  have odd_le : ((m % 2 : ℕ) : ℚ) ≤ 1 := by exact_mod_cast Nat.le_of_lt_succ (Nat.mod_lt m two_pos)
  have odd_nonneg : (0 : ℚ) ≤ (m % 2 : ℕ) := Nat.cast_nonneg _
  cases round <;> cases sticky <;>
    simp only [half, ExtendedMantissa.roundedMantissa, ExtendedMantissa.accuracy,
      Accuracy.roundToNearestEven, Nat.cast_add] at lower upper ⊢ <;>
    norm_num at lower upper ⊢ <;> constructor <;> linarith

end Significands

section Roundings

variable {w p q : ℚ} {m r : ℕ} {e : ℤ} {accuracy : Accuracy}

/-- A number that is not negative and has the value `p`. -/
inductive Holds : UnpackedFloat → ℚ → Prop where
  | zero {s : Sign} : Holds (.zero s) 0
  | finite {m : ℕ} {e : ℤ} {positive : 0 < m} : Holds (.finite .positive m e positive) (m * 2 ^ e)

/-- Large enough for 53 bits, and not too large for a number. -/
def Ordinary (q : ℚ) : Prop := 2 ^ (-1022 : ℤ) ≤ q ∧ q < 2 ^ (1023 : ℤ)

theorem Holds.nonneg {u : UnpackedFloat} (holds : Holds u p) : 0 ≤ p := by
  cases holds with
  | zero => exact le_refl 0
  | finite => positivity

theorem Holds.not_nonpos {x : Float} (holds : Holds (parts x) p) (p_pos : 0 < p) : ¬x ≤ 0 := by
  have zero : parts 0 = .zero .positive := rfl
  rw [le_iff, zero]
  generalize parts x = u at *
  cases holds with
  | zero => exact absurd p_pos (lt_irrefl 0)
  | finite => exact Bool.false_ne_true

theorem holds_settled (least : 2 ^ 52 ≤ r) (most : r ≤ 2 ^ 53) (lower : -1074 ≤ e)
    (upper : e < 971) : Holds (pack (settled .positive r e)).unpack (r * 2 ^ e) := by
  by_cases short : r < 2 ^ 53
  · have positive : 0 < r := by omega
    have canonical : Canonical (.finite .positive r e positive) :=
      ⟨short, lower, upper.le, .inl least⟩
    rw [settled_of_short .positive e positive short, unpack_pack canonical]
    exact .finite
  · obtain rfl : r = 2 ^ 53 := by omega
    have canonical : Canonical (.finite .positive (2 ^ 52) (e + 1) (by norm_num)) :=
      ⟨by norm_num, by omega, by omega, .inl (le_refl _)⟩
    have same : ((2 ^ 53 : ℕ) : ℚ) * 2 ^ e = (2 ^ 52 : ℕ) * 2 ^ (e + 1) := by
      rw [zpow_add_one₀ two_ne_zero]
      push_cast
      ring
    rw [settled, dif_neg (by norm_num), if_neg short, unpack_pack canonical, same]
    exact .finite

theorem least_of_near (near : w ≤ r + 1 / 2) (long : 2 ^ 52 ≤ w) : 2 ^ 52 ≤ r := by
  by_contra short
  have short : (r : ℚ) + 1 ≤ 2 ^ 52 := by exact_mod_cast Nat.lt_of_not_le short
  linarith

/-- 53 bits that are so large have none below the unit. -/
theorem exists_whole_of_short (short : Short (w * 2 ^ e)) (long : 2 ^ 52 ≤ w) :
    ∃ n : ℕ, w = n := by
  obtain ⟨c, i, bound, same⟩ := short
  have unit_pos : (0 : ℚ) < 2 ^ e := zpow_pos two_pos e
  have le : e ≤ i := by
    by_contra less
    have bound : (c : ℚ) < 2 ^ 53 := by exact_mod_cast bound
    have unit_le : (2 : ℚ) ^ (i + 1) ≤ 2 ^ e := zpow_le_zpow_right₀ one_le_two (by omega)
    have small : w * 2 ^ e < 2 ^ 52 * 2 ^ e := by
      calc w * 2 ^ e = c * 2 ^ i := same
        _ < 2 ^ 53 * 2 ^ i := mul_lt_mul_of_pos_right bound (zpow_pos two_pos i)
        _ = 2 ^ 52 * 2 ^ (i + 1) := by
            rw [zpow_add_one₀ two_ne_zero]
            ring
        _ ≤ 2 ^ 52 * 2 ^ e := mul_le_mul_of_nonneg_left unit_le (by positivity)
    exact absurd long (not_le_of_gt (lt_of_mul_lt_mul_right small unit_pos.le))
  obtain ⟨up, rfl⟩ := Int.le.dest le
  refine ⟨c * 2 ^ up, ?_⟩
  rw [zpow_add₀ two_ne_zero, zpow_natCast, mul_comm ((2 : ℚ) ^ e), ← mul_assoc] at same
  push_cast
  exact mul_right_cancel₀ unit_pos.ne' same

/-- Rounding to a significand that is long enough for 53 bits. -/
theorem rounded_significand (near : w ≤ r + 1 / 2 ∧ r ≤ w + 1 / 2) (long : 2 ^ 52 ≤ w) :
    Rounded (r * 2 ^ e) (w * 2 ^ e) := by
  obtain ⟨upper, lower⟩ := near
  have r_long : (2 : ℚ) ^ 52 ≤ r := by exact_mod_cast least_of_near upper long
  constructor
  · have within : Within 1 r w := by
      rw [Within, pow_one, slack]
      constructor <;> linarith
    exact within.mul_right (zpow_nonneg zero_le_two e)
  · intro short
    obtain ⟨n, rfl⟩ := exists_whole_of_short short long
    have upper : 2 * n ≤ 2 * r + 1 := by
      have upper : (2 * n : ℚ) ≤ 2 * r + 1 := by linarith
      exact_mod_cast upper
    have lower : 2 * r ≤ 2 * n + 1 := by
      have lower : (2 * r : ℚ) ≤ 2 * n + 1 := by linarith
      exact_mod_cast lower
    have equal : r = n := by omega
    rw [equal]

/-- What is left of an ordinary value is long enough for 53 bits. -/
theorem long_of_ordinary (fine : Fine m e) (kept : (m / 2 ^ dropped m e : ℕ) ≤ w)
    (ordinary : Ordinary (w * 2 ^ (e + dropped m e))) : 2 ^ 52 ≤ w := by
  rcases div_dropped_normal fine with least | ⟨_, normal⟩
  · have unit_pos : (0 : ℚ) < 2 ^ (-1074 : ℤ) := zpow_pos two_pos _
    have split : (2 : ℚ) ^ (-1022 : ℤ) = 2 ^ 52 * 2 ^ (-1074 : ℤ) := by
      rw [← zpow_natCast, ← zpow_add₀ two_ne_zero]
      rfl
    have large := ordinary.1
    rw [least, split] at large
    exact le_of_mul_le_mul_right large unit_pos
  · have normal : (2 : ℚ) ^ 52 ≤ (m / 2 ^ dropped m e : ℕ) := by exact_mod_cast normal
    exact normal.trans kept

theorem exponent_lt_of_ordinary (long : 2 ^ 52 ≤ w) (ordinary : Ordinary (w * 2 ^ e)) :
    e < 971 := by
  have less : (2 : ℚ) ^ (52 + e) < 2 ^ (1023 : ℤ) := by
    rw [zpow_add₀ two_ne_zero]
    exact (mul_le_mul_of_nonneg_right long (zpow_nonneg zero_le_two e)).trans_lt ordinary.2
  have := (zpow_lt_zpow_iff_right₀ one_lt_two).mp less
  omega

theorem exists_roundWithAccuracy (fine : Fine m e)
    (described : Describes (.ofMantissaAndAccuracy m accuracy) w)
    (ordinary : Ordinary (w * 2 ^ e)) :
    ∃ p, Holds (pack (roundWithAccuracy .binary64 .positive m e accuracy)).unpack p ∧
      Rounded p (w * 2 ^ e) := by
  have shifted := described.shift (dropped m e)
  have kept := shifted.mantissa_le
  have most := roundedMantissa_le
    (ExtendedMantissa.ofMantissaAndAccuracy m accuracy >>> dropped m e)
  have near := shifted.near
  have short := div_dropped_lt m e
  have lower : -1074 ≤ e + dropped m e := by
    unfold dropped
    omega
  have same : w * 2 ^ e = w / 2 ^ dropped m e * 2 ^ (e + dropped m e) := by
    rw [zpow_add₀ two_ne_zero, zpow_natCast]
    field_simp
  rw [mantissa_shift, mantissa_of] at kept most
  rw [same] at ordinary ⊢
  have long := long_of_ordinary fine kept ordinary
  have upper := exponent_lt_of_ordinary long ordinary
  have least := least_of_near near.1 long
  rw [roundWithAccuracy_eq]
  exact ⟨_, holds_settled least (by omega) lower upper, rounded_significand near long⟩

theorem exists_round (positive : 0 < m) (ordinary : Ordinary (m * 2 ^ e)) :
    ∃ p, Holds (pack (UnpackedFloat.round .binary64 .positive m e)).unpack p ∧
      Rounded p (m * 2 ^ e) := by
  have fine := fine_shiftLeft positive e
  simp only [UnpackedFloat.round, decreaseExponent, target_eq]
  generalize (e - max ((m.log2 : ℤ) + e - 52) (-1074)).toNat = k at *
  rw [← cast_shiftLeft_sub m k e] at ordinary ⊢
  exact exists_roundWithAccuracy fine (describes_exact _) ordinary

end Roundings

section Operations

variable {x y : Float} {p q : ℚ}

/-- Values far from the ends of what numbers can hold. -/
theorem ordinary_of_le (lower : 1 / 2 ^ 200 ≤ p) (upper : p ≤ 2 ^ 200) : Ordinary p := by
  have least : (2 : ℚ) ^ (-1022 : ℤ) ≤ 2 ^ (-200 : ℤ) :=
    zpow_le_zpow_right₀ one_le_two (by norm_num)
  have most : (2 : ℚ) ^ (200 : ℤ) < 2 ^ (1023 : ℤ) := zpow_lt_zpow_right₀ one_lt_two (by norm_num)
  constructor
  · refine least.trans (le_trans (le_of_eq ?_) lower)
    rw [zpow_neg, one_div]
    rfl
  · exact upper.trans_lt most

theorem exists_toFloat (n : UInt64) : ∃ p, Holds (parts n.toFloat) p ∧ Rounded p n.toNat := by
  change ∃ p, Holds
    (pack (UnpackedFloat.normalize .binary64 (n.toNat : ℤ) 0 .positive)).unpack p ∧ _
  have word : n.toNat < 2 ^ 64 := n.toNat_lt
  generalize n.toNat = n at *
  rcases Nat.eq_zero_or_pos n with rfl | positive
  · have nothing : UnpackedFloat.normalize .binary64 ((0 : ℕ) : ℤ) 0 .positive =
        .zero .positive := rfl
    rw [nothing, unpack_pack_zero, Nat.cast_zero]
    exact ⟨0, .zero, rounded_self (le_refl 0)⟩
  · have one_le : (1 : ℚ) ≤ n := by exact_mod_cast positive
    have bound : (n : ℚ) < 2 ^ 64 := by exact_mod_cast word
    have ordinary : Ordinary n := by
      apply ordinary_of_le
      · exact le_trans (by norm_num) one_le
      · exact bound.le.trans (by norm_num)
    have same : (n : ℚ) = n * 2 ^ (0 : ℤ) := by rw [zpow_zero, mul_one]
    rw [same] at ordinary ⊢
    rw [normalize_of_pos (by omega), Int.toNat_natCast]
    exact exists_round positive ordinary

theorem exists_ofNat {n : ℕ} (word : n < 2 ^ 64) :
    ∃ p, Holds (parts (ofNat n)) p ∧ Rounded p n := by
  have kept : (UInt64.ofNat n).toNat = n := by
    rw [UInt64.toNat_ofNat', Nat.mod_eq_of_lt word]
  obtain ⟨p, holds, rounded⟩ := exists_toFloat (UInt64.ofNat n)
  rw [kept] at rounded
  exact ⟨p, holds, rounded⟩

theorem Holds.add (left : Holds (parts x) p) (right : Holds (parts y) q)
    (ordinary : Ordinary (p + q)) :
    ∃ s, Holds (parts (x + y)) s ∧ Rounded s (p + q) := by
  have kept_left := pack_parts x
  have kept_right := pack_parts y
  have nonneg := add_nonneg left.nonneg right.nonneg
  rw [parts_add]
  generalize parts x = u at *
  generalize parts y = v at *
  cases left with
  | zero =>
      rw [zero_add] at nonneg ⊢
      cases right with
      | zero =>
          refine ⟨0, ?_, rounded_self nonneg⟩
          simp only [UnpackedFloat.add]
          split
          · rw [unpack_pack_zero]
            exact .zero
          · exact .zero
      | finite =>
          refine ⟨_, ?_, rounded_self nonneg⟩
          simp only [UnpackedFloat.add]
          rw [kept_right]
          exact .finite
  | @finite m e positive =>
      cases right with
      | zero =>
          rw [add_zero] at nonneg ⊢
          refine ⟨_, ?_, rounded_self nonneg⟩
          simp only [UnpackedFloat.add]
          rw [kept_left]
          exact .finite
      | @finite m' e' positive' =>
          have total : (m : ℚ) * 2 ^ e + m' * 2 ^ e' =
              ((m <<< (e - min e e').toNat + m' <<< (e' - min e e').toNat : ℕ) : ℚ) *
                2 ^ min e e' := by
            rw [Nat.cast_add, add_mul, cast_shiftLeft m (min_le_left e e'),
              cast_shiftLeft m' (min_le_right e e')]
          have left_pos : 0 < m <<< (e - min e e').toNat := Nat.shiftLeft_pos_iff.mpr positive
          have sum_pos := Nat.add_pos_left left_pos (m' <<< (e' - min e e').toNat)
          rw [total] at ordinary ⊢
          simp only [UnpackedFloat.add, decreaseExponent, Sign.apply]
          rw [← Nat.cast_add, normalize_of_pos (by exact_mod_cast sum_pos), Int.toNat_natCast]
          exact exists_round sum_pos ordinary

theorem Holds.div (left : Holds (parts x) p) (right : Holds (parts y) q) (q_pos : 0 < q)
    (ordinary : 0 < p → Ordinary (p / q)) :
    ∃ s, Holds (parts (x / y)) s ∧ Rounded s (p / q) := by
  rw [parts_div]
  generalize parts x = u at *
  generalize parts y = v at *
  cases right with
  | zero => exact absurd q_pos (lt_irrefl 0)
  | @finite m' e' positive' =>
      cases left with
      | zero =>
          rw [zero_div]
          refine ⟨0, ?_, rounded_self (le_refl 0)⟩
          simp only [UnpackedFloat.div]
          rw [unpack_pack_zero]
          exact .zero
      | @finite m e positive =>
          have ordinary := ordinary (by positivity)
          simp only [UnpackedFloat.div, divCore_eq]
          have fine := fine_quotient positive positive' e e'
          have t_le : quotientExponent m e m' e' ≤ e - e' := min_le_left _ _
          generalize quotientExponent m e m' e' = t at *
          have value := cast_shiftLeft m t_le
          generalize m <<< (e - e' - t).toNat = n at *
          have quotient : (m : ℚ) * 2 ^ e / (m' * 2 ^ e') = n / m' * 2 ^ t := by
            rw [div_mul_eq_mul_div, value, zpow_sub₀ two_ne_zero]
            field_simp
          rw [quotient] at ordinary ⊢
          exact exists_roundWithAccuracy fine (describes_quotient positive') ordinary

theorem roundToInt_positive (m : ℕ) (e : ℤ) :
    roundToInt .positive m e = (⌊(m : ℚ) * 2 ^ e⌋₊ : ℕ) := by
  simp only [roundToInt, decreaseExponent, shiftToExponent, mantissa_shift, mantissa_of,
    Sign.apply]
  rcases le_or_gt 0 e with whole | fraction
  · obtain ⟨up, rfl⟩ := Int.eq_ofNat_of_zero_le whole
    have lengthened : ((up : ℤ) - 0).toNat = up := by omega
    have none_dropped : (0 - ((up : ℤ) - (up : ℕ))).toNat = 0 := by omega
    have value : (m : ℚ) * 2 ^ (up : ℤ) = (m * 2 ^ up : ℕ) := by
      rw [zpow_natCast]
      push_cast
      rfl
    rw [lengthened, none_dropped, value, Nat.floor_natCast, pow_zero, Nat.div_one,
      Nat.shiftLeft_eq]
  · obtain ⟨down, rfl⟩ := Int.exists_eq_neg_ofNat fraction.le
    have not_lengthened : (-(down : ℤ) - 0).toNat = 0 := by omega
    have shortened : (0 - (-(down : ℤ) - (0 : ℕ))).toNat = down := by omega
    have value : (m : ℚ) * 2 ^ (-(down : ℤ)) = m / (2 ^ down : ℕ) := by
      rw [zpow_neg, zpow_natCast, div_eq_mul_inv]
      push_cast
      rfl
    rw [not_lengthened, shortened, value, Nat.floor_div_eq_div, Nat.shiftLeft_zero]

/-- Conversion to a word drops the fraction and stops at the largest word. -/
theorem Holds.toUInt64 (holds : Holds (parts x) p) :
    x.toUInt64.toNat = min ⌊p⌋₊ (2 ^ 64 - 1) := by
  change (parts x).toUInt64.toNat = _
  generalize parts x = u at *
  cases holds with
  | zero =>
      rw [Nat.floor_zero]
      rfl
  | @finite m e positive =>
      rw [UnpackedFloat.toUInt64, UnpackedFloat.toInt, roundToInt_positive, Int.toNat_natCast]
      generalize ⌊(m : ℚ) * 2 ^ e⌋₊ = n
      have size : UInt64.size = 2 ^ 64 := rfl
      by_cases fits : n < UInt64.size
      · rw [UInt64.toNat_ofNatClamp_of_lt fits]
        omega
      · rw [UInt64.ofNatClamp, dif_neg fits, UInt64.toNat_ofNatLT]
        omega

end Operations

end TrafficMeter.Binary64
