import TrafficMeter.Proofs.Number.Reach

/-! # Lower bounds through arithmetic

Sums, products, quotients and roots of numbers that are not negative stay at or above every
representable lower bound of their exact value. Where nothing is rounded the outcome is
exact: a product with one, a whole number of 53 bits.
-/

namespace TrafficMeter.Binary64

open Float.Model (UnpackedFloat Format pack totalExponent)
open Float.Model.UnpackedFloat hiding pack

variable {p q s : ℚ} {x y : Float}

theorem pack_parts (x : Float) : (pack (parts x)).unpack = parts x :=
  unpack_pack (canonical_parts x)

theorem representable_pow {k : ℤ} (lower : -1074 ≤ k) : Representable (2 ^ k) :=
  ⟨1, k, by norm_num, lower, by norm_num⟩

theorem representable_nat_mul_pow {n : ℕ} {k : ℤ} (short : n ≤ 2 ^ 53) (lower : -1074 ≤ k) :
    Representable (n * 2 ^ k) :=
  ⟨n, k, short, lower, rfl⟩

section Sums

theorem parts_add (x y : Float) :
    parts (x + y) = (pack (UnpackedFloat.add .binary64 (parts x) (parts y))).unpack := rfl

/-- A significand at a smaller exponent, with its value. -/
theorem cast_shiftLeft (m : ℕ) {e e' : ℤ} (le : e' ≤ e) :
    ((m <<< (e - e').toNat : ℕ) : ℚ) * 2 ^ e' = m * 2 ^ e := by
  obtain ⟨up, rfl⟩ := Int.le.dest le
  rw [add_sub_cancel_left, Int.toNat_natCast, Nat.shiftLeft_eq, zpow_add₀ two_ne_zero,
    zpow_natCast]
  push_cast
  ring

theorem normalize_of_pos {n : ℤ} (positive : 0 < n) (e : ℤ) (zeroSign : Sign) :
    UnpackedFloat.normalize .binary64 n e zeroSign =
      UnpackedFloat.round .binary64 .positive n.toNat e := by
  rw [UnpackedFloat.normalize, show compare n 0 = .gt from Int.compare_eq_gt.mpr positive]

theorem reaches_normalize {n : ℤ} {e : ℤ} (zeroSign : Sign) (positive : 0 < n)
    (representable : Representable q) (below : q ≤ n * 2 ^ e) :
    Reaches q (pack (UnpackedFloat.normalize .binary64 n e zeroSign)).unpack := by
  obtain ⟨m, rfl⟩ := Int.eq_ofNat_of_zero_le (le_of_lt positive)
  rw [normalize_of_pos positive, Int.toNat_natCast]
  exact reaches_round (by omega) representable (by simpa using below)

theorem reaches_add (left : Reaches p (parts x)) (right : Reaches q (parts y))
    (representable : Representable s) (le : s ≤ p + q) : Reaches s (parts (x + y)) := by
  have kept_left := pack_parts x
  have kept_right := pack_parts y
  rw [parts_add]
  generalize parts x = u at *
  generalize parts y = v at *
  cases left with
  | infinite => cases right <;> exact reaches_infinity
  | zero p_le =>
      cases right with
      | infinite => exact reaches_infinity
      | zero q_le =>
          have s_le : s ≤ 0 := by linarith
          simp only [UnpackedFloat.add]
          split
          · rw [unpack_pack_zero]
            exact .zero s_le
          · exact .zero s_le
      | finite q_le =>
          simp only [UnpackedFloat.add]
          rw [kept_right]
          exact .finite (by linarith)
  | @finite m e positive p_le =>
      cases right with
      | infinite => exact reaches_infinity
      | zero q_le =>
          simp only [UnpackedFloat.add]
          rw [kept_left]
          exact .finite (by linarith)
      | @finite m' e' positive' q_le =>
          simp only [UnpackedFloat.add, decreaseExponent, Sign.apply]
          apply reaches_normalize _ _ representable
          · rw [Int.cast_add, Int.cast_natCast, Int.cast_natCast, add_mul,
              cast_shiftLeft m (min_le_left e e'),
              cast_shiftLeft m' (min_le_right e e')]
            linarith
          · have left_pos : 0 < m <<< (e - min e e').toNat := Nat.shiftLeft_pos_iff.mpr positive
            exact_mod_cast Nat.add_pos_left left_pos _

end Sums

section Products

theorem parts_mul (x y : Float) :
    parts (x * y) = (pack (UnpackedFloat.mul .binary64 (parts x) (parts y))).unpack := rfl

theorem fine_mul {s s' : Sign} {m m' : ℕ} {e e' : ℤ} {positive : 0 < m} {positive' : 0 < m'}
    (left : Canonical (.finite s m e positive)) (right : Canonical (.finite s' m' e' positive')) :
    Fine (m * m') (e + e') := by
  obtain ⟨_, _, _, normal | least⟩ := left
  · exact Or.inl (normal.trans (Nat.le_mul_of_pos_right m positive'))
  · obtain ⟨_, _, _, normal' | least'⟩ := right
    · exact Or.inl (normal'.trans (Nat.le_mul_of_pos_left m' positive))
    · exact Or.inr (by omega)

theorem reaches_mul (left : Reaches p (parts x)) (right : Reaches q (parts y)) (p_pos : 0 < p)
    (q_pos : 0 < q) (representable : Representable s) (le : s ≤ p * q) :
    Reaches s (parts (x * y)) := by
  have canonical_left := canonical_parts x
  have canonical_right := canonical_parts y
  rw [parts_mul]
  generalize parts x = u at *
  generalize parts y = v at *
  cases left with
  | zero p_le => exact absurd p_pos (not_lt_of_ge p_le)
  | infinite =>
      cases right with
      | zero q_le => exact absurd q_pos (not_lt_of_ge q_le)
      | infinite => exact reaches_infinity
      | finite _ => exact reaches_infinity
  | @finite m e positive p_le =>
      cases right with
      | zero q_le => exact absurd q_pos (not_lt_of_ge q_le)
      | infinite => exact reaches_infinity
      | @finite m' e' positive' q_le =>
          apply reaches_roundWithAccuracy _ (fine_mul canonical_left canonical_right) representable
          calc s ≤ p * q := le
            _ ≤ m * 2 ^ e * (m' * 2 ^ e') := mul_le_mul p_le q_le q_pos.le (by positivity)
            _ = (m * m' : ℕ) * 2 ^ (e + e') := by
                rw [zpow_add₀ two_ne_zero]
                push_cast
                ring
            _ < ((m * m' : ℕ) + 1) * 2 ^ (e + e') :=
                mul_lt_mul_of_pos_right (lt_add_one _) (zpow_pos two_pos _)

end Products

section Quotients

theorem parts_div (x y : Float) :
    parts (x / y) = (pack (UnpackedFloat.div .binary64 (parts x) (parts y))).unpack := rfl

/-- The exponent of a quotient before it is rounded. -/
def quotientExponent (m : ℕ) (e : ℤ) (m' : ℕ) (e' : ℤ) : ℤ :=
  min (e - e') (max ((m.log2 : ℤ) + e - (m'.log2 + e') - 53) (-1074))

theorem divCore_eq (m : ℕ) (e : ℤ) (m' : ℕ) (e' : ℤ) :
    let exponent := quotientExponent m e m' e'
    let scaled := m <<< (e - e' - exponent).toNat
    divCore .binary64 m e m' e' =
      (scaled / m', exponent, accuracyOfFraction (scaled % m') m') := by
  have same : Format.binary64.targetExponent (totalExponent m e - totalExponent m' e') =
      max ((m.log2 : ℤ) + e - (m'.log2 + e') - 53) (-1074) := by
    change max ((m.log2 : ℤ) + 1 + e - (m'.log2 + 1 + e') - 53) (-1074) = _
    omega
  simp only [divCore, same]
  rfl

theorem fine_quotient {m m' : ℕ} (positive : 0 < m) (positive' : 0 < m') (e e' : ℤ) :
    Fine (m <<< (e - e' - quotientExponent m e m' e').toNat / m') (quotientExponent m e m' e') := by
  by_cases small : quotientExponent m e m' e' ≤ -1074
  · exact Or.inr small
  · left
    generalize up : (e - e' - quotientExponent m e m' e').toNat = k
    have enough : m'.log2 + 1 + 52 ≤ m.log2 + k := by
      unfold quotientExponent at small up
      omega
    have lower : 2 ^ m.log2 ≤ m := Nat.log2_self_le (Nat.ne_of_gt positive)
    have upper : m' < 2 ^ (m'.log2 + 1) := Nat.lt_log2_self
    rw [Nat.le_div_iff_mul_le positive', Nat.shiftLeft_eq]
    calc 2 ^ 52 * m' ≤ 2 ^ 52 * 2 ^ (m'.log2 + 1) := Nat.mul_le_mul_left _ upper.le
      _ = 2 ^ (m'.log2 + 1 + 52) := by rw [← pow_add, Nat.add_comm]
      _ ≤ 2 ^ (m.log2 + k) := Nat.pow_le_pow_right (by norm_num) enough
      _ = 2 ^ m.log2 * 2 ^ k := pow_add ..
      _ ≤ m * 2 ^ k := Nat.mul_le_mul_right _ lower

theorem reaches_div {m' : ℕ} {e' : ℤ} {positive' : 0 < m'} (left : Reaches p (parts x))
    (right : parts y = .finite .positive m' e' positive') (p_pos : 0 < p)
    (representable : Representable s) (le : s * (m' * 2 ^ e') ≤ p) :
    Reaches s (parts (x / y)) := by
  rw [parts_div, right]
  generalize parts x = u at *
  cases left with
  | zero p_le => exact absurd p_pos (not_lt_of_ge p_le)
  | infinite => exact reaches_infinity
  | @finite m e positive p_le =>
      simp only [UnpackedFloat.div, divCore_eq]
      apply reaches_roundWithAccuracy _ (fine_quotient positive positive' e e') representable
      generalize exponent : quotientExponent m e m' e' = t
      have t_le : t ≤ e - e' := by
        rw [← exponent]
        exact min_le_left _ _
      generalize scaled : m <<< (e - e' - t).toNat = n
      have value : (n : ℚ) * 2 ^ t = m * 2 ^ (e - e') := by
        rw [← scaled]
        exact cast_shiftLeft m t_le
      have divisor_pos : (0 : ℚ) < m' * 2 ^ e' := by positivity
      have floor_lt : (n : ℚ) < ((n / m' : ℕ) + 1) * m' := by
        rw [mul_comm]
        exact_mod_cast Nat.lt_mul_div_succ n positive'
      apply lt_of_mul_lt_mul_right _ divisor_pos.le
      calc s * (m' * 2 ^ e') ≤ m * 2 ^ e := le.trans p_le
        _ = m * 2 ^ (e - e') * 2 ^ e' := by
            rw [mul_assoc, ← zpow_add₀ two_ne_zero, sub_add_cancel]
        _ = n * (2 ^ t * 2 ^ e') := by rw [← value, mul_assoc]
        _ < ((n / m' : ℕ) + 1) * m' * (2 ^ t * 2 ^ e') :=
            mul_lt_mul_of_pos_right floor_lt (by positivity)
        _ = ((n / m' : ℕ) + 1) * 2 ^ t * (m' * 2 ^ e') := by ring

end Quotients

section Roots

theorem parts_sqrt (x : Float) :
    parts x.sqrt = (pack (UnpackedFloat.sqrt .binary64 (parts x))).unpack := rfl

/-- The exponent of a root before it is rounded. -/
def rootExponent (m : ℕ) (e : ℤ) : ℤ :=
  min (e / 2) (max (((m.log2 : ℤ) + 2 + e) / 2 - 53) (-1074))

theorem sqrtCore_eq (m : ℕ) (e : ℤ) :
    let scaled := m <<< (e - 2 * rootExponent m e).toNat
    let rest := scaled - scaled.sqrt * scaled.sqrt
    sqrtCore .binary64 m e =
      (scaled.sqrt, rootExponent m e,
        if rest = 0 then .exact else .inexact (if rest ≤ scaled.sqrt then .lt else .gt)) := by
  have same : Format.binary64.targetExponent ((totalExponent m e + 1).ediv 2) =
      max (((m.log2 : ℤ) + 2 + e) / 2 - 53) (-1074) := by
    change max (((m.log2 : ℤ) + 1 + e + 1) / 2 - 53) (-1074) = _
    omega
  simp only [sqrtCore, same]
  rfl

theorem fine_root {m : ℕ} (positive : 0 < m) (e : ℤ) :
    Fine (m <<< (e - 2 * rootExponent m e).toNat).sqrt (rootExponent m e) := by
  by_cases small : rootExponent m e ≤ -1074
  · exact Or.inr small
  · left
    generalize up : (e - 2 * rootExponent m e).toNat = k
    have enough : 104 ≤ m.log2 + k := by
      unfold rootExponent at small up
      omega
    have lower : 2 ^ m.log2 ≤ m := Nat.log2_self_le (Nat.ne_of_gt positive)
    rw [Nat.le_sqrt, Nat.shiftLeft_eq]
    calc 2 ^ 52 * 2 ^ 52 = 2 ^ 104 := by norm_num
      _ ≤ 2 ^ (m.log2 + k) := Nat.pow_le_pow_right (by norm_num) enough
      _ = 2 ^ m.log2 * 2 ^ k := pow_add ..
      _ ≤ m * 2 ^ k := Nat.mul_le_mul_right _ lower

theorem reaches_sqrt (reached : Reaches p (parts x)) (s_pos : 0 < s)
    (representable : Representable s) (le : s * s ≤ p) : Reaches s (parts x.sqrt) := by
  rw [parts_sqrt]
  generalize parts x = u at *
  cases reached with
  | zero p_le => nlinarith
  | infinite => exact reaches_infinity
  | @finite m e positive p_le =>
      simp only [UnpackedFloat.sqrt, sqrtCore_eq]
      apply reaches_roundWithAccuracy _ (fine_root positive e) representable
      generalize exponent : rootExponent m e = t
      have t_le : 2 * t ≤ e := by
        rw [← exponent]
        unfold rootExponent
        omega
      generalize scaled : m <<< (e - 2 * t).toNat = n
      have value : (n : ℚ) * 2 ^ (2 * t) = m * 2 ^ e := by
        rw [← scaled]
        exact cast_shiftLeft m t_le
      have floor_lt : (n : ℚ) < (n.sqrt + 1) * (n.sqrt + 1) := by
        exact_mod_cast Nat.lt_succ_sqrt n
      apply lt_of_mul_self_lt_mul_self₀ (by positivity)
      calc s * s ≤ m * 2 ^ e := le.trans p_le
        _ = n * 2 ^ (2 * t) := value.symm
        _ < (n.sqrt + 1) * (n.sqrt + 1) * 2 ^ (2 * t) :=
            mul_lt_mul_of_pos_right floor_lt (by positivity)
        _ = (n.sqrt + 1) * 2 ^ t * ((n.sqrt + 1) * 2 ^ t) := by
            rw [two_mul, zpow_add₀ two_ne_zero]
            ring

end Roots

section Exact

private theorem shift_exact (m k : ℕ) :
    ExtendedMantissa.ofMantissaAndAccuracy (m * 2 ^ k) .exact >>> k =
      ExtendedMantissa.ofMantissaAndAccuracy m .exact := by
  induction k generalizing m with
  | zero =>
      rw [pow_zero, mul_one]
      rfl
  | succ k ih =>
      change (ExtendedMantissa.ofMantissaAndAccuracy (m * 2 ^ (k + 1)) .exact >>> k).shiftRightOne =
        _
      have double : m * 2 ^ (k + 1) = m * 2 * 2 ^ k := by ring
      rw [double, ih]
      simp [ExtendedMantissa.shiftRightOne, ExtendedMantissa.ofMantissaAndAccuracy]

/-- Nothing is lost of a canonical number with zeros behind its significand. -/
theorem roundWithAccuracy_exact {s : Sign} {m : ℕ} {e : ℤ} {positive : 0 < m}
    (canonical : Canonical (.finite s m e positive)) (k : ℕ) :
    roundWithAccuracy .binary64 s (m * 2 ^ k) (e - k) .exact = .finite s m e positive := by
  obtain ⟨bound, lower, _, normal⟩ := canonical
  have short : m.log2 < 53 := (Nat.log2_lt (Nat.ne_of_gt positive)).mpr bound
  have long : 52 ≤ m.log2 ∨ e = -1074 := by
    refine normal.imp_left fun least => ?_
    exact (Nat.le_log2 (Nat.ne_of_gt positive)).mpr least
  have drops : dropped (m * 2 ^ k) (e - k) = k := by
    unfold dropped
    rw [← Nat.shiftLeft_eq, log2_shiftLeft positive]
    omega
  rw [roundWithAccuracy_eq, drops, shift_exact, sub_add_cancel]
  exact settled_of_short s e positive bound

/-- A whole number of 53 bits is exact. -/
theorem parts_ofNat {n : ℕ} (n_pos : 0 < n) (short : n < 2 ^ 53) :
    ∃ (m : ℕ) (e : ℤ) (positive : 0 < m),
      parts (ofNat n) = .finite .positive m e positive ∧ (m : ℚ) * 2 ^ e = n := by
  have length : n.log2 < 53 := (Nat.log2_lt (Nat.ne_of_gt n_pos)).mpr short
  obtain ⟨k, filled⟩ := Nat.exists_eq_add_of_le (Nat.le_of_lt_succ length)
  have log : (n <<< k).log2 = 52 := by
    rw [log2_shiftLeft n_pos, filled]
  have positive : 0 < n <<< k := Nat.shiftLeft_pos_iff.mpr n_pos
  have normal := (Nat.log2_eq_iff (Nat.ne_of_gt positive)).mp log
  have canonical : Canonical (.finite .positive (n <<< k) (-k) positive) :=
    ⟨normal.2, by omega, by omega, Or.inl normal.1⟩
  have rounded : UnpackedFloat.round .binary64 .positive n 0 =
      .finite .positive (n <<< k) (-k) positive := by
    have up : (0 - max ((n.log2 : ℤ) + 0 - 52) (-1074)).toNat = k := by omega
    have exact := roundWithAccuracy_exact canonical 0
    simp only [UnpackedFloat.round, decreaseExponent, target_eq, up]
    simpa using exact
  have word : (UInt64.ofNat n).toNat = n := by
    rw [UInt64.toNat_ofNat', Nat.mod_eq_of_lt (by omega)]
  refine ⟨n <<< k, -k, positive, ?_, ?_⟩
  · change (pack (UnpackedFloat.normalize .binary64 ((UInt64.ofNat n).toNat : ℤ) 0
      .positive)).unpack = _
    rw [word, normalize_of_pos (by omega), Int.toNat_natCast, rounded, unpack_pack canonical]
  · rw [Nat.shiftLeft_eq, zpow_neg, zpow_natCast]
    push_cast
    field_simp

end Exact

end TrafficMeter.Binary64
