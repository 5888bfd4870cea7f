import TrafficMeter.Number.Rounding
import TrafficMeter.Proofs.Number.Zeros

/-! # Exact values

The exact value of a number as a fraction. The order of numbers is that of their values, texts and
spans read the value off the bits without loss, and rounding the value to a whole number goes to
the nearest one and never turns two values round.
-/

namespace TrafficMeter

section Quotients

variable {num den num' den' k : ℕ}

/-- The rounded quotient is at most half a unit away from the exact one. -/
theorem roundQuotient_near (positive : 0 < den) :
    (roundQuotient num den : ℚ) - 1 / 2 ≤ num / den ∧
      (num : ℚ) / den ≤ roundQuotient num den + 1 / 2 := by
  obtain ⟨upper, lower⟩ := @roundQuotient_within_half num den positive
  have den_pos : (0 : ℚ) < den := by exact_mod_cast positive
  have upper : (2 * num : ℚ) ≤ 2 * (roundQuotient num den * den) + den := by exact_mod_cast upper
  have lower : (2 * (roundQuotient num den * den) : ℚ) ≤ 2 * num + den := by exact_mod_cast lower
  rw [le_div_iff₀ den_pos, div_le_iff₀ den_pos]
  constructor <;> linarith

/-- Half-way between two whole numbers the even one is taken. -/
theorem even_roundQuotient (positive : 0 < den) (tie : (num : ℚ) / den = k + 1 / 2) :
    roundQuotient num den % 2 = 0 := by
  have den_ne : (den : ℚ) ≠ 0 := by exact_mod_cast Nat.ne_of_gt positive
  have doubled : 2 * num = 2 * (k * den) + den := by
    rw [div_eq_iff den_ne] at tie
    have doubled : (2 * num : ℚ) = 2 * (k * den) + den := by linarith
    exact_mod_cast doubled
  have below : num / den = k := by
    apply Nat.div_eq_of_lt_le
    · omega
    · rw [Nat.succ_mul]
      omega
  have rest : 2 * (num % den) = den := by
    have parts := Nat.div_add_mod num den
    rw [below, Nat.mul_comm] at parts
    omega
  unfold roundQuotient
  dsimp only
  rw [rest, if_neg (Nat.lt_irrefl _), if_neg (Nat.lt_irrefl _)]
  split <;> omega

theorem roundQuotient_mono (positive : 0 < den) (positive' : 0 < den')
    (le : (num : ℚ) / den ≤ num' / den') : roundQuotient num den ≤ roundQuotient num' den' := by
  by_contra turned
  have apart : roundQuotient num' den' + 1 ≤ roundQuotient num den := Nat.lt_of_not_le turned
  have apart' : (roundQuotient num' den' + 1 : ℚ) ≤ roundQuotient num den := by
    exact_mod_cast apart
  have lower := (@roundQuotient_near num den positive).1
  have upper := (@roundQuotient_near num' den' positive').2
  -- only if both lie half-way between the two whole numbers, and then both go to the even one
  have tie : (num : ℚ) / den = roundQuotient num' den' + 1 / 2 := by linarith
  have tie' : (num' : ℚ) / den' = roundQuotient num' den' + 1 / 2 := by linarith
  have same : (roundQuotient num den : ℚ) = (roundQuotient num' den' + 1 : ℕ) := by
    push_cast
    linarith
  have even := even_roundQuotient positive tie
  have even' := even_roundQuotient positive' tie'
  have same : roundQuotient num den = roundQuotient num' den' + 1 := by exact_mod_cast same
  omega

end Quotients

namespace Binary64

open Float.Model (UnpackedFloat Format pack)
open Float.Model.UnpackedFloat hiding pack

variable {x y : Float} {s : Sign} {m m' : ℕ} {e e' : ℤ} {positive : 0 < m} {positive' : 0 < m'}

/-- The exact value of a finite number. -/
def exact (x : Float) : ℚ :=
  match parts x with
  | .finite .positive m e _ => m * 2 ^ e
  | .finite .negative m e _ => -(m * 2 ^ e)
  | _ => 0

theorem exact_of_positive (given : parts x = .finite .positive m e positive) :
    exact x = m * 2 ^ e := by
  rw [exact, given]

theorem exact_le_of_le (left : parts x = .finite .positive m e positive)
    (right : parts y = .finite .positive m' e' positive') (le : x ≤ y) : exact x ≤ exact y := by
  have reached := reaches_of_le left le
  rw [exact_of_positive left, exact_of_positive right]
  rw [right] at reached
  cases reached with
  | finite bound => exact bound

theorem pos_of_exact_pos (value_pos : 0 < exact x) : 0 < x := by
  have zero : parts 0 = .zero .positive := rfl
  rw [lt_iff, zero]
  unfold exact at value_pos
  generalize parts x = u at *
  match u with
  | .notANumber | .zero _ | .infinity _ => exact absurd value_pos (lt_irrefl 0)
  | .finite .positive _ _ _ => rfl
  | .finite .negative m e _ =>
      have : (0 : ℚ) ≤ m * 2 ^ e := by positivity
      linarith

theorem positive_cases (x_pos : 0 < x) :
    parts x = .infinity .positive ∨
      ∃ (m : ℕ) (e : ℤ) (positive : 0 < m), parts x = .finite .positive m e positive := by
  have zero : parts 0 = .zero .positive := rfl
  rw [lt_iff, zero] at x_pos
  generalize parts x = u at *
  match u with
  | .notANumber | .zero _ | .infinity .negative | .finite .negative _ _ _ => cases x_pos
  | .infinity .positive => exact .inl rfl
  | .finite .positive m e positive => exact .inr ⟨m, e, positive, rfl⟩

theorem pos_of_infinity (infinite : parts x = .infinity .positive) : 0 < x := by
  have zero : parts 0 = .zero .positive := rfl
  rw [lt_iff, infinite, zero]
  rfl

theorem pos_of_finite (given : parts x = .finite .positive m e positive) : 0 < x := by
  have zero : parts 0 = .zero .positive := rfl
  rw [lt_iff, given, zero]
  rfl

theorem infinity_of_le (infinite : parts x = .infinity .positive) (le : x ≤ y) :
    parts y = .infinity .positive := by
  rw [le_iff, infinite] at le
  match reached : parts y with
  | .infinity .positive => rfl
  | .notANumber | .zero _ | .infinity .negative | .finite _ _ _ _ =>
      rw [reached] at le
      cases le

theorem cases_of_le (given : parts x = .finite .positive m e positive) (le : x ≤ y) :
    parts y = .infinity .positive ∨
      ∃ (m' : ℕ) (e' : ℤ) (positive' : 0 < m'), parts y = .finite .positive m' e' positive' := by
  have reached := reaches_of_le given le
  have value_pos : (0 : ℚ) < m * 2 ^ e := by positivity
  generalize parts y = v at *
  cases reached with
  | zero q_le => exact absurd value_pos (not_lt_of_ge q_le)
  | infinite => exact .inl rfl
  | finite _ => exact .inr ⟨_, _, _, rfl⟩

/-- The bits hold the significand and the exponent. -/
theorem magnitude_of_finite (given : parts x = .finite s m e positive) : magnitude x = ⟨m, e⟩ := by
  have bits_eq : x.toBits.toNat = x.toModel.toBits.toBitVec.toNat := by
    rw [Float.toBits]
    rfl
  unfold parts Float.Model.unpack at given
  simp only [magnitude, bits_eq]
  generalize x.toModel.toBits.toBitVec = bits at given
  have fraction : (@unpackMantissa .binary64 bits).toNat = bits.toNat % leadingUnit := by
    rw [unpackMantissa_def, BitVec.extractLsb'_toNat]
    rfl
  have power : (@unpackExponent .binary64 bits).toNat = bits.toNat / leadingUnit % powerCount := by
    rw [unpackExponent_def, BitVec.extractLsb'_toNat, Nat.shiftRight_eq_div_pow]
    rfl
  rw [← fraction, ← power]
  unfold unpack at given
  dsimp only at given
  split at given
  · split at given <;> cases given
  · split at given
    · rename_i no_power
      split at given
      · cases given
      · cases given
        rw [if_pos (by rw [no_power]; rfl), no_power]
        rfl
    · rename_i has_power
      cases given
      have some_power : (@unpackExponent .binary64 bits).toNat ≠ 0 :=
        fun none => has_power (BitVec.eq_of_toNat_eq none)
      rw [if_neg some_power, toNat_one_append]
      rfl

theorem times_value (m : ℕ) (e : ℤ) (factor : ℕ) :
    0 < ((Magnitude.mk m e).times factor).2 ∧
      (((Magnitude.mk m e).times factor).1 : ℚ) / ((Magnitude.mk m e).times factor).2 =
        m * 2 ^ e * factor := by
  cases e with
  | ofNat up =>
      refine ⟨Nat.one_pos, ?_⟩
      simp only [Magnitude.times, Nat.pow_eq, Int.ofNat_eq_natCast, zpow_natCast]
      push_cast
      ring
  | negSucc down =>
      refine ⟨Nat.pow_pos (by norm_num), ?_⟩
      simp only [Magnitude.times, Nat.pow_eq, zpow_negSucc]
      push_cast
      ring

end Binary64

end TrafficMeter
