/-! # Rounding a quotient

The nearest whole number to a quotient of naturals, a tie going to the even
neighbour. Every exact text and every conversion to nanoseconds rounds here.
-/

namespace TrafficMeter

/-- The whole number nearest to `num / den`; a tie goes to the even one. -/
def roundQuotient (num den : Nat) : Nat :=
  let below := num / den
  let rest := num % den
  if 2 * rest < den then below
  else if den < 2 * rest then below + 1
  else if below % 2 = 0 then below
  else below + 1

theorem div_le_roundQuotient (num den : Nat) : num / den ≤ roundQuotient num den := by
  unfold roundQuotient
  dsimp only
  split
  · exact Nat.le_refl _
  · split
    · exact Nat.le_succ _
    · split
      · exact Nat.le_refl _
      · exact Nat.le_succ _

theorem roundQuotient_le_div_add_one (num den : Nat) :
    roundQuotient num den ≤ num / den + 1 := by
  unfold roundQuotient
  dsimp only
  split
  · exact Nat.le_succ _
  · split
    · exact Nat.le_refl _
    · split
      · exact Nat.le_succ _
      · exact Nat.le_refl _

/-- The rounded quotient is at most half a unit away from the exact one. -/
theorem roundQuotient_within_half {num den : Nat} (h : 0 < den) :
    2 * num ≤ 2 * (roundQuotient num den * den) + den ∧
      2 * (roundQuotient num den * den) ≤ 2 * num + den := by
  have split_num : num / den * den + num % den = num := by
    rw [Nat.mul_comm]
    exact Nat.div_add_mod num den
  have rest_lt : num % den < den := Nat.mod_lt _ h
  have succ_mul : (num / den + 1) * den = num / den * den + den := Nat.succ_mul _ _
  unfold roundQuotient
  dsimp only
  split
  · omega
  · split
    · rw [succ_mul]
      omega
    · split
      · omega
      · rw [succ_mul]
        omega

/-- A quotient without remainder is kept. -/
theorem roundQuotient_mul_self {den : Nat} (n : Nat) (h : 0 < den) :
    roundQuotient (n * den) den = n := by
  have rest : n * den % den = 0 := Nat.mul_mod_left n den
  have below : n * den / den = n := Nat.mul_div_cancel n h
  simp only [roundQuotient, rest, below, Nat.mul_zero, h, if_true]

end TrafficMeter
