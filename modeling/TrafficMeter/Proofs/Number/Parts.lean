import Mathlib
import TrafficMeter.Number.Binary64

/-! # The parts of a binary64 number

Arithmetic takes a number apart into sign, significand and exponent, computes with those and
puts the outcome together again. Of the parts of a number the significand is normal unless
the exponent is the least one, and such parts survive being put together.
-/

namespace TrafficMeter.Binary64

open Float.Model (UnpackedFloat Format pack)
open Float.Model.UnpackedFloat hiding pack

/-- A number as arithmetic reads it. -/
def parts (x : Float) : UnpackedFloat := x.toModel.unpack

def Canonical : UnpackedFloat → Prop
  | .finite _ m e _ => m < 2 ^ 53 ∧ -1074 ≤ e ∧ e ≤ 971 ∧ (2 ^ 52 ≤ m ∨ e = -1074)
  | _ => True

theorem parts_inj {x y : Float} : parts x = parts y ↔ x = y := by
  constructor
  · intro same
    have bits := (unpack_inj_of_valid x.toModel.valid y.toModel.valid).mp same
    rw [← Float.toBits_inj, Float.toBits, Float.toBits]
    exact UInt64.toBitVec_inj.mp bits
  · rintro rfl
    rfl

theorem toNat_one_append (fraction : BitVec 52) :
    (1#1 ++ fraction).toNat = 2 ^ 52 + fraction.toNat := by
  rw [BitVec.toNat_append, ← Nat.shiftLeft_add_eq_or_of_lt fraction.isLt]
  simp [Nat.shiftLeft_eq]

theorem canonical_parts (x : Float) : Canonical (parts x) := by
  unfold parts Float.Model.unpack
  generalize x.toModel.toBits.toBitVec = bits
  have fraction_lt := (@unpackMantissa .binary64 bits).isLt
  have power_lt := (@unpackExponent .binary64 bits).isLt
  unfold unpack
  dsimp only
  split
  · split <;> trivial
  · rename_i not_special
    split
    · rename_i no_power
      split
      · trivial
      · simp only [Canonical, no_power, BitVec.toNat_ofNat]
        norm_num [Format.exponentBias] at *
        omega
    · rename_i power
      simp only [BitVec.toNat_eq] at not_special power
      simp only [Canonical, toNat_one_append]
      norm_num [Format.exponentBias] at *
      omega

private theorem log2_of_normal {m : Nat} (least : 2 ^ 52 ≤ m) (bound : m < 2 ^ 53) :
    m.log2 = 52 :=
  (Nat.log2_eq_iff (by omega)).mpr ⟨least, bound⟩

private theorem unpack_pack_normal (s : Sign) {m : Nat} {e : Int} (positive : 0 < m)
    (least : 2 ^ 52 ≤ m) (bound : m < 2 ^ 53) (lower : -1074 ≤ e) (upper : e ≤ 971) :
    (pack (.finite s m e positive)).unpack = .finite s m e positive := by
  have biased : (e + Format.binary64.exponentBias +
      Format.binary64.mantissaBitsWithoutImplicit).toNat = (e + 1075).toNat := by
    change (e + 1023 + 52).toNat = _
    omega
  have power : (BitVec.ofNat 11 (e + 1075).toNat).toNat = (e + 1075).toNat := by
    rw [BitVec.toNat_ofNat, Nat.mod_eq_of_lt (by omega)]
  have not_special : BitVec.ofNat 11 (e + 1075).toNat ≠ -1#11 := by
    rw [Ne, BitVec.toNat_eq, power]
    norm_num
    omega
  have has_power : BitVec.ofNat 11 (e + 1075).toNat ≠ 0#11 := by
    rw [Ne, BitVec.toNat_eq, power]
    norm_num
    omega
  have significand : (1#1 ++ BitVec.ofNat 52 m).toNat = m := by
    rw [toNat_one_append, BitVec.toNat_ofNat]
    omega
  unfold Float.Model.unpack Float.Model.pack UnpackedFloat.pack
  simp only [log2_of_normal least bound, biased]
  rw [if_neg (by omega), if_pos (by rfl), unpack]
  simp only [unpackMantissa_packComponents, unpackExponent_packComponents,
    unpackSign_packComponents, Sign.ofBitVec_toBitVec, not_special, has_power, if_false,
    significand, power]
  congr 1
  change ((e + 1075).toNat : Int) - (1023 + 52) = e
  omega

private theorem unpack_pack_subnormal (s : Sign) {m : Nat} (positive : 0 < m)
    (bound : m < 2 ^ 52) :
    (pack (.finite s m (-1074) positive)).unpack = .finite s m (-1074) positive := by
  have short : m.log2 < 52 := (Nat.log2_lt (Nat.ne_of_gt positive)).mpr bound
  have not_normal : ¬m.log2 + 1 = Format.binary64.mantissaBits := by
    change ¬m.log2 + 1 = 53
    omega
  have significand : (BitVec.ofNat 52 m).toNat = m := by
    rw [BitVec.toNat_ofNat, Nat.mod_eq_of_lt bound]
  have nonzero : BitVec.ofNat 52 m ≠ 0#52 := by
    rw [Ne, BitVec.toNat_eq, significand]
    norm_num
    omega
  unfold Float.Model.unpack Float.Model.pack UnpackedFloat.pack
  dsimp only
  rw [if_neg (by decide), if_neg not_normal, unpack]
  simp only [unpackMantissa_packComponents, unpackExponent_packComponents,
    unpackSign_packComponents, Sign.ofBitVec_toBitVec, nonzero, significand]
  rfl

theorem unpack_pack {u : UnpackedFloat} (canonical : Canonical u) : (pack u).unpack = u := by
  match u, canonical with
  | .notANumber, _ => rfl
  | .infinity s, _ => cases s <;> rfl
  | .zero s, _ => cases s <;> rfl
  | .finite s m e positive, ⟨bound, lower, upper, normal⟩ =>
      by_cases least : 2 ^ 52 ≤ m
      · exact unpack_pack_normal s positive least bound lower upper
      · obtain rfl := normal.resolve_left least
        exact unpack_pack_subnormal s positive (Nat.lt_of_not_le least)

theorem unpack_pack_zero (s : Sign) : (pack (.zero s)).unpack = .zero s :=
  unpack_pack (show Canonical (.zero s) from trivial)

theorem unpack_pack_notANumber : (pack (.notANumber : UnpackedFloat)).unpack = .notANumber := rfl

/-- An exponent past the largest one makes an infinity. -/
theorem unpack_pack_overflow (s : Sign) (m : Nat) {e : Int} (positive : 0 < m) (large : 971 < e) :
    (pack (.finite s m e positive)).unpack = .infinity s := by
  have past : 2 ^ Format.binary64.exponentBits ≤
      (e + Format.binary64.exponentBias +
        Format.binary64.mantissaBitsWithoutImplicit).toNat + 1 := by
    change 2048 ≤ (e + 1023 + 52).toNat + 1
    omega
  unfold Float.Model.unpack Float.Model.pack UnpackedFloat.pack
  simp only [if_pos past]
  cases s <;> rfl

end TrafficMeter.Binary64
