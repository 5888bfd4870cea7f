import TrafficMeter.Proofs.Number.Places
import TrafficMeter.Rate.Units

/-! # The number and the unit of a rate

A count of bytes is divided by a thousand as long as it reaches one, every quotient is rounded, and
the last one is rounded again to one place. The unit is the largest one that the count reaches, and
the number is the nearest one with its places; only the roundings of a terabyte's quotient add to
that. But the unit is settled before the place is rounded, so the number of any other unit is a
thousand if the count is no more than half a place below the next unit.
-/

namespace TrafficMeter

open Binary64

namespace ByteUnit

/-- How many times a unit is a thousand bytes to one. -/
def scale : ByteUnit → ℕ
  | byte => 0
  | kilobyte => 1
  | megabyte => 2
  | gigabyte => 3
  | terabyte => 4

/-- The bytes of a unit. -/
def size (unit : ByteUnit) : ℕ := 1000 ^ unit.scale

/-- A unit is the largest one that a count of bytes reaches; every count reaches the byte. -/
structure Largest (unit : ByteUnit) (bytes : ℕ) : Prop where
  reached : unit = byte ∨ unit.size ≤ bytes
  largest (other : ByteUnit) (reached : other.size ≤ bytes) : other.size ≤ unit.size

/-- How far the number of a unit may be from a quotient: half of its last place, and what five
roundings change in terabytes. -/
def tolerance (quotient : ℚ) : ByteUnit → ℚ
  | byte => 0
  | kilobyte | megabyte | gigabyte => 1 / 20
  | terabyte => 1 / 20 + quotient * (slack ^ 5 - 1)

end ByteUnit

/-- The number and the unit that a text shows; a byte has no places, all others have one. -/
inductive Shows : String → ℚ → ByteUnit → Prop where
  | bytes (n : ℕ) : Shows (Decimal.text n ++ " " ++ ByteUnit.byte.symbol) n .byte
  | tenths (n : ℕ) (unit : ByteUnit) (larger : unit ≠ .byte) :
      Shows (Decimal.text (n / 10) ++ "." ++ Decimal.text (n % 10) ++ " " ++ unit.symbol) (n / 10)
        unit

section Division

variable {bytes : UInt64} {d j k n : ℕ} {value : Float} {p : ℚ}

/-- A value left of a count of bytes by some divisions by a thousand, every one of them rounded. It
passes every power of a thousand that the quotient passes. -/
structure Divided (bytes : UInt64) (k : ℕ) (value : Float) (p : ℚ) : Prop where
  holds : Holds (parts value) p
  within : Within (k + 1) p (bytes.toNat / (1000 ^ k : ℕ))
  passed (j : ℕ) (reached : 1000 ^ (k + j) ≤ bytes.toNat) : 1000 ^ j ≤ p

theorem holds_thousand : Holds (parts 1000) 1000 := by
  have shape : parts 1000 = .finite .positive (1000 * 2 ^ 43) (-43) (by norm_num) := rfl
  have value : (1000 : ℚ) = (1000 * 2 ^ 43 : ℕ) * 2 ^ (-43 : ℤ) := by norm_num
  rw [shape, value]
  exact .finite

theorem le_six_of_reached (reached : 1000 ^ k ≤ bytes.toNat) : k ≤ 6 := by
  have word := bytes.toNat_lt
  by_contra many
  have large : 1000 ^ 7 ≤ 1000 ^ k := Nat.pow_le_pow_right (by norm_num) (by omega)
  omega

theorem representable_thousands (few : j ≤ 6) : Representable (1000 ^ j) := by
  refine ⟨125 ^ j, 3 * j, ?_, by omega, ?_⟩
  · exact (Nat.pow_le_pow_right (by norm_num) few).trans (by norm_num)
  · rw [zpow_mul, zpow_natCast, Nat.cast_pow, ← mul_pow]
    norm_num

theorem divided_toFloat (bytes : UInt64) : ∃ p, Divided bytes 0 bytes.toFloat p := by
  obtain ⟨p, holds, rounded⟩ := exists_toFloat bytes
  refine ⟨p, holds, ?_, ?_⟩
  · rw [pow_zero, Nat.cast_one, div_one]
    exact rounded.within
  · intro j reached
    rw [Nat.zero_add] at reached
    have some_bytes := lt_of_lt_of_le (Nat.pow_pos (by norm_num)) reached
    apply holds.le_toFloat some_bytes (representable_thousands (le_six_of_reached reached))
    exact_mod_cast reached

theorem Divided.step (divided : Divided bytes k value p) (reached : 1000 ^ (k + 1) ≤ bytes.toNat) :
    ∃ q, Divided bytes (k + 1) (value / 1000) q := by
  obtain ⟨holds, within, passed⟩ := divided
  have few := le_six_of_reached reached
  have thousand_le : 1000 ≤ p := by simpa using passed 1 reached
  have word : (bytes.toNat : ℚ) < 2 ^ 64 := by exact_mod_cast bytes.toNat_lt
  have one_le : (1 : ℚ) ≤ (1000 ^ k : ℕ) := by exact_mod_cast Nat.one_le_pow k 1000 (by norm_num)
  have quotient_le : (bytes.toNat : ℚ) / (1000 ^ k : ℕ) ≤ bytes.toNat :=
    div_le_self (Nat.cast_nonneg _) one_le
  obtain ⟨most, _⟩ := within.le_double (by omega) (by linarith) (by positivity)
  have ordinary : Ordinary (p / 1000) := ordinary_of_le (by linarith) (by linarith)
  obtain ⟨q, held, rounded⟩ := holds.div holds_thousand (by norm_num) fun _ => ordinary
  refine ⟨q, held, ?_, ?_⟩
  · have thousandth := within.mul_right (r := 1 / 1000) (by norm_num)
    have same : (bytes.toNat : ℚ) / (1000 ^ k : ℕ) * (1 / 1000) =
        bytes.toNat / (1000 ^ (k + 1) : ℕ) := by
      rw [pow_succ]
      push_cast
      field_simp
    rw [same, mul_one_div] at thousandth
    have both := rounded.within.trans thousandth
    rwa [Nat.add_comm] at both
  · intro j more
    have deeper : k + 1 + j = k + (j + 1) := by omega
    have few := le_six_of_reached more
    apply holds.le_div holds_thousand held (by linarith) (by norm_num)
      (representable_thousands (by omega))
    rw [← pow_succ]
    rw [deeper] at more
    exact passed (j + 1) more

/-- The few roundings of a quotient of so few bytes do not move it past another one. -/
theorem scaled_near (within : Within k p (n / d)) (few : k ≤ 4) (n_le : n ≤ 10 ^ 12)
    (d_pos : 0 < d) : |p * d - n| < 1 / 4 := by
  have d_pos : (0 : ℚ) < d := by exact_mod_cast d_pos
  have n_le : (n : ℚ) ≤ 10 ^ 12 := by exact_mod_cast n_le
  have n_nonneg : (0 : ℚ) ≤ n := Nat.cast_nonneg n
  have slack_le : slack ^ k ≤ 1 + 1 / 2 ^ 50 :=
    (pow_le_pow_right₀ (by norm_num [slack]) few).trans (by norm_num [slack])
  obtain ⟨upper, lower⟩ := within
  rw [div_mul_eq_mul_div, le_div_iff₀ d_pos] at upper
  rw [div_le_iff₀ d_pos, mul_right_comm] at lower
  have upper : p * d ≤ n + n / 2 ^ 50 := by
    have := mul_le_mul_of_nonneg_left slack_le n_nonneg
    linarith
  have value_nonneg : 0 ≤ p * d := by
    have := slack_pow_pos k
    by_contra negative
    have := mul_neg_of_neg_of_pos (not_le.mp negative) this
    linarith
  have lower : n ≤ p * d + p * d / 2 ^ 50 := by
    have := mul_le_mul_of_nonneg_left slack_le value_nonneg
    linarith
  rw [abs_lt]
  constructor <;> linarith

theorem Divided.thousand_le_iff (divided : Divided bytes k value p) (few : k ≤ 3) :
    1000 ≤ value ↔ 1000 ^ (k + 1) ≤ bytes.toNat := by
  rw [holds_thousand.le_iff divided.holds]
  constructor
  · intro large
    by_contra short
    have n_le : bytes.toNat ≤ 10 ^ 12 := by
      have most : 1000 ^ (k + 1) ≤ 1000 ^ 4 := Nat.pow_le_pow_right (by norm_num) (by omega)
      omega
    have near := (abs_lt.mp (scaled_near divided.within (by omega) n_le (by positivity))).2
    have power_nonneg : (0 : ℚ) ≤ (1000 ^ k : ℕ) := Nat.cast_nonneg _
    have scaled := mul_le_mul_of_nonneg_right large power_nonneg
    have below : ((1000 ^ (k + 1) : ℕ) : ℚ) < bytes.toNat + 1 := by
      rw [pow_succ']
      push_cast at *
      linarith
    have below : 1000 ^ (k + 1) < bytes.toNat + 1 := by exact_mod_cast below
    omega
  · intro reached
    simpa using divided.passed 1 reached

end Division

namespace ByteUnit

variable {bytes : UInt64} {unit : ByteUnit} {rest : List ByteUnit} {value : Float} {p : ℚ}

theorem scale_le (unit : ByteUnit) : unit.scale ≤ 4 := by
  cases unit <;> decide

theorem size_pos (unit : ByteUnit) : 0 < unit.size := Nat.pow_pos (by norm_num)

/-- The units follow each other up to the last one. -/
def Ascends (unit : ByteUnit) : List ByteUnit → Prop
  | [] => unit = terabyte
  | next :: rest => next.scale = unit.scale + 1 ∧ Ascends next rest

theorem ascends_larger : Ascends byte larger := by
  simp [Ascends, larger, scale]

/-- A unit that the bytes reach while they do not reach the next one, with their value in it. -/
structure Fits (bytes : UInt64) (value : Float) (unit : ByteUnit) (p : ℚ) : Prop where
  divided : Divided bytes unit.scale value p
  reached : unit = byte ∨ unit.size ≤ bytes.toNat
  below : unit = terabyte ∨ bytes.toNat < 1000 * unit.size

theorem exists_fit (ascends : Ascends unit rest) (divided : Divided bytes unit.scale value p)
    (reached : unit = byte ∨ unit.size ≤ bytes.toNat) :
    ∃ q, Fits bytes (fit value unit rest).1 (fit value unit rest).2 q := by
  induction rest generalizing value unit p with
  | nil => exact ⟨p, divided, reached, .inl ascends⟩
  | cons next rest ih =>
      obtain ⟨above, ascends⟩ := ascends
      have last := next.scale_le
      have enters := divided.thousand_le_iff (by omega)
      rw [fit]
      split
      · rename_i large
        have reached := enters.mp large
        obtain ⟨q, stepped⟩ := divided.step reached
        rw [← above] at stepped reached
        exact ih ascends stepped (.inr reached)
      · rename_i small
        rw [enters, pow_succ'] at small
        exact ⟨p, divided, reached, .inr (not_le.mp small)⟩

theorem Fits.largest (fits : Fits bytes value unit p) : unit.Largest bytes.toNat := by
  refine ⟨fits.reached, fun other reached => Nat.pow_le_pow_right (by norm_num) ?_⟩
  rcases fits.below with rfl | below
  · exact other.scale_le
  · rw [size, ← pow_succ'] at below
    have less := (Nat.pow_lt_pow_iff_right (by norm_num)).mp (reached.trans_lt below)
    omega

/-- The tenths of its unit that the text of a value shows. -/
def tenths (value : Float) : ℕ := (magnitude value).toPlaces 1

theorem Fits.within (fits : Fits bytes value unit p) :
    Within (unit.scale + 1) p (bytes.toNat / unit.size) := fits.divided.within

theorem Fits.one_le (fits : Fits bytes value unit p) (larger : unit ≠ byte) : 1 ≤ p := by
  simpa using fits.divided.passed 0 (fits.reached.resolve_left larger)

theorem Fits.tenths_near (fits : Fits bytes value unit p) (larger : unit ≠ byte) :
    |(tenths value : ℚ) - p * 10| ≤ 1 / 2 ∧ 10 ≤ tenths value := by
  have one_le := fits.one_le larger
  have near := toPlaces_near fits.divided.holds (by linarith) 1
  rw [pow_one] at near
  have above : (9 : ℚ) < tenths value := by
    have := (abs_le.mp near).1
    rw [tenths]
    linarith
  have above : 9 < tenths value := by exact_mod_cast above
  exact ⟨near, above⟩

theorem Fits.shows (fits : Fits bytes value unit p) (larger : unit ≠ byte) :
    Shows (String.ofList (fixed 1 value) ++ " " ++ unit.symbol) (tenths value / 10) unit := by
  obtain ⟨_, whole⟩ := fits.tenths_near larger
  have one_le := fits.one_le larger
  have text : String.ofList (fixed 1 value) =
      Decimal.text (tenths value / 10) ++ "." ++ Decimal.text (tenths value % 10) := by
    rw [fixed_of_holds fits.divided.holds (by linarith), ← tenths, placeText_one whole]
    simp [Decimal.text, String.append_assoc]
  rw [text]
  exact .tenths _ _ larger

theorem exists_tenth (larger : unit ≠ byte) : ∃ tenth, 0 < tenth ∧ unit.size = 10 * tenth := by
  cases unit with
  | byte => exact absurd rfl larger
  | kilobyte => exact ⟨10 ^ 2, by decide, by decide⟩
  | megabyte => exact ⟨10 ^ 5, by decide, by decide⟩
  | gigabyte => exact ⟨10 ^ 8, by decide, by decide⟩
  | terabyte => exact ⟨10 ^ 11, by decide, by decide⟩

/-- Below a terabyte the tenths are the nearest ones: what the roundings add to half a tenth is not
enough for another byte. -/
theorem Fits.tenths_within {tenth : ℕ} (fits : Fits bytes value unit p) (larger : unit ≠ byte)
    (smaller : unit ≠ terabyte) (tenth_pos : 0 < tenth) (size_eq : unit.size = 10 * tenth) :
    2 * bytes.toNat ≤ 2 * (tenths value * tenth) + tenth ∧
      2 * (tenths value * tenth) ≤ 2 * bytes.toNat + tenth := by
  have below := fits.below.resolve_left smaller
  have few : unit.scale ≤ 3 := by
    cases unit with
    | terabyte => exact absurd rfl smaller
    | byte | kilobyte | megabyte | gigabyte => decide
  have n_le : bytes.toNat ≤ 10 ^ 12 := by
    have most : unit.size ≤ 1000 ^ 3 := Nat.pow_le_pow_right (by norm_num) few
    omega
  obtain ⟨near_lower, near_upper⟩ :=
    abs_lt.mp (scaled_near fits.within (by omega) n_le unit.size_pos)
  obtain ⟨lower, upper⟩ := abs_le.mp (fits.tenths_near larger).1
  have tenth_pos : (0 : ℚ) < tenth := by exact_mod_cast tenth_pos
  have lower := mul_le_mul_of_nonneg_right lower tenth_pos.le
  have upper := mul_le_mul_of_nonneg_right upper tenth_pos.le
  rw [size_eq] at near_lower near_upper
  push_cast at near_lower near_upper
  have above : (2 * bytes.toNat : ℚ) < 2 * (tenths value * tenth) + tenth + 1 := by linarith
  have below : (2 * (tenths value * tenth) : ℚ) < 2 * bytes.toNat + tenth + 1 := by linarith
  constructor
  · exact Nat.le_of_lt_succ (by exact_mod_cast above)
  · exact Nat.le_of_lt_succ (by exact_mod_cast below)

/-- Half a tenth below the next unit is a tie, and the tenths go up. -/
theorem tenths_tie (larger : unit ≠ byte) (smaller : unit ≠ terabyte)
    (tie : 20 * bytes.toNat = 19999 * unit.size) :
    tenths (fit bytes.toFloat byte ByteUnit.larger).1 = 10000 := by
  have known {n : ℕ} (same : bytes.toNat = n) : bytes = UInt64.ofNat n := by
    rw [← same, UInt64.ofNat_toNat]
  cases unit with
  | byte => exact absurd rfl larger
  | terabyte => exact absurd rfl smaller
  | kilobyte =>
      change 20 * bytes.toNat = 19999 * 1000 at tie
      rw [known (show bytes.toNat = 999950 by omega)]
      decide +kernel
  | megabyte =>
      change 20 * bytes.toNat = 19999 * 1000000 at tie
      rw [known (show bytes.toNat = 999950000 by omega)]
      decide +kernel
  | gigabyte =>
      change 20 * bytes.toNat = 19999 * 1000000000 at tie
      rw [known (show bytes.toNat = 999950000000 by omega)]
      decide +kernel

theorem Fits.tenths_le (larger : unit ≠ byte) (smaller : unit ≠ terabyte)
    (given : fit bytes.toFloat byte ByteUnit.larger = (value, unit))
    (fits : Fits bytes value unit p) :
    tenths value ≤ 10000 ∧ (tenths value = 10000 ↔ 19999 * unit.size ≤ 20 * bytes.toNat) := by
  obtain ⟨tenth, tenth_pos, size_eq⟩ := exists_tenth larger
  obtain ⟨most, least⟩ := fits.tenths_within larger smaller tenth_pos size_eq
  have below := fits.below.resolve_left smaller
  have tie (same : 20 * bytes.toNat = 19999 * unit.size) : tenths value = 10000 := by
    have up := tenths_tie larger smaller same
    rwa [given] at up
  rw [size_eq] at below tie ⊢
  refine ⟨?_, ?_, ?_⟩
  · by_contra more
    have := Nat.mul_le_mul_right tenth (show 10001 ≤ tenths value by omega)
    omega
  · intro thousand
    rw [thousand] at least
    omega
  · intro near
    by_contra other
    rcases Nat.lt_or_gt_of_ne other with less | more
    · have := Nat.mul_le_mul_right tenth (show tenths value ≤ 9999 by omega)
      exact other (tie (by omega))
    · have := Nat.mul_le_mul_right tenth (show 10001 ≤ tenths value by omega)
      omega

theorem Fits.near_smaller (fits : Fits bytes value unit p) (larger : unit ≠ byte)
    (smaller : unit ≠ terabyte) :
    |(tenths value / 10 : ℚ) - bytes.toNat / unit.size| ≤ 1 / 20 := by
  obtain ⟨tenth, tenth_pos, size_eq⟩ := exists_tenth larger
  obtain ⟨most, least⟩ := fits.tenths_within larger smaller tenth_pos size_eq
  have tenth_pos : (0 : ℚ) < tenth := by exact_mod_cast tenth_pos
  have most : (2 * bytes.toNat : ℚ) ≤ 2 * (tenths value * tenth) + tenth := by exact_mod_cast most
  have least : (2 * (tenths value * tenth) : ℚ) ≤ 2 * bytes.toNat + tenth := by
    exact_mod_cast least
  have scaled : (tenths value / 10 : ℚ) - bytes.toNat / unit.size =
      (2 * (tenths value * tenth) - 2 * bytes.toNat) / (20 * tenth) := by
    rw [size_eq]
    push_cast
    field_simp
    ring
  rw [scaled, abs_le, le_div_iff₀ (by positivity), div_le_iff₀ (by positivity)]
  constructor <;> linarith

theorem Fits.near_terabyte (fits : Fits bytes value terabyte p) :
    |(tenths value / 10 : ℚ) - bytes.toNat / terabyte.size| ≤
      terabyte.tolerance (bytes.toNat / terabyte.size) := by
  obtain ⟨lower, upper⟩ := abs_le.mp (fits.tenths_near (by decide)).1
  obtain ⟨most, least⟩ := fits.within
  have exact_nonneg : (0 : ℚ) ≤ bytes.toNat / terabyte.size := by positivity
  generalize (bytes.toNat : ℚ) / terabyte.size = q at *
  have five : terabyte.scale + 1 = 5 := rfl
  rw [five] at most least
  have slack_ge := one_le_slack_pow 5
  have smallest : q ≤ p + q * (slack ^ 5 - 1) := by
    rcases le_total q p with le | le
    · have := mul_nonneg exact_nonneg (sub_nonneg.mpr slack_ge)
      linarith
    · have := mul_le_mul_of_nonneg_right le (sub_nonneg.mpr slack_ge)
      linarith
  rw [tolerance, abs_le]
  constructor <;> linarith

theorem Fits.number_near (fits : Fits bytes value unit p) (larger : unit ≠ byte) :
    |(tenths value / 10 : ℚ) - bytes.toNat / unit.size| ≤
      unit.tolerance (bytes.toNat / unit.size) := by
  cases unit with
  | byte => exact absurd rfl larger
  | kilobyte | megabyte | gigabyte => exact fits.near_smaller larger (by decide)
  | terabyte => exact fits.near_terabyte

end ByteUnit

section Texts

variable {bytes : UInt64} {text : String} {number : ℚ} {unit : ByteUnit} {value : Float} {p : ℚ}

theorem exists_fits (bytes : UInt64) :
    ∃ value unit p, ByteUnit.fit bytes.toFloat .byte ByteUnit.larger = (value, unit) ∧
      unit.Fits bytes value p := by
  obtain ⟨_, divided⟩ := divided_toFloat bytes
  obtain ⟨p, fits⟩ := ByteUnit.exists_fit ByteUnit.ascends_larger divided (.inl rfl)
  exact ⟨_, _, p, rfl, fits⟩

theorem shows_bytes (given : ByteUnit.fit bytes.toFloat .byte ByteUnit.larger = (value, .byte)) :
    Shows (bytesText bytes) bytes.toNat .byte := by
  have text : bytesText bytes = Decimal.text bytes.toNat ++ " " ++ ByteUnit.byte.symbol := by
    rw [bytesText, given]
  rw [text]
  exact .bytes _

theorem shows_tenths (given : ByteUnit.fit bytes.toFloat .byte ByteUnit.larger = (value, unit))
    (fits : unit.Fits bytes value p) (larger : unit ≠ .byte) :
    Shows (bytesText bytes) (ByteUnit.tenths value / 10) unit := by
  have text : bytesText bytes = String.ofList (fixed 1 value) ++ " " ++ unit.symbol := by
    rw [bytesText, given]
    cases unit with
    | byte => exact absurd rfl larger
    | kilobyte | megabyte | gigabyte | terabyte => rfl
  rw [text]
  exact fits.shows larger

theorem exists_shows (bytes : UInt64) : ∃ number unit, Shows (bytesText bytes) number unit := by
  obtain ⟨value, unit, p, given, fits⟩ := exists_fits bytes
  by_cases smallest : unit = .byte
  · subst smallest
    exact ⟨_, _, shows_bytes given⟩
  · exact ⟨_, _, shows_tenths given fits smallest⟩

/-- An amount is made of digits, letters, points and spaces. -/
theorem Shows.plain (shows : Shows text number unit) :
    ∀ c ∈ text.toList, c.isAlphanum = true ∨ c = '.' ∨ c = ' ' := by
  have digit {n : ℕ} {c : Char} (inside : c ∈ Decimal.digits n) : c.isAlphanum = true := by
    have digit := Nat.isDigit_of_mem_toDigits (b := 10) (by decide) (by decide) inside
    simp [Char.isAlphanum, digit]
  have letter (unit : ByteUnit) : unit.symbol.toList.all Char.isAlphanum = true := by
    cases unit <;> decide
  have point {c : Char} (inside : c ∈ ".".toList) : c = '.' := by simpa using inside
  have space {c : Char} (inside : c ∈ " ".toList) : c = ' ' := by simpa using inside
  intro c inside
  cases shows with
  | bytes n =>
      simp only [Decimal.text, String.toList_append, String.toList_ofList, List.mem_append]
        at inside
      rcases inside with (inside | inside) | inside
      · exact .inl (digit inside)
      · exact .inr (.inr (space inside))
      · exact .inl (List.all_eq_true.mp (letter _) c inside)
  | tenths n unit larger =>
      simp only [Decimal.text, String.toList_append, String.toList_ofList, List.mem_append]
        at inside
      rcases inside with (((inside | inside) | inside) | inside) | inside
      · exact .inl (digit inside)
      · exact .inr (.inl (point inside))
      · exact .inl (digit inside)
      · exact .inr (.inr (space inside))
      · exact .inl (List.all_eq_true.mp (letter _) c inside)

end Texts

/-- The text of a rate is a number and its unit, the largest one that the bytes reach. The number is
at least one, unless the unit is the byte, and as near as its places allow. Below a terabyte it is
at most a thousand, and it is a thousand from half a place below the next unit on. -/
theorem byteRateText_shows (bytes : UInt64) :
    ∃ (text : String) (number : ℚ) (unit : ByteUnit),
      byteRateText bytes = text ++ "/s" ∧ Shows text number unit ∧ unit.Largest bytes.toNat ∧
      (unit ≠ .byte → 1 ≤ number) ∧
      |number - bytes.toNat / unit.size| ≤ unit.tolerance (bytes.toNat / unit.size) ∧
      (unit ≠ .terabyte →
        number ≤ 1000 ∧ (number = 1000 ↔ 19999 * unit.size ≤ 20 * bytes.toNat)) := by
  obtain ⟨value, unit, p, given, fits⟩ := exists_fits bytes
  refine ⟨bytesText bytes, ?_⟩
  by_cases smallest : unit = .byte
  · subst smallest
    have below := fits.below.resolve_left (by decide)
    have size : ByteUnit.byte.size = 1 := rfl
    have few : (bytes.toNat : ℚ) < 1000 := by exact_mod_cast below
    refine ⟨bytes.toNat, .byte, rfl, shows_bytes given, fits.largest, absurd rfl, ?_, ?_⟩
    · simp [size, ByteUnit.tolerance]
    · intro _
      refine ⟨few.le, iff_of_false few.ne ?_⟩
      omega
  · obtain ⟨_, whole⟩ := fits.tenths_near smallest
    have one_le : (10 : ℚ) ≤ ByteUnit.tenths value := by exact_mod_cast whole
    refine ⟨ByteUnit.tenths value / 10, unit, rfl, shows_tenths given fits smallest, fits.largest,
      ?_, ?_, ?_⟩
    · intro _
      linarith
    · exact fits.number_near smallest
    · intro smaller
      obtain ⟨most, iff⟩ := fits.tenths_le smallest smaller given
      have thousand : (1000 * 10 : ℚ) = (10000 : ℕ) := by norm_num
      rw [← iff, div_eq_iff (by norm_num), div_le_iff₀ (by norm_num), thousand]
      exact ⟨by exact_mod_cast most, by norm_cast⟩

/-- The number next to a unit is a thousand where the next unit has the number one. -/
theorem not_below_thousand :
    ¬∀ (bytes : UInt64) (text : String) (number : ℚ) (unit : ByteUnit),
      byteRateText bytes = text ++ "/s" → Shows text number unit →
        number < 1000 ∨ unit = .terabyte := by
  intro always
  have text : byteRateText 999999 = "1000.0 kB" ++ "/s" := by decide +kernel
  have shows : Shows "1000.0 kB" ((10000 : ℕ) / 10) .kilobyte := .tenths 10000 .kilobyte (by decide)
  rcases always 999999 _ _ _ text shows with less | last
  · norm_num at less
  · cases last

end TrafficMeter
