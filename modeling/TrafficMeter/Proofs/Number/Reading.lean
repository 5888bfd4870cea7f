import Mathlib.Data.List.TakeWhile
import TrafficMeter.Number.Decimal

/-! # Reading back decimal numerals

A numeral is a plus sign or none, and then at least one digit. Reading accepts exactly the
numerals of the numbers up to its bound. What it says of any other text depends on the digits
in front: either they go past the bound by themselves, or they do not reach the end.
-/

namespace TrafficMeter.Decimal

variable {max n : Nat} {cs : List Char}

/-- The number that a string of digits denotes. -/
abbrev value (digits : List Char) : Nat := Nat.ofDigitChars 10 digits 0

/-- The text is a numeral of the number. -/
inductive Denotes : List Char → Nat → Prop where
  | plain {digits} (some_digit : digits ≠ []) (only_digits : ∀ c ∈ digits, c.isDigit = true) :
      Denotes digits (value digits)
  | signed {digits} (some_digit : digits ≠ []) (only_digits : ∀ c ∈ digits, c.isDigit = true) :
      Denotes ('+' :: digits) (value digits)

/-- A text without one plus sign in front. -/
def unsigned : List Char → List Char
  | '+' :: cs => cs
  | cs => cs

/-- What is wrong with a text that is no numeral up to the bound. -/
def fault (max : Nat) (cs : List Char) : NumeralError :=
  if cs = [] then .empty
  else if max < value ((unsigned cs).takeWhile Char.isDigit) then .tooLarge
  else .invalidDigit

section Digits

theorem digitValue?_of_digit {c : Char} (digit : c.isDigit = true) :
    digitValue? c = some (c.toNat - '0'.toNat) := by
  rw [digitValue?, if_pos digit]

theorem digitValue?_of_other {c : Char} (other : c.isDigit = false) : digitValue? c = none := by
  rw [digitValue?, if_neg (by simp [other])]

/-- Further digits only add to a value. -/
theorem le_ofDigitChars (digits : List Char) (first : Nat) :
    first ≤ Nat.ofDigitChars 10 digits first := by
  induction digits generalizing first with
  | nil => simp
  | cons c digits ih =>
      rw [Nat.ofDigitChars_cons]
      exact Nat.le_trans (by omega) (ih _)

/-- The digits in front are read first, so that a number past the bound is noticed before
anything behind it. -/
theorem readFrom_eq (cs : List Char) {first : Nat} (small : first ≤ max) :
    readFrom max first cs =
      if max < Nat.ofDigitChars 10 (cs.takeWhile Char.isDigit) first then .error .tooLarge
      else if cs.all Char.isDigit then .ok (Nat.ofDigitChars 10 cs first)
      else .error .invalidDigit := by
  induction cs generalizing first with
  | nil => simp [readFrom, Nat.not_lt.mpr small]
  | cons c cs ih =>
      cases digit : c.isDigit with
      | false =>
          simp [readFrom, digitValue?_of_other digit, digit, Nat.not_lt.mpr small]
      | true =>
          have taken : (c :: cs).takeWhile Char.isDigit = c :: cs.takeWhile Char.isDigit := by
            simp [digit]
          simp only [readFrom, digitValue?_of_digit digit, taken, Nat.ofDigitChars_cons,
            List.all_cons, digit, Bool.true_and]
          by_cases large : max < 10 * first + (c.toNat - '0'.toNat)
          · have past := le_ofDigitChars (cs.takeWhile Char.isDigit)
              (10 * first + (c.toNat - '0'.toNat))
            rw [if_pos large, if_pos (by omega)]
          · rw [if_neg large, ih (by omega)]

end Digits

section Numerals

theorem unsigned_of_ne {c : Char} (other : c ≠ '+') : unsigned (c :: cs) = c :: cs := by
  unfold unsigned
  split <;> simp_all

theorem unsigned_of_digits (only_digits : ∀ c ∈ cs, c.isDigit = true) : unsigned cs = cs := by
  cases cs with
  | nil => rfl
  | cons c cs =>
      have digit := only_digits c (by simp)
      exact unsigned_of_ne (by rintro rfl; simp at digit)

theorem denotes_iff :
    Denotes cs n ↔
      unsigned cs ≠ [] ∧ (∀ c ∈ unsigned cs, c.isDigit = true) ∧ value (unsigned cs) = n := by
  constructor
  · rintro (⟨some_digit, only_digits⟩ | ⟨some_digit, only_digits⟩)
    · rw [unsigned_of_digits only_digits]
      exact ⟨some_digit, only_digits, rfl⟩
    · exact ⟨some_digit, only_digits, rfl⟩
  · rintro ⟨some_digit, only_digits, rfl⟩
    cases cs with
    | nil => exact .plain some_digit only_digits
    | cons c cs =>
        by_cases sign : c = '+'
        · subst sign
          exact .signed some_digit only_digits
        · rw [unsigned_of_ne sign] at some_digit only_digits ⊢
          exact .plain some_digit only_digits

theorem read_of_ne_nil (some_char : cs ≠ []) :
    read max cs =
      if unsigned cs = [] then .error .invalidDigit else readFrom max 0 (unsigned cs) := by
  cases cs with
  | nil => exact absurd rfl some_char
  | cons c cs =>
      by_cases sign : c = '+'
      · subst sign
        cases cs <;> rfl
      · rw [unsigned_of_ne sign]
        unfold read
        split <;> simp_all

/-- The first fault decides. -/
theorem read_eq_error_of_not_denotes (none : ¬∃ n, Denotes cs n ∧ n ≤ max) :
    read max cs = .error (fault max cs) := by
  unfold fault
  by_cases some_char : cs = []
  · subst some_char
    rfl
  · rw [if_neg some_char, read_of_ne_nil some_char]
    by_cases some_digit : unsigned cs = []
    · simp [some_digit]
    · rw [if_neg some_digit, readFrom_eq _ (Nat.zero_le max)]
      split
      · rfl
      · next small =>
          have stops : ¬(unsigned cs).all Char.isDigit = true := by
            intro all_digits
            have only_digits := List.all_eq_true.mp all_digits
            rw [List.takeWhile_eq_self_iff.mpr only_digits] at small
            exact none ⟨_, denotes_iff.mpr ⟨some_digit, only_digits, rfl⟩, Nat.le_of_not_lt small⟩
          rw [if_neg stops]

theorem read_of_denotes (denotes : Denotes cs n) (small : n ≤ max) : read max cs = .ok n := by
  obtain ⟨some_digit, only_digits, rfl⟩ := denotes_iff.mp denotes
  have some_char : cs ≠ [] := by
    rintro rfl
    exact some_digit rfl
  rw [read_of_ne_nil some_char, if_neg some_digit, readFrom_eq _ (Nat.zero_le max),
    List.takeWhile_eq_self_iff.mpr only_digits, if_neg (Nat.not_lt.mpr small),
    if_pos (List.all_eq_true.mpr only_digits)]

theorem denotes_digits (n : Nat) : Denotes (digits n) n := by
  have shown : value (digits n) = n := Nat.ofDigitChars_toDigits (by decide) (by decide)
  have denotes := Denotes.plain Nat.toDigits_ne_nil fun c inside =>
    Nat.isDigit_of_mem_toDigits (b := 10) (n := n) (by decide) (by decide) inside
  rwa [shown] at denotes

end Numerals

section Words

variable {count : UInt64}

theorem readUInt64_of_denotes (denotes : Denotes cs count.toNat) : readUInt64 cs = .ok count := by
  have small : count.toNat ≤ maxUInt64 := Nat.le_of_lt_succ count.toNat_lt
  rw [readUInt64, read_of_denotes denotes small, Except.map, UInt64.ofNat_toNat]

theorem readUInt64_of_not_denotes (none : ¬∃ count : UInt64, Denotes cs count.toNat) :
    readUInt64 cs = .error (fault maxUInt64 cs) := by
  rw [readUInt64, read_eq_error_of_not_denotes, Except.map]
  rintro ⟨n, denotes, small⟩
  have held : (UInt64.ofNat n).toNat = n :=
    UInt64.toNat_ofNat_of_lt (Nat.lt_succ_of_le small)
  exact none ⟨.ofNat n, by rwa [held]⟩

end Words

end TrafficMeter.Decimal
