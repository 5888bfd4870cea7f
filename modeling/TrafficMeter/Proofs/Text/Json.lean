import TrafficMeter.Proofs.Number.Reading
import TrafficMeter.Text.Json

/-! # Reading JSON text

A reader for any JSON text, made from the grammar of JSON alone: blanks between any two tokens,
every escape, numbers with sign, places and power of ten. Numbers keep their exact value. What is
written for a string or for a number of 64 bits is read back as it was.
-/

namespace TrafficMeter.Json

/-- A JSON value. A number is its significand times a power of ten, and an object keeps the order
of its members. -/
inductive Value where
  | null
  | boolean (value : Bool)
  | number (significand exponent : Int)
  | string (text : String)
  | array (items : List Value)
  | object (members : List (String × Value))

section Strings

/-- The value of a hexadecimal digit of either case. -/
def hexValue? (c : Char) : Option Nat :=
  if c.isDigit then some (c.toNat - '0'.toNat)
  else if 'a' ≤ c ∧ c ≤ 'f' then some (c.toNat - 'a'.toNat + 10)
  else if 'A' ≤ c ∧ c ≤ 'F' then some (c.toNat - 'A'.toNat + 10)
  else none

/-- A code unit of four hexadecimal digits. -/
def unit? (a b c d : Char) : Option Nat := do
  return (((← hexValue? a) * 16 + (← hexValue? b)) * 16 + (← hexValue? c)) * 16 + (← hexValue? d)

/-- The character for one code unit, unless that is half of a pair. -/
def single? (unit : Nat) : Option Char :=
  if 0xD800 ≤ unit ∧ unit < 0xE000 then none else some (Char.ofNat unit)

/-- The character for a pair of code units. -/
def pair? (high low : Nat) : Option Char :=
  if (0xD800 ≤ high ∧ high < 0xDC00) ∧ 0xDC00 ≤ low ∧ low < 0xE000 then
    some (Char.ofNat (0x10000 + (high - 0xD800) * 0x400 + (low - 0xDC00)))
  else none

/-- The character for a letter after a backslash. -/
def escaped? : Char → Option Char
  | '"' => some '"'
  | '\\' => some '\\'
  | '/' => some '/'
  | 'b' => some '\x08'
  | 'f' => some '\x0c'
  | 'n' => some '\n'
  | 'r' => some '\r'
  | 't' => some '\t'
  | _ => none

/-- Puts a character, if there is one, in front of what is read of a string. -/
def push? (first : Option Char) (read : Option (List Char × List Char)) :
    Option (List Char × List Char) := do
  let c ← first
  let (cs, rest) ← read
  return (c :: cs, rest)

/-- The characters of a string up to its closing quote, and the text after that. -/
def readString : List Char → Option (List Char × List Char)
  | [] => none
  | '"' :: rest => some ([], rest)
  | '\\' :: 'u' :: a :: b :: c :: d :: rest =>
      match unit? a b c d with
      | none => none
      | some unit =>
          match single? unit, rest with
          | some char, rest => push? char (readString rest)
          | none, '\\' :: 'u' :: a :: b :: c :: d :: rest =>
              push? ((unit? a b c d).bind (pair? unit)) (readString rest)
          | none, _ => none
  | '\\' :: c :: rest => push? (escaped? c) (readString rest)
  | c :: rest => if c.toNat < 0x20 then none else push? c (readString rest)

theorem hexValue?_digitChar {d : Nat} (digit : d < 16) : hexValue? d.digitChar = some d := by
  revert d
  decide

theorem unit?_of_small {n : Nat} (small : n < 256) :
    unit? '0' '0' (n / 16).digitChar (n % 16).digitChar = some n := by
  have zero : hexValue? '0' = some 0 := rfl
  have high := hexValue?_digitChar (d := n / 16) (by omega)
  have low := hexValue?_digitChar (d := n % 16) (by omega)
  simp only [unit?, zero, high, low, Option.bind_eq_bind, Option.bind_some]
  exact congrArg some (by omega)

/-- What is written for a character is read as that character. -/
theorem readString_escapeChar (c : Char) (rest : List Char) :
    readString (escapeChar c ++ rest) = push? c (readString rest) := by
  unfold escapeChar
  -- seven characters have a letter of their own
  iterate 7
    split
    · subst_vars
      rfl
  split
  · have unit := unit?_of_small (n := c.toNat) (by omega)
    have char : single? c.toNat = some c := by
      rw [single?, if_neg (by omega), Char.ofNat_toNat]
    simp [readString, unit, char]
  · rename_i no_backslash _ _ _ _ _ no_control
    simp [readString, no_backslash, no_control]

theorem readString_string (cs rest : List Char) :
    readString (cs.flatMap escapeChar ++ '"' :: rest) = some (cs, rest) := by
  induction cs with
  | nil => rfl
  | cons c cs ih =>
      rw [List.flatMap_cons, List.append_assoc, readString_escapeChar, ih]
      rfl

end Strings

section Numbers

/-- The digits in front of a text, and the text after them. -/
def readDigits (cs : List Char) : List Char × List Char :=
  (cs.takeWhile Char.isDigit, cs.dropWhile Char.isDigit)

/-- The places after a point, if there is one. -/
def readPlaces : List Char → Option (List Char × List Char)
  | '.' :: rest =>
      let (places, rest) := readDigits rest
      if places = [] then none else some (places, rest)
  | rest => some ([], rest)

/-- A minus sign, if there is one. -/
def readMinus : List Char → Int × List Char
  | '-' :: rest => (-1, rest)
  | rest => (1, rest)

/-- The sign of a power of ten. -/
def readSign : List Char → Int × List Char
  | '+' :: rest => (1, rest)
  | rest => readMinus rest

/-- The power of ten after its mark, if there is one. -/
def readPower : List Char → Option (Int × List Char)
  | [] => some (0, [])
  | c :: rest =>
      if c = 'e' ∨ c = 'E' then
        let (sign, rest) := readSign rest
        let (power, rest) := readDigits rest
        if power = [] then none else some (sign * Decimal.value power, rest)
      else some (0, c :: rest)

/-- A number. A zero in front stands alone. -/
def readNumber (cs : List Char) : Option (Value × List Char) := do
  let (sign, rest) := readMinus cs
  let (whole, rest) := readDigits rest
  if whole = [] ∨ (whole.head? = some '0' ∧ whole ≠ ['0']) then none
  let (places, rest) ← readPlaces rest
  let (power, rest) ← readPower rest
  return (.number (sign * Decimal.value (whole ++ places)) (power - places.length), rest)

/-- Nothing with which a whole number could go on. -/
def EndsNumber (rest : List Char) : Prop :=
  ∀ c ∈ rest.head?, c.isDigit = false ∧ c ≠ '.' ∧ c ≠ 'e' ∧ c ≠ 'E'

theorem endsNumber_cons {c : Char}
    (stops : c.isDigit = false ∧ c ≠ '.' ∧ c ≠ 'e' ∧ c ≠ 'E') (rest : List Char) :
    EndsNumber (c :: rest) := by
  rintro d ⟨⟩
  exact stops

theorem digits_of_zero_first (n : Nat) (zero : (Decimal.digits n).head? = some '0') :
    Decimal.digits n = ['0'] := by
  induction n using Nat.strongRecOn with
  | ind n ih =>
      by_cases short : n < 10
      · rw [Decimal.digits, Nat.toDigits_of_lt_base short] at zero ⊢
        simpa using zero
      · -- the digits before the last one are those of a smaller number, which is not zero
        have long := Nat.le_of_not_lt short
        have split := Nat.toDigits_of_base_le (b := 10) (n := n) (by decide) long
        have first : (Decimal.digits (n / 10)).head? = some '0' := by
          rw [Decimal.digits, split, List.head?_append] at zero
          cases front : Nat.toDigits 10 (n / 10) with
          | nil => exact absurd front Nat.toDigits_ne_nil
          | cons c ds => simpa [front] using zero
        have fewer := ih (n / 10) (by omega) first
        have value : Decimal.value (Decimal.digits (n / 10)) = n / 10 :=
          Nat.ofDigitChars_toDigits (by decide) (by decide)
        rw [fewer] at value
        have nothing : n / 10 = 0 := value.symm
        omega

theorem readDigits_append {digits rest : List Char} (only_digits : ∀ c ∈ digits, c.isDigit = true)
    (stops : ∀ c ∈ rest.head?, c.isDigit = false) :
    readDigits (digits ++ rest) = (digits, rest) := by
  rw [readDigits, List.takeWhile_append_of_pos only_digits,
    List.dropWhile_append_of_pos only_digits]
  cases rest with
  | nil => simp
  | cons c rest => simp [stops c rfl]

theorem readMinus_of_digit {c : Char} (digit : c.isDigit = true) (rest : List Char) :
    readMinus (c :: rest) = (1, c :: rest) := by
  unfold readMinus
  split
  · rename_i same
    cases same
    cases digit
  · rfl

theorem readPlaces_of_ends {rest : List Char} (ends : EndsNumber rest) :
    readPlaces rest = some ([], rest) := by
  unfold readPlaces
  split
  · exact absurd rfl (ends '.' rfl).2.1
  · rfl

theorem readPower_of_ends {rest : List Char} (ends : EndsNumber rest) :
    readPower rest = some (0, rest) := by
  cases rest with
  | nil => rfl
  | cons c rest =>
      obtain ⟨_, _, small, capital⟩ := ends c rfl
      simp [readPower, small, capital]

theorem only_digits (n : UInt64) : ∀ c ∈ number n, c.isDigit = true := fun _ inside =>
  Nat.isDigit_of_mem_toDigits (b := 10) (by decide) (by decide) inside

theorem readNumber_number (n : UInt64) {rest : List Char} (ends : EndsNumber rest) :
    readNumber (number n ++ rest) = some (.number n.toNat 0, rest) := by
  have digits := readDigits_append (only_digits n) fun c inside => (ends c inside).1
  have some_digit : number n ≠ [] := Nat.toDigits_ne_nil
  have alone : ¬((number n).head? = some '0' ∧ number n ≠ ['0']) := by
    rintro ⟨zero, more⟩
    exact more (digits_of_zero_first n.toNat zero)
  have value : Decimal.value (number n) = n.toNat :=
    Nat.ofDigitChars_toDigits (by decide) (by decide)
  have minus : readMinus (number n ++ rest) = (1, number n ++ rest) := by
    cases first : number n with
    | nil => exact absurd first some_digit
    | cons c ds => exact readMinus_of_digit (only_digits n c (by simp [first])) _
  simp [readNumber, minus, digits, some_digit, alone, readPlaces_of_ends ends,
    readPower_of_ends ends, value]

end Numbers

section Values

/-- A blank between tokens. -/
def isBlank (c : Char) : Bool := c = ' ' || c = '\t' || c = '\n' || c = '\r'

/-- The text without the blanks in front. -/
def skip (cs : List Char) : List Char := cs.dropWhile isBlank

mutual

/-- The value in front of a text, and the text after it. Each step takes a character, so that
the length of the text is a sufficient bound on their number. -/
def readValue : Nat → List Char → Option (Value × List Char)
  | 0, _ => none
  | bound + 1, cs =>
      match skip cs with
      | '"' :: rest => do
          let (text, rest) ← readString rest
          return (.string (.ofList text), rest)
      | '[' :: rest =>
          match skip rest with
          | ']' :: rest => some (.array [], rest)
          | _ => do
              let (items, rest) ← readItems bound rest
              return (.array items, rest)
      | '\x7b' :: rest =>
          match skip rest with
          | '\x7d' :: rest => some (.object [], rest)
          | _ => do
              let (members, rest) ← readMembers bound rest
              return (.object members, rest)
      | 'n' :: 'u' :: 'l' :: 'l' :: rest => some (.null, rest)
      | 't' :: 'r' :: 'u' :: 'e' :: rest => some (.boolean true, rest)
      | 'f' :: 'a' :: 'l' :: 's' :: 'e' :: rest => some (.boolean false, rest)
      | rest => readNumber rest

/-- The items of an array up to its end. -/
def readItems : Nat → List Char → Option (List Value × List Char)
  | 0, _ => none
  | bound + 1, cs => do
      let (item, rest) ← readValue bound cs
      match skip rest with
      | ',' :: rest => do
          let (items, rest) ← readItems bound rest
          return (item :: items, rest)
      | ']' :: rest => return ([item], rest)
      | _ => none

/-- The members of an object up to its end. -/
def readMembers : Nat → List Char → Option (List (String × Value) × List Char)
  | 0, _ => none
  | bound + 1, cs =>
      match skip cs with
      | '"' :: rest => do
          let (name, rest) ← readString rest
          match skip rest with
          | ':' :: rest => do
              let (value, rest) ← readValue bound rest
              let member := (.ofList name, value)
              match skip rest with
              | ',' :: rest => do
                  let (members, rest) ← readMembers bound rest
                  return (member :: members, rest)
              | '\x7d' :: rest => return ([member], rest)
              | _ => none
          | _ => none
      | _ => none

end

/-- The value of a JSON text. -/
def read? (cs : List Char) : Option Value := do
  let (value, rest) ← readValue (cs.length + 1) cs
  if skip rest = [] then some value else none

variable {bound : Nat} {value : Value} {name : String} {written rest : List Char}

theorem skip_of_digit {c : Char} (digit : c.isDigit = true) (rest : List Char) :
    skip (c :: rest) = c :: rest := by
  have solid : isBlank c = false := by
    rw [isBlank]
    by_contra blank
    simp only [Bool.not_eq_false, Bool.or_eq_true, decide_eq_true_eq] at blank
    rcases blank with ((rfl | rfl) | rfl) | rfl <;> cases digit
  simp [skip, solid]

theorem skip_string (text rest : List Char) :
    skip (string text ++ rest) = '"' :: (text.flatMap escapeChar ++ '"' :: rest) := by
  simp [string, skip, isBlank]

theorem readValue_string (bound : Nat) (text : String) (rest : List Char) :
    readValue (bound + 1) (string text.toList ++ rest) = some (.string text, rest) := by
  rw [readValue, skip_string]
  simp [readString_string]

/-- A digit begins no other kind of value. -/
theorem readValue_of_digit {c : Char} (digit : c.isDigit = true) (bound : Nat)
    (cs : List Char) : readValue (bound + 1) (c :: cs) = readNumber (c :: cs) := by
  rw [readValue, skip_of_digit digit]
  split <;> simp_all

theorem readValue_number (bound : Nat) (n : UInt64) (ends : EndsNumber rest) :
    readValue (bound + 1) (number n ++ rest) = some (.number n.toNat 0, rest) := by
  rw [← readNumber_number n ends]
  cases digits : number n with
  | nil => exact absurd digits Nat.toDigits_ne_nil
  | cons c ds => exact readValue_of_digit (only_digits n c (by simp [digits])) bound _

/-- A member is read up to the end of its value, and what follows decides how the object goes
on. -/
theorem readMembers_member (bound : Nat) (name : String) (written rest : List Char) :
    readMembers (bound + 1) (member [':'] name written ++ rest) = (do
      let (value, rest) ← readValue bound (written ++ rest)
      match skip rest with
      | ',' :: rest => do
          let (members, rest) ← readMembers bound rest
          return ((name, value) :: members, rest)
      | '\x7d' :: rest => return ([(name, value)], rest)
      | _ => none) := by
  have colon : skip (':' :: (written ++ rest)) = ':' :: (written ++ rest) := rfl
  rw [readMembers, member, List.append_assoc, List.append_assoc, skip_string]
  simp only [readString_string, List.singleton_append, Option.bind_eq_bind, Option.bind_some,
    colon, String.ofList_toList]

/-- An object is read as its members, unless there are none. -/
theorem readValue_object (bound : Nat) (name : String) (written rest : List Char) :
    readValue (bound + 1) ('\x7b' :: (member [':'] name written ++ rest)) = (do
      let (members, rest) ← readMembers bound (member [':'] name written ++ rest)
      return (.object members, rest)) := by
  have brace : skip ('\x7b' :: (member [':'] name written ++ rest)) =
    '\x7b' :: (member [':'] name written ++ rest) := rfl
  have quote : skip (member [':'] name written ++ rest) =
      '"' :: (name.toList.flatMap escapeChar ++ '"' :: ([':'] ++ (written ++ rest))) := by
    rw [member, List.append_assoc, List.append_assoc, skip_string]
  rw [readValue, brace]
  simp only [quote]
  rfl

end Values

end TrafficMeter.Json
