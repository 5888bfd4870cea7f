import TrafficMeter.Text.Shown

/-! # Quoted text

A text between double quotes in which every character is visible: quotes and
backslashes are escaped, some controls have short names, and any other character
that is not shown as itself is written by its code point.
-/

namespace TrafficMeter.Text

/-- The lower-case hexadecimal digits of a number. -/
def hexDigits (n : Nat) : List Char := Nat.toDigits 16 n

/-- The form of one character inside a quoted text. -/
def quoteChar (c : Char) : List Char :=
  if c = '"' then ['\\', '"']
  else if c = '\\' then ['\\', '\\']
  else if c = '\n' then ['\\', 'n']
  else if c = '\r' then ['\\', 'r']
  else if c = '\t' then ['\\', 't']
  else if c = '\x00' then ['\\', '0']
  else if isShown c then [c]
  else ['\\', 'u', '\x7b'] ++ hexDigits c.toNat ++ ['\x7d']

/-- A text between quotes. -/
def quoted (cs : List Char) : List Char := '"' :: cs.flatMap quoteChar ++ ['"']

end TrafficMeter.Text
