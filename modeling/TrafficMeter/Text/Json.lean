import TrafficMeter.Number.Decimal

/-! # JSON text

Strings and numbers of JSON. Inside a string only quotes, backslashes and controls
are escaped, so a string never spans two lines.
-/

namespace TrafficMeter.Json

/-- The form of one character inside a string. -/
def escapeChar (c : Char) : List Char :=
  if c = '"' then ['\\', '"']
  else if c = '\\' then ['\\', '\\']
  else if c = '\n' then ['\\', 'n']
  else if c = '\r' then ['\\', 'r']
  else if c = '\t' then ['\\', 't']
  else if c = '\x08' then ['\\', 'b']
  else if c = '\x0c' then ['\\', 'f']
  else if c.toNat < 0x20 then
    ['\\', 'u', '0', '0', (c.toNat / 16).digitChar, (c.toNat % 16).digitChar]
  else [c]

/-- A string between quotes. -/
def string (cs : List Char) : List Char := '"' :: cs.flatMap escapeChar ++ ['"']

/-- A number of 64 bits. -/
def number (n : UInt64) : List Char := Decimal.digits n.toNat

/-- A member of an object, the name and the value joined by the given mark. -/
def member (colon : List Char) (name : String) (value : List Char) : List Char :=
  string name.toList ++ colon ++ value

end TrafficMeter.Json
