import TrafficMeter.Proofs.Text.Json

/-! # Indented JSON text

Blanks in front of a value, of a member or of an item make no difference to what is read, and
neither do those behind the colon of a member or the brace of an object.
-/

namespace TrafficMeter.Json

/-- Nothing but blanks of JSON. -/
def Gap (cs : List Char) : Prop := ∀ c ∈ cs, isBlank c = true

variable {gap : List Char}

theorem skip_append (blank : Gap gap) (cs : List Char) : skip (gap ++ cs) = skip cs :=
  List.dropWhile_append_of_pos blank

theorem readValue_append (blank : Gap gap) (bound : Nat) (cs : List Char) :
    readValue bound (gap ++ cs) = readValue bound cs := by
  cases bound with
  | zero => rw [readValue, readValue]
  | succ bound => rw [readValue, readValue, skip_append blank]

theorem readMembers_append (blank : Gap gap) (bound : Nat) (cs : List Char) :
    readMembers bound (gap ++ cs) = readMembers bound cs := by
  cases bound with
  | zero => rw [readMembers, readMembers]
  | succ bound => rw [readMembers, readMembers, skip_append blank]

theorem readItems_append (blank : Gap gap) (bound : Nat) (cs : List Char) :
    readItems bound (gap ++ cs) = readItems bound cs := by
  cases bound with
  | zero => rw [readItems, readItems]
  | succ bound => rw [readItems, readItems, readValue_append blank]

theorem readMembers_spaced (blank : Gap gap) (bound : Nat) (name : String)
    (written rest : List Char) :
    readMembers bound (member (':' :: gap) name written ++ rest) =
      readMembers bound (member [':'] name written ++ rest) := by
  have moved : member (':' :: gap) name written = member [':'] name (gap ++ written) := by
    simp [member]
  cases bound with
  | zero => rw [readMembers, readMembers]
  | succ bound =>
      rw [moved, readMembers_member, readMembers_member, List.append_assoc,
        readValue_append blank]

/-- An object is read as its members, whatever blanks are in front of them. -/
theorem readValue_object_append (blank : Gap gap) (bound : Nat) (colon : List Char) (name : String)
    (written rest : List Char) :
    readValue (bound + 1) ('\x7b' :: (gap ++ (member colon name written ++ rest))) = (do
      let (members, rest) ← readMembers bound (member colon name written ++ rest)
      return (.object members, rest)) := by
  have brace (cs : List Char) : skip ('\x7b' :: cs) = '\x7b' :: cs := rfl
  have quote : skip (gap ++ (member colon name written ++ rest)) =
      '"' :: (name.toList.flatMap escapeChar ++ '"' :: (colon ++ (written ++ rest))) := by
    rw [skip_append blank, member, List.append_assoc, List.append_assoc, skip_string]
  rw [readValue, brace]
  simp only [quote, readMembers_append blank]
  rfl

end TrafficMeter.Json
