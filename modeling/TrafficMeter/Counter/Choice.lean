import TrafficMeter.Counter.File

/-! # Choice of the interface

A name that is given wins, whatever the file holds. Otherwise the file has to name
exactly one interface besides the loopback one.
-/

namespace TrafficMeter

/-- Why no interface can be chosen. -/
inductive ChoiceError where
  | noInterfaces
  | multipleInterfaces (names : List String)
  deriving DecidableEq, Repr

namespace ChoiceError

def message : ChoiceError → String
  | noInterfaces =>
      "No network interfaces found. Re-run with --interface <NAME> or use --all in " ++
        "'interfaces' to inspect."
  | multipleInterfaces names =>
      "Multiple network interfaces detected: " ++ String.intercalate ", " names ++
        ". Please specify --interface <NAME>."

end ChoiceError

namespace Choice

/-- Chooses among the names that are available. -/
def decide (explicit : Option String) (available : List String) :
    Except ChoiceError String :=
  match explicit, available with
  | some name, _ => .ok name
  | none, [] => .error .noInterfaces
  | none, [name] => .ok name
  | none, names => .error (.multipleInterfaces names)

end Choice

end TrafficMeter
