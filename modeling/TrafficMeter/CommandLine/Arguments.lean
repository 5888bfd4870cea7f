import TrafficMeter.Monitor
import TrafficMeter.Number.Numeral

/-! # Command line arguments

A subcommand and its long options. An option takes its value after an equals sign or
as the next argument, and is given at most once. A value that stands as an argument
of its own is read when the next option or the end of the line is reached, so a
complaint about that option may come first.
-/

namespace TrafficMeter.CommandLine

/-- Why arguments give no command. Asking for help or for the version is one of the
reasons. -/
inductive Refusal where
  | displayHelp
  | displayVersion
  | invalidSubcommand
  | unknownArgument
  | argumentConflict
  | tooManyValues
  | invalidValue
  | valueValidation
  deriving DecidableEq, Repr

namespace Refusal

/-- What is asked for succeeds; every other refusal is a usage error. -/
def exitCode : Refusal → Nat
  | displayHelp => 0
  | displayVersion => 0
  | _ => 2

end Refusal

/-- The options of a listing. -/
structure ListingOptions where
  all : Bool
  format : Format
  counters : String
  deriving DecidableEq

/-- A command of the program. -/
inductive Command where
  | interfaces (options : ListingOptions)
  | monitor (options : MonitorOptions)
  deriving DecidableEq

/-- The counter file of the running system. -/
def defaultCounters : String := "/proc/net/dev"

/-- A long option. -/
inductive Key where
  | all
  | interface
  | interval
  | lag
  | threshold
  | influence
  | timeout
  | count
  | format
  | counters
  deriving DecidableEq, Repr

namespace Key

def name : Key → String
  | all => "all"
  | interface => "interface"
  | interval => "interval"
  | lag => "lag"
  | threshold => "threshold"
  | influence => "influence"
  | timeout => "timeout"
  | count => "count"
  | format => "format"
  | counters => "counters"

/-- Whether the option stands without a value. -/
def isFlag (key : Key) : Bool := key == .all

end Key

/-- A subcommand of the program. -/
inductive Subcommand where
  | interfaces
  | monitor
  deriving DecidableEq, Repr

namespace Subcommand

def named? (name : String) : Option Subcommand :=
  if name = "interfaces" then some .interfaces
  else if name = "monitor" then some .monitor
  else none

/-- The options of a subcommand. -/
def keys : Subcommand → List Key
  | interfaces => [.all, .format, .counters]
  | monitor =>
      [.interface, .interval, .lag, .threshold, .influence, .timeout, .count, .format,
        .counters]

end Subcommand

/-- The options given so far, and the values of all options, by default or given. -/
structure Draft where
  given : List Key := []
  all : Bool := false
  interface : Option String := none
  interval : Float := 1.0
  lag : Option Nat := none
  threshold : Option Float := none
  influence : Option Float := none
  timeout : Float := 5.0
  count : Option Nat := none
  format : Format := .text
  counters : String := defaultCounters

/-- The command for a subcommand and its options. -/
def Subcommand.command (subcommand : Subcommand) (draft : Draft) : Command :=
  match subcommand with
  | interfaces => .interfaces ⟨draft.all, draft.format, draft.counters⟩
  | monitor =>
      .monitor ⟨draft.interface,
        ⟨draft.interval, draft.lag, draft.threshold, draft.influence, draft.timeout⟩,
        draft.count, draft.format, draft.counters⟩

/-- Reads a number. -/
def readNumber (value : String) : Except Refusal Float :=
  match Binary64.read value.toList with
  | some number => .ok number
  | none => .error .valueValidation

/-- Reads a whole number of 64 bits. -/
def readCount (value : String) : Except Refusal Nat :=
  match Decimal.read Decimal.maxUInt64 value.toList with
  | .ok count => .ok count
  | .error _ => .error .valueValidation

/-- Reads the name of a format. -/
def readFormat (value : String) : Except Refusal Format :=
  if value = "text" then .ok .text
  else if value = "json" then .ok .json
  else .error .invalidValue

namespace Draft

/-- Takes in the value of an option. -/
def store (draft : Draft) (value : String) : Key → Except Refusal Draft
  | .all => .ok { draft with all := true }
  | .interface => .ok { draft with interface := some value }
  | .interval => do return { draft with interval := ← readNumber value }
  | .lag => do return { draft with lag := some (← readCount value) }
  | .threshold => do return { draft with threshold := some (← readNumber value) }
  | .influence => do return { draft with influence := some (← readNumber value) }
  | .timeout => do return { draft with timeout := ← readNumber value }
  | .count => do return { draft with count := some (← readCount value) }
  | .format => do return { draft with format := ← readFormat value }
  | .counters =>
      if value = "" then .error .invalidValue else .ok { draft with counters := value }

/-- Takes in an option that must not have been given before. -/
def accept (draft : Draft) (key : Key) (value : String) : Except Refusal Draft :=
  if draft.given.contains key then .error .argumentConflict
  else { draft with given := key :: draft.given }.store value key

end Draft

/-- An option that has not been taken in yet. -/
inductive Pending where
  | nothing
  | awaiting (key : Key)
  | holding (key : Key) (value : String)

/-- Takes in the pending option; it has to have its value by now. -/
def Pending.settle (pending : Pending) (draft : Draft) : Except Refusal Draft :=
  match pending with
  | nothing => .ok draft
  | awaiting _ => .error .invalidValue
  | holding key value => draft.accept key value

/-- The form of an argument. -/
inductive Shape where
  /-- Two dashes alone: what follows are no options. -/
  | escape
  /-- A long option, with the value after its equals sign, if there is one. -/
  | long (name : String) (value : Option String)
  /-- Short options, by the first of their letters. -/
  | short (letter : Char)
  | plain

/-- The form of an argument; a lone dash is plain. -/
def Shape.of (argument : String) : Shape :=
  match argument.toList with
  | ['-', '-'] => .escape
  | '-' :: '-' :: body =>
      let name := String.ofList (body.takeWhile (· != '='))
      match body.dropWhile (· != '=') with
      | [] => .long name none
      | _ :: value => .long name (some (String.ofList value))
  | '-' :: letter :: _ => .short letter
  | _ => .plain

/-- Settles what is pending, then shows the help or the version. -/
def interrupt (pending : Pending) (draft : Draft) (refusal : Refusal) :
    Except Refusal Draft := do
  let _ ← pending.settle draft
  throw refusal

/-- Reads the options of a subcommand. -/
def readOptions (keys : List Key) (pending : Pending) (draft : Draft) :
    List String → Except Refusal Draft
  | [] => pending.settle draft
  | argument :: rest =>
      match Shape.of argument with
      | .escape => if rest.isEmpty then pending.settle draft else .error .unknownArgument
      | .long "help" none => interrupt pending draft .displayHelp
      | .long "version" none => interrupt pending draft .displayVersion
      | .long "help" (some _) => .error .tooManyValues
      | .long "version" (some _) => .error .tooManyValues
      | .long name value =>
          match keys.find? fun key => key.name == name, value with
          | none, _ => .error .unknownArgument
          | some key, none => do
              let draft ← pending.settle draft
              if key.isFlag then readOptions keys .nothing (← draft.accept key "") rest
              else readOptions keys (.awaiting key) draft rest
          | some key, some value =>
              if key.isFlag then .error .tooManyValues
              else do
                let draft ← pending.settle draft
                readOptions keys .nothing (← draft.accept key value) rest
      | .short 'h' => interrupt pending draft .displayHelp
      | .short 'V' => interrupt pending draft .displayVersion
      | .short _ => .error .unknownArgument
      | .plain =>
          match pending with
          | .awaiting key => readOptions keys (.holding key argument) draft rest
          | _ => .error .unknownArgument

/-- Reads the names after a request for help: at most one subcommand, or the request
itself. -/
def readHelp : List String → Refusal
  | [] => .displayHelp
  | [name] =>
      if name = "help" ∨ (Subcommand.named? name).isSome then .displayHelp
      else .invalidSubcommand
  | _ => .invalidSubcommand

/-- Reads the arguments of the program; no arguments give no command. -/
def read : List String → Except Refusal (Option Command)
  | [] => .ok none
  | argument :: rest =>
      match Subcommand.named? argument with
      | some subcommand =>
          (readOptions subcommand.keys .nothing {} rest).map fun draft =>
            some (subcommand.command draft)
      | none =>
          if argument = "help" then .error (readHelp rest)
          else match Shape.of argument with
            | .escape =>
                match rest with
                | [] => .ok none
                | name :: _ =>
                    if name = "help" ∨ (Subcommand.named? name).isSome then
                      .error .unknownArgument
                    else .error .invalidSubcommand
            | .long "help" none => .error .displayHelp
            | .long "version" none => .error .displayVersion
            | .long "help" (some _) => .error .tooManyValues
            | .long "version" (some _) => .error .tooManyValues
            | .long _ _ => .error .unknownArgument
            | .short 'h' => .error .displayHelp
            | .short 'V' => .error .displayVersion
            | .short _ => .error .unknownArgument
            | .plain => .error .invalidSubcommand

end TrafficMeter.CommandLine
