import TrafficMeter.CommandLine.Arguments
import TrafficMeter.Listing

/-! # The program

What a run of the program writes and its exit code. The files are given by their
paths and do not change during the run.
-/

namespace TrafficMeter.CommandLine

/-- The usage of the program. -/
def usage : String :=
  "Network interface traffic-rate monitor\n\n" ++
  "Usage: ifrate [COMMAND]\n\n" ++
  "Commands:\n" ++
  "  interfaces  List network interfaces with cumulative byte counters\n" ++
  "  monitor     Poll an interface and print its traffic rate\n" ++
  "  help        Print this message\n\n" ++
  "Options of 'interfaces':\n" ++
  "  --all                     Include the loopback interface as well\n" ++
  "  --format <text|json>      Output format\n" ++
  "  --counters <PATH>         Counter file to read\n\n" ++
  "Options of 'monitor':\n" ++
  "  --interface <NAME>        Interface to watch\n" ++
  "  --interval <SECONDS>      Poll interval\n" ++
  "  --lag <COUNT>             Spike filter window length\n" ++
  "  --threshold <NUMBER>      Spike threshold in standard deviations\n" ++
  "  --influence <NUMBER>      Weight of a spike when fed back, 0 to 1\n" ++
  "  --timeout <SECONDS>       Counter fetch timeout\n" ++
  "  --count <COUNT>           Exit after this many rate updates\n" ++
  "  --format <text|json>      Output format\n" ++
  "  --counters <PATH>         Counter file to read\n\n" ++
  "  -h, --help                Print help\n" ++
  "  -V, --version             Print version\n"

def version : String := "ifrate 0.1.0\n"

namespace Refusal

/-- The complaint about arguments that give no command. -/
def complaint : Refusal → String
  | displayHelp => ""
  | displayVersion => ""
  | invalidSubcommand => "unrecognized subcommand"
  | unknownArgument => "unexpected argument"
  | argumentConflict => "an option cannot be used multiple times"
  | tooManyValues => "unexpected value for a flag"
  | invalidValue => "an option lacks a value or has one that is not possible"
  | valueValidation => "an option has an invalid value"

/-- What is written for arguments that give no command. -/
def result (refusal : Refusal) : Result :=
  match refusal with
  | displayHelp => ⟨usage, "", refusal.exitCode⟩
  | displayVersion => ⟨version, "", refusal.exitCode⟩
  | _ => ⟨"", "error: " ++ refusal.complaint ++ "\n", refusal.exitCode⟩

end Refusal

/-- The exit code of a run that breaks down. -/
def crashCode : Nat := 101

/-- A run that ends with an error, after it has written something. -/
def failed (written : String) (report : Report) : Result :=
  ⟨written, "error: " ++ report.text ++ "\n", report.exitCode⟩

/-- Lists the interfaces in a file. -/
def listInterfaces (options : ListingOptions) (contents : Contents) : Result :=
  match contents.interfaces options.counters options.all with
  | .ok rows => Listing.result options.format rows
  | .error error => failed "" (.of (.fetch error))

/-- Monitors a file that does not change. -/
def monitor (options : MonitorOptions) (contents : Contents) : Result :=
  match Monitor.runUnchanging options contents false .unlimited with
  | .error .crash => ⟨"", "", crashCode⟩
  | .error (.error report) => failed "" report
  | .ok (sink, .failed report) => failed sink.written report
  | .ok (sink, _) => ⟨sink.written, "", 0⟩

/-- Runs a command. -/
def Command.run (files : String → Contents) : Command → Result
  | .interfaces options => listInterfaces options (files options.counters)
  | .monitor options => TrafficMeter.CommandLine.monitor options (files options.counters)

/-- Runs the program. Without a command it shows its usage. -/
def run (files : String → Contents) (arguments : List String) : Result :=
  match read arguments with
  | .error refusal => refusal.result
  | .ok none => ⟨usage, "", 0⟩
  | .ok (some command) => command.run files

end TrafficMeter.CommandLine
