import SlotDispatch.CommandLine.Parse
import SlotDispatch.Program

/-!
# Performing a command line

`execute` performs the command of a command line. `Outcome.of` is the whole program as a function:
from its arguments, its environment and the time to what it prints and its exit status.
-/

namespace SlotDispatch.CommandLine

/-- Performs what a command line asks for. Only the command `run` needs the limit of the heap; it
    starts with a heap of its own. -/
def execute (arguments : Arguments) (environment : Option String) : Action Unit :=
  match arguments.effective with
  | .run => do
    match resolveLimit arguments.limit environment with
    | .error fault => throw (.limit fault)
    | .ok limit =>
      modify fun machine => { machine with heap := { limit } }
      Program.dispatch
  | .classes => Program.dumpClasses
  | .time => Program.time
  | .hello throughType => Program.hello (if throughType then .ofType else .ofInstance)
  | .sum numbers => Program.sum numbers

/-- What remains of a run of the program. -/
structure Outcome where
  /-- The exit status. -/
  status : UInt32
  /-- What was printed. -/
  output : List UInt8
  /-- What was printed to report a failure. -/
  errors : String

/-- The report of a fault, with what is behind it. -/
def report (fault : Fault) : String :=
  "Error: " ++ fault.message ++ "\n" ++
    match fault.causes with
    | [] => ""
    | causes => "\nCaused by:\n" ++ String.join (causes.map fun cause => "    " ++ cause ++ "\n")

/-- The report of a refusal. -/
def Refusal.report : Refusal → String
  | .help _ | .version => ""
  | .invalidSubcommand => "error: unrecognized subcommand\n"
  | .unknownArgument => "error: unexpected argument\n"
  | .missingValue => "error: a value is required\n"
  | .invalidValue => "error: invalid value\n"
  | .repeated => "error: the argument cannot be used multiple times\n"
  | .superfluousValue => "error: unexpected value\n"

/-- What a refusal prints, if it is an answer and not a failure. -/
def Refusal.answer? (program : Option String) : Refusal → Option String
  | .help topic => some (topic.text program)
  | .version => some versionText
  | _ => none

/-- A run of the program. -/
def Outcome.of (program : Option String) (arguments : List String) (environment : Option String)
    (clock : Native.Clock) : Outcome :=
  match parse arguments with
  | .error refusal =>
    match refusal.answer? program with
    | some text => ⟨0, Sink.bytesOf text, ""⟩
    | none => ⟨2, [], refusal.report⟩
  | .ok arguments =>
    match execute arguments environment { clock } with
    | .ok _ machine => ⟨0, machine.sink.written, ""⟩
    | .error fault machine => ⟨1, machine.sink.written, report fault⟩

end SlotDispatch.CommandLine
