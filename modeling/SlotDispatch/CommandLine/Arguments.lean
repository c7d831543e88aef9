/-!
# Commands and arguments

What can be asked for on a command line: one of five commands, and a limit for the heap.
-/

namespace SlotDispatch.CommandLine

/-- A command with its arguments. -/
inductive Command where
  /-- Show how dispatch works. -/
  | run
  /-- Print the built-in classes. -/
  | classes
  /-- Print the time. -/
  | time
  /-- Print the greeting, called through the type or through an instance. -/
  | hello (throughType : Bool)
  /-- Print the sum of some integers. -/
  | sum (numbers : List Int32)
deriving DecidableEq

/-- What a command line asks for. -/
structure Arguments where
  /-- The limit of the heap, if one is given. -/
  limit : Option UInt64
  /-- The command, if one is given. -/
  command : Option Command
deriving DecidableEq

/-- The command to perform. If none is given, it is `run`. -/
def Arguments.effective (arguments : Arguments) : Command := arguments.command.getD .run

/-- The names of the commands. The command `help` explains the others. -/
inductive Name where
  /-- The command `run`. -/
  | run
  /-- The command `classes`. -/
  | classes
  /-- The command `time`. -/
  | time
  /-- The command `hello`. -/
  | hello
  /-- The command `sum`. -/
  | sum
  /-- The command `help`. -/
  | help
deriving DecidableEq

namespace Name

/-- All names, in the order in which they are listed. -/
def all : List Name := [.run, .classes, .time, .hello, .sum, .help]

/-- The name as it is written. -/
def text : Name → String
  | .run => "run"
  | .classes => "classes"
  | .time => "time"
  | .hello => "hello"
  | .sum => "sum"
  | .help => "help"

/-- The command with a name. Case matters, and names cannot be shortened. -/
def ofText? (text : String) : Option Name := all.find? (·.text = text)

end Name

end SlotDispatch.CommandLine
