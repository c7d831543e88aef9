import SlotDispatch.CommandLine.Arguments
import SlotDispatch.Text.Visible

/-!
# Help

The texts that explain the program and its commands. The program is called what the command line
calls it. A name can hold any character, but only what a terminal shows of it is printed.
-/

namespace SlotDispatch.CommandLine

/-- What a command does, in one line. -/
def Name.about : Name → String
  | .run => "Call `start` on a Vehicle, a Truck, and a Truck seen as a Vehicle"
  | .classes => "Print the metadata of the built-in classes as JSON"
  | .time => "Print the current time"
  | .hello => "Print \"Hello World!\""
  | .sum => "Print the sum of the numbers (default: 0 to 9)"
  | .help => "Print this message or the help of the given subcommand(s)"

namespace Help

/-- A text filled up with blanks to a width. -/
def fill (width : Nat) (text : String) : String :=
  text ++ String.ofList (List.replicate (width - text.length) ' ')

/-- An entry of a list: a term and what it means, in two columns. -/
def entry (width : Nat) (term meaning : String) : String :=
  "  " ++ fill width term ++ "  " ++ meaning ++ "\n"

/-- An entry of the list of options. -/
def option (term meaning : String) : String := entry 29 term meaning

/-- The option that all commands have. -/
def limitOption : String :=
  option "    --heap-limit <HEAP_LIMIT>" ("Maximum number of bytes the object heap may hand out " ++
    "(default: $VTLAB_HEAP_LIMIT, or unlimited)")

/-- The option of the command `hello`. -/
def staticOption : String :=
  option "    --static" "Call the greeting through the type instead of an instance"

/-- The option that asks for help. -/
def helpOption : String := option "-h, --help" "Print help"

/-- The option that asks for the version. -/
def versionOption : String := option "-V, --version" "Print version"

/-- What a command accepts besides options. -/
def operands : Name → String
  | .sum => " [OPTIONS] [NUMBERS]..."
  | .help => " [COMMAND]..."
  | _ => " [OPTIONS]"

/-- The list of what a command accepts besides options, if there is anything. -/
def operandList : Name → String
  | .sum => "\nArguments:\n  [NUMBERS]...  \n"
  | .help => "\nArguments:\n  [COMMAND]...  Print help for the subcommand(s)\n"
  | _ => ""

/-- The list of the options of a command, if it has any. -/
def optionList : Name → String
  | .help => ""
  | .hello => "\nOptions:\n" ++ limitOption ++ staticOption ++ helpOption
  | _ => "\nOptions:\n" ++ limitOption ++ helpOption

/-- The name of the program unless the command line calls it otherwise. -/
def defaultProgram : String := "vtlab"

/-- What is typed to call something, without instructions to the terminal. A sequence that is not
    complete ends with the words that are typed. -/
def words (typed : String) : String := String.ofList (Text.visible typed.toList)

/-- The help for a command. -/
def ofCommand (program : Option String) (name : Name) : String :=
  let typed := program.elim name.text fun program => program ++ " " ++ name.text
  name.about ++ "\n\nUsage: " ++ words typed ++ operands name ++ "\n" ++ operandList name ++
    optionList name

/-- The help for the program. -/
def ofProgram (program : Option String) : String :=
  "Method dispatch through per-instance slots, and a few native snippets\n\nUsage: " ++
    words (program.getD defaultProgram) ++ " [OPTIONS] [COMMAND]\n\nCommands:\n" ++
    String.join (Name.all.map fun name => entry 7 name.text name.about) ++
    "\nOptions:\n" ++ limitOption ++ helpOption ++ versionOption

end Help

/-- What help is wanted for. -/
inductive Topic where
  /-- The program. -/
  | program
  /-- A command. -/
  | command (name : Name)
deriving DecidableEq

/-- The help for a topic, in a program that is called by a name. -/
def Topic.text (program : Option String) : Topic → String
  | .program => Help.ofProgram program
  | .command name => Help.ofCommand program name

/-- The version of the program. -/
def versionText : String := Help.defaultProgram ++ " 0.1.0\n"

/-- The name by which a path calls a program: the last part that is not a dot. A path that ends in
    two dots calls it nothing. -/
def programName (path : String) : Option String :=
  let parts := (path.splitOn "/").filter fun part => part ≠ "" ∧ part ≠ "."
  parts.getLast?.filter (· ≠ "..")

end SlotDispatch.CommandLine
