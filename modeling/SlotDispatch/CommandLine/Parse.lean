import SlotDispatch.CommandLine.Help
import SlotDispatch.Decimal.Integer

/-!
# Reading a command line

A command line has two levels: the arguments before the name of a command, and those after it. Each
level is read from left to right (`scan`), and the first thing that is wrong is reported.

The value of an option, and the numbers of `sum`, are only looked at when it is clear that they are
complete: when another option or argument comes, or at the end of the level. Until then they are
*pending*. What is pending before the name of a command is looked at last of all. A refusal that
has nothing to do with what is pending comes first.

* `Shape`: what a single argument looks like;
* `scan`: one level of arguments;
* `parse`: a whole command line.
-/

namespace SlotDispatch.CommandLine

/-- Why there is nothing to perform. -/
inductive Refusal where
  /-- Help is asked for. -/
  | help (topic : Topic)
  /-- The version is asked for. -/
  | version
  /-- There is no command of this name. -/
  | invalidSubcommand
  /-- There is no option of this name, or nothing can be given here. -/
  | unknownArgument
  /-- An option lacks its value. -/
  | missingValue
  /-- A value is not what it should be. -/
  | invalidValue
  /-- An option is given twice. -/
  | repeated
  /-- An option has a value and should not have one. -/
  | superfluousValue
deriving DecidableEq

/-- The shape of an argument. -/
inductive Shape where
  /-- Two dashes: only values follow. -/
  | separator
  /-- Two dashes and a name, with a value after an equals sign or without one. -/
  | long (name : List Char) (value : Option (List Char))
  /-- A dash and letters, each of them an option. -/
  | short (letters : List Char)
  /-- Anything else, be it a single dash. -/
  | plain
deriving DecidableEq

/-- The shape of an argument. -/
def Shape.of (argument : String) : Shape :=
  match argument.toList with
  | ['-', '-'] => .separator
  | '-' :: '-' :: rest =>
    .long (rest.takeWhile (· ≠ '=')) (rest.dropWhile (· ≠ '=')).tail?
  | '-' :: c :: rest => .short (c :: rest)
  | _ => .plain

/-- Whether a character begins the exponent of a number. -/
def marksExponent (c : Char) : Bool := c = 'e' || c = 'E'

/-- Whether the characters after a dash look like a number: digits, a point among them that is not
    the first, and after the point a mark of the exponent that is neither the first nor the last. -/
def looksNumeric (letters : List Char) : Bool :=
  let mantissa := letters.takeWhile (!marksExponent ·)
  let whole := mantissa.takeWhile (· ≠ '.')
  let fraction := (mantissa.dropWhile (· ≠ '.')).tail
  let exponent := letters.dropWhile (!marksExponent ·)
  whole ≠ [] && whole.all Char.isDigit && fraction.all Char.isDigit &&
    exponent.length ≠ 1 && exponent.tail.all Char.isDigit

/-- The part of a command line that is read. -/
inductive Level where
  /-- Before the name of a command. -/
  | program
  /-- After the name of a command. -/
  | command (name : Name)
deriving DecidableEq

namespace Level

/-- What help is about at this level. -/
def topic : Level → Topic
  | program => .program
  | command name => .command name

/-- Whether numbers can be given. -/
def takesNumbers (level : Level) : Bool := level = command .sum

/-- Whether the option `--static` can be given. -/
def takesStatic (level : Level) : Bool := level = command .hello

/-- Whether the version can be asked for. -/
def takesVersion (level : Level) : Bool := level = program

/-- The command that an argument names, if commands can be named at this level. -/
def subcommand? (level : Level) (argument : String) : Option Name :=
  match level with
  | program => Name.ofText? argument
  | command _ => none

end Level

/-- What has been given but not looked at. -/
inductive Pending where
  /-- The limit of the heap, with its value or still without it. -/
  | limit (value : Option String)
  /-- Numbers. -/
  | numbers (values : List String)
deriving DecidableEq

/-- What is known of a level. -/
structure Scan where
  /-- The limit of the heap. -/
  limit : Option UInt64 := none
  /-- Whether `--static` is given. -/
  isStatic : Bool := false
  /-- The numbers. -/
  numbers : List Int32 := []
  /-- What has not been looked at. -/
  pending : Option Pending := none
  /-- Whether only values follow. -/
  trailing : Bool := false
deriving DecidableEq

namespace Scan

/-- Takes the value of the limit. -/
def takeLimit (scan : Scan) (value : String) : Except Refusal Scan :=
  if scan.limit.isSome then .error .repeated
  else
    match Decimal.readWord value.toList with
    | .ok limit => .ok { scan with limit := some limit }
    | .error _ => .error .invalidValue

/-- Takes numbers. -/
def takeNumbers (scan : Scan) (values : List String) : Except Refusal Scan :=
  match values.mapM fun value => Decimal.readInteger value.toList with
  | .ok numbers => .ok { scan with numbers := scan.numbers ++ numbers }
  | .error _ => .error .invalidValue

/-- Looks at what is pending. -/
def resolve (scan : Scan) : Except Refusal Scan :=
  match scan.pending with
  | none => .ok scan
  | some (.limit none) => .error .missingValue
  | some (.limit (some value)) => { scan with pending := none }.takeLimit value
  | some (.numbers values) => { scan with pending := none }.takeNumbers values

/-- Whether the next argument is the value of an option. -/
def awaitsValue (scan : Scan) : Bool := scan.pending = some (.limit none)

end Scan

/-- An option by its name. -/
def takeLong (level : Level) (scan : Scan) (name : List Char) (value : Option (List Char)) :
    Except Refusal Scan :=
  let isName := fun (text : String) => name = text.toList
  if isName "heap-limit" then do
    let scan ← scan.resolve
    match value with
    | some value => scan.takeLimit (String.ofList value)
    | none => return { scan with pending := some (.limit none) }
  else if isName "help" || isName "static" && level.takesStatic ||
      isName "version" && level.takesVersion then
    if value.isSome then throw .superfluousValue
    else do
      let scan ← scan.resolve
      if isName "help" then throw (.help level.topic)
      else if isName "version" then throw .version
      else if scan.isStatic then throw .repeated
      else return { scan with isStatic := true }
  else throw .unknownArgument

/-- Options by their letters. All of them ask for something else than the command. -/
def takeShort (level : Level) (scan : Scan) (letters : List Char) : Except Refusal Scan :=
  match letters with
  | 'h' :: _ => do
    let _ ← scan.resolve
    throw (.help level.topic)
  | 'V' :: _ =>
    if level.takesVersion then do
      let _ ← scan.resolve
      throw .version
    else throw .unknownArgument
  | _ => throw .unknownArgument

/-- An argument that is neither an option nor the value of one. -/
def takeOperand (level : Level) (scan : Scan) (argument : String) : Except Refusal Scan :=
  match level with
  | .program =>
    if scan.trailing ∧ (level.subcommand? argument).isSome then throw .unknownArgument
    else throw .invalidSubcommand
  | .command .sum =>
    match scan.pending with
    | some (.numbers values) =>
      return { scan with pending := some (.numbers (values ++ [argument])) }
    | _ => return { ← scan.resolve with pending := some (.numbers [argument]) }
  | .command _ => throw .unknownArgument

/-- A value of an option that waits for one, or an operand. -/
def takePlain (level : Level) (scan : Scan) (argument : String) : Except Refusal Scan :=
  if scan.awaitsValue then return { scan with pending := some (.limit (some argument)) }
  else takeOperand level scan argument

/-- An argument that does not name a command. -/
def takeArgument (level : Level) (scan : Scan) (argument : String) : Except Refusal Scan :=
  if scan.trailing then takeOperand level scan argument
  else
    match Shape.of argument with
    | .separator => return { scan with trailing := true }
    | .long name value => takeLong level scan name value
    | .short letters =>
      if level.takesNumbers && looksNumeric letters then takePlain level scan argument
      else takeShort level scan letters
    | .plain => takePlain level scan argument

/-- Reads a level, up to the end or to the name of a command. Gives that name and what follows. -/
def scanLevel (level : Level) : Scan → List String →
    Except Refusal (Scan × Option (Name × List String))
  | scan, [] => .ok (scan, none)
  | scan, argument :: arguments =>
    match if scan.trailing || scan.awaitsValue then none else level.subcommand? argument with
    | some name => .ok (scan, some (name, arguments))
    | none =>
      match takeArgument level scan argument with
      | .error refusal => .error refusal
      | .ok scan => scanLevel level scan arguments

/-- What the command `help` shows: the program, or the command that is named. -/
def helpTopic : List String → Refusal
  | [] => .help .program
  | [argument] => (Name.ofText? argument).elim .invalidSubcommand fun name => .help (.command name)
  | _ => .invalidSubcommand

/-- A command with the arguments that were read for it. -/
def Scan.command (scan : Scan) : Name → Command
  | .run | .help => .run
  | .classes => .classes
  | .time => .time
  | .hello => .hello scan.isStatic
  | .sum => .sum scan.numbers

/-- Reads a command line, without the name of the program. If the limit is given at both levels,
    the one after the command counts. -/
def parse (arguments : List String) : Except Refusal Arguments := do
  let (outer, named) ← scanLevel .program {} arguments
  match named with
  | none => return ⟨(← outer.resolve).limit, none⟩
  | some (.help, arguments) => throw (helpTopic arguments)
  | some (name, arguments) =>
    let (inner, _) ← scanLevel (.command name) {} arguments
    let inner ← inner.resolve
    let outer ← outer.resolve
    return ⟨inner.limit <|> outer.limit, some (inner.command name)⟩

end SlotDispatch.CommandLine
