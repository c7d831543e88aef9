/-!
# Visible characters

A text can hold instructions to a terminal: control characters, and sequences of characters that
begin with the escape character. `visible` leaves the instructions out and keeps what a terminal
shows. White space is shown: it moves what comes after it.

* `Mode`: the part of a sequence that a terminal is reading;
* `Mode.shows`: the characters that are shown, and not part of a sequence;
* `Mode.next`: how the other characters begin, continue and end a sequence;
* `visible`: the characters of a text that are shown.
-/

namespace SlotDispatch.Text

/-- The part of a sequence that a terminal is reading. -/
inductive Mode where
  /-- No sequence. -/
  | ground
  /-- The escape character has been read. -/
  | escape
  /-- An escape character and a mark from `' '` to `'/'` have been read. The sequence ends with a
      character from `'0'` to `'~'`. -/
  | marked
  /-- A control sequence. It ends with a character from `'@'` to `'~'`. -/
  | control
  /-- A command to the operating system. It ends with the bell. -/
  | command
  /-- The start of a string to the device. -/
  | device
  /-- The parameters of a string to the device. -/
  | deviceParameters
  /-- The marks after the parameters of a string to the device. -/
  | deviceMarked
  /-- The contents of a string, to the device or to an application. It ends with the string
      terminator. -/
  | string
deriving DecidableEq

/-- Whether a character is white space in ASCII: blank, tabulator, line feed, form feed or
    carriage return. -/
def isSpace (c : Char) : Bool := c ∈ [' ', '\t', '\n', '\x0c', '\r']

/-- Whether a character terminates a string: whether the byte `0x9c` is in its encoding. Strings
    are read byte by byte, so it does not matter which part of the character the byte is. -/
def isTerminator (c : Char) : Bool := 0x9c ∈ String.utf8EncodeChar c

namespace Mode

/-- Whether a character is shown. White space interrupts a sequence if it is not part of it;
    commands and strings contain it like any other character. -/
def shows (mode : Mode) (c : Char) : Bool :=
  match mode with
  | ground => isSpace c || ' ' < c && c ≠ '\x7f'
  | escape | marked | control => isSpace c && c ≠ ' '
  | command | device | deviceParameters | deviceMarked | string => false

/-- What is read after a character that is not shown. The escape character begins another sequence
    at any place, and cancel (`'\x18'`) and substitute (`'\x1a'`) end one. A character that has no
    meaning in a sequence is passed over. -/
def next (mode : Mode) (c : Char) : Mode :=
  if c = '\x1b' then escape
  else if c = '\x18' || c = '\x1a' then ground
  else
    match mode with
    | ground => ground
    | escape =>
      if c = '[' then control
      else if c = ']' then command
      else if c = 'P' then device
      else if c ∈ ['X', '^', '_'] then string
      else if ' ' ≤ c && c ≤ '/' then marked
      else if '0' ≤ c && c ≤ '~' then ground
      else escape
    | marked => if '0' ≤ c && c ≤ '~' then ground else marked
    | control => if '@' ≤ c && c ≤ '~' then ground else control
    | command => if c = '\x07' then ground else command
    | device =>
      if ' ' ≤ c && c ≤ '/' then deviceMarked
      else if '0' ≤ c && c ≤ '?' then deviceParameters
      else if '@' ≤ c && c ≤ '~' then string
      else device
    | deviceParameters =>
      if ' ' ≤ c && c ≤ '/' then deviceMarked
      else if '<' ≤ c && c ≤ '~' then string
      else deviceParameters
    | deviceMarked => if '0' ≤ c && c ≤ '~' then string else deviceMarked
    | string => if isTerminator c then ground else string

/-- The characters that are shown of a text that is read in a mode. -/
def visible : Mode → List Char → List Char
  | _, [] => []
  | mode, c :: cs =>
    if mode.shows c then c :: ground.visible cs else (mode.next c).visible cs

end Mode

/-- The characters of a text that a terminal shows. -/
def visible (cs : List Char) : List Char := Mode.ground.visible cs

end SlotDispatch.Text
