import SlotDispatch.Json.Tree
import Std.Data.ExtTreeMap

/-!
# JSON values

A value that is held in memory, and its two written forms: `Value.compact`, without any blanks, and
`Value.pretty`, with one item to a line and two blanks of indentation for each level.

`Value.tree` is a value as a reader meets it, so what can be read from a text can be read from a
value in memory too. `Value.ofText` is the value of a text. There the fields of an object are in the
order of their keys, and of several fields with the same key the last counts.
-/

namespace SlotDispatch.Json

/-- A JSON value. -/
inductive Value where
  /-- No value. -/
  | null
  /-- A truth value. -/
  | bool (value : Bool)
  /-- A number. -/
  | number (value : Number)
  /-- A string. -/
  | text (value : String)
  /-- An array. -/
  | array (items : List Value)
  /-- An object, with its fields in the order in which they are written. -/
  | object (fields : List (String × Value))

/-! ## Writing -/

/-- The lower-case hexadecimal digit with this value. -/
def hexChar (n : Nat) : Char := Nat.digitChar n

/-- A character inside a string. Quotes, backslashes and control characters are escaped. -/
def escapeChar (c : Char) : List Char :=
  if c = '"' then ['\\', '"']
  else if c = '\\' then ['\\', '\\']
  else if c = '\x08' then ['\\', 'b']
  else if c = '\x0c' then ['\\', 'f']
  else if c = '\n' then ['\\', 'n']
  else if c = '\r' then ['\\', 'r']
  else if c = '\t' then ['\\', 't']
  else if c < ' ' then ['\\', 'u', '0', '0', hexChar (c.toNat / 16), hexChar (c.toNat % 16)]
  else [c]

/-- A string in quotes. -/
def quote (text : String) : List Char := '"' :: text.toList.flatMap escapeChar ++ ['"']

/-- The start of a new line at a level of nesting. -/
def newLine (level : Nat) : List Char := '\n' :: List.replicate (2 * level) ' '

namespace Value

mutual

/-- The written form without blanks. -/
def compact : Value → List Char
  | .null => ['n', 'u', 'l', 'l']
  | .bool true => ['t', 'r', 'u', 'e']
  | .bool false => ['f', 'a', 'l', 's', 'e']
  | .number value => value.text
  | .text value => quote value
  | .array items => '[' :: compactItems true items
  | .object fields => '\x7b' :: compactFields true fields

/-- The items of an array up to its end, with commas between them. -/
def compactItems (first : Bool) : List Value → List Char
  | [] => [']']
  | item :: items => (if first then [] else [',']) ++ item.compact ++ compactItems false items

/-- The fields of an object up to its end, with commas between them. -/
def compactFields (first : Bool) : List (String × Value) → List Char
  | [] => ['\x7d']
  | (key, value) :: fields =>
    (if first then [] else [',']) ++ quote key ++ ':' :: value.compact ++ compactFields false fields

end

mutual

/-- The written form with one item to a line, at a level of nesting. -/
def prettyAt (level : Nat) : Value → List Char
  | .null => ['n', 'u', 'l', 'l']
  | .bool true => ['t', 'r', 'u', 'e']
  | .bool false => ['f', 'a', 'l', 's', 'e']
  | .number value => value.text
  | .text value => quote value
  | .array [] => ['[', ']']
  | .array (item :: items) =>
    '[' :: newLine (level + 1) ++ prettyAt (level + 1) item ++ prettyItems level items
  | .object [] => ['\x7b', '\x7d']
  | .object ((key, value) :: fields) =>
    '\x7b' :: newLine (level + 1) ++ quote key ++ ':' :: ' ' :: prettyAt (level + 1) value ++
      prettyFields level fields

/-- The further items of an array that stands at a level of nesting, up to its end. -/
def prettyItems (level : Nat) : List Value → List Char
  | [] => newLine level ++ [']']
  | item :: items =>
    ',' :: newLine (level + 1) ++ prettyAt (level + 1) item ++ prettyItems level items

/-- The further fields of an object that stands at a level of nesting, up to its end. -/
def prettyFields (level : Nat) : List (String × Value) → List Char
  | [] => newLine level ++ ['\x7d']
  | (key, value) :: fields =>
    ',' :: newLine (level + 1) ++ quote key ++ ':' :: ' ' :: prettyAt (level + 1) value ++
      prettyFields level fields

end

/-- The compact text of a value. -/
def compactText (value : Value) : String := String.ofList value.compact

/-- The pretty text of a value. -/
def prettyText (value : Value) : String := String.ofList (value.prettyAt 0)

/-! ## Values and trees -/

mutual

/-- A value as a reader meets it. -/
def tree : Value → Tree
  | .null => .null
  | .bool value => .bool value
  | .number value => .number (some value)
  | .text value => .text (.of value)
  | .array items => .array (treeItems items) .closed
  | .object fields => .object (treeFields fields) none

/-- The items of an array as a reader meets them. -/
def treeItems : List Value → List Tree
  | [] => []
  | item :: items => item.tree :: treeItems items

/-- The fields of an object as a reader meets them. -/
def treeFields : List (String × Value) → List (Text × Tree)
  | [] => []
  | (key, value) :: fields => (.of key, value.tree) :: treeFields fields

end

/-- Fields in the order of their keys, the last one of each key. -/
def sortFields (fields : List (String × Value)) : List (String × Value) :=
  (Std.ExtTreeMap.ofList fields compare).toList

mutual

/-- The value that a reader meets. -/
def ofTree : Tree → Except Fault Value
  | .null => .ok .null
  | .bool value => .ok (.bool value)
  | .number (some value) => .ok (.number value)
  | .number none => .error .malformed
  | .badNumber fault => .error fault
  | .text t => do return .text (← t.decoded)
  | .array items ending => do
    let items ← ofItems items
    ending.fault?.elim (.ok (.array items)) .error
  | .object fields ending => do
    let fields ← ofFields fields
    ending.elim (.ok (.object (sortFields fields))) .error
  | .broken fault => .error fault

/-- The items that a reader meets. -/
def ofItems : List Tree → Except Fault (List Value)
  | [] => .ok []
  | item :: items => do return (← ofTree item) :: (← ofItems items)

/-- The fields that a reader meets. -/
def ofFields : List (Text × Tree) → Except Fault (List (String × Value))
  | [] => .ok []
  | (key, value) :: fields => do
    return (← key.decoded, ← ofTree value) :: (← ofFields fields)

end

/-- The value of a text. -/
def ofText (text : String) : Except Fault Value := do
  let reading := Reading.of text
  let value ← ofTree reading.tree
  if reading.trailing then throw .malformed
  return value

/-- The value of the field with a key, if the value is an object that has one. -/
def field? (value : Value) (key : String) : Option Value :=
  match value with
  | .object fields => fields.lookup key
  | _ => none

end Value

end SlotDispatch.Json
