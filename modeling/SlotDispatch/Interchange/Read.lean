import SlotDispatch.ClassTable
import SlotDispatch.Interchange.Fault
import SlotDispatch.Json.Value

/-!
# Reading classes from JSON

Classes are read from a text or from a value in memory (`Source`). A text is read from left to
right, and the first thing that is wrong is reported, be it a fault of the text or of what it
describes. The two sources differ in one point: a descriptor may be written as an array of its four
fields, and items beyond these are a fault of the form in a text, and of the length in memory.

An object that describes a descriptor may leave out the superclass and may have fields of other
names, which are passed over.
-/

namespace SlotDispatch.Interchange

open Json (Tree Text Value)

/-- The result of reading. -/
abbrev Read := Except ReadFault

/-- Turns a fault of the text into one of the reading. -/
def wellFormed {α : Type} : Except Json.Fault α → Read α
  | .ok a => .ok a
  | .error fault => .error (.text fault)

/-- Refuses a value that is not what was expected. -/
def refuse {α : Type} (expected : String) (tree : Tree) : Read α := do
  let found ← wellFormed (Found.ofTree tree)
  throw (.data (.invalidType found expected))

/-- Where JSON comes from. -/
inductive Origin where
  /-- From a text. -/
  | text
  /-- From a value in memory. -/
  | memory
deriving DecidableEq

/-- A string. -/
def readString (expected : String) : Tree → Read String
  | .text t => wellFormed t.decoded
  | tree => refuse expected tree

/-- A class name. -/
def readClassName (tree : Tree) : Read ClassName :=
  return ⟨← readString "a string" tree⟩

/-- A method name. -/
def readMethodName (tree : Tree) : Read MethodName :=
  return ⟨← readString "a string" tree⟩

/-- A qualified name. -/
def readQualifiedName (tree : Tree) : Read QualifiedName := do
  let text ← readString "a MethodFullname" tree
  match QualifiedName.ofText text with
  | .ok name => return name
  | .error .malformed =>
    throw (.data (.invalidValue (.text text) "something like `Vehicle#start'"))
  | .error (.naming fault) => throw (.naming fault)

/-- A slot table: the slots are filled in the order of the array. -/
def readSlotTable : Tree → Read SlotTable
  | .array items ending => do
    let names ← items.mapM readQualifiedName
    match ending.fault? with
    | none => return .ofList names
    | some fault => throw (.text fault)
  | tree => refuse "a sequence" tree

/-- The superclass of a descriptor, or none. -/
def readSuperclass : Tree → Read (Option ClassName)
  | .null => return none
  | tree => return some (← readClassName tree)

/-- A size: a whole number of 64 bits. -/
def readSize : Tree → Read UInt64
  | .number (some (.integer value)) =>
    if 0 ≤ value ∧ value.toNat < UInt64.size then return UInt64.ofNat value.toNat
    else throw (.data (.invalidValue (.number (.integer value)) "usize"))
  | tree => refuse "usize" tree

/-- The item at a position of an array that stands for a descriptor. -/
def readItem (items : List Tree) (ending : Json.ArrayEnd) (i : Nat) : Read Tree :=
  match items[i]?, ending.fault? with
  | some item, _ => return item
  | none, some fault => throw (.text fault)
  | none, none => throw (.data (.tooFew i))

/-- Checks that an array that stands for a descriptor ends after its four items. -/
def readEnd (origin : Origin) (items : List Tree) (ending : Json.ArrayEnd) : Read Unit :=
  if 4 < items.length then
    match origin with
    | .text => throw (.text .malformed)
    | .memory => throw (.data (.tooMany items.length))
  else
    match ending with
    | .closed => return ()
    | .cut => throw (.text .endOfText)
    | .cutAfterComma | .malformed => throw (.text .malformed)

/-- The fields of a descriptor that have been read. -/
structure Fields where
  /-- The name. -/
  name : Option ClassName := none
  /-- The superclass, if it was given, even if it was given as none. -/
  superclass : Option (Option ClassName) := none
  /-- The size. -/
  size : Option UInt64 := none
  /-- The slot table. -/
  table : Option SlotTable := none

/-- Refuses a second field of the same name. -/
def onlyOnce {α : Type} (name : String) : Option α → Read Unit
  | none => return ()
  | some _ => throw (.data (.duplicateField name))

/-- Reads one field of a descriptor. A field that is not part of a descriptor is passed over. -/
def readField (fields : Fields) (field : Text × Tree) : Read Fields := do
  let key ← wellFormed field.1.decoded
  if key = "name" then
    onlyOnce key fields.name
    return { fields with name := some (← readClassName field.2) }
  else if key = "superclass" then
    onlyOnce key fields.superclass
    return { fields with superclass := some (← readSuperclass field.2) }
  else if key = "size" then
    onlyOnce key fields.size
    return { fields with size := some (← readSize field.2) }
  else if key = "vtable" then
    onlyOnce key fields.table
    return { fields with table := some (← readSlotTable field.2) }
  else
    wellFormed field.2.skip
    return fields

/-- A field that must not be missing. -/
def required {α : Type} (name : String) : Option α → Read α
  | some a => return a
  | none => throw (.data (.missingField name))

/-- A descriptor. -/
def readDescriptor (origin : Origin) : Tree → Read Descriptor
  | .array items ending => do
    let name ← readClassName (← readItem items ending 0)
    let superclass ← readSuperclass (← readItem items ending 1)
    let size ← readSize (← readItem items ending 2)
    let table ← readSlotTable (← readItem items ending 3)
    readEnd origin items ending
    return ⟨name, superclass, size, table⟩
  | .object fields ending => do
    let fields ← fields.foldlM readField {}
    match ending with
    | some fault => throw (.text fault)
    | none =>
      let name ← required "name" fields.name
      let size ← required "size" fields.size
      let table ← required "vtable" fields.table
      return ⟨name, fields.superclass.getD none, size, table⟩
  | tree => refuse "struct Metadata" tree

/-- One entry of a class table: the descriptor counts for its key, whatever name it has inside. -/
def readEntry (origin : Origin) (field : Text × Tree) : Read (ClassName × Descriptor) := do
  let key ← wellFormed field.1.decoded
  return (⟨key⟩, ← readDescriptor origin field.2)

/-- A class table. -/
def readClassTable (origin : Origin) : Tree → Read ClassTable
  | .object fields ending => do
    let entries ← fields.mapM (readEntry origin)
    match ending with
    | some fault => throw (.text fault)
    | none => return .ofList entries
  | tree => refuse "a map" tree

/-- Something to read from. -/
inductive Source where
  /-- A text. -/
  | text (text : String)
  /-- A value in memory. -/
  | memory (value : Value)

/-- Reads from a source. After a value in a text only blanks may come. -/
def Source.read {α : Type} (source : Source) (reader : Origin → Tree → Read α) : Read α :=
  match source with
  | .memory value => reader .memory value.tree
  | .text t => do
    let reading := Json.Reading.of t
    let a ← reader .text reading.tree
    if reading.trailing then throw (.text .malformed)
    return a

end SlotDispatch.Interchange
