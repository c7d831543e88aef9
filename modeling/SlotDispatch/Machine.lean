import SlotDispatch.Heap
import SlotDispatch.Limit
import SlotDispatch.Native
import SlotDispatch.Note
import SlotDispatch.Sink

/-!
# The machine

Everything that the actions of the program work on: a heap with its allocator, a sink for what they
print, a clock, and the notes that they make. An action that fails leaves the machine as it is at
that moment, so what it has done before stays done.

The allocator is given by the answers that it is going to give. When they are used up it grants
every request.
-/

namespace SlotDispatch

/-- Why an action failed. -/
inductive Fault where
  /-- A request for storage was not met. -/
  | heap (fault : HeapFault)
  /-- A method was called whose slot is empty. -/
  | unassignedSlot (method : MethodName)
  /-- Something could not be printed. -/
  | sink (fault : SinkFault)
  /-- Classes could not be built. -/
  | classes (fault : ClassFault)
  /-- There is no array to take the sum of. -/
  | absentArray
  /-- The limit of the heap is not a number. -/
  | limit (fault : LimitFault)
deriving DecidableEq

/-- The fault in words. -/
def Fault.message : Fault → String
  | .heap fault => fault.message
  | .unassignedSlot method => "method slot `" ++ method.text ++ "' is not assigned"
  | .sink fault => fault.message
  | .classes fault => fault.message
  | .absentArray => "invalid input: array is absent"
  | .limit fault => fault.message

/-- What is behind the fault, in words, the outermost cause first. -/
def Fault.causes : Fault → List String
  | .limit fault => [fault.cause.message]
  | _ => []

/-- The state that actions work on. -/
structure Machine where
  /-- The heap. -/
  heap : Heap := {}
  /-- The answers that the allocator is going to give: whether it grants the request. -/
  answers : List Bool := []
  /-- Where actions print. -/
  sink : Sink := {}
  /-- What the clock shows. -/
  clock : Native.Clock
  /-- The notes so far. -/
  notes : List Note := []

/-- Actions on a machine. -/
abbrev Action := EStateM Fault Machine

namespace Machine

/-- Makes a note. -/
def note (note : Note) : Action Unit :=
  modify fun machine => { machine with notes := machine.notes ++ [note] }

/-- Writes to the sink of the machine. -/
def writing {α : Type} (write : Writing α) : Action α := fun machine =>
  match write machine.sink with
  | .ok a sink => .ok a { machine with sink }
  | .error fault sink => .error (.sink fault) { machine with sink }

/-- Prints a text. -/
def print (text : String) : Action Unit := writing (Sink.write text)

/-- Requests storage. -/
def allocate (layout : Layout) : Action Unit := fun machine =>
  let granted := machine.answers.headD true
  let answers :=
    if machine.heap.asksAllocator layout.size then machine.answers.tail else machine.answers
  match machine.heap.allocate layout granted with
  | .error fault => .error (.heap fault) { machine with answers }
  | .ok heap => note (.allocated layout.size layout.label) { machine with heap, answers }

end Machine

end SlotDispatch
