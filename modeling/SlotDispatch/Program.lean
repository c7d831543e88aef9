import SlotDispatch.Instance
import SlotDispatch.Interchange.Write

/-!
# What the program does

The things that can be asked for on the command line, as actions on a machine.

* `Program.dispatch`: a demonstration of dispatch. Both objects are created before anything is
  printed;
* `Program.dumpClasses`: the table of the built-in classes;
* `Program.hello`, `Program.sum`, `Program.time`: a greeting, a sum and the time.
-/

namespace SlotDispatch.Program

/-- Calls `start` three times: on a vehicle, on a truck, and on the same truck seen as a vehicle. -/
def dispatch : Action Unit := do
  let vehicle : Vehicle Empty ← Vehicle.create
  let truck : Truck Empty ← Truck.create
  Machine.note (.createdInstances (← get).heap.allocated)
  vehicle.start
  truck.start
  truck.asVehicle.start

/-- Builds the table of some classes, with a note for each class that is built. -/
def buildClasses (decls : List Declaration) : Action ClassTable := do
  (ClassTable.buildTrace decls).forM fun record => Machine.note (.built record)
  match ClassTable.build decls with
  | .ok table => return table
  | .error fault => throw (.classes fault)

/-- Prints the table of the built-in classes. -/
def dumpClasses : Action Unit := do
  let table ← buildClasses Builtin.declarations
  Machine.note .createdClassTable
  Machine.print (table.toJson.prettyText ++ "\n")

/-- Prints the time. -/
def time : Action Unit := do
  let clock := (← get).clock
  Machine.note (.localTime clock.stamp)
  Machine.print clock.message

/-- How the greeting is called. -/
inductive Greeter where
  /-- Through an instance. -/
  | ofInstance
  /-- Through the type. -/
  | ofType
deriving DecidableEq

/-- Prints the greeting and flushes. -/
def sayHello : Action Unit := do
  Machine.print "Hello World!\n"
  Machine.writing Sink.flush

/-- A greeter of which an instance is needed. -/
structure InstanceGreeter where

/-- The greeting, called through an instance. -/
def InstanceGreeter.greet (_greeter : InstanceGreeter) : Action Unit := sayHello

/-- The greeting, called through the type. -/
def TypeGreeter.greet : Action Unit := sayHello

/-- Prints the greeting, called as asked. -/
def hello : Greeter → Action Unit
  | .ofInstance => InstanceGreeter.greet {}
  | .ofType => TypeGreeter.greet

/-- The sum of an array, which must be there. -/
def sumArray : Option (List Int32) → Action Int32
  | none => throw .absentArray
  | some items => do
    Machine.note (.summed items.length (Native.total items))
    return Native.total items

/-- Prints the sum of some integers. If there are none, it is that of the integers from 0 to 9. -/
def sum (numbers : List Int32) : Action Unit := do
  let total ← sumArray (some (if numbers = [] then Native.sample else numbers))
  Machine.print ("sum = " ++ String.ofList (Decimal.integerText total.toInt) ++ "\n")

end SlotDispatch.Program
