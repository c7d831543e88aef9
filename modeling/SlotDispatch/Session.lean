import SlotDispatch.Program

/-!
# Sessions

In a session one works with objects that have names: creates them, changes and calls their slots,
looks into them and drops them, all on one machine. Every operation is answered with a reply, and
the session goes on after a failure.

* `Session.perform`: one operation;
* `Session.performWith`: one operation while the allocator gives certain answers.
-/

namespace SlotDispatch

/-- An object. -/
inductive Object (ρ : Type) where
  /-- A vehicle. -/
  | vehicle (vehicle : Vehicle ρ)
  /-- A truck. -/
  | truck (truck : Truck ρ)
deriving DecidableEq

/-- The ways to call `start` on an object. -/
inductive Route where
  /-- On the object as what it is. -/
  | direct
  /-- On the object after it was turned into a vehicle. -/
  | asVehicle
  /-- On the object where anything that can be seen as a vehicle is accepted. -/
  | asReference
deriving DecidableEq

variable {ρ : Type}

namespace Object

/-- The object seen as a vehicle. -/
def asVehicle : Object ρ → Vehicle ρ
  | .vehicle v => v
  | .truck t => t.asVehicle

/-- The object where anything that can be seen as a vehicle is accepted. -/
def asReference : Object ρ → Vehicle ρ
  | .vehicle v => v.asReference
  | .truck t => t.asReference

/-- Puts a routine into the slot of the object. -/
def assign (object : Object ρ) (routine : Routine ρ) : Object ρ :=
  match object with
  | .vehicle v => .vehicle (v.assign routine)
  | .truck t => .truck (t.assign routine)

/-- Calls `start` in one of the ways to do so. -/
def start [Behaviour ρ] (object : Object ρ) (route : Route) : Action Unit :=
  match route, object with
  | .direct, .vehicle v => v.start
  | .direct, .truck t => t.start
  | .asVehicle, object => object.asVehicle.start
  | .asReference, object => object.asReference.start

end Object

/-- The classes that have instances. -/
inductive Kind where
  /-- `Vehicle`. -/
  | vehicle
  /-- `Truck`. -/
  | truck
deriving DecidableEq

/-- What zeroed storage is requested for. -/
inductive Storage where
  /-- An object of one of the classes, which is kept. -/
  | object (kind : Kind)
  /-- Something else, which is dropped at once. -/
  | plain (layout : Layout)
deriving DecidableEq

/-- The operations of a session. -/
inductive Operation (ρ : Type) where
  /-- Starts with a new heap, which may have a limit. The objects stay. -/
  | heap (limit : Option UInt64)
  /-- Sets up the sink anew. -/
  | sink (room : Option Nat) (whenFull : WhenFull) (flushFails : Bool)
  /-- Creates an object. -/
  | create (kind : Kind) (name : String)
  /-- Requests zeroed storage. -/
  | zeroed (storage : Storage) (name : String)
  /-- Puts a routine into a slot. -/
  | assign (name : String) (routine : Routine ρ)
  /-- Puts the routine in one slot into another. -/
  | copySlot (source target : String)
  /-- Calls `start`. -/
  | start (name : String) (route : Route)
  /-- Runs a routine on an object, whatever is in its slot. -/
  | call (name : String) (routine : Routine ρ)
  /-- Looks into an object. -/
  | inspect (name : String)
  /-- Drops an object. Its bytes stay counted. -/
  | drop (name : String)
  /-- Shows how dispatch works. -/
  | dispatch
  /-- Prints the built-in classes. -/
  | dumpClasses
  /-- Prints the greeting. -/
  | hello (greeter : Program.Greeter)
  /-- Prints a sum. -/
  | sum (numbers : List Int32)
  /-- Prints the time. -/
  | time

/-- What a routine does when it writes to a sink of its own. -/
structure Trial where
  /-- What it writes. -/
  writes : List UInt8
  /-- Whether it succeeds. -/
  ok : Bool
deriving DecidableEq

/-- The reply to an operation. -/
inductive Reply where
  /-- It was done. -/
  | done
  /-- Storage was handed out, and it is zeroed. -/
  | zeroed
  /-- The descriptor of an object, and what the routine in its slot does. -/
  | inspected (descriptor : Option Descriptor) (slot : Option Trial)
  /-- It failed. -/
  | failed (fault : Fault)
  /-- There is no object of this name. -/
  | noSuchObject (name : String)
  /-- The slot of the object of this name is empty. -/
  | emptySlot (name : String)
deriving DecidableEq

/-- A session: the machine, and the objects by name. -/
structure Session (ρ : Type) where
  /-- The machine. -/
  machine : Machine
  /-- The objects. -/
  objects : Std.ExtTreeMap String (Object ρ) := ∅

namespace Session

/-- Performs an action on the machine. What it gives is used to make the next session. -/
def act {α : Type} (session : Session ρ) (action : Action α)
    (next : Session ρ → α → Session ρ × Reply) : Session ρ × Reply :=
  match action session.machine with
  | .ok a machine => next { session with machine } a
  | .error fault machine => ({ session with machine }, .failed fault)

/-- Performs an action for its effect. -/
def run (session : Session ρ) (action : Action Unit) : Session ρ × Reply :=
  session.act action fun session _ => (session, .done)

/-- Gives a name to an object. -/
def keep (session : Session ρ) (name : String) (object : Object ρ) : Session ρ :=
  { session with objects := session.objects.insert name object }

/-- Goes on with the object of a name. -/
def withObject (session : Session ρ) (name : String) (next : Object ρ → Session ρ × Reply) :
    Session ρ × Reply :=
  match session.objects[name]? with
  | none => (session, .noSuchObject name)
  | some object => next object

/-- A new object of a class. -/
def create : Kind → Action (Object ρ)
  | .vehicle => return .vehicle (← Vehicle.create)
  | .truck => return .truck (← Truck.create)

/-- Zeroed storage for an object of a class. -/
def zeroed : Kind → Action (Object ρ)
  | .vehicle => return .vehicle (← Vehicle.zeroed)
  | .truck => return .truck (← Truck.zeroed)

/-- What a routine does on an object when it writes to a new sink. -/
def trial [Behaviour ρ] (routine : Routine ρ) (receiver : Vehicle ρ) : Trial :=
  match routine.run receiver {} with
  | .ok _ sink => ⟨sink.written, true⟩
  | .error _ sink => ⟨sink.written, false⟩

/-- Performs one operation. -/
def perform [Behaviour ρ] (session : Session ρ) : Operation ρ → Session ρ × Reply
  | .heap limit =>
    ({ session with machine := { session.machine with heap := { limit } } }, .done)
  | .sink room whenFull flushFails =>
    let sink := { session.machine.sink with room, whenFull, flushFails }
    ({ session with machine := { session.machine with sink } }, .done)
  | .create kind name =>
    session.act (create kind) fun session object => (session.keep name object, .done)
  | .zeroed (.object kind) name =>
    session.act (zeroed kind) fun session object => (session.keep name object, .zeroed)
  | .zeroed (.plain layout) _ =>
    session.act (Machine.allocate layout) fun session _ => (session, .zeroed)
  | .assign name routine =>
    session.withObject name fun object => (session.keep name (object.assign routine), .done)
  | .copySlot source target =>
    session.withObject source fun object =>
      match object.asVehicle.slot with
      | none => (session, .emptySlot source)
      | some routine =>
        session.withObject target fun object => (session.keep target (object.assign routine), .done)
  | .start name route =>
    session.withObject name fun object => session.run (object.start route)
  | .call name routine =>
    session.withObject name fun object =>
      session.run (Machine.writing (routine.run object.asVehicle))
  | .inspect name =>
    session.withObject name fun object =>
      let vehicle := object.asVehicle
      (session, .inspected vehicle.descriptor (vehicle.slot.map (trial · vehicle)))
  | .drop name =>
    session.withObject name fun _ =>
      ({ session with objects := session.objects.erase name }, .done)
  | .dispatch => session.run Program.dispatch
  | .dumpClasses => session.run Program.dumpClasses
  | .hello greeter => session.run (Program.hello greeter)
  | .sum numbers => session.run (Program.sum numbers)
  | .time => session.run Program.time

/-- Performs one operation while the allocator gives these answers. -/
def performWith [Behaviour ρ] (session : Session ρ) (answers : List Bool)
    (operation : Operation ρ) : Session ρ × Reply :=
  let session := { session with machine := { session.machine with answers } }
  let (session, reply) := session.perform operation
  ({ session with machine := { session.machine with answers := [] } }, reply)

end Session

end SlotDispatch
