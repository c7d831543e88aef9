import SlotDispatch.Builtin
import SlotDispatch.Machine

/-!
# Instances and their slots

An instance of `Vehicle` has two fields: a reference to the descriptor of its class, and the slot of
`start`, which holds the routine that is run when `start` is called. A `Truck` begins with a
`Vehicle`, so it can be seen as one, and calling `start` on it then still runs the routine in its
own slot: dispatch goes by the instance, not by the class that the caller knows.

Storage is zeroed when it is handed out, so at first both fields are empty. The constructors put a
routine into the slot; nothing ever sets the descriptor, and dispatch does not look at it.

Besides the routines of the two classes, an instance may be given any routine of a type `ρ`, whose
behaviour is given by `Behaviour ρ`.

* `Vehicle.start`: the call of `start`;
* `Vehicle.create`, `Truck.create`: new instances.
-/

namespace SlotDispatch

/-- The routines that can be in a slot. -/
inductive Routine (ρ : Type) where
  /-- The one that `Vehicle` defines. -/
  | vehicleStart
  /-- The one that `Truck` defines. -/
  | truckStart
  /-- Some other. -/
  | other (routine : ρ)
deriving DecidableEq

/-- An instance of `Vehicle`. -/
structure Vehicle (ρ : Type) where
  /-- The descriptor of the class of the instance. -/
  descriptor : Option Descriptor := none
  /-- The routine that `start` runs. -/
  slot : Option (Routine ρ) := none
deriving DecidableEq

/-- An instance of `Truck`. -/
structure Truck (ρ : Type) where
  /-- The part that every vehicle has. -/
  base : Vehicle ρ := {}
deriving DecidableEq

/-- What the routines of a type do: they are given the instance, as a vehicle, and may write. -/
class Behaviour (ρ : Type) where
  /-- Runs a routine on an instance. -/
  run : ρ → Vehicle ρ → Writing Unit

/-- There may be no routines but those of the classes. -/
instance : Behaviour Empty where
  run routine := nomatch routine

variable {ρ : Type}

/-- Runs a routine on an instance. -/
def Routine.run [Behaviour ρ] (routine : Routine ρ) (receiver : Vehicle ρ) : Writing Unit :=
  match routine with
  | .vehicleStart => Sink.write "Vehicle_start\n"
  | .truckStart => Sink.write "Truck_start\n"
  | .other routine => Behaviour.run routine receiver

namespace Vehicle

/-- The storage of a vehicle. -/
def layout : Layout := ⟨"vtl_object::vehicle::Vehicle", Builtin.instanceSize⟩

/-- The vehicle where anything that can be seen as one is accepted: it is one itself. -/
def asReference (vehicle : Vehicle ρ) : Vehicle ρ := vehicle

/-- Puts a routine into the slot. -/
def assign (vehicle : Vehicle ρ) (routine : Routine ρ) : Vehicle ρ :=
  { vehicle with slot := some routine }

/-- Zeroed storage for a vehicle. -/
def zeroed : Action (Vehicle ρ) := do
  Machine.allocate layout
  return {}

/-- A new vehicle. -/
def create : Action (Vehicle ρ) :=
  return (← zeroed).assign .vehicleStart

/-- Calls `start`: runs the routine in the slot. -/
def start [Behaviour ρ] (vehicle : Vehicle ρ) : Action Unit :=
  match vehicle.slot with
  | none => throw (.unassignedSlot ⟨"start"⟩)
  | some routine => Machine.writing (routine.run vehicle)

end Vehicle

namespace Truck

/-- The storage of a truck. -/
def layout : Layout := ⟨"vtl_object::vehicle::Truck", Builtin.instanceSize⟩

/-- The truck seen as a vehicle. -/
def asVehicle (truck : Truck ρ) : Vehicle ρ := truck.base

/-- The truck where anything that can be seen as a vehicle is accepted. -/
def asReference (truck : Truck ρ) : Vehicle ρ := truck.asVehicle

/-- Puts a routine into the slot of the truck seen as a vehicle. -/
def assign (truck : Truck ρ) (routine : Routine ρ) : Truck ρ :=
  { truck with base := truck.base.assign routine }

/-- Zeroed storage for a truck. -/
def zeroed : Action (Truck ρ) := do
  Machine.allocate layout
  return {}

/-- A new truck. -/
def create : Action (Truck ρ) :=
  return (← zeroed).assign .truckStart

/-- Calls `start` on a truck that is known to be one. -/
def start [Behaviour ρ] (truck : Truck ρ) : Action Unit := truck.base.start

end Truck

end SlotDispatch
