import SlotDispatch.Instance

/-!
# Sample routines

A few routines for trying out slots: some that print, one that prints nothing, one that gives up
halfway, and one that tells what it sees of its receiver.
-/

namespace SlotDispatch

/-- A sample routine. -/
inductive Sample where
  /-- Sounds the horn. -/
  | honk
  /-- Does what vehicles do, then what trucks do. -/
  | both
  /-- Begins to print and gives up. -/
  | stall
  /-- Prints nothing. -/
  | silent
  /-- Tells whether the fields of the receiver are set. -/
  | report
deriving DecidableEq

/-- Whether a field is set, in words. -/
def Sample.isSet {α : Type} (field : Option α) : String := if field.isSome then "true" else "false"

/-- What the sample routines do. -/
def Sample.run (sample : Sample) (receiver : Vehicle Sample) : Writing Unit :=
  match sample with
  | .honk => Sink.write "honk\n"
  | .both => do
    Sink.write "Vehicle_start\n"
    Sink.write "Truck_start\n"
  | .stall => do
    Sink.write "st"
    throw (.givenUp "stalled")
  | .silent => return ()
  | .report =>
    Sink.write ("clazz=" ++ isSet receiver.descriptor ++ " slot=" ++ isSet receiver.slot ++ "\n")

instance : Behaviour Sample where
  run := Sample.run

end SlotDispatch
