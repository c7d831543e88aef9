import SlotDispatch.ClassTable.Build

/-!
# The built-in classes

`Vehicle`, a root with the methods `start` and `getColor`, and its subclass `Truck`, which redefines
`start` and adds `setPayload`. An instance of either takes two words: a reference to its descriptor
and the slot of `start`.
-/

namespace SlotDispatch.Builtin

/-- The size of an instance of a built-in class, in bytes. -/
def instanceSize : UInt64 := 16

/-- The class `Vehicle`. -/
def vehicle : Declaration where
  name := ⟨"Vehicle"⟩
  superclass := none
  size := instanceSize
  methods := [⟨"start"⟩, ⟨"getColor"⟩]

/-- The class `Truck`. -/
def truck : Declaration where
  name := ⟨"Truck"⟩
  superclass := some ⟨"Vehicle"⟩
  size := instanceSize
  methods := [⟨"start"⟩, ⟨"setPayload"⟩]

/-- The built-in classes, the superclass first. -/
def declarations : List Declaration := [vehicle, truck]

end SlotDispatch.Builtin
