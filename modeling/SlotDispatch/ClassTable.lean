import SlotDispatch.Descriptor

/-!
# Class tables

A class table holds the descriptors of some classes, each under a name. It answers the two
questions of a caller: what is known of a class (`ClassTable.get?`), and in which slot a method is
found when it is called on an instance of a class (`ClassTable.method?`).

Two tables are equal if they hold equal descriptors under the same names.
-/

namespace SlotDispatch

/-- Descriptors of classes by name. -/
structure ClassTable where
  /-- The descriptors. -/
  classes : Std.ExtTreeMap ClassName Descriptor
deriving DecidableEq

namespace ClassTable

/-- The table without classes. -/
def empty : ClassTable := ⟨∅⟩

/-- The descriptor of a class. -/
def get? (table : ClassTable) (name : ClassName) : Option Descriptor := table.classes[name]?

/-- Whether the table has a descriptor under a name. -/
def contains (table : ClassTable) (name : ClassName) : Bool := (table.get? name).isSome

/-- Puts a descriptor under a name, in place of the one that is there. -/
def insert (table : ClassTable) (name : ClassName) (descriptor : Descriptor) : ClassTable :=
  ⟨table.classes.insert name descriptor⟩

@[simp]
theorem get?_empty (name : ClassName) : empty.get? name = none := by
  simp [get?, empty]

theorem get?_insert (table : ClassTable) (name other : ClassName) (descriptor : Descriptor) :
    (table.insert name descriptor).get? other =
      if name = other then some descriptor else table.get? other := by
  simp [get?, insert, Std.ExtTreeMap.getElem?_insert]

/-- Tables with equal descriptors under the same names are equal. -/
theorem ext_get? {table other : ClassTable} (h : ∀ name, table.get? name = other.get? name) :
    table = other := by
  cases table
  cases other
  exact congrArg ClassTable.mk (Std.ExtTreeMap.ext_getElem? h)

/-- The table of some entries. Of several entries for a name, the last counts. -/
def ofList (entries : List (ClassName × Descriptor)) : ClassTable :=
  entries.foldl (fun table (name, descriptor) => table.insert name descriptor) empty

/-- The entries, in the order of their names. -/
def toList (table : ClassTable) : List (ClassName × Descriptor) := table.classes.toList

/-- The slot in which a method is found on an instance of a class, and the number of slots of that
    class. -/
def method? (table : ClassTable) (name : ClassName) (method : MethodName) : Option (Nat × Nat) := do
  let descriptor ← table.get? name
  let slot ← descriptor.table.slot? method
  return (slot, descriptor.table.size)

end ClassTable

end SlotDispatch
