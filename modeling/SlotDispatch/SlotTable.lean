import SlotDispatch.Name

/-!
# Slot tables

A *slot table* lists the methods of a class, each in a slot of its own. A subclass starts from the
table of its superclass: a method that it redefines stays in the slot that it has there, and a new
one goes into a new slot at the end. So a method has the same slot in a class and in all classes
below it, and a caller who knows the slot need not know the class.

* `SlotTable.push`: one more slot at the end;
* `SlotTable.extend`: the table of a subclass, unless a method has no name or the index leads to a
  slot that is not there;
* `SlotTable.slot?`: where a method is found. If several slots have methods of one name, which
  only a table made from a list may have, it is the last of them;
* `SlotTable.isPrefixOf`: whether one table begins with the methods of another, slot by slot.
-/

namespace SlotDispatch

/-- The methods of a class by slot, with an index for finding the slot of a method. -/
structure SlotTable where
  /-- The methods, each at the position of its slot. -/
  slots : List QualifiedName
  /-- The slot of each method name. -/
  index : Std.ExtTreeMap MethodName Nat
deriving DecidableEq

/-- Why a method could not be put into a slot table. -/
inductive SlotFault where
  /-- The name of the method is unfit. -/
  | naming (fault : NameFault)
  /-- The method is found in a slot that a table of this size does not have. -/
  | missing (slot size : Nat)
deriving DecidableEq

/-- The fault in words. -/
def SlotFault.message : SlotFault → String
  | .naming fault => fault.message
  | .missing slot size =>
    "index out of bounds: the len is " ++ toString size ++ " but the index is " ++ toString slot

namespace SlotTable

/-- The table without slots. -/
def empty : SlotTable := ⟨[], ∅⟩

/-- The number of slots. -/
def size (table : SlotTable) : Nat := table.slots.length

/-- Puts a method into a new slot at the end, where its name is found from now on. -/
def push (table : SlotTable) (name : QualifiedName) : SlotTable :=
  ⟨table.slots ++ [name], table.index.insert name.method table.size⟩

/-- The table with these methods, in this order. -/
def ofList (names : List QualifiedName) : SlotTable := names.foldl push empty

/-- The slot in which a method is found. -/
def slot? (table : SlotTable) (method : MethodName) : Option Nat := table.index[method]?

@[simp]
theorem size_empty : empty.size = 0 := rfl

@[simp]
theorem slot?_empty (method : MethodName) : empty.slot? method = none := by
  simp [slot?, empty]

@[simp]
theorem size_push (table : SlotTable) (name : QualifiedName) :
    (table.push name).size = table.size + 1 := by
  simp [size, push]

/-- After a push the method is found in the new slot, and all others where they were. -/
theorem slot?_push (table : SlotTable) (name : QualifiedName) (method : MethodName) :
    (table.push name).slot? method =
      if name.method = method then some table.size else table.slot? method := by
  simp [slot?, push, Std.ExtTreeMap.getElem?_insert]

/-- The names of the methods, slot by slot, whatever class defines them. -/
def methods (table : SlotTable) : List MethodName := table.slots.map (·.method)

/-- The class `owner` defines `method`: in the slot that the method has already, or else in a new
    one. -/
def define (owner : ClassName) (table : SlotTable) (method : MethodName) :
    Except SlotFault SlotTable :=
  match table.slot? method with
  | some i =>
    match table.slots[i]? with
    | some inherited =>
      match inherited.redefinedIn owner with
      | .ok name => .ok { table with slots := table.slots.set i name }
      | .error fault => .error (.naming fault)
    -- Not in a table that was made by pushing: what is in the index has a slot.
    | none => .error (.missing i table.size)
  | none =>
    match QualifiedName.of owner method with
    | .ok name => .ok (table.push name)
    | .error fault => .error (.naming fault)

/-- The table of a class that starts from `base` and defines `methods`, one after the other. -/
def extend (base : SlotTable) (owner : ClassName) (methods : List MethodName) :
    Except SlotFault SlotTable :=
  methods.foldlM (define owner) base

/-- Whether `table` is no longer than `other` and has the same method as `other` in each slot. -/
def isPrefixOf (table other : SlotTable) : Bool :=
  table.size ≤ other.size &&
    (table.slots.zip other.slots).all fun (a, b) => a.method = b.method

end SlotTable

end SlotDispatch
