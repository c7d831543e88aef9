import SlotDispatch.ClassTable
import SlotDispatch.Json.Value

/-!
# Writing classes as JSON

A name is written as a string, a slot table as the array of its qualified names, a descriptor as an
object with the fields `name`, `superclass`, `size` and `vtable`, and a class table as an object
from class names to descriptors, in the order of the names.
-/

namespace SlotDispatch

open Json (Value)

/-- A class name as a JSON value. -/
def ClassName.toJson (name : ClassName) : Value := .text name.text

/-- A method name as a JSON value. -/
def MethodName.toJson (name : MethodName) : Value := .text name.text

/-- A qualified name as a JSON value. -/
def QualifiedName.toJson (name : QualifiedName) : Value := .text name.full

/-- A slot table as a JSON value. The index is not written. -/
def SlotTable.toJson (table : SlotTable) : Value :=
  .array (table.slots.map QualifiedName.toJson)

/-- A descriptor as a JSON value. -/
def Descriptor.toJson (descriptor : Descriptor) : Value :=
  .object [
    ("name", descriptor.name.toJson),
    ("superclass", descriptor.superclass.elim .null ClassName.toJson),
    ("size", .number (.integer descriptor.size.toNat)),
    ("vtable", descriptor.table.toJson)]

/-- A class table as a JSON value. -/
def ClassTable.toJson (table : ClassTable) : Value :=
  .object (table.toList.map fun (name, descriptor) => (name.text, descriptor.toJson))

end SlotDispatch
