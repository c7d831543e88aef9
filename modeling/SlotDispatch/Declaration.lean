import SlotDispatch.Name

/-!
# Class declarations

A declaration says what a class adds to its superclass: its name, the class above it, the size of
its instances and the methods that it defines or redefines. Nothing in it is checked against other
declarations; `Declaration.checked` only checks the names of the class and of its superclass.
-/

namespace SlotDispatch

/-- The declaration of a class. -/
structure Declaration where
  /-- The class that is declared. -/
  name : ClassName
  /-- The class above it, if it is not a root. -/
  superclass : Option ClassName
  /-- The size of an instance, in bytes. -/
  size : UInt64
  /-- The methods that the class defines or redefines. -/
  methods : List MethodName
deriving DecidableEq

namespace Declaration

/-- A declaration from texts. The name of the class is checked, then that of its superclass. -/
def checked (name : String) (superclass : Option String) (size : UInt64)
    (methods : List String) : Except NameFault Declaration := do
  let name ← ClassName.checked name
  let superclass ← superclass.mapM ClassName.checked
  return ⟨name, superclass, size, methods.map MethodName.mk⟩

/-- A declaration from texts that are taken as they are. -/
def unchecked (name : String) (superclass : Option String) (size : UInt64)
    (methods : List String) : Declaration :=
  ⟨⟨name⟩, superclass.map ClassName.mk, size, methods.map MethodName.mk⟩

end Declaration

end SlotDispatch
