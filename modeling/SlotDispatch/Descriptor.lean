import SlotDispatch.Declaration
import SlotDispatch.SlotTable

/-!
# Descriptors

The *descriptor* of a class is what remains of a class once it is known what it inherits: its name,
the class above it, the size of its instances and its slot table.

An instance of a class may stand wherever an instance of its superclass is expected if it begins
like one: it is at least as large, and its slot table begins with the methods of the superclass.
`Descriptor.checkPrefix` checks that, and `Descriptor.build`, which makes the descriptor of a
declared class from that of its superclass, fails unless it holds.
-/

namespace SlotDispatch

/-- What is known of a class. -/
structure Descriptor where
  /-- The class. -/
  name : ClassName
  /-- The class above it, if it is not a root. -/
  superclass : Option ClassName
  /-- The size of an instance, in bytes. -/
  size : UInt64
  /-- The methods by slot. -/
  table : SlotTable
deriving DecidableEq

/-- Why an instance of a class cannot stand for one of its superclass. -/
inductive LayoutFault where
  /-- The instance is too small. -/
  | smaller (sub : ClassName) (subSize : UInt64) (base : ClassName) (baseSize : UInt64)
  /-- The slot table does not begin with the methods of the superclass. -/
  | otherSlots (sub base : ClassName)
deriving DecidableEq

/-- The fault in words. -/
def LayoutFault.message : LayoutFault → String
  | .smaller sub subSize base baseSize =>
    "`" ++ sub.text ++ "' (" ++ toString subSize.toNat ++ " bytes) is smaller than its superclass `"
      ++ base.text ++ "' (" ++ toString baseSize.toNat ++ " bytes)"
  | .otherSlots sub base =>
    "vtable of `" ++ sub.text ++ "' does not start with the slots of `" ++ base.text ++ "'"

/-- Why the classes of some declarations could not be made. -/
inductive ClassFault where
  /-- A method could not be put into the slot table of its class. -/
  | slots (fault : SlotFault)
  /-- A class does not begin like its superclass. -/
  | layout (fault : LayoutFault)
  /-- A superclass is not declared. -/
  | unknownClass (name : ClassName)
  /-- A class is above itself. -/
  | inheritanceCycle (name : ClassName)
deriving DecidableEq

/-- The fault in words. -/
def ClassFault.message : ClassFault → String
  | .slots fault => fault.message
  | .layout fault => fault.message
  | .unknownClass name => "unknown class `" ++ name.text ++ "'"
  | .inheritanceCycle name => "class `" ++ name.text ++ "' inherits from itself"

namespace Descriptor

/-- Checks that an instance of `sub` can stand for one of `base`: first that it is large enough,
    then that it has the methods of `base` in the same slots. -/
def checkPrefix (base sub : Descriptor) : Except LayoutFault Unit :=
  if sub.size < base.size then .error (.smaller sub.name sub.size base.name base.size)
  else if !base.table.isPrefixOf sub.table then .error (.otherSlots sub.name base.name)
  else .ok ()

/-- The slot table that a class below `base` starts from. -/
def inherited (base : Option Descriptor) : SlotTable :=
  (base.map Descriptor.table).getD .empty

/-- The descriptor of a declared class, given that of its superclass. -/
def build (base : Option Descriptor) (decl : Declaration) : Except ClassFault Descriptor :=
  match (inherited base).extend decl.name decl.methods with
  | .error fault => .error (.slots fault)
  | .ok table =>
    let descriptor := ⟨decl.name, decl.superclass, decl.size, table⟩
    -- A class without superclass can have any size.
    match base with
    | none => .ok descriptor
    | some base =>
      match base.checkPrefix descriptor with
      | .error fault => .error (.layout fault)
      | .ok () => .ok descriptor

end Descriptor

end SlotDispatch
