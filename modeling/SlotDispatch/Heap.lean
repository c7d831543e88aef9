/-!
# The object heap

The heap hands out zeroed storage and counts the bytes. It may have a limit: a request that would
bring the count above it is refused. The count only grows, since giving storage back does not
change it. Storage comes from an allocator, which may refuse as well; a request for no bytes is not
passed on to it.

The count is a 64-bit word. With a limit it cannot overflow, as a limit is a word too. Without one
it can, which is a fault of its own (`HeapFault.counterOverflow`): the request was granted, but its
bytes cannot be counted.

* `Heap.allocate`: one request, with the answer of the allocator.
-/

namespace SlotDispatch

/-- What storage is requested for. -/
structure Layout where
  /-- The type of the object, with the path to it in front, separated by `::`. -/
  typeName : String
  /-- The size of the object, in bytes. -/
  size : UInt64
deriving DecidableEq

/-- The characters before the first `::`. -/
def beforeColons : List Char → List Char
  | [] => []
  | ':' :: ':' :: _ => []
  | c :: cs => c :: beforeColons cs

/-- The name of the type without the path: what comes after the last `::`. -/
def Layout.label (layout : Layout) : String :=
  String.ofList (beforeColons layout.typeName.toList.reverse).reverse

/-- A heap: its limit, and what it has handed out. -/
structure Heap where
  /-- The number of bytes that may be handed out, if there is a limit. -/
  limit : Option UInt64 := none
  /-- The number of bytes that have been handed out. -/
  allocated : UInt64 := 0
deriving DecidableEq

/-- Why a request was not met. -/
inductive HeapFault where
  /-- There is not enough storage for an object of this type and size. -/
  | outOfMemory (label : String) (size : UInt64)
  /-- The bytes cannot be counted in 64 bits. -/
  | counterOverflow
deriving DecidableEq

/-- The fault in words. -/
def HeapFault.message : HeapFault → String
  | .outOfMemory label size =>
    "out of memory: cannot allocate " ++ toString size.toNat ++ " bytes for " ++ label
  | .counterOverflow => "attempt to add with overflow"

namespace Heap

/-- Whether a request stays within the limit. -/
def within (heap : Heap) (size : UInt64) : Bool :=
  match heap.limit with
  | none => true
  | some limit => heap.allocated.toNat + size.toNat ≤ limit.toNat

/-- Whether a request is passed on to the allocator. -/
def asksAllocator (heap : Heap) (size : UInt64) : Bool :=
  heap.within size && size ≠ 0

/-- Requests storage. The allocator's answer is only looked at if the allocator is asked. -/
def allocate (heap : Heap) (layout : Layout) (granted : Bool) : Except HeapFault Heap :=
  if !heap.within layout.size then .error (.outOfMemory layout.label layout.size)
  else if heap.asksAllocator layout.size && !granted then
    .error (.outOfMemory layout.label layout.size)
  else if heap.allocated.toNat + layout.size.toNat < UInt64.size then
    .ok { heap with allocated := heap.allocated + layout.size }
  else .error .counterOverflow

end Heap

end SlotDispatch
