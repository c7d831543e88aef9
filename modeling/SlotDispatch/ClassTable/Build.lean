import SlotDispatch.ClassTable

/-!
# Building a class table from declarations

Declarations come in any order, so a class may be declared before its superclass. The classes are
taken in the order of their declarations, and for each one its *chain* is climbed first: from the
declaration to that of its superclass, and so on, up to a root or to a class that is built already
(`climb`). Then the chain is built from its upper end down (`raise`), so that the superclass of a
class is always there when the class is built, and every class is built once.

The climb fails on a superclass that nobody declares, and on one that it has passed before. Each
step takes a declaration that it has not seen, so it ends. If a name is declared several times, the
climb finds its last declaration.

`ClassTable.build` gives the table; `ClassTable.buildTrace` gives the classes in the order in which
they were built, also when the building failed later on.
-/

namespace SlotDispatch

namespace Declaration

/-- The declaration of a class: of several, the last one. -/
def find? (decls : List Declaration) (name : ClassName) : Option Declaration :=
  decls.reverse.find? (·.name = name)

theorem mem_of_find? {decls : List Declaration} {name : ClassName} {decl : Declaration}
    (h : find? decls name = some decl) : decl ∈ decls ∧ decl.name = name :=
  ⟨List.mem_reverse.1 (List.mem_of_find?_eq_some h), by simpa using List.find?_some h⟩

/-- The number of declarations of classes that have not been visited. -/
def unvisited (decls : List Declaration) (visited : List ClassName) : Nat :=
  decls.countP (·.name ∉ visited)

theorem unvisited_cons (decl : Declaration) (decls : List Declaration)
    (visited : List ClassName) :
    unvisited (decl :: decls) visited =
      unvisited decls visited + if decl.name ∈ visited then 0 else 1 := by
  by_cases h : decl.name ∈ visited <;> simp [unvisited, h]

/-- Visiting one more class leaves no more to visit. -/
theorem unvisited_cons_le (decls : List Declaration) (visited : List ClassName)
    (name : ClassName) : unvisited decls (name :: visited) ≤ unvisited decls visited :=
  List.countP_mono_left fun _ _ => by simp

/-- Visiting a declared class for the first time leaves fewer to visit. -/
theorem unvisited_cons_lt {decls : List Declaration} {visited : List ClassName}
    {decl : Declaration} (h : decl ∈ decls) (hv : decl.name ∉ visited) :
    unvisited decls (decl.name :: visited) < unvisited decls visited := by
  induction decls with
  | nil => cases h
  | cons d decls ih =>
    have le := unvisited_cons_le decls visited decl.name
    rw [unvisited_cons, unvisited_cons]
    rcases List.mem_cons.1 h with rfl | h
    · -- The declaration itself is counted before and not after.
      simp only [List.mem_cons_self, if_true, if_neg hv]
      omega
    · have := ih h
      by_cases hd : d.name ∈ visited
      · simp only [List.mem_cons_of_mem _ hd, hd, if_true]
        omega
      · simp only [hd, if_false]
        split <;> omega

/-- The declarations above `decl`, nearest first, up to a root or to a class below one that is
    built. The climb has passed the classes `visited`. -/
def climb (decls : List Declaration) (built : ClassName → Bool) (visited : List ClassName)
    (decl : Declaration) : Except ClassFault (List Declaration) :=
  match decl.superclass with
  | none => .ok []
  | some base =>
    if built base then .ok []
    else
      match _h : find? decls base with
      | none => .error (.unknownClass base)
      | some above =>
        -- Only here: a class that nobody declares is not above itself.
        if base ∈ visited then .error (.inheritanceCycle base)
        else
          match climb decls built (base :: visited) above with
          | .error fault => .error fault
          | .ok chain => .ok (above :: chain)
termination_by unvisited decls visited
decreasing_by
  obtain ⟨hmem, rfl⟩ := mem_of_find? ‹find? decls base = some above›
  exact unvisited_cons_lt hmem ‹_›

/-- The chain of `decl`: the declaration itself and those above it, up to a root or to a class below
    one that is built. -/
def chain (decls : List Declaration) (built : ClassName → Bool) (decl : Declaration) :
    Except ClassFault (List Declaration) :=
  match climb decls built [decl.name] decl with
  | .error fault => .error fault
  | .ok above => .ok (decl :: above)

end Declaration

/-- A record of the building of a class. -/
structure Built where
  /-- The class. -/
  name : ClassName
  /-- The number of its slots. -/
  slots : Nat
deriving DecidableEq

namespace ClassTable

/-- How far the building of a table has come. -/
structure Progress where
  /-- The classes that are built. -/
  table : ClassTable := .empty
  /-- The same classes in the order in which they were built. -/
  trace : List Built := []

/-- The end of a building that failed. -/
structure Halt where
  /-- What was wrong. -/
  fault : ClassFault
  /-- The classes that had been built by then. -/
  trace : List Built

/-- Builds a class whose superclass is built, unless it is built itself. -/
def raise (progress : Progress) (decl : Declaration) : Except Halt Progress :=
  if progress.table.contains decl.name then .ok progress
  else
    match Descriptor.build (decl.superclass.bind progress.table.get?) decl with
    | .error fault => .error ⟨fault, progress.trace⟩
    | .ok descriptor =>
      .ok {
        table := progress.table.insert decl.name descriptor
        trace := progress.trace ++ [⟨decl.name, descriptor.table.size⟩] }

/-- Builds the chain of a declaration, the upper end first. -/
def raiseChain (decls : List Declaration) (progress : Progress) (decl : Declaration) :
    Except Halt Progress :=
  match decl.chain decls progress.table.contains with
  | .error fault => .error ⟨fault, progress.trace⟩
  | .ok chain => chain.reverse.foldlM raise progress

/-- Builds all declared classes, in the order of the declarations as far as inheritance allows. -/
def buildAll (decls : List Declaration) : Except Halt Progress :=
  decls.foldlM (raiseChain decls) {}

/-- The table of the declared classes. -/
def build (decls : List Declaration) : Except ClassFault ClassTable :=
  match buildAll decls with
  | .error halt => .error halt.fault
  | .ok progress => .ok progress.table

/-- The classes in the order in which `build` builds them. If it fails, those that it had built. -/
def buildTrace (decls : List Declaration) : List Built :=
  match buildAll decls with
  | .error halt => halt.trace
  | .ok progress => progress.trace

end ClassTable

end SlotDispatch
