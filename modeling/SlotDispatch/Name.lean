import Std.Data.ExtTreeMap

/-!
# Names

A *class name* is a text, and so is a *method name*, the name of a method inside its class. A
*qualified name* puts the two together: the class that defines a method, and the method. It is
written with a `#` between them, as in `Vehicle#start`.

A qualified name is shown, written and looked up again and again, so it is held together with its
written form (`QualifiedName.full`). The text is made when the name is made and never taken apart:
when another class redefines the method, the name and its text are made anew
(`QualifiedName.redefinedIn`). Two names are equal if their classes, their methods and their texts
are. A hash set finds the place of a name by its text alone.

Texts of any shape may be used as names, but the checked ways to make them refuse a few:

* `ClassName.checked`: a class name is not empty and has no `#` in it;
* `QualifiedName.of`: a method name is not empty (it may contain a `#`);
* `QualifiedName.ofText`: reading a written name back, which takes a text with exactly one `#` and
  something on either side of it.
-/

namespace SlotDispatch

/-- The name of a class. -/
structure ClassName where
  /-- The text of the name. -/
  text : String
deriving DecidableEq

/-- The name of a method inside its class. -/
structure MethodName where
  /-- The text of the name. -/
  text : String
deriving DecidableEq

/-- Class names are ordered as their texts, by the code points of the characters. -/
instance : Ord ClassName where
  compare a b := compare a.text b.text

instance : Std.TransOrd ClassName where
  eq_swap {a b} := Std.OrientedOrd.eq_swap (a := a.text) (b := b.text)
  isLE_trans {a b c} := Std.TransOrd.isLE_trans (a := a.text) (b := b.text) (c := c.text)

instance : Std.LawfulEqOrd ClassName where
  compare_self {a} := Std.ReflOrd.compare_self (a := a.text)
  eq_of_compare {a b} h := by
    cases a; cases b
    exact congrArg ClassName.mk (Std.LawfulEqOrd.eq_of_compare h)

/-- Method names are ordered as their texts, by the code points of the characters. -/
instance : Ord MethodName where
  compare a b := compare a.text b.text

instance : Std.TransOrd MethodName where
  eq_swap {a b} := Std.OrientedOrd.eq_swap (a := a.text) (b := b.text)
  isLE_trans {a b c} := Std.TransOrd.isLE_trans (a := a.text) (b := b.text) (c := c.text)

instance : Std.LawfulEqOrd MethodName where
  compare_self {a} := Std.ReflOrd.compare_self (a := a.text)
  eq_of_compare {a b} h := by
    cases a; cases b
    exact congrArg MethodName.mk (Std.LawfulEqOrd.eq_of_compare h)

/-- What makes a text unfit to be a name. -/
inductive NameFault where
  /-- A class name is empty. -/
  | emptyClass
  /-- A class name contains the separator `#`. -/
  | separatorInClass
  /-- A method name is empty. -/
  | emptyMethod
deriving DecidableEq

/-- The condition that was violated, in the words in which it is reported. -/
def NameFault.message : NameFault → String
  | .emptyClass => "assertion failed: !name.is_empty()"
  | .separatorInClass => "assertion failed: !name.contains('#')"
  | .emptyMethod => "assertion failed: !first_name.is_empty()"

namespace ClassName

/-- A text as a class name, unless it is empty or contains a `#`. -/
def checked (text : String) : Except NameFault ClassName :=
  if text.toList = [] then .error .emptyClass
  else if '#' ∈ text.toList then .error .separatorInClass
  else .ok ⟨text⟩

/-- The texts that `checked` takes. -/
def Valid (name : ClassName) : Prop :=
  name.text.toList ≠ [] ∧ '#' ∉ name.text.toList

instance (name : ClassName) : Decidable name.Valid :=
  inferInstanceAs (Decidable (_ ∧ _))

theorem checked_eq_ok_iff {text : String} {name : ClassName} :
    checked text = .ok name ↔ name = ⟨text⟩ ∧ name.Valid := by
  unfold checked Valid
  split
  · simp_all
  · split
    · simp_all
    · constructor
      · intro h
        cases h
        simp_all
      · rintro ⟨rfl, _⟩
        rfl

end ClassName

/-- The name of a method together with the class that defines it. -/
structure QualifiedName where
  /-- The class that defines the method. -/
  owner : ClassName
  /-- The method. -/
  method : MethodName
  /-- The written form. -/
  full : String
deriving DecidableEq

namespace QualifiedName

/-- The name of `method` as defined by `owner`, written as the class, a `#` and the method. -/
def join (owner : ClassName) (method : MethodName) : QualifiedName :=
  ⟨owner, method, owner.text ++ "#" ++ method.text⟩

/-- The name of `method` as defined by `owner`. The method name must not be empty. -/
def of (owner : ClassName) (method : MethodName) : Except NameFault QualifiedName :=
  if method.text.toList = [] then .error .emptyMethod else .ok (join owner method)

/-- The name of `method` as defined by `owner`, both given as texts: the class is checked first. -/
def checked (owner method : String) : Except NameFault QualifiedName := do
  of (← ClassName.checked owner) ⟨method⟩

/-- The name of the same method when another class defines it. -/
def redefinedIn (name : QualifiedName) (owner : ClassName) : Except NameFault QualifiedName :=
  of owner name.method

/-- Neither the class nor the method counts. -/
instance : Hashable QualifiedName where
  hash name := hash name.full

/-- A description of the name for people who look at it in a debugger. -/
def describe (name : QualifiedName) : String :=
  "MethodFullname(`" ++ name.full ++ "`)"

/-- Why a text could not be read as a qualified name. -/
inductive ReadFault where
  /-- The text does not consist of two parts with one `#` between them. -/
  | malformed
  /-- One of the parts was refused as a name. -/
  | naming (fault : NameFault)
deriving DecidableEq

/-- Reads a written name: exactly one `#`, with a class name before it and a method name after. -/
def ofText (text : String) : Except ReadFault QualifiedName :=
  let owner := text.toList.takeWhile (· ≠ '#')
  match text.toList.dropWhile (· ≠ '#') with
  | [] => .error .malformed
  | _ :: method =>
    if owner = [] ∨ method = [] ∨ '#' ∈ method then .error .malformed
    else
      match checked (String.ofList owner) (String.ofList method) with
      | .ok name => .ok name
      | .error fault => .error (.naming fault)

end QualifiedName

end SlotDispatch
