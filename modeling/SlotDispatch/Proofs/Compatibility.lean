import SlotDispatch.Proofs.Layout
import SlotDispatch.Proofs.RoundTrip

/-!
# Lookups where another class is expected

A caller who knows a class knows the slot of each of its methods, and uses it on the instances of
every class that the check of the layouts accepts for that class. The check goes slot by slot. A
lookup by name goes by the index, which gives the *last* slot of a method. The two agree on the
methods of the class that is expected unless one of them has a further slot behind the slots of that
class (`slot?_of_isPrefix`).

* `slot?_overlay`: a class that is built on another one never gives a method a further slot;
* `Made.grown`: the descriptors that can exist (`Descriptor.Made`) have slot tables that have grown
  from those that were read, so all that they hold twice agrees (`Made.coherent`). Only where a
  table was read can a method have several slots, and then a descriptor can be accepted although a
  method has moved (`checkPrefix_ok_of_moved`).
-/

namespace SlotDispatch

namespace SlotTable

variable {base table : SlotTable} {method : MethodName} {i : Nat}

theorem getElem?_methods_of_isPrefix (hp : base.methods <+: table.methods)
    (hm : base.methods[i]? = some method) : table.methods[i]? = some method := by
  obtain ⟨rest, hr⟩ := hp
  rw [← hr, List.getElem?_append_left (List.getElem?_eq_some_iff.1 hm).1, hm]

/-- A method of a prefix is found in the same slot exactly if no slot behind the prefix has it. -/
theorem slot?_eq_some_iff_of_isPrefix (hb : base.Indexed) (ht : table.Indexed)
    (hp : base.methods <+: table.methods) (hi : base.slot? method = some i) :
    table.slot? method = some i ↔ method ∉ table.methods.drop base.size := by
  obtain ⟨hm, hlast⟩ := hb.last hi
  have hlt : i < base.methods.length := (List.getElem?_eq_some_iff.1 hm).1
  have hm' := getElem?_methods_of_isPrefix hp hm
  obtain ⟨rest, hr⟩ := hp
  rw [← hr] at hm'
  rw [ht.slot?_eq_some_iff, ← hr, ← length_methods, List.drop_left]
  constructor
  · rintro ⟨_, hlast'⟩ hmem
    -- A slot behind the prefix comes after all slots of the prefix.
    obtain ⟨k, hk⟩ := List.mem_iff_getElem?.1 hmem
    refine hlast' (base.methods.length + k) (by omega) ?_
    rw [List.getElem?_append_right (Nat.le_add_right _ _), Nat.add_sub_cancel_left, hk]
  · refine fun hmem => ⟨hm', fun j hj hmj => ?_⟩
    rw [List.getElem?_append] at hmj
    split_ifs at hmj
    · exact hlast j hj hmj
    · exact hmem (List.mem_of_getElem? hmj)

/-- Where a method is found in a prefix, the whole table has it, too. It is found there, or else
    behind the prefix. -/
theorem slot?_of_isPrefix (hb : base.Indexed) (ht : table.Indexed)
    (hp : base.methods <+: table.methods) (hi : base.slot? method = some i) :
    table.methods[i]? = some method ∧ ∃ j, table.slot? method = some j ∧ i ≤ j ∧
      (j = i ↔ method ∉ table.methods.drop base.size) := by
  have hm := getElem?_methods_of_isPrefix hp (hb.last hi).1
  obtain ⟨j, hj⟩ := ht.found (List.mem_of_getElem? hm)
  refine ⟨hm, j, hj, Nat.le_of_not_lt fun h => (ht.last hj).2 i h hm, ?_⟩
  rw [← slot?_eq_some_iff_of_isPrefix hb ht hp hi, hj, Option.some.injEq]

theorem slot?_place (name : QualifiedName) (hi : table.slot? method = some i) :
    (table.place name).slot? method = some i := by
  cases hn : table.slot? name.method with
  | some k =>
    rw [place, hn]
    exact hi
  | none =>
    rw [place, hn, slot?_push, if_neg, hi]
    rintro rfl
    rw [hn] at hi
    cases hi

/-- A method that is found in a table is found in the same slot of all tables that extend it. -/
theorem slot?_overlay (owner : ClassName) (methods : List MethodName)
    (hi : base.slot? method = some i) : (base.overlay owner methods).slot? method = some i := by
  induction methods generalizing base with
  | nil => exact hi
  | cons first methods ih => exact ih (slot?_place (.join owner first) hi)

end SlotTable

namespace Descriptor

open Interchange (Source readClassTable readDescriptor)

variable {base sub descriptor : Descriptor} {decl : Declaration} {given : Descriptor → Prop}

/-! ## The descriptors that can exist -/

/-- The descriptors that come of those that are given, or of none, by building. -/
inductive Made (given : Descriptor → Prop) : Descriptor → Prop
  | start {descriptor : Descriptor} (there : given descriptor) : Made given descriptor
  | root {decl : Declaration} {descriptor : Descriptor}
      (done : build none decl = .ok descriptor) : Made given descriptor
  | under {base : Descriptor} {decl : Declaration} {descriptor : Descriptor}
      (made : Made given base) (done : build (some base) decl = .ok descriptor) :
      Made given descriptor

/-- The descriptors that are read, alone or in a class table. -/
inductive Loaded : Descriptor → Prop
  | alone {source : Source} {descriptor : Descriptor}
      (done : source.read readDescriptor = .ok descriptor) : Loaded descriptor
  | entry {source : Source} {table : ClassTable} {name : ClassName} {descriptor : Descriptor}
      (done : source.read readClassTable = .ok table) (found : table.get? name = some descriptor) :
      Loaded descriptor

theorem Loaded.table (h : descriptor.Loaded) : descriptor.table.Loaded := by
  cases h with
  | @alone source _ done =>
    have ho := Interchange.outcome_read Interchange.outcome_readDescriptor source
    rw [done] at ho
    exact ho
  | entry done found => exact ClassTable.loaded_of_read done found

/-- The slot table of a descriptor has grown from the empty one, or from one that was given. -/
theorem Made.grown {start : SlotTable → Prop} (he : start .empty)
    (hg : ∀ descriptor, given descriptor → start descriptor.table) (h : descriptor.Made given) :
    descriptor.table.Grown start := by
  induction h with
  | start there => exact .root (hg _ there)
  | root done => exact .extend (.root he) (extend_of_build done)
  | under _ done ih => exact .extend ih (extend_of_build done)

theorem Made.coherent (h : descriptor.Made Loaded) : descriptor.table.Coherent := by
  have hg : descriptor.table.Grown SlotTable.Coherent :=
    h.grown SlotTable.coherent_empty fun _ hl => hl.table.coherent
  exact hg.coherent fun _ => id

theorem Made.indexed (h : descriptor.Made Loaded) : descriptor.table.Indexed :=
  h.coherent.toIndexed

/-- If nothing was read, no method has two slots. -/
theorem Made.regular (h : descriptor.Made fun _ => False) : descriptor.table.Regular := by
  have hg : descriptor.table.Grown (· = .empty) := h.grown rfl fun _ => False.elim
  refine hg.regular ?_
  rintro _ rfl
  exact SlotTable.regular_empty

/-! ## What is accepted -/

theorem IsPrefix.slot?_of_nodup (h : base.IsPrefix sub) (hb : base.table.Indexed)
    (hs : sub.table.Indexed) (hn : sub.table.methods.Nodup) {method : MethodName} {i : Nat}
    (hi : base.table.slot? method = some i) : sub.table.slot? method = some i := by
  have hr : base.table.Regular := ⟨hb, h.methods.sublist.nodup hn⟩
  exact h.slot? hr ⟨hs, hn⟩ hi

theorem slot?_of_build (hb : base.table.Indexed) (h : build (some base) decl = .ok sub)
    {method : MethodName} {i : Nat} (hi : base.table.slot? method = some i) :
    sub.table.slot? method = some i := by
  have hi' : (inherited (some base)).Indexed := hb
  obtain ⟨_, _, rfl⟩ := (build_eq_ok_iff hi').1 h
  exact SlotTable.slot?_overlay decl.name decl.methods hi

/-- A descriptor that is accepted where another one is expected has each method of the latter in the
    slot where the latter has it. There the method is found, too, exactly if it has no slot behind
    those of the latter. So no method moves if all methods of the accepted descriptor are different,
    which they are if nothing was read, and none moves if it was built on the expected one. -/
theorem slot?_of_checkPrefix (hb : base.Made Loaded) (hs : sub.Made Loaded)
    (h : base.checkPrefix sub = .ok ()) :
    (∀ method i, base.table.slot? method = some i →
      sub.table.methods[i]? = some method ∧ ∃ j, sub.table.slot? method = some j ∧ i ≤ j ∧
        (j = i ↔ method ∉ sub.table.methods.drop base.table.size)) ∧
    ((sub.table.methods.Nodup ∨ sub.Made (fun _ => False) ∨
        ∃ decl, build (some base) decl = .ok sub) →
      ∀ method i, base.table.slot? method = some i → sub.table.slot? method = some i) := by
  have hp := checkPrefix_eq_ok_iff.1 h
  refine ⟨fun method i hi => SlotTable.slot?_of_isPrefix hb.indexed hs.indexed hp.methods hi, ?_⟩
  rintro (hn | hm | ⟨decl, hd⟩) method i hi
  · exact hp.slot?_of_nodup hb.indexed hs.indexed hn hi
  · exact hp.slot?_of_nodup hb.indexed hs.indexed hm.regular.nodup hi
  · exact slot?_of_build hb.indexed hd hi

/-- A vehicle with one method. -/
def plainVehicle : Source := .text "[\"Vehicle\",null,16,[\"Vehicle#start\"]]"

/-- A truck that has the method of the vehicle twice. -/
def doubleTruck : Source :=
  .text "[\"Truck\",\"Vehicle\",16,[\"Vehicle#start\",\"Truck#start\"]]"

/-- A truck with two slots for a method of the vehicle is accepted where a vehicle is expected, but
    the method is not found in the slot where the vehicle has it. -/
theorem checkPrefix_ok_of_moved :
    ∃ base sub, plainVehicle.read readDescriptor = .ok base ∧
      doubleTruck.read readDescriptor = .ok sub ∧ base.checkPrefix sub = .ok () ∧
      base.table.slot? ⟨"start"⟩ = some 0 ∧ sub.table.slot? ⟨"start"⟩ = some 1 := by
  obtain ⟨base, hb, hi, ho⟩ : ∃ base, plainVehicle.read readDescriptor = .ok base ∧
      base.table.slot? ⟨"start"⟩ = some 0 ∧
        (doubleTruck.read readDescriptor).toOption.any (fun sub =>
          base.checkPrefix sub = .ok () ∧ sub.table.slot? ⟨"start"⟩ = some 1) = true :=
    exists_of_any (by decide +kernel)
  obtain ⟨sub, hs, hc, hj⟩ := exists_of_any ho
  exact ⟨base, sub, hb, hs, hc, hi, hj⟩

/-- A dump truck is built on the truck with two slots for `start`, and is accepted for it. -/
theorem slot?_of_checkPrefix_doubleTruck :
    let decl : Declaration := ⟨⟨"DumpTruck"⟩, some ⟨"Truck"⟩, 24, [⟨"start"⟩, ⟨"dump"⟩]⟩
    ∃ base sub, doubleTruck.read readDescriptor = .ok base ∧ build (some base) decl = .ok sub ∧
      base.checkPrefix sub = .ok () ∧ base.table.slot? ⟨"start"⟩ = some 1 ∧
      sub.table.methods[1]? = some ⟨"start"⟩ ∧ sub.table.slot? ⟨"start"⟩ = some 1 := by
  intro decl
  obtain ⟨base, hb, hi, ho⟩ : ∃ base, doubleTruck.read readDescriptor = .ok base ∧
      base.table.slot? ⟨"start"⟩ = some 1 ∧
        (build (some base) decl).toOption.any (base.checkPrefix · = .ok ()) = true :=
    exists_of_any (by decide +kernel)
  obtain ⟨sub, hd, hc⟩ := exists_of_any ho
  have hmade : base.Made Loaded := .start (.alone hb)
  obtain ⟨hall, hkeep⟩ := slot?_of_checkPrefix hmade (.under hmade hd) hc
  exact ⟨base, sub, hb, hd, hc, hi, (hall _ _ hi).1, hkeep (.inr (.inr ⟨decl, hd⟩)) _ _ hi⟩

end Descriptor

end SlotDispatch
