import SlotDispatch.Builtin
import SlotDispatch.Proofs.Building

/-!
# Dispatch

A caller who looks up a method in a class table finds a slot. What should be in that slot is said by
the declarations alone: the nearest class at or above the class of the receiver that defines the
method (`Declaration.Definer`), which a caller without a table would find by going up from class to
superclass.

* `Reached.resolves`: the calls by name in the table of a class reach the methods of the nearest
  classes that define them, and there are no other calls;
* `Reached.isPrefix_of_transGen`: a class begins like every class above it, so that a caller who
  knows the slot of a method in a class finds the method in the same slot in all classes below.
-/

namespace SlotDispatch

namespace Declaration

/-- A call of `method` on an instance of a declared class goes to the class of `definer`: the
    nearest one that defines the method, going up from the class. -/
inductive Definer (decls : List Declaration) (method : MethodName) :
    Declaration → Declaration → Prop
  | here {decl : Declaration} (defines : method ∈ decl.methods) : Definer decls method decl decl
  | above {decl next definer : Declaration} (lacks : method ∉ decl.methods) (mem : next ∈ decls)
      (sub : decl.superclass = some next.name) (rest : Definer decls method next definer) :
      Definer decls method decl definer

variable {decls : List Declaration} {decl definer : Declaration} {method : MethodName}

theorem Definer.mem (h : Definer decls method decl definer) (hd : decl ∈ decls) :
    definer ∈ decls ∧ method ∈ definer.methods := by
  induction h with
  | here defines => exact ⟨hd, defines⟩
  | above _ mem _ _ ih => exact ih mem

/-- A class that does not define a method itself leaves it to its superclass. -/
theorem definer_iff_above {next : Declaration} (hc : Consistent decls) (hn : next ∈ decls)
    (hs : decl.superclass = some next.name) (hm : method ∉ decl.methods) :
    Definer decls method decl definer ↔ Definer decls method next definer := by
  constructor
  · intro h
    cases h with
    | here defines => exact absurd defines hm
    | above _ mem sub rest =>
      rw [hs, Option.some.injEq] at sub
      exact hc _ hn _ mem sub ▸ rest
  · exact .above hm hn hs

end Declaration

namespace ClassTable

open Declaration (Chosen Consistent Definer)

variable {table : ClassTable} {decls : List Declaration} {decl : Declaration} {name : ClassName}
  {descriptor : Descriptor} {progress : Progress} {method : MethodName}

theorem method?_of_get? (h : table.get? name = some descriptor) (method : MethodName) :
    table.method? name method =
      (descriptor.table.slot? method).map fun slot => (slot, descriptor.table.size) := by
  rw [method?, h]
  exact (Option.map_eq_bind ..).symm

theorem method?_of_get?_eq_none (h : table.get? name = none) (method : MethodName) :
    table.method? name method = none := by
  rw [method?, h]
  rfl

/-! ## Resolution -/

/-- The calls by name in a slot table go where going up from the class leads, and nowhere else. -/
structure Resolves (decls : List Declaration) (decl : Declaration) (table : SlotTable) : Prop where
  /-- The index agrees with the slots. -/
  regular : table.Regular
  /-- What a call reaches is the method of the nearest class that defines it. -/
  target?_iff : ∀ method callee, table.target? method = some callee ↔
    ∃ definer, Definer decls method decl definer ∧ callee = .join definer.name method

theorem Resolves.slot? {slots : SlotTable} {definer : Declaration} (h : Resolves decls decl slots)
    (hd : Definer decls method decl definer) :
    ∃ i, slots.slot? method = some i ∧ slots.slots[i]? = some (.join definer.name method) :=
  Option.bind_eq_some_iff.1 ((h.target?_iff method _).2 ⟨definer, hd, rfl⟩)

theorem Resolves.slot?_eq_none {slots : SlotTable} (h : Resolves decls decl slots)
    (hd : ¬∃ definer, Definer decls method decl definer) : slots.slot? method = none := by
  rw [← h.regular.target?_eq_none_iff, Option.eq_none_iff_forall_ne_some]
  intro callee ht
  obtain ⟨definer, hdef, _⟩ := (h.target?_iff method callee).1 ht
  exact hd ⟨definer, hdef⟩

/-- A class resolves its own methods to itself and leaves all others to what it inherits. -/
theorem resolves_derived {base : Option Descriptor} (hr : (Descriptor.inherited base).Regular)
    (hi : ∀ method callee, method ∉ decl.methods →
      ((Descriptor.inherited base).target? method = some callee ↔
        ∃ definer, Definer decls method decl definer ∧ callee = .join definer.name method)) :
    Resolves decls decl (Descriptor.derived base decl).table where
  regular := hr.overlay decl.name decl.methods
  target?_iff method callee := by
    rw [Descriptor.derived, SlotTable.target?_overlay hr.toIndexed]
    by_cases hm : method ∈ decl.methods
    · rw [if_pos hm, Option.some.injEq, eq_comm]
      refine ⟨fun he => ⟨decl, .here hm, he⟩, ?_⟩
      rintro ⟨definer, hd, he⟩
      cases hd with
      | here => exact he
      | above lacks => exact absurd hm lacks
    · rw [if_neg hm, hi method callee hm]

/-- Every class in the table resolves calls as its declaration says. -/
theorem Reached.resolves (h : Reached decls progress) (hc : Consistent decls)
    (hg : progress.table.get? name = some descriptor) :
    ∃ decl ∈ decls, decl.name = name ∧ Resolves decls decl descriptor.table := by
  refine (h.induction (motive := fun decl descriptor => Resolves decls decl descriptor.table)
    ?_ ?_ hg).imp fun decl hd => ⟨hd.1.mem, hd.2⟩
  · -- Without a superclass there is nothing to inherit, and nobody to go up to.
    intro decl descriptor _ hs hb
    have hr : (Descriptor.inherited none).Regular := SlotTable.regular_empty
    obtain ⟨_, _, rfl⟩ := (Descriptor.build_eq_ok_iff hr.toIndexed).1 hb
    refine resolves_derived hr fun method callee hm => ⟨fun ht => (nomatch ht), ?_⟩
    rintro ⟨definer, hd, -⟩
    cases hd with
    | here defines => exact absurd defines hm
    | above _ _ sub _ => cases hs.symm.trans sub
  · -- What the class does not define, it inherits from where going up leads.
    intro decl above base descriptor _ ha hs hm hb
    have hr : (Descriptor.inherited (some base)).Regular := hm.regular
    obtain ⟨_, _, rfl⟩ := (Descriptor.build_eq_ok_iff hr.toIndexed).1 hb
    refine resolves_derived hr fun method callee hn => ?_
    simp only [Declaration.definer_iff_above hc ha.mem hs hn]
    exact hm.target?_iff method callee

/-- For classes of different names, looking up a method in the built table is the same as going up
    from the class of the receiver to the nearest class that defines the method. -/
theorem method?_eq_definer (hn : (decls.map (·.name)).Nodup) (h : build decls = .ok table) :
    (∀ decl ∈ decls, ∃ descriptor, table.get? decl.name = some descriptor ∧
      ∀ method,
        (∀ definer, Definer decls method decl definer →
          ∃ i callee, table.method? decl.name method = some (i, descriptor.table.size) ∧
            i < descriptor.table.size ∧ QualifiedName.of definer.name method = .ok callee ∧
            descriptor.table.slots[i]? = some callee) ∧
        ((¬∃ definer, Definer decls method decl definer) →
          table.method? decl.name method = none)) ∧
    ∀ name, (∀ decl ∈ decls, decl.name ≠ name) → ∀ method, table.method? name method = none := by
  have hc := Declaration.consistent_of_nodup hn
  obtain ⟨trace, hr⟩ := realizes_of_build h
  refine ⟨fun decl hd => ?_, fun name hname method => ?_⟩
  · -- The class was built from a declaration of its name, and this is the only one.
    obtain ⟨descriptor, hg⟩ := contains_iff_get?.1 (hr.complete decl hd)
    obtain ⟨other, ho, he, hres⟩ := hr.reached.resolves hc hg
    rw [hc other ho decl hd he] at hres
    refine ⟨descriptor, hg, fun method => ⟨fun definer hdef => ?_, fun hnone => ?_⟩⟩
    · obtain ⟨i, hi, hs⟩ := hres.slot? hdef
      obtain ⟨hmem, hm⟩ := hdef.mem hd
      obtain ⟨found, _, hf⟩ := hr.founded hc hmem
      have hname : method.text ≠ "" := (hr.reached.eq_derived hf).1 method hm
      refine ⟨i, .join definer.name method, ?_, (List.getElem?_eq_some_iff.1 hs).1,
        QualifiedName.of_eq_ok_iff.2 ⟨hname, rfl⟩, hs⟩
      rw [method?_of_get? hg, hi]
      rfl
    · rw [method?_of_get? hg, hres.slot?_eq_none hnone]
      rfl
  · exact method?_of_get?_eq_none (hr.reached.get?_eq_none hname) method

/-- A class that defines nothing, below `Truck`. -/
def pickup : Declaration := ⟨⟨"Pickup"⟩, some ⟨"Truck"⟩, 16, []⟩

/-- A class that redefines `start` once more, and defines `dump` twice. -/
def dumpTruck : Declaration :=
  ⟨⟨"DumpTruck"⟩, some ⟨"Pickup"⟩, 24, [⟨"start"⟩, ⟨"dump"⟩, ⟨"dump"⟩]⟩

theorem method?_eq_definer_dumpTruck :
    let decls := [dumpTruck, pickup, Builtin.truck, Builtin.vehicle]
    (decls.map (·.name)).Nodup ∧ ∃ table descriptor i callee, build decls = .ok table ∧
      table.get? ⟨"DumpTruck"⟩ = some descriptor ∧
      table.method? ⟨"DumpTruck"⟩ ⟨"getColor"⟩ = some (i, descriptor.table.size) ∧
      i < descriptor.table.size ∧ QualifiedName.of ⟨"Vehicle"⟩ ⟨"getColor"⟩ = .ok callee ∧
      descriptor.table.slots[i]? = some callee := by
  intro decls
  have hn : (decls.map (·.name)).Nodup := by decide
  have hv : Definer decls ⟨"getColor"⟩ Builtin.vehicle Builtin.vehicle := .here (by decide)
  have ht : Definer decls ⟨"getColor"⟩ Builtin.truck Builtin.vehicle :=
    .above (by decide) (by decide) rfl hv
  have hp : Definer decls ⟨"getColor"⟩ pickup Builtin.vehicle :=
    .above (by decide) (by decide) rfl ht
  have hd : Definer decls ⟨"getColor"⟩ dumpTruck Builtin.vehicle :=
    .above (by decide) (by decide) rfl hp
  obtain ⟨table, h⟩ : ∃ table, build decls = .ok table := exists_of_isOk (by decide +kernel)
  obtain ⟨descriptor, hg, hm⟩ := (method?_eq_definer hn h).1 dumpTruck List.mem_cons_self
  obtain ⟨i, callee, hi⟩ := (hm ⟨"getColor"⟩).1 Builtin.vehicle hd
  exact ⟨hn, table, descriptor, i, callee, h, hg, hi⟩

/-! ## Upcasts -/

/-- A class begins like the class right above it. -/
theorem Reached.isPrefix {sub base : ClassName} (h : Reached decls progress)
    (hs : progress.table.Super sub base) :
    ∃ lower upper, progress.table.get? sub = some lower ∧ progress.table.get? base = some upper ∧
      upper.IsPrefix lower := by
  obtain ⟨lower, hl, hb⟩ := hs
  obtain ⟨decl, _, _, hf⟩ := h.origin hl
  rw [(Descriptor.fields_of_build hf.built).2.1] at hb
  obtain ⟨upper, hu⟩ := contains_iff_get?.1 (hf.above base hb)
  obtain ⟨_, hsize, he⟩ := h.eq_derived hf
  rw [hb, Option.bind_some, hu] at hsize he
  refine ⟨lower, upper, hl, hu, ?_⟩
  rw [he]
  exact Descriptor.isPrefix_derived (h.regular hu).toIndexed (hsize upper rfl)

/-- A class begins like all classes above it. -/
theorem Reached.isPrefix_of_transGen {sub base : ClassName} (h : Reached decls progress)
    (hs : Relation.TransGen progress.table.Super sub base) :
    ∃ lower upper, progress.table.get? sub = some lower ∧ progress.table.get? base = some upper ∧
      upper.IsPrefix lower := by
  induction hs with
  | single hs => exact h.isPrefix hs
  | tail _ hs ih =>
    obtain ⟨lower, middle, hl, hm, hp⟩ := ih
    obtain ⟨middle', upper, hm', hu, hp'⟩ := h.isPrefix hs
    cases hm.symm.trans hm'
    exact ⟨lower, upper, hl, hu, hp'.trans hp⟩

/-- In every built table an instance of a class can stand for one of any class above it: it is at
    least as large, the check of the layouts accepts it, and every method of the upper class is
    found in the same slot. -/
theorem upcast_safe {sub base : ClassName} (h : build decls = .ok table)
    (hs : Relation.TransGen table.Super sub base) :
    ∃ lower upper, table.get? sub = some lower ∧ table.get? base = some upper ∧
      upper.size ≤ lower.size ∧ upper.table.isPrefixOf lower.table = true ∧
      upper.checkPrefix lower = .ok () ∧
      ∀ method i n, table.method? base method = some (i, n) →
        ∃ n', table.method? sub method = some (i, n') ∧ n ≤ n' := by
  obtain ⟨trace, hr⟩ := realizes_of_build h
  obtain ⟨lower, upper, hl, hu, hp⟩ := hr.reached.isPrefix_of_transGen hs
  refine ⟨lower, upper, hl, hu, hp.size_le, SlotTable.isPrefixOf_iff.2 hp.methods,
    Descriptor.checkPrefix_eq_ok_iff.2 hp, fun method i n hm => ?_⟩
  rw [method?_of_get? hu, Option.map_eq_some_iff] at hm
  obtain ⟨_, hi, ⟨⟩⟩ := hm
  have hi' := hp.slot? (hr.reached.regular hu) (hr.reached.regular hl) hi
  refine ⟨lower.table.size, ?_, ?_⟩
  · rw [method?_of_get? hl, hi']
    rfl
  · rw [← SlotTable.length_methods, ← SlotTable.length_methods]
    exact hp.methods.length_le

/-- A second declaration of `Pickup`, in another place of the hierarchy. -/
def lightPickup : Declaration := ⟨⟨"Pickup"⟩, some ⟨"Vehicle"⟩, 16, [⟨"tow"⟩]⟩

theorem upcast_safe_dumpTruck :
    let decls := [dumpTruck, pickup, lightPickup, Builtin.truck, Builtin.vehicle]
    ∃ table lower upper, build decls = .ok table ∧
      Relation.TransGen table.Super ⟨"DumpTruck"⟩ ⟨"Vehicle"⟩ ∧
      table.get? ⟨"DumpTruck"⟩ = some lower ∧ table.get? ⟨"Vehicle"⟩ = some upper ∧
      upper.size ≤ lower.size ∧ upper.table.isPrefixOf lower.table = true ∧
      upper.checkPrefix lower = .ok () ∧
      ∀ method i n, table.method? ⟨"Vehicle"⟩ method = some (i, n) →
        ∃ n', table.method? ⟨"DumpTruck"⟩ method = some (i, n') ∧ n ≤ n' := by
  intro decls
  obtain ⟨table, h⟩ : ∃ table, build decls = .ok table := exists_of_isOk (by decide +kernel)
  have hs : ∀ sub base, ((build decls).toOption.bind (·.get? sub)).bind (·.superclass) = some base →
      table.Super sub base := fun sub base hb => by
    rw [h] at hb
    exact Option.bind_eq_some_iff.1 hb
  have hup : Relation.TransGen table.Super ⟨"DumpTruck"⟩ ⟨"Vehicle"⟩ :=
    .tail (.single (hs _ ⟨"Pickup"⟩ (by decide +kernel))) (hs _ _ (by decide +kernel))
  obtain ⟨lower, upper, hsafe⟩ := upcast_safe h hup
  exact ⟨table, lower, upper, h, hup, hsafe⟩

end ClassTable

end SlotDispatch
