import Mathlib.Data.Finset.Card
import SlotDispatch.Proofs.Blame
import SlotDispatch.Proofs.Dispatch
import SlotDispatch.Proofs.Overriding

/-!
# The methods along a line of classes

The slots of a class come about class by class: each one starts from those of its superclass, takes
over some and adds others. In the end they can be told from the declarations alone. The *line* of a
class (`Declaration.Lineage`) leads from its root down to the class itself, and the methods of the
class are those that are declared along the line, in this order and each where it is declared first
(`Reached.descends`). So a method is found at its place among them.
-/

namespace SlotDispatch

namespace Declaration

variable {decls line line' : List Declaration} {decl : Declaration}

/-- The declarations from a root down to `decl`, each that of the superclass of the next. -/
inductive Lineage (decls : List Declaration) : Declaration → List Declaration → Prop
  | root {decl : Declaration} (top : decl.superclass = none) : Lineage decls decl [decl]
  | sub {decl above : Declaration} {line : List Declaration} (up : Up decls decl above)
      (rest : Lineage decls above line) : Lineage decls decl (line ++ [decl])

/-- If classes are always declared in the same way, there is one line at most. -/
theorem Lineage.unique (hc : Consistent decls) (h : Lineage decls decl line)
    (h' : Lineage decls decl line') : line = line' := by
  induction h generalizing line' with
  | root top =>
    cases h' with
    | root => rfl
    | sub up _ => exact absurd up (not_up_of_root top _)
  | sub up _ ih =>
    cases h' with
    | root top => exact absurd up (not_up_of_root top _)
    | sub up' rest' =>
      obtain rfl := rightUnique_up hc up up'
      rw [ih rest']

end Declaration

namespace SlotTable

variable {table base : SlotTable} {methods known : List MethodName}

/-- In a regular table a method is found at its place among the methods. -/
theorem Regular.slot?_eq_idxOf? (h : table.Regular) (method : MethodName) :
    table.slot? method = table.methods.idxOf? method := by
  cases hi : table.methods.idxOf? method with
  | none => exact h.slot?_eq_none_iff.2 (List.idxOf?_eq_none_iff.1 hi)
  | some i =>
    obtain ⟨hlt, he, _⟩ := List.idxOf?_eq_some_iff.1 hi
    exact h.slot?_eq_some_iff.2 (List.getElem?_eq_some_iff.2 ⟨hlt, he⟩)

/-- Over a table that has each of the known methods where it comes first, an extension goes on in
    the same way. -/
theorem methods_overlay_of_eraseDups (h : base.Indexed) (hb : base.methods = known.eraseDups)
    (owner : ClassName) (methods : List MethodName) :
    (base.overlay owner methods).methods = (known ++ methods).eraseDups := by
  have hf : methods.filter (· ∉ base.methods) = methods.removeAll known := by
    refine List.filter_congr fun method _ => ?_
    simp [hb, List.mem_eraseDups]
  rw [methods_overlay h, hf, hb, ← List.eraseDups_append]

end SlotTable

namespace ClassTable

open Declaration (Chosen Lineage)

variable {table : ClassTable} {decls : List Declaration} {decl : Declaration} {name : ClassName}
  {descriptor : Descriptor} {progress : Progress}

/-- A slot table has the methods that are declared along the line of its class, each of them where
    it is declared first. -/
structure Descends (decls : List Declaration) (decl : Declaration) (table : SlotTable)
    (line : List Declaration) : Prop where
  /-- The line leads to the class. -/
  lineage : Lineage decls decl line
  /-- The index agrees with the slots. -/
  regular : table.Regular
  /-- The methods are those along the line. -/
  methods_eq : table.methods = (line.flatMap (·.methods)).eraseDups

/-- Every class in the table has the methods that are declared along its line. -/
theorem Reached.descends (h : Reached decls progress)
    (hg : progress.table.get? name = some descriptor) :
    ∃ decl, Chosen decls decl ∧ decl.name = name ∧
      ∃ line, Descends decls decl descriptor.table line := by
  refine h.induction (motive := fun decl descriptor =>
    ∃ line, Descends decls decl descriptor.table line) ?_ ?_ hg
  · -- A root begins with the empty table, and its line is the class alone.
    intro decl descriptor _ hs hb
    have hr : (Descriptor.inherited none).Regular := SlotTable.regular_empty
    obtain ⟨_, _, rfl⟩ := (Descriptor.build_eq_ok_iff hr.toIndexed).1 hb
    refine ⟨[decl], .root hs, hr.overlay _ _, ?_⟩
    have he : (Descriptor.inherited none).methods = [].eraseDups := rfl
    rw [List.flatMap_singleton]
    exact SlotTable.methods_overlay_of_eraseDups hr.toIndexed he _ _
  · -- A class goes on where its superclass has left off.
    rintro decl above base descriptor _ ha hs ⟨line, hd⟩ hb
    have hr : (Descriptor.inherited (some base)).Regular := hd.regular
    obtain ⟨_, _, rfl⟩ := (Descriptor.build_eq_ok_iff hr.toIndexed).1 hb
    refine ⟨line ++ [decl], .sub ⟨ha.mem, hs⟩ hd.lineage, hr.overlay _ _, ?_⟩
    rw [List.flatMap_append, List.flatMap_singleton]
    exact SlotTable.methods_overlay_of_eraseDups hr.toIndexed hd.methods_eq _ _

theorem Descends.size_eq {slots : SlotTable} {line : List Declaration}
    (h : Descends decls decl slots line) :
    slots.size = (line.flatMap (·.methods)).toFinset.card := by
  have hf : (line.flatMap (·.methods)).toFinset = slots.methods.toFinset := by
    ext method
    rw [List.mem_toFinset, List.mem_toFinset, h.methods_eq, List.mem_eraseDups]
  rw [hf, List.toFinset_card_of_nodup h.regular.nodup, SlotTable.length_methods]

/-- For classes of different names, the methods of a built class are those that are declared from
    the root of its line down to the class, without those that were declared on the way before.
    There are as many slots as different methods along the line, and each method is found at its
    place among them. -/
theorem methods_eq_lineage (hn : (decls.map (·.name)).Nodup) (h : build decls = .ok table)
    (hd : decl ∈ decls) :
    ∃ line descriptor, (∀ other, Lineage decls decl other ↔ other = line) ∧
      table.get? decl.name = some descriptor ∧
      descriptor.table.methods = (line.flatMap (·.methods)).eraseDups ∧
      descriptor.table.size = (line.flatMap (·.methods)).toFinset.card ∧
      ∀ method, table.method? decl.name method =
        ((line.flatMap (·.methods)).eraseDups.idxOf? method).map
          fun slot => (slot, descriptor.table.size) := by
  have hc := Declaration.consistent_of_nodup hn
  obtain ⟨trace, hr⟩ := realizes_of_build h
  obtain ⟨descriptor, hg⟩ := contains_iff_get?.1 (hr.complete decl hd)
  obtain ⟨other, ho, he, line, hline⟩ := hr.reached.descends hg
  obtain rfl : other = decl := hc other ho.mem decl hd he
  refine ⟨line, descriptor, fun other => ⟨fun hl => hl.unique hc hline.lineage, ?_⟩, hg,
    hline.methods_eq, hline.size_eq, fun method => ?_⟩
  · rintro rfl
    exact hline.lineage
  · rw [method?_of_get? hg, hline.regular.slot?_eq_idxOf?, hline.methods_eq]

theorem methods_eq_lineage_dumpTruck :
    let decls := [dumpTruck, pickup, Builtin.truck, Builtin.vehicle]
    (decls.map (·.name)).Nodup ∧ dumpTruck ∈ decls ∧ ∃ table descriptor, build decls = .ok table ∧
      table.get? ⟨"DumpTruck"⟩ = some descriptor ∧
      descriptor.table.methods = [⟨"start"⟩, ⟨"getColor"⟩, ⟨"setPayload"⟩, ⟨"dump"⟩] ∧
      descriptor.table.size = 4 ∧
      table.method? ⟨"DumpTruck"⟩ ⟨"dump"⟩ = some (3, 4) ∧
      table.method? ⟨"DumpTruck"⟩ ⟨"tow"⟩ = none := by
  intro decls
  have hn : (decls.map (·.name)).Nodup := by decide
  have hd : dumpTruck ∈ decls := List.mem_cons_self
  obtain ⟨table, h⟩ : ∃ table, build decls = .ok table := exists_of_isOk (by decide +kernel)
  obtain ⟨line, descriptor, hline, hg, hm, hs, hi⟩ := methods_eq_lineage hn h hd
  have hv : Lineage decls Builtin.vehicle [Builtin.vehicle] := .root rfl
  have ht : Lineage decls Builtin.truck [Builtin.vehicle, Builtin.truck] :=
    .sub ⟨by decide, rfl⟩ hv
  have hp : Lineage decls pickup [Builtin.vehicle, Builtin.truck, pickup] :=
    .sub ⟨by decide, rfl⟩ ht
  obtain rfl := (hline [Builtin.vehicle, Builtin.truck, pickup, dumpTruck]).1
    (.sub ⟨by decide, rfl⟩ hp)
  have hsize : descriptor.table.size = 4 := hs.trans (by decide)
  refine ⟨hn, hd, table, descriptor, h, hg, hm.trans (by decide), hsize, ?_, ?_⟩
  · exact (hi _).trans (by rw [hsize]; decide)
  · exact (hi _).trans (by rw [hsize]; decide)

end ClassTable

end SlotDispatch
