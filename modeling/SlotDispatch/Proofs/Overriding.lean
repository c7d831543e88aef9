import SlotDispatch.Proofs.Compatibility

/-!
# What a class makes of the table that it extends

A class that defines methods over a table takes over some of its slots and adds others. Which ones
is said here without going through the methods one after the other (`SlotTable.Overrides`):

* `methods_overlay`: the methods that the table lacks come behind those that it has, each once, in
  the order in which the class defines them first;
* `getElem?_slots_overlay`: of the slots of the table the class takes over those where a method of
  its own is found. If a method has several slots, that is the last of them;
* `eq_join_of_le_overlay`: all further slots belong to the class.

Whatever the class puts into a slot is made of its own name and that of the method, the written form
included. So where names and written forms were in step before, they still are.

A class that defines the same methods over the result changes nothing more (`overlay_overlay`). No
slot of the table gets another method, so of the two faults of a layout a class can only have the
one of its size (`build_ne_otherSlots`).
-/

namespace SlotDispatch

namespace SlotTable

variable {table base : SlotTable} {owner : ClassName} {method : MethodName} {slot : QualifiedName}
  {i : Nat}

/-- The table that comes of `base` when the class `owner` defines `methods` over it. -/
structure Overrides (base : SlotTable) (owner : ClassName) (methods : List MethodName)
    (table : SlotTable) : Prop where
  /-- The methods of `base` come first, then those that it lacks, each where it is defined first. -/
  methods_eq : table.methods = base.methods ++ (methods.filter (· ∉ base.methods)).eraseDups
  /-- A slot of `base` keeps its method. The class takes it over if it defines the method and no
      later slot of `base` has it. -/
  kept : ∀ i slot, base.slots[i]? = some slot →
    table.slots[i]? = some
      (if slot.method ∈ methods ∧ slot.method ∉ base.methods.drop (i + 1)
        then .join owner slot.method else slot)
  /-- The slots behind those of `base` belong to the class. -/
  added : ∀ i slot, base.size ≤ i → table.slots[i]? = some slot → slot = .join owner slot.method

theorem getElem?_methods (hs : table.slots[i]? = some slot) :
    table.methods[i]? = some slot.method := by
  rw [methods, List.getElem?_map, hs]
  rfl

/-- A slot that has a method is the one where it is found if no later slot has it. -/
theorem Indexed.slot?_eq_some_iff_drop (h : table.Indexed)
    (hm : table.methods[i]? = some method) :
    table.slot? method = some i ↔ method ∉ table.methods.drop (i + 1) := by
  rw [h.slot?_eq_some_iff, List.mem_iff_getElem?]
  simp only [hm, true_and, List.getElem?_drop, not_exists]
  constructor
  · exact fun hl k => hl (i + 1 + k) (by omega)
  · intro hl j hj
    obtain ⟨k, rfl⟩ := Nat.exists_eq_add_of_le hj
    exact hl k

/-! ## The methods -/

/-- An extension has the methods of the table, and then those that it lacks, each once. -/
theorem methods_overlay (h : base.Indexed) (owner : ClassName) (methods : List MethodName) :
    (base.overlay owner methods).methods =
      base.methods ++ (methods.filter (· ∉ base.methods)).eraseDups := by
  induction methods generalizing base with
  | nil => simp [SlotTable.overlay]
  | cons method methods ih =>
    rw [overlay_cons, ih (h.place _), methods_place h, QualifiedName.method_join]
    by_cases hm : method ∈ base.methods
    · simp [hm]
    · -- The method has got a slot of its own, so it does not come again.
      have hf : methods.filter (· ∉ base.methods ++ [method]) =
          (methods.filter (· ∉ base.methods)).filter fun other => !other == method := by
        rw [List.filter_filter]
        refine List.filter_congr fun other _ => ?_
        simp [and_comm, beq_eq_decide]
      rw [if_neg hm, hf, List.append_assoc, List.singleton_append, ← List.eraseDups_cons,
        List.filter_cons_of_pos (by simpa using hm)]

/-! ## The slots -/

/-- Placing a method changes the slot where its name is found, and no other. -/
theorem getElem?_slots_place (h : table.Indexed) (name : QualifiedName)
    (hs : table.slots[i]? = some slot) :
    (table.place name).slots[i]? =
      some (if table.slot? name.method = some i then name else slot) := by
  have hlt : i < table.slots.length := (List.getElem?_eq_some_iff.1 hs).1
  cases hn : table.slot? name.method with
  | none =>
    rw [place, hn, if_neg (by simp)]
    exact (List.getElem?_append_left hlt).trans hs
  | some k =>
    simp only [place, hn, Option.some.injEq, List.getElem?_set]
    split_ifs with hk hk'
    · rfl
    · exact absurd (h.slot_lt hn) hk'
    · exact hs

/-- A slot of a table goes to the class that extends the table if a method of the class is found
    there. -/
theorem getElem?_slots_overlay (h : base.Indexed) (owner : ClassName) (methods : List MethodName)
    (hs : base.slots[i]? = some slot) :
    (base.overlay owner methods).slots[i]? =
      some (if slot.method ∈ methods ∧ base.slot? slot.method = some i
        then .join owner slot.method else slot) := by
  induction methods generalizing base slot with
  | nil => simpa [SlotTable.overlay] using hs
  | cons first methods ih =>
    rw [overlay_cons, ih (h.place _) (getElem?_slots_place h _ hs), QualifiedName.method_join]
    by_cases hf : base.slot? first = some i
    · -- The first method is found here. If it comes again, it is the same method of the same class.
      have he := (h.last hf).1
      rw [getElem?_methods hs, Option.some.injEq] at he
      subst he
      simp [hf]
    · -- It is found elsewhere, if at all, and this slot is left as it is.
      obtain ⟨k, hk⟩ := h.found (List.mem_of_getElem? (getElem?_methods hs))
      have hne : k = i → slot.method ≠ first := by
        rintro rfl rfl
        exact hf hk
      rw [if_neg hf, slot?_place _ hk, hk]
      by_cases hki : k = i
      · simp [hki, hne hki]
      · simp [hki]

theorem eq_join_of_le_place {k : Nat} (ha : ∀ i slot, k ≤ i → table.slots[i]? = some slot →
      slot = .join owner slot.method) (method : MethodName) (hi : k ≤ i)
    (hs : (table.place (.join owner method)).slots[i]? = some slot) :
    slot = .join owner slot.method := by
  cases hn : table.slot? method with
  | none =>
    simp only [place, QualifiedName.method_join, hn, push, List.getElem?_append] at hs
    split_ifs at hs
    · exact ha i slot hi hs
    · rw [List.mem_singleton.1 (List.mem_of_getElem? hs), QualifiedName.method_join]
  | some j =>
    simp only [place, QualifiedName.method_join, hn, List.getElem?_set] at hs
    split_ifs at hs
    · rw [← Option.some.inj hs, QualifiedName.method_join]
    · exact ha i slot hi hs

/-- The slots behind those of a table belong to the class that extends it. -/
theorem eq_join_of_le_overlay {k : Nat} (methods : List MethodName)
    (ha : ∀ i slot, k ≤ i → base.slots[i]? = some slot → slot = .join owner slot.method) :
    ∀ i slot, k ≤ i → (base.overlay owner methods).slots[i]? = some slot →
      slot = .join owner slot.method := by
  induction methods generalizing base with
  | nil => exact ha
  | cons method methods ih =>
    exact ih fun i slot hi hs => eq_join_of_le_place ha method hi hs

theorem overrides_overlay (h : base.Indexed) (owner : ClassName) (methods : List MethodName) :
    base.Overrides owner methods (base.overlay owner methods) where
  methods_eq := methods_overlay h owner methods
  kept i slot hs := by
    rw [getElem?_slots_overlay h owner methods hs]
    simp only [h.slot?_eq_some_iff_drop (getElem?_methods hs)]
  added := by
    refine eq_join_of_le_overlay methods fun i slot hi hs => ?_
    rw [List.getElem?_eq_none hi] at hs
    cases hs

/-! ## Once more -/

/-- A method that is reached by its name need not be placed. -/
theorem place_of_target? {name : QualifiedName} (h : table.target? name.method = some name) :
    table.place name = table := by
  obtain ⟨i, hi, hs⟩ := Option.bind_eq_some_iff.1 h
  rw [place, hi]
  obtain ⟨hlt, he⟩ := List.getElem?_eq_some_iff.1 hs
  have hset : table.slots.set i name = table.slots := by
    rw [← he]
    exact List.set_getElem_self hlt
  simp only [hset]

theorem overlay_of_target? {methods : List MethodName}
    (h : ∀ method ∈ methods, table.target? method = some (.join owner method)) :
    table.overlay owner methods = table := by
  induction methods with
  | nil => rfl
  | cons method methods ih =>
    rw [overlay_cons, place_of_target? (h method List.mem_cons_self)]
    exact ih fun method hm => h method (List.mem_cons_of_mem _ hm)

/-- Defining the same methods once more changes nothing. -/
theorem overlay_overlay (h : base.Indexed) (owner : ClassName) (methods : List MethodName) :
    (base.overlay owner methods).overlay owner methods = base.overlay owner methods :=
  overlay_of_target? fun method hm => by rw [target?_overlay h, if_pos hm]

end SlotTable

namespace Descriptor

open Interchange (readDescriptor)

variable {base : Descriptor} {decl : Declaration}

/-! ## Building on a descriptor -/

/-- A class whose methods have names can be built if it is large enough. -/
theorem build_of_named (h : base.table.Indexed) (hn : ∀ method ∈ decl.methods, method.text ≠ "") :
    build (some base) decl =
      if decl.size < base.size then
        .error (.layout (.smaller decl.name decl.size base.name base.size))
      else .ok (derived (some base) decl) := by
  rw [build_some h, if_neg]
  rintro ⟨method, hm, he⟩
  exact hn method hm he

/-- The slots of the superclass are never missing. -/
theorem build_ne_otherSlots (h : base.table.Indexed) (decl : Declaration) (sub above : ClassName) :
    build (some base) decl ≠ .error (.layout (.otherSlots sub above)) := by
  rw [build_some h]
  split_ifs <;> simp

/-- A class whose methods have names can extend every table that there is, and what it makes of the
    table is known slot by slot. The table is a prefix of that, and to extend it once more in the
    same way changes nothing. Names that agree with their written forms still do afterwards, and in
    the tables that come of reading and extending they all do. So a class can be built on every
    descriptor that there is, unless it is too small, and it never lacks a slot of the
    superclass. -/
theorem build_overrides :
    (∀ (base : SlotTable) (decl : Declaration), base.Grown SlotTable.Primary →
      (∀ method ∈ decl.methods, method.text ≠ "") →
        ∃ table, base.extend decl.name decl.methods = .ok table ∧
          base.Overrides decl.name decl.methods table ∧
          ((∀ slot ∈ base.slots, slot.full = slot.owner.text ++ "#" ++ slot.method.text) →
            ∀ slot ∈ table.slots, slot.full = slot.owner.text ++ "#" ++ slot.method.text) ∧
          base.isPrefixOf table = true ∧ table.extend decl.name decl.methods = .ok table) ∧
    (∀ table : SlotTable, table.Grown SlotTable.Genuine →
      ∀ slot ∈ table.slots, slot.full = slot.owner.text ++ "#" ++ slot.method.text) ∧
    (∀ (base : Descriptor) (decl : Declaration), base.Made Loaded →
      (∀ method ∈ decl.methods, method.text ≠ "") →
        (base.size ≤ decl.size → ∃ descriptor, build (some base) decl = .ok descriptor ∧
          base.table.Overrides decl.name decl.methods descriptor.table ∧
          ∀ slot ∈ descriptor.table.slots,
            slot.full = slot.owner.text ++ "#" ++ slot.method.text) ∧
        (decl.size < base.size → build (some base) decl =
          .error (.layout (.smaller decl.name decl.size base.name base.size)))) ∧
    ∀ (base : Descriptor) (decl : Declaration) (sub above : ClassName), base.Made Loaded →
      build (some base) decl ≠ .error (.layout (.otherSlots sub above)) := by
  refine ⟨fun base decl hg hn => ?_,
    fun table hg => (hg.coherent fun _ => SlotTable.Genuine.coherent).agrees,
    fun base decl hm hn => ?_,
    fun base decl sub above hm => build_ne_otherSlots hm.indexed decl sub above⟩
  · have hi : base.Indexed := hg.indexed fun _ => SlotTable.Primary.indexed
    have he := SlotTable.extend_of_named hi decl.name hn
    refine ⟨base.overlay decl.name decl.methods, he, SlotTable.overrides_overlay hi _ _,
      fun ha => SlotTable.Agrees.extend ha he,
      SlotTable.isPrefixOf_iff.2 (SlotTable.isPrefix_methods_overlay hi _ _), ?_⟩
    rw [SlotTable.extend_of_named (hi.overlay _ _) _ hn, SlotTable.overlay_overlay hi]
  · have hb := build_of_named hm.indexed hn
    refine ⟨fun hs => ⟨derived (some base) decl, ?_, ?_, ?_⟩, fun hs => hb.trans (if_pos hs)⟩
    · rw [hb, if_neg (UInt64.not_lt.2 hs)]
    · exact SlotTable.overrides_overlay hm.indexed decl.name decl.methods
    · rw [if_neg (UInt64.not_lt.2 hs)] at hb
      exact (Made.under hm hb).coherent.agrees

/-- A dump truck takes over the second slot that a truck has for `start`, and leaves it the first.
    It is built on the truck only if it is no smaller, and then all its names are in step with their
    written forms. -/
theorem build_overrides_doubleTruck :
    let names : List QualifiedName := [.join ⟨"Vehicle"⟩ ⟨"start"⟩, .join ⟨"Truck"⟩ ⟨"start"⟩]
    let decl : Declaration :=
      ⟨⟨"DumpTruck"⟩, some ⟨"Truck"⟩, 8, [⟨"start"⟩, ⟨"dump"⟩, ⟨"start"⟩, ⟨"dump"⟩]⟩
    (∃ table, (SlotTable.ofList names).extend decl.name decl.methods = .ok table ∧
      table.methods = [⟨"start"⟩, ⟨"start"⟩, ⟨"dump"⟩] ∧
      (table.slots[0]?).map (·.full) = some "Vehicle#start" ∧
      (table.slots[1]?).map (·.full) = some "DumpTruck#start" ∧
      (∀ slot ∈ table.slots, slot.full = slot.owner.text ++ "#" ++ slot.method.text) ∧
      table.extend decl.name decl.methods = .ok table) ∧
    ∃ base, doubleTruck.read readDescriptor = .ok base ∧
      build (some base) decl = .error (.layout (.smaller ⟨"DumpTruck"⟩ 8 base.name base.size)) ∧
      ∃ descriptor, build (some base) { decl with size := 24 } = .ok descriptor ∧
        ∀ slot ∈ descriptor.table.slots,
          slot.full = slot.owner.text ++ "#" ++ slot.method.text := by
  intro names decl
  have hn : ∀ method ∈ decl.methods, method.text ≠ "" := by decide
  have hs : (SlotTable.ofList names).slots = names := SlotTable.slots_ofList names
  have hm : (SlotTable.ofList names).methods = [⟨"start"⟩, ⟨"start"⟩] := by
    rw [SlotTable.methods, hs]
    rfl
  obtain ⟨table, he, ho, ha, _, hagain⟩ :=
    build_overrides.1 (.ofList names) decl (.root (.ofList names)) hn
  obtain ⟨base, hb, hsize⟩ : ∃ base, doubleTruck.read readDescriptor = .ok base ∧
      base.size = 16 := exists_of_any (by decide +kernel)
  have hmade : base.Made Loaded := .start (.alone hb)
  obtain ⟨hfits, _⟩ := build_overrides.2.2.1 base { decl with size := 24 } hmade hn
  obtain ⟨_, hsmall⟩ := build_overrides.2.2.1 base decl hmade hn
  obtain ⟨descriptor, hd, _, hagree⟩ := hfits (by rw [hsize]; decide)
  refine ⟨⟨table, he, ?_, ?_, ?_, ha ?_, hagain⟩, base, hb, hsmall (by rw [hsize]; decide),
    descriptor, hd, hagree⟩
  · rw [ho.methods_eq, hm]
    decide
  · rw [ho.kept 0 _ (by rw [hs]; rfl), hm]
    rfl
  · rw [ho.kept 1 _ (by rw [hs]; rfl), hm]
    rfl
  · rw [hs]
    decide

end Descriptor

end SlotDispatch
