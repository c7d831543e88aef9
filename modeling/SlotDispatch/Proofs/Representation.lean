import SlotDispatch.Interchange.Read
import SlotDispatch.Proofs.Names
import SlotDispatch.Proofs.Outcome
import SlotDispatch.Proofs.Slots

/-!
# The representation of slot tables

A slot table holds the names of its methods in the slots, and again in the index. A table comes
about in two ways: from a list of names, which may have a method several times, or by extending
another table (`SlotTable.Grown`). Either way the index agrees with the slots (`Grown.indexed`), so
that it holds nothing that the slots do not say:

* `Indexed.slot?_eq_some_iff`: the index gives the last slot of a method, and nothing else;
* `Indexed.eq_of_slots`: tables with the same slots are equal;
* `Indexed.ofList_slots`: a table is recovered from the list of its slots.

Without lists no method ever has two slots (`Grown.regular`). A name in a list may disagree with its
written form. Without such names, a table never holds one (`Grown.coherent`).
-/

namespace SlotDispatch

namespace SlotTable

variable {table other : SlotTable} {method : MethodName} {i : Nat}

/-! ## The index is determined by the slots -/

/-- A method is found in a slot exactly if that is the last one that has it. -/
theorem Indexed.slot?_eq_some_iff (h : table.Indexed) :
    table.slot? method = some i ↔
      table.methods[i]? = some method ∧ ∀ j, i < j → table.methods[j]? ≠ some method := by
  refine ⟨h.last, fun ⟨hi, hlast⟩ => ?_⟩
  obtain ⟨k, hk⟩ := h.found (List.mem_of_getElem? hi)
  obtain ⟨hm, hlast'⟩ := h.last hk
  -- Neither slot can come after the other.
  rcases Nat.lt_trichotomy i k with hlt | rfl | hlt
  · exact absurd hm (hlast k hlt)
  · exact hk
  · exact absurd hi (hlast' i hlt)

theorem Indexed.eq_of_slots (h : table.Indexed) (h' : other.Indexed)
    (hs : table.slots = other.slots) : table = other := by
  have hm : table.methods = other.methods := by rw [methods, methods, hs]
  have hi : table.index = other.index := by
    refine Std.ExtTreeMap.ext_getElem? fun method => Option.ext fun i => ?_
    change table.slot? method = some i ↔ other.slot? method = some i
    rw [h.slot?_eq_some_iff, h'.slot?_eq_some_iff, hm]
  cases table
  cases other
  cases hs
  cases hi
  rfl

/-! ## Tables from lists -/

theorem slots_foldl_push (names : List QualifiedName) (table : SlotTable) :
    (names.foldl push table).slots = table.slots ++ names := by
  induction names generalizing table with
  | nil => simp
  | cons name names ih => simp [ih, push]

@[simp]
theorem slots_ofList (names : List QualifiedName) : (ofList names).slots = names :=
  slots_foldl_push names empty

theorem Indexed.foldl_push (h : table.Indexed) (names : List QualifiedName) :
    (names.foldl SlotTable.push table).Indexed := by
  induction names generalizing table with
  | nil => exact h
  | cons name names ih => exact ih (h.push name)

theorem indexed_ofList (names : List QualifiedName) : (ofList names).Indexed :=
  regular_empty.toIndexed.foldl_push names

/-- A table is made of its slots alone. -/
theorem Indexed.ofList_slots (h : table.Indexed) : ofList table.slots = table :=
  (indexed_ofList table.slots).eq_of_slots h (slots_ofList table.slots)

/-- All that a table holds twice agrees: the index with the slots, and the written forms with the
    names. -/
structure Coherent (table : SlotTable) : Prop extends Indexed table where
  /-- The names agree with their written forms. -/
  agrees : table.Agrees

theorem coherent_empty : Coherent empty := ⟨regular_empty.toIndexed, agrees_empty⟩

/-- A table is *loaded* if it is made from a list of readable names that agree with their written
    forms. -/
def Loaded (table : SlotTable) : Prop :=
  ∃ names : List QualifiedName, (∀ name ∈ names, name.Readable ∧ name.Agrees) ∧ table = ofList names

theorem Loaded.coherent (h : table.Loaded) : table.Coherent := by
  obtain ⟨names, hn, rfl⟩ := h
  refine ⟨indexed_ofList names, fun name hs => ?_⟩
  rw [slots_ofList] at hs
  exact (hn name hs).2

theorem Loaded.readable (h : table.Loaded) : ∀ name ∈ table.slots, name.Readable := by
  obtain ⟨names, hn, rfl⟩ := h
  intro name hs
  rw [slots_ofList] at hs
  exact (hn name hs).1

end SlotTable

namespace Interchange

open Json (Tree)

/-- Nobody who wants something else reads anything from a value. -/
theorem outcome_refuse {α : Type} {good : α → Prop} (expected : String) (tree : Tree) :
    Outcome (fun _ => True) good (refuse expected tree) := by
  rw [refuse]
  exact (Outcome.of_true _).bind fun _ _ => trivial

theorem outcome_readQualifiedName (tree : Tree) :
    Outcome (fun _ => True) (fun name => name.Readable ∧ name.Agrees) (readQualifiedName tree) := by
  rw [readQualifiedName]
  refine (Outcome.of_true (readString "a MethodFullname" tree)).bind fun text _ => ?_
  cases hn : QualifiedName.ofText text with
  | ok name => exact ⟨QualifiedName.readable_of_ofText hn, QualifiedName.agrees_of_ofText hn⟩
  | error fault => cases fault <;> trivial

/-- A slot table that was read is loaded. -/
theorem outcome_readSlotTable (tree : Tree) :
    Outcome (fun _ => True) SlotTable.Loaded (readSlotTable tree) := by
  cases tree with
  | array items ending =>
    rw [readSlotTable]
    refine (Outcome.mapM fun item _ => outcome_readQualifiedName item).bind fun names hn => ?_
    cases ending.fault? with
    | none => exact ⟨names, hn, rfl⟩
    | some fault => trivial
  | _ => exact outcome_refuse _ _

/-- What holds of all that a reader gives holds of what it reads from a source. -/
theorem outcome_read {α : Type} {good : α → Prop} {reader : Origin → Tree → Read α}
    (h : ∀ origin tree, Outcome (fun _ => True) good (reader origin tree)) (source : Source) :
    Outcome (fun _ => True) good (source.read reader) := by
  cases source with
  | memory value => exact h _ _
  | text t =>
    refine (h _ _).bind fun a ha => ?_
    split
    · trivial
    · exact ha

end Interchange

namespace SlotTable

open Interchange (Source readSlotTable)

variable {table other base : SlotTable} {owner : ClassName} {method : MethodName} {i : Nat}

/-! ## Tables that grow -/

/-- The tables that come of those at the start by any number of extensions. -/
inductive Grown (start : SlotTable → Prop) : SlotTable → Prop
  | root {table : SlotTable} (given : start table) : Grown start table
  | extend {base table : SlotTable} {owner : ClassName} {methods : List MethodName}
      (grown : Grown start base) (done : base.extend owner methods = .ok table) :
      Grown start table

/-- The tables that extend no other: the empty one, and those that are made from a list or read. -/
inductive Primary : SlotTable → Prop
  | empty : Primary .empty
  | ofList (names : List QualifiedName) : Primary (.ofList names)
  | read {source : Source} {table : SlotTable}
      (done : source.read (fun _ => readSlotTable) = .ok table) : Primary table

/-- The tables that extend no other and whose names were made by the checks of names: the empty one,
    and those that are read. -/
inductive Genuine : SlotTable → Prop
  | empty : Genuine .empty
  | read {source : Source} {table : SlotTable}
      (done : source.read (fun _ => readSlotTable) = .ok table) : Genuine table

theorem loaded_of_read {source : Source} (h : source.read (fun _ => readSlotTable) = .ok table) :
    table.Loaded := by
  have ho := Interchange.outcome_read (fun _ => Interchange.outcome_readSlotTable) source
  rw [h] at ho
  exact ho

theorem Primary.indexed (h : table.Primary) : table.Indexed := by
  cases h with
  | empty => exact regular_empty.toIndexed
  | ofList names => exact indexed_ofList names
  | read done => exact (loaded_of_read done).coherent.toIndexed

theorem Genuine.coherent (h : table.Genuine) : table.Coherent := by
  cases h with
  | empty => exact coherent_empty
  | read done => exact (loaded_of_read done).coherent

/-- What an extension gives, when it gives anything, has all methods placed. -/
theorem eq_overlay_of_extend (h : base.Indexed) {methods : List MethodName}
    (he : base.extend owner methods = .ok table) : table = base.overlay owner methods := by
  rw [extend_eq_overlay h] at he
  split_ifs at he
  exact (Except.ok.inj he).symm

/-- The index agrees with the slots through all extensions. -/
theorem Grown.indexed {start : SlotTable → Prop} (hs : ∀ table, start table → table.Indexed)
    (h : Grown start table) : table.Indexed := by
  induction h with
  | root given => exact hs _ given
  | extend _ done ih =>
    rw [eq_overlay_of_extend ih done]
    exact ih.overlay _ _

/-- No method has two slots if none had to begin with. -/
theorem Grown.regular {start : SlotTable → Prop} (hs : ∀ table, start table → table.Regular)
    (h : Grown start table) : table.Regular := by
  induction h with
  | root given => exact hs _ given
  | extend _ done ih =>
    rw [eq_overlay_of_extend ih.toIndexed done]
    exact ih.overlay _ _

/-- Nothing that a table holds twice gets out of step through extensions. -/
theorem Grown.coherent {start : SlotTable → Prop} (hs : ∀ table, start table → table.Coherent)
    (h : Grown start table) : table.Coherent := by
  refine ⟨h.indexed fun table ht => (hs table ht).toIndexed, ?_⟩
  induction h with
  | root given => exact (hs _ given).agrees
  | extend _ done ih => exact ih.extend done

/-- However many of its methods a class has defined, the slots that it finds are there. -/
theorem Indexed.slot_lt_of_extend (h : base.Indexed) {methods : List MethodName}
    (hm : ∀ method ∈ methods, method.text ≠ "") (owner : ClassName) :
    ∃ table, base.extend owner methods = .ok table ∧
      ∀ method i, table.slot? method = some i → i < table.size :=
  ⟨base.overlay owner methods, extend_of_named h owner hm,
    fun _ _ => (h.overlay owner methods).slot_lt⟩

/-- However a table came about, its index says where each method has its last slot, and the table
    is determined by its slots. Where no list was used, every slot is found by its method. -/
theorem grown_representation :
    (∀ table, Grown Primary table →
      (∀ method i, table.slot? method = some i ↔
        table.methods[i]? = some method ∧ ∀ j, i < j → table.methods[j]? ≠ some method) ∧
      (∀ method, table.slot? method = none ↔ method ∉ table.methods) ∧
      (∀ method i, table.slot? method = some i → i < table.size) ∧
      (∀ owner methods, (∀ method ∈ methods, method.text ≠ "") →
        ∃ next, table.extend owner methods = .ok next ∧
          ∀ method i, next.slot? method = some i → i < next.size) ∧
      ofList table.slots = table) ∧
    (∀ table other, Grown Primary table → Grown Primary other →
      (table = other ↔ table.slots = other.slots)) ∧
    ∀ table, Grown (· = .empty) table → table.methods.Nodup ∧
      ∀ i name, table.slots[i]? = some name → table.slot? name.method = some i := by
  have hi : ∀ table, Grown Primary table → table.Indexed := fun table h =>
    h.indexed fun _ => Primary.indexed
  refine ⟨fun table h => ?_, fun table other h h' => ?_, fun table h => ?_⟩
  · refine ⟨fun method i => (hi table h).slot?_eq_some_iff,
      fun method => (hi table h).slot?_eq_none_iff, fun method i => (hi table h).slot_lt,
      fun owner methods hm => (hi table h).slot_lt_of_extend hm owner, (hi table h).ofList_slots⟩
  · exact ⟨fun he => he ▸ rfl, (hi table h).eq_of_slots (hi other h')⟩
  · have hr : table.Regular := h.regular (by rintro _ rfl; exact regular_empty)
    refine ⟨hr.nodup, fun i name hs => ?_⟩
    rw [hr.slot?_eq_some_iff, methods, List.getElem?_map, hs]
    rfl

theorem grown_representation_twoStarts :
    let names : List QualifiedName := [.join ⟨"Vehicle"⟩ ⟨"start"⟩,
      .join ⟨"Vehicle"⟩ ⟨"getColor"⟩, .join ⟨"Truck"⟩ ⟨"start"⟩]
    let defined : List MethodName := [⟨"start"⟩, ⟨"dump"⟩]
    (ofList names).slot? ⟨"start"⟩ = some 2 ∧
      (∃ next, (ofList names).extend ⟨"DumpTruck"⟩ defined = .ok next ∧
        ofList next.slots = next ∧ (next = ofList names ↔ next.slots = names)) ∧
      ∃ table, empty.extend ⟨"DumpTruck"⟩ defined = .ok table ∧ table.methods.Nodup := by
  intro names defined
  have hn : Grown Primary (ofList names) := .root (.ofList names)
  obtain ⟨hlast, _, _, hextend, _⟩ := grown_representation.1 _ hn
  have hd : ∀ method ∈ defined, method.text ≠ "" := by decide
  obtain ⟨next, he, _⟩ := hextend ⟨"DumpTruck"⟩ defined hd
  obtain ⟨table, he', _⟩ := (grown_representation.1 empty (.root .empty)).2.2.2.1
    ⟨"DumpTruck"⟩ defined hd
  refine ⟨(hlast _ _).2 ⟨by rw [methods, slots_ofList]; rfl, fun j hj => ?_⟩,
    ⟨next, he, ?_, ?_⟩, table, he', ?_⟩
  · rw [methods, slots_ofList, List.getElem?_eq_none (by exact hj)]
    exact (Option.some_ne_none _).symm
  · exact (grown_representation.1 next (hn.extend he)).2.2.2.2
  · rw [grown_representation.2.1 next _ (hn.extend he) hn, slots_ofList]
  · exact (grown_representation.2.2 table (.extend (.root rfl) he')).1

end SlotTable

end SlotDispatch
