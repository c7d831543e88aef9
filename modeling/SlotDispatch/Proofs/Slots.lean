import SlotDispatch.Proofs.Names
import SlotDispatch.Proofs.Outcome
import SlotDispatch.SlotTable

/-!
# What defining methods does to a slot table

A slot table holds its methods twice: in the slots, and in the index by name. The two agree if a
method is found in the last slot that has its name, and not at all if no slot has it
(`SlotTable.Indexed`). A table in which moreover no name occurs twice is *regular*
(`SlotTable.Regular`); then the index is the inverse of the list of method names.

`SlotTable.target?` is what a call by name reaches: the method in the slot where the name is found.
A class that extends a table *places* its methods (`SlotTable.place`): each goes into the slot where
its name is found, or else into a new one.

* `extend_eq_overlay`: an extension places the methods one after the other, and fails only if one of
  them has no name;
* `Indexed.overlay`, `Regular.overlay`: what agreed with its index before still does;
* `isPrefix_methods_overlay`: the extension begins with the method names of the table;
* `target?_overlay`: the calls of the methods that the class defines go to the class, and all others
  where they went before;
* `Agrees.extend`: if the names in the slots agreed with their written forms before, they still
  do.
-/

namespace SlotDispatch

namespace SlotTable

variable {table base : SlotTable} {owner : ClassName} {method : MethodName} {i : Nat}

/-! ## Tables and their written forms -/

/-- The names in the slots agree with their written forms. -/
def Agrees (table : SlotTable) : Prop := ∀ slot ∈ table.slots, slot.Agrees

theorem agrees_empty : Agrees empty := by simp [Agrees, empty]

/-- A name that goes into a slot is made anew, be it inherited or not. -/
theorem Agrees.outcome_define (h : table.Agrees) (owner : ClassName) (method : MethodName) :
    Outcome (fun _ => True) Agrees (define owner table method) := by
  cases hi : table.slot? method with
  | none =>
    simp only [define, hi]
    cases hn : QualifiedName.of owner method with
    | error fault => trivial
    | ok name =>
      intro slot hs
      rcases List.mem_append.1 hs with hs | hs
      · exact h slot hs
      · rw [List.mem_singleton.1 hs]
        exact QualifiedName.agrees_of_of hn
  | some i =>
    simp only [define, hi]
    cases table.slots[i]? with
    | none => trivial
    | some inherited =>
      dsimp only
      cases hn : inherited.redefinedIn owner with
      | error fault => trivial
      | ok name =>
        intro slot hs
        rcases List.mem_or_eq_of_mem_set hs with hs | rfl
        · exact h slot hs
        · exact QualifiedName.agrees_of_of hn

/-- However many methods a class defines, names and written forms stay in step. -/
theorem Agrees.extend {methods : List MethodName} (h : base.Agrees)
    (he : base.extend owner methods = .ok table) : table.Agrees := by
  have ho : Outcome (fun _ => True) Agrees (base.extend owner methods) :=
    Outcome.foldlM h fun table ht method _ => ht.outcome_define owner method
  rw [he] at ho
  exact ho

/-! ## Tables and their indices -/

/-- The index agrees with the slots: a method is found in the last slot that has it, if any. -/
structure Indexed (table : SlotTable) : Prop where
  /-- Where a method is found, there is a slot with it, and there is none behind that. -/
  last : ∀ {method i}, table.slot? method = some i →
    table.methods[i]? = some method ∧ ∀ j, i < j → table.methods[j]? ≠ some method
  /-- A method with a slot is found. -/
  found : ∀ {method}, method ∈ table.methods → ∃ i, table.slot? method = some i

/-- The index agrees with the slots, and no method has two slots. -/
structure Regular (table : SlotTable) : Prop extends Indexed table where
  /-- The methods are different. -/
  nodup : table.methods.Nodup

/-- The method that a call by name reaches. -/
def target? (table : SlotTable) (method : MethodName) : Option QualifiedName :=
  (table.slot? method).bind (table.slots[·]?)

theorem length_methods (table : SlotTable) : table.methods.length = table.size :=
  List.length_map _

@[simp]
theorem methods_empty : empty.methods = [] := rfl

@[simp]
theorem methods_push (table : SlotTable) (name : QualifiedName) :
    (table.push name).methods = table.methods ++ [name.method] :=
  List.map_append

theorem regular_empty : Regular empty where
  last h := by simp at h
  found h := by simp at h
  nodup := List.nodup_nil

/-- The slot where a method is found has it. -/
theorem Indexed.slot_of_slot? (h : table.Indexed) (hi : table.slot? method = some i) :
    ∃ name, table.slots[i]? = some name ∧ name.method = method := by
  have hm := (h.last hi).1
  rwa [methods, List.getElem?_map, Option.map_eq_some_iff] at hm

theorem Indexed.slot_lt (h : table.Indexed) (hi : table.slot? method = some i) :
    i < table.slots.length := by
  obtain ⟨_, hs, _⟩ := h.slot_of_slot? hi
  exact (List.getElem?_eq_some_iff.1 hs).1

theorem Indexed.slot?_eq_none_iff (h : table.Indexed) :
    table.slot? method = none ↔ method ∉ table.methods := by
  rw [Option.eq_none_iff_forall_ne_some]
  constructor
  · intro hn hm
    obtain ⟨i, hi⟩ := h.found hm
    exact hn i hi
  · intro hm i hi
    exact hm (List.mem_of_getElem? (h.last hi).1)

theorem Indexed.target?_eq_none_iff (h : table.Indexed) :
    table.target? method = none ↔ table.slot? method = none := by
  rw [target?, Option.bind_eq_none_iff, Option.eq_none_iff_forall_ne_some]
  refine forall_congr' fun i => ⟨fun hn hi => ?_, fun hn hi => absurd hi hn⟩
  obtain ⟨name, hs, _⟩ := h.slot_of_slot? hi
  rw [hn hi] at hs
  cases hs

/-- In a regular table a method is found in the slot that has it. -/
theorem Regular.slot?_eq_some_iff (h : table.Regular) :
    table.slot? method = some i ↔ table.methods[i]? = some method := by
  refine ⟨fun hi => (h.last hi).1, fun hi => ?_⟩
  obtain ⟨j, hj⟩ := h.found (List.mem_of_getElem? hi)
  have hlt : i < table.methods.length := (List.getElem?_eq_some_iff.1 hi).1
  have hij : i = j := (List.getElem?_inj hlt h.nodup).1 (hi.trans (h.last hj).1.symm)
  rw [hij, hj]

/-! ## Placing a method -/

/-- Puts a method into the slot where its name is found, or else into a new one at the end. -/
def place (table : SlotTable) (name : QualifiedName) : SlotTable :=
  match table.slot? name.method with
  | some i => { table with slots := table.slots.set i name }
  | none => table.push name

/-- Defining a method is placing it, unless its name is empty. -/
theorem define_eq_place (h : table.Indexed) (owner : ClassName) (method : MethodName) :
    define owner table method =
      if method.text = "" then .error (.naming .emptyMethod)
      else .ok (table.place (.join owner method)) := by
  cases hi : table.slot? method with
  | none =>
    simp only [define, hi, place, QualifiedName.of_eq, QualifiedName.method_join]
    split_ifs <;> rfl
  | some i =>
    -- The slot holds a method of this name, so redefining that is naming it anew.
    obtain ⟨inherited, hs, rfl⟩ := h.slot_of_slot? hi
    simp only [define, hi, hs, place, QualifiedName.redefinedIn, QualifiedName.of_eq,
      QualifiedName.method_join]
    split_ifs <;> rfl

theorem methods_place (h : table.Indexed) (name : QualifiedName) :
    (table.place name).methods =
      if name.method ∈ table.methods then table.methods else table.methods ++ [name.method] := by
  cases hi : table.slot? name.method with
  | none => simp [place, hi, h.slot?_eq_none_iff.1 hi]
  | some i =>
    have hm := (h.last hi).1
    rw [if_pos (List.mem_of_getElem? hm)]
    obtain ⟨hlt, heq⟩ := List.getElem?_eq_some_iff.1 hm
    simp only [place, hi, methods, List.map_set]
    rw [← heq]
    exact List.set_getElem_self hlt

/-- A new slot hides the slots of the same name before it, if there are such. -/
theorem Indexed.push (h : table.Indexed) (name : QualifiedName) : (table.push name).Indexed where
  last {method i} hi := by
    rw [slot?_push] at hi
    rw [methods_push]
    split_ifs at hi with hn
    · -- The method of the new slot: it is found there, and there is nothing behind.
      obtain rfl := Option.some.inj hi
      rw [hn, ← length_methods]
      refine ⟨List.getElem?_concat_length, fun j hj => ?_⟩
      rw [List.getElem?_eq_none (by rw [List.length_append]; exact hj)]
      exact (Option.some_ne_none method).symm
    · -- Any other method: it is found where it was, and the new slot has another name.
      obtain ⟨hm, hl⟩ := h.last hi
      refine ⟨?_, fun j hj hj' => ?_⟩
      · rw [List.getElem?_append_left (List.getElem?_eq_some_iff.1 hm).1, hm]
      · rw [List.getElem?_append] at hj'
        split_ifs at hj'
        · exact hl j hj hj'
        · exact hn (List.mem_singleton.1 (List.mem_of_getElem? hj')).symm
  found {method} hm := by
    rw [slot?_push]
    split_ifs with hn
    · exact ⟨_, rfl⟩
    · rw [methods_push, List.mem_append, List.mem_singleton] at hm
      exact h.found (hm.resolve_right fun he => hn he.symm)

/-- The index agrees with the slots after a method is placed. -/
theorem Indexed.place (h : table.Indexed) (name : QualifiedName) : (table.place name).Indexed := by
  cases hi : table.slot? name.method with
  | none =>
    rw [SlotTable.place, hi]
    exact h.push name
  | some i =>
    -- Neither the index nor the names in the slots change.
    have hm : (table.place name).methods = table.methods := by
      rw [methods_place h, if_pos (List.mem_of_getElem? (h.last hi).1)]
    have hs : ∀ method, (table.place name).slot? method = table.slot? method := fun method => by
      rw [SlotTable.place, hi]
      rfl
    exact ⟨fun hj => hm ▸ h.last (hs _ ▸ hj), fun hj => hs _ ▸ h.found (hm ▸ hj)⟩

theorem Regular.place (h : table.Regular) (name : QualifiedName) : (table.place name).Regular where
  toIndexed := h.toIndexed.place name
  nodup := by
    rw [methods_place h.toIndexed]
    split_ifs with hn
    · exact h.nodup
    · rw [List.nodup_append]
      refine ⟨h.nodup, by simp, fun a ha b hb he => hn ?_⟩
      rw [← List.mem_singleton.1 hb, ← he]
      exact ha

/-- Placing a method redirects the calls of its name to it, and no others. -/
theorem target?_place (h : table.Indexed) (name : QualifiedName) (method : MethodName) :
    (table.place name).target? method =
      if name.method = method then some name else table.target? method := by
  cases hi : table.slot? name.method with
  | none =>
    simp only [SlotTable.place, hi, target?, slot?_push]
    split_ifs with hn
    · exact List.getElem?_concat_length
    · cases hk : table.slot? method with
      | none => rfl
      | some k => exact List.getElem?_append_left (h.slot_lt hk)
  | some i =>
    simp only [SlotTable.place, hi, target?]
    change (table.slot? method).bind _ = _
    split_ifs with hn
    · rw [← hn, hi]
      exact List.getElem?_set_self (h.slot_lt hi)
    · cases hk : table.slot? method with
      | none => rfl
      | some k =>
        -- Slots of different names are different slots.
        refine List.getElem?_set_ne fun hik => hn ?_
        have he := (h.last hi).1
        rw [hik, (h.last hk).1] at he
        exact (Option.some.inj he).symm

/-! ## Extending a table -/

/-- The table of a class `owner` that starts from `base` and places `methods`, one after the
    other. -/
def overlay (base : SlotTable) (owner : ClassName) (methods : List MethodName) : SlotTable :=
  methods.foldl (fun table method => table.place (.join owner method)) base

theorem overlay_cons (base : SlotTable) (owner : ClassName) (method : MethodName)
    (methods : List MethodName) :
    base.overlay owner (method :: methods) =
      (base.place (.join owner method)).overlay owner methods :=
  rfl

/-- An extension places the methods, unless one of their names is empty. -/
theorem extend_eq_overlay (h : base.Indexed) (owner : ClassName) (methods : List MethodName) :
    base.extend owner methods =
      if ∃ method ∈ methods, method.text = "" then .error (.naming .emptyMethod)
      else .ok (base.overlay owner methods) := by
  induction methods generalizing base with
  | nil => simp [extend, overlay, pure, Except.pure]
  | cons method methods ih =>
    rw [extend, List.foldlM_cons, define_eq_place h]
    by_cases he : method.text = ""
    · rw [if_pos he, if_pos ⟨method, List.mem_cons_self, he⟩]
      rfl
    · rw [if_neg he]
      refine (ih (h.place _)).trans ?_
      simp only [List.mem_cons, exists_eq_or_imp, he, false_or, overlay_cons]

/-- Methods that have names can be placed over every table. -/
theorem extend_of_named (h : base.Indexed) (owner : ClassName) {methods : List MethodName}
    (hn : ∀ method ∈ methods, method.text ≠ "") :
    base.extend owner methods = .ok (base.overlay owner methods) := by
  rw [extend_eq_overlay h, if_neg]
  rintro ⟨method, hm, he⟩
  exact hn method hm he

theorem Indexed.overlay (h : base.Indexed) (owner : ClassName) (methods : List MethodName) :
    (base.overlay owner methods).Indexed := by
  induction methods generalizing base with
  | nil => exact h
  | cons method methods ih => exact ih (h.place _)

theorem Regular.overlay (h : base.Regular) (owner : ClassName) (methods : List MethodName) :
    (base.overlay owner methods).Regular := by
  induction methods generalizing base with
  | nil => exact h
  | cons method methods ih => exact ih (h.place _)

/-- An extension begins with the method names of the table. -/
theorem isPrefix_methods_overlay (h : base.Indexed) (owner : ClassName)
    (methods : List MethodName) : base.methods <+: (base.overlay owner methods).methods := by
  induction methods generalizing base with
  | nil => exact List.prefix_rfl
  | cons method methods ih =>
    refine List.IsPrefix.trans ?_ (ih (h.place (.join owner method)))
    rw [methods_place h]
    split_ifs
    · exact List.prefix_rfl
    · exact List.prefix_append _ _

/-- An extension redirects the calls of the methods that it defines to its class, and no others. -/
theorem target?_overlay (h : base.Indexed) (owner : ClassName) (methods : List MethodName)
    (method : MethodName) :
    (base.overlay owner methods).target? method =
      if method ∈ methods then some (.join owner method) else base.target? method := by
  induction methods generalizing base with
  | nil => simp [SlotTable.overlay]
  | cons first methods ih =>
    -- A later method of the same name is the same method of the same class.
    rw [overlay_cons, ih (h.place _), target?_place h, QualifiedName.method_join]
    by_cases hm : method ∈ methods
    · rw [if_pos hm, if_pos (List.mem_cons_of_mem _ hm)]
    · rw [if_neg hm]
      by_cases hf : first = method
      · rw [if_pos hf, if_pos (hf ▸ List.mem_cons_self), hf]
      · rw [if_neg hf, if_neg fun h => (List.mem_cons.1 h).elim (fun he => hf he.symm) hm]

end SlotTable

end SlotDispatch
