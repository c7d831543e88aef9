import Mathlib.Data.List.Nodup
import Mathlib.Logic.Relation
import SlotDispatch.ClassTable.Build
import SlotDispatch.Proofs.Outcome

/-!
# Declared hierarchies

What a list of declarations says about the classes, before any of them is built. A class is
*below* the class that its declaration names as its superclass (`Declaration.Below`). A list is
*realizable* (`Declaration.Realizable`) if every superclass is declared, no class is above itself,
no class is smaller than the one right above it, and every method has a name.

A fault that is reported for a list is *justified* (`ClassFault.Justified`) if the list has it; then
the list is not realizable. Whoever goes up from a declaration to those above it (`Declaration.Up`,
`Declaration.Walk`) comes to a root or is *lost* (`Declaration.Lost`), and that is a justified
fault. The climb from a declaration is either lost, too, or it gives an *ascent*
(`Declaration.Ascent`), which ends at a root or right below a class that is built
(`outcome_climb`).
-/

namespace SlotDispatch

namespace Declaration

variable {decls : List Declaration} {decl above : Declaration} {name base : ClassName}

/-! ## The classes above and below -/

/-- A declaration puts `sub` right below `base`. -/
def Below (decls : List Declaration) (sub base : ClassName) : Prop :=
  ∃ decl ∈ decls, decl.name = sub ∧ decl.superclass = some base

/-- Classes may be declared several times, but always in the same way. -/
def Consistent (decls : List Declaration) : Prop :=
  ∀ decl ∈ decls, ∀ other ∈ decls, decl.name = other.name → decl = other

theorem consistent_of_nodup (h : (decls.map (·.name)).Nodup) : Consistent decls :=
  fun _ hd _ ho he => List.inj_on_of_nodup_map h hd ho he

/-- The first or the last declaration of its class. -/
def Chosen (decls : List Declaration) (decl : Declaration) : Prop :=
  decls.find? (·.name = decl.name) = some decl ∨ find? decls decl.name = some decl

theorem Chosen.mem (h : Chosen decls decl) : decl ∈ decls :=
  h.elim List.mem_of_find?_eq_some fun h => (mem_of_find? h).1

theorem chosen_of_find? (h : find? decls name = some decl) : Chosen decls decl :=
  .inr ((mem_of_find? h).2 ▸ h)

/-- A class that none of the declarations before it declares is declared first there. -/
theorem chosen_of_fresh {before after : List Declaration}
    (h : ∀ other ∈ before, other.name ≠ decl.name) : Chosen (before ++ decl :: after) decl := by
  have hn : before.find? (·.name = decl.name) = none :=
    List.find?_eq_none.2 fun other ho => by simpa using h other ho
  refine .inl ?_
  rw [List.find?_append, hn, Option.none_or, List.find?_cons_of_pos (by simp)]

theorem find?_eq_none_iff : find? decls name = none ↔ ∀ decl ∈ decls, decl.name ≠ name := by
  simp [find?]

/-- The conditions under which the declared classes can exist. -/
structure Realizable (decls : List Declaration) : Prop where
  /-- Every superclass is declared. -/
  declared : ∀ decl ∈ decls, ∀ base, decl.superclass = some base →
    ∃ above ∈ decls, above.name = base
  /-- No class is above itself. -/
  acyclic : ∀ name, ¬Relation.TransGen (Below decls) name name
  /-- No class is smaller than the class right above it. -/
  large : ∀ decl ∈ decls, ∀ above ∈ decls, decl.superclass = some above.name →
    above.size ≤ decl.size
  /-- Every method has a name that is not empty. -/
  named : ∀ decl ∈ decls, ∀ method ∈ decl.methods, method.text ≠ ""

/-- Neither the order of the declarations nor their number matters. -/
theorem Realizable.congr {decls' : List Declaration} (h : Realizable decls)
    (hm : ∀ decl, decl ∈ decls' ↔ decl ∈ decls) : Realizable decls' where
  declared decl hd base hs := by
    obtain ⟨above, ha, he⟩ := h.declared decl ((hm decl).1 hd) base hs
    exact ⟨above, (hm above).2 ha, he⟩
  acyclic name hcycle := by
    have hb : ∀ sub base, Below decls' sub base → Below decls sub base :=
      fun _ _ ⟨decl, hd, hb⟩ => ⟨decl, (hm decl).1 hd, hb⟩
    exact h.acyclic name (Relation.TransGen.mono hb _ _ hcycle)
  large decl hd above ha := h.large decl ((hm decl).1 hd) above ((hm above).1 ha)
  named decl hd := h.named decl ((hm decl).1 hd)

end Declaration

/-- The declarations have the fault. -/
def ClassFault.Justified (decls : List Declaration) : ClassFault → Prop
  | .slots (.naming fault) =>
    fault = .emptyMethod ∧ ∃ decl ∈ decls, ∃ method ∈ decl.methods, method.text = ""
  | .slots (.missing _ _) => False
  | .layout (.smaller sub subSize base baseSize) =>
    subSize < baseSize ∧ ∃ decl ∈ decls, ∃ above ∈ decls, decl.superclass = some above.name ∧
      decl.name = sub ∧ decl.size = subSize ∧ above.name = base ∧ above.size = baseSize
  | .layout (.otherSlots _ _) => False
  | .unknownClass name =>
    (∃ decl ∈ decls, decl.superclass = some name) ∧ ∀ decl ∈ decls, decl.name ≠ name
  | .inheritanceCycle name => Relation.TransGen (Declaration.Below decls) name name

theorem ClassFault.Justified.not_realizable {decls : List Declaration} {fault : ClassFault}
    (h : fault.Justified decls) : ¬Declaration.Realizable decls := by
  intro hr
  match fault, h with
  | .slots (.naming _), ⟨_, decl, hd, method, hm, he⟩ => exact hr.named decl hd method hm he
  | .layout (.smaller ..), ⟨hlt, decl, hd, above, ha, hs, _, hsub, _, hbase⟩ =>
    rw [← hsub, ← hbase] at hlt
    exact absurd (hr.large decl hd above ha hs) (UInt64.not_le.2 hlt)
  | .unknownClass name, ⟨⟨decl, hd, hs⟩, hn⟩ =>
    obtain ⟨above, ha, he⟩ := hr.declared decl hd name hs
    exact hn above ha he
  | .inheritanceCycle name, h => exact hr.acyclic name h

namespace Declaration

variable {decls : List Declaration} {decl above : Declaration} {name base : ClassName}

/-! ## Going up -/

/-- `base` is declared as the superclass of `decl`. -/
structure Up (decls : List Declaration) (decl base : Declaration) : Prop where
  /-- It is declared. -/
  mem : base ∈ decls
  /-- It is the superclass. -/
  sub : decl.superclass = some base.name

theorem up_of_find? (hs : decl.superclass = some base) (hf : find? decls base = some above) :
    Up decls decl above := by
  obtain ⟨hmem, rfl⟩ := mem_of_find? hf
  exact ⟨hmem, hs⟩

/-- Going up from `start` past the declarations `passed`, of which the last comes first, one
    arrives at `last`. -/
inductive Walk (decls : List Declaration) (start : Declaration) :
    List Declaration → Declaration → Prop
  | here : Walk decls start [] start
  | up {passed : List Declaration} {last next : Declaration} (walk : Walk decls start passed last)
      (step : Up decls last next) : Walk decls start (last :: passed) next

variable {start last : Declaration} {passed : List Declaration}

/-- What was passed on the way is below the place where one has arrived. -/
theorem Walk.reflTransGen_of_mem (h : Walk decls start passed last) :
    ∀ decl ∈ last :: passed, Relation.ReflTransGen (Up decls) decl last := by
  induction h with
  | here => simp [Relation.ReflTransGen.refl]
  | up _ step ih =>
    intro decl hd
    rcases List.mem_cons.1 hd with rfl | hd
    · exact .refl
    · exact (ih decl hd).tail step

theorem Walk.mem (h : Walk decls start passed last) (hs : start ∈ decls) :
    ∀ decl ∈ last :: passed, decl ∈ decls := by
  induction h with
  | here => simpa using hs
  | up _ step ih => exact List.forall_mem_cons.2 ⟨step.mem, ih⟩

theorem Walk.reflTransGen (h : Walk decls start passed last) :
    Relation.ReflTransGen (Up decls) start last := by
  induction h with
  | here => exact .refl
  | up _ step ih => exact ih.tail step

/-- The declared order of classes is that of their declarations. -/
theorem reflTransGen_below (hd : decl ∈ decls) (h : Relation.ReflTransGen (Up decls) decl above) :
    Relation.ReflTransGen (Below decls) decl.name above.name := by
  induction h using Relation.ReflTransGen.head_induction_on with
  | refl => exact .refl
  | head step _ ih => exact (ih step.mem).head ⟨_, hd, rfl, step.sub⟩

/-- Going up from `start` does not end at a root: it leads to a superclass that nobody declares, or
    back to a class that was passed, which is the first one to be met again. -/
inductive Lost (decls : List Declaration) (start : Declaration) : ClassFault → Prop
  | unknown {passed : List Declaration} {last : Declaration} {name : ClassName}
      (walk : Walk decls start passed last) (sub : last.superclass = some name)
      (undeclared : ∀ decl ∈ decls, decl.name ≠ name) : Lost decls start (.unknownClass name)
  | again {passed : List Declaration} {last : Declaration} {name : ClassName}
      (walk : Walk decls start passed last) (fresh : ((last :: passed).map (·.name)).Nodup)
      (sub : last.superclass = some name) (met : name ∈ (last :: passed).map (·.name)) :
      Lost decls start (.inheritanceCycle name)

theorem Lost.justified {fault : ClassFault} (h : Lost decls start fault) (hs : start ∈ decls) :
    fault.Justified decls := by
  cases h with
  | unknown walk sub undeclared =>
    exact ⟨⟨_, walk.mem hs _ List.mem_cons_self, sub⟩, undeclared⟩
  | again walk fresh sub met =>
    -- The class was passed before, so it is below the class that it is above.
    obtain ⟨decl, hd, rfl⟩ := List.mem_map.1 met
    have hb := reflTransGen_below (walk.mem hs decl hd) (walk.reflTransGen_of_mem decl hd)
    exact Relation.TransGen.tail' hb ⟨_, walk.mem hs _ List.mem_cons_self, rfl, sub⟩

/-! ## Climbing -/

/-- The declarations `chain` lead up from `decl`, each the last one of the superclass of the one
    before, past classes that are not built and as far as there are such. -/
inductive Ascent (decls : List Declaration) (built : ClassName → Bool) :
    Declaration → List Declaration → Prop
  | root {decl : Declaration} (top : decl.superclass = none) : Ascent decls built decl []
  | met {decl : Declaration} {base : ClassName} (sub : decl.superclass = some base)
      (there : built base = true) : Ascent decls built decl []
  | up {decl above : Declaration} {base : ClassName} {chain : List Declaration}
      (sub : decl.superclass = some base) (missing : built base = false)
      (found : find? decls base = some above) (rest : Ascent decls built above chain) :
      Ascent decls built decl (above :: chain)

/-- The climb that has walked from `start` to `decl` gives an ascent from there, or it is lost. -/
theorem outcome_climb {built : ClassName → Bool} {visited : List ClassName}
    (hw : Walk decls start passed decl) (hv : visited = (decl :: passed).map (·.name))
    (hn : visited.Nodup) :
    Outcome (Lost decls start) (Ascent decls built decl) (climb decls built visited decl) := by
  fun_induction climb decls built visited decl generalizing passed with
  | case1 visited decl hs => exact .root hs
  | case2 visited decl base hs hb => exact .met hs hb
  | case3 visited decl base hs hb hf => exact .unknown hw hs (find?_eq_none_iff.1 hf)
  | case4 visited decl base hs hb above hf hm => exact .again hw (hv ▸ hn) hs (hv ▸ hm)
  | case5 visited decl base hs hb above hf hm fault hc ih =>
    obtain ⟨_, rfl⟩ := mem_of_find? hf
    rw [hc] at ih
    exact ih (hw.up (up_of_find? hs hf)) (by rw [hv]; rfl) (List.nodup_cons.2 ⟨hm, hn⟩)
  | case6 visited decl base hs hb above hf hm chain hc ih =>
    obtain ⟨_, rfl⟩ := mem_of_find? hf
    rw [hc] at ih
    exact .up hs (Bool.not_eq_true _ ▸ hb) hf
      (ih (hw.up (up_of_find? hs hf)) (by rw [hv]; rfl) (List.nodup_cons.2 ⟨hm, hn⟩))

end Declaration

end SlotDispatch
