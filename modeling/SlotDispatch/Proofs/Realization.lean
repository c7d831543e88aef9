import SlotDispatch.Builtin
import SlotDispatch.Interchange.Write
import SlotDispatch.Proofs.Building

/-!
# Which declarations can be realized, and by which table

Building is a search: it climbs from class to superclass, stops where it finds a class that is
built, and goes back. What comes of it does not show any of that, as long as classes are always
declared in the same way:

* `exists_build_iff`: there is a table exactly if the declarations are realizable, which is a matter
  of the set of declarations and not of their order;
* `Realizes.table_eq`: there is only one such table. Each class is determined by its declaration and
  its superclass, and the way up from a class ends.
-/

namespace SlotDispatch.ClassTable

open Declaration (Below Consistent Realizable)

variable {table table' : ClassTable} {decls decls' : List Declaration} {decl : Declaration}
  {name : ClassName} {descriptor : Descriptor} {progress progress' : Progress}

/-! ## Realizable declarations -/

theorem Realizes.super_of_below {sub base : ClassName} (h : Realizes decls progress)
    (hc : Consistent decls) (hb : Below decls sub base) : progress.table.Super sub base := by
  obtain ⟨decl, hd, rfl, hs⟩ := hb
  obtain ⟨descriptor, hg, hf⟩ := h.founded hc hd
  exact ⟨descriptor, hg, (Descriptor.fields_of_build hf.built).2.1.trans hs⟩

/-- Declared classes that are in a table are realizable. -/
theorem Realizes.realizable (h : Realizes decls progress) (hc : Consistent decls) :
    Realizable decls where
  declared decl hd base hs := by
    obtain ⟨_, _, hf⟩ := h.founded hc hd
    obtain ⟨_, hg⟩ := contains_iff_get?.1 (hf.above base hs)
    obtain ⟨above, ha, he, _⟩ := h.reached.origin hg
    exact ⟨above, ha.mem, he⟩
  acyclic name hcycle := by
    have hup : ∀ sub base, Below decls sub base → progress.table.Super sub base :=
      fun _ _ hb => h.super_of_below hc hb
    exact h.reached.acyclic name (Relation.TransGen.mono hup _ _ hcycle)
  large decl hd above ha hs := by
    obtain ⟨_, _, hf⟩ := h.founded hc hd
    obtain ⟨base, hg, hf'⟩ := h.founded hc ha
    have hsize := (h.reached.eq_derived hf).2.1 base (by rw [hs, Option.bind_some, hg]; rfl)
    rwa [(Descriptor.fields_of_build hf'.built).2.2] at hsize
  named decl hd := by
    obtain ⟨_, _, hf⟩ := h.founded hc hd
    exact (h.reached.eq_derived hf).1

/-- If classes are always declared in the same way, there is a table exactly if the declarations are
    realizable. -/
theorem exists_build_iff (hc : Consistent decls) :
    (∃ table, build decls = .ok table) ↔ Realizable decls := by
  constructor
  · rintro ⟨table, h⟩
    obtain ⟨_, hr⟩ := realizes_of_build h
    exact hr.realizable hc
  · intro hr
    cases h : build decls with
    | ok table => exact ⟨table, rfl⟩
    | error fault =>
      -- The fault that was reported is one that the declarations have.
      exact absurd hr (justified_of_build h).not_realizable

theorem exists_build_congr (hc : Consistent decls) (hm : ∀ decl, decl ∈ decls ↔ decl ∈ decls') :
    (∃ table, build decls = .ok table) ↔ ∃ table, build decls' = .ok table := by
  have hc' : Consistent decls' := fun decl hd other ho =>
    hc decl ((hm decl).2 hd) other ((hm other).2 ho)
  rw [exists_build_iff hc, exists_build_iff hc']
  exact ⟨fun h => h.congr fun decl => (hm decl).symm, fun h => h.congr hm⟩

/-- Classes of different names can be built exactly if every superclass is declared, no class is
    above itself, no class is smaller than the class right above it, and every method has a name. So
    it does not matter in which order they are declared, and slots are never missing, neither those
    of the superclass nor those that the index leads to. -/
theorem build_ok_iff_realizable (hn : (decls.map (·.name)).Nodup) :
    ((∃ table, build decls = .ok table) ↔ Realizable decls) ∧
      (∀ decls', decls.Perm decls' →
        ((∃ table, build decls = .ok table) ↔ ∃ table, build decls' = .ok table)) ∧
      (∀ sub base, build decls ≠ .error (.layout (.otherSlots sub base))) ∧
      ∀ slot size, build decls ≠ .error (.slots (.missing slot size)) := by
  have hc := Declaration.consistent_of_nodup hn
  refine ⟨exists_build_iff hc, fun decls' hp => ?_, fun sub base h => ?_, fun slot size h => ?_⟩
  · exact exists_build_congr hc fun decl => hp.mem_iff
  · exact justified_of_build h
  · exact justified_of_build h

theorem build_ok_iff_realizable_builtin :
    (Builtin.declarations.map (·.name)).Nodup ∧ Realizable Builtin.declarations := by
  have hn : (Builtin.declarations.map (·.name)).Nodup := by decide
  exact ⟨hn, (build_ok_iff_realizable hn).1.1 (exists_of_isOk (by decide +kernel))⟩

/-! ## The one table of the declarations -/

/-- The classes of one building are those of another one with the same declarations: a class is
    determined by its declaration and its superclass, which was there before. -/
theorem Reached.within (h : Reached decls progress) (hr : Realizes decls' progress')
    (hc : Consistent decls') (hm : ∀ decl ∈ decls, decl ∈ decls') :
    progress.table.Within progress'.table := by
  induction h with
  | start =>
    intro name descriptor hg
    rw [get?_empty] at hg
    cases hg
  | step before chosen fresh founded ih =>
    intro name found hg
    rcases get?_of_insert hg with ⟨rfl, rfl⟩ | hg
    · -- Both descriptors come from the same declaration, over the same superclass.
      obtain ⟨descriptor', hg', hf'⟩ := hr.founded hc (hm _ chosen.mem)
      rw [hg', ← Except.ok.inj ((founded.mono ih).built.symm.trans hf'.built)]
    · exact ih hg

theorem Realizes.table_eq (h : Realizes decls progress) (h' : Realizes decls' progress')
    (hc : Consistent decls) (hm : ∀ decl, decl ∈ decls ↔ decl ∈ decls') :
    progress.table = progress'.table := by
  have hc' : Consistent decls' := fun decl hd other ho =>
    hc decl ((hm decl).2 hd) other ((hm other).2 ho)
  have hw := h.reached.within h' hc' fun decl => (hm decl).1
  have hw' := h'.reached.within h hc fun decl => (hm decl).2
  refine ext_get? fun name => Option.ext fun descriptor => ?_
  exact ⟨fun hg => hw hg, fun hg => hw' hg⟩

/-- Lists with the same declarations, each in any place and any number of times, give a table both
    or not at all, and then the same one, with the same written forms. -/
theorem build_eq_of_mem_iff (hc : Consistent decls) (hm : ∀ decl, decl ∈ decls ↔ decl ∈ decls') :
    ((∃ table, build decls = .ok table) ↔ ∃ table, build decls' = .ok table) ∧
      ∀ table table', build decls = .ok table → build decls' = .ok table' →
        table = table' ∧ table.toJson.compactText = table'.toJson.compactText ∧
          table.toJson.prettyText = table'.toJson.prettyText := by
  refine ⟨exists_build_congr hc hm, fun table table' h h' => ?_⟩
  obtain ⟨_, hr⟩ := realizes_of_build h
  obtain ⟨_, hr'⟩ := realizes_of_build h'
  obtain rfl : table = table' := hr.table_eq hr' hc hm
  exact ⟨rfl, rfl, rfl⟩

theorem build_eq_of_mem_iff_builtin :
    let decls := [Builtin.truck, Builtin.vehicle, Builtin.truck]
    let decls' := [Builtin.vehicle, Builtin.truck]
    Consistent decls ∧ (∀ decl, decl ∈ decls ↔ decl ∈ decls') ∧
      ∃ table table', build decls = .ok table ∧ build decls' = .ok table' ∧
        table = table' ∧ table.toJson.compactText = table'.toJson.compactText ∧
          table.toJson.prettyText = table'.toJson.prettyText := by
  intro decls decls'
  have hc : Consistent decls := by unfold Consistent; decide
  have hm : ∀ decl, decl ∈ decls ↔ decl ∈ decls' := by simp [decls, decls', or_comm]
  obtain ⟨hiff, heq⟩ := build_eq_of_mem_iff hc hm
  obtain ⟨table, h⟩ : ∃ table, build decls = .ok table := exists_of_isOk (by decide +kernel)
  obtain ⟨table', h'⟩ := hiff.1 ⟨table, h⟩
  exact ⟨hc, hm, table, table', h, h', heq table table' h h'⟩

end SlotDispatch.ClassTable
