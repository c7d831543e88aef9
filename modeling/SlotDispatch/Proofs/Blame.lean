import SlotDispatch.Proofs.Building

/-!
# Which fault is reported

The *chain* of a declaration is the declaration itself and all those above it. It is faulty
(`Declaration.Faulty`) if it runs into a name that nobody declares or into a cycle, or if a class in
it is *flawed*: one of its methods has no name, or it is smaller than the class right above it.

Building fails if some chain is faulty, and of all that may be wrong it reports the fault that is to
blame for the first such chain (`Declaration.Blame`): that going up is lost, if it is, and otherwise
the flaw of the topmost flawed class.

* `Reached.not_faulty`: the chains of the classes that are built are not faulty;
* `Stops.blame`: what stops the building of a class is to blame for its chain;
* `Blame.unique`: only one fault is to blame for a chain.

All this is about lists in which a class is always declared in the same way. Then there is only one
way up from a declaration (`rightUnique_up`).
-/

namespace SlotDispatch

namespace Declaration

open Relation (ReflTransGen TransGen)

variable {decls : List Declaration} {start decl base last other : Declaration}
  {passed : List Declaration} {fault fault' : ClassFault}

/-! ## Faulty chains -/

/-- One of the methods has no name. -/
def Unnamed (decl : Declaration) : Prop := ∃ method ∈ decl.methods, method.text = ""

/-- A class that cannot be built even if the class right above it can. -/
def Flawed (decls : List Declaration) (decl : Declaration) : Prop :=
  decl.Unnamed ∨ ∃ base, Up decls decl base ∧ decl.size < base.size

/-- What may be wrong with a declaration in a chain. -/
inductive Defect (decls : List Declaration) (decl : Declaration) : Prop
  | unknown {name : ClassName} (sub : decl.superclass = some name)
      (undeclared : ∀ other ∈ decls, other.name ≠ name)
  | cycle (around : TransGen (Up decls) decl decl)
  | flaw (flawed : Flawed decls decl)

/-- Something is wrong with the declaration or with one of those above it. -/
def Faulty (decls : List Declaration) (start : Declaration) : Prop :=
  ∃ decl, ReflTransGen (Up decls) start decl ∧ Defect decls decl

/-- The flawed class of a chain above which there is no other. -/
structure Topmost (decls : List Declaration) (start decl : Declaration) : Prop where
  /-- The class is in the chain. -/
  up : ReflTransGen (Up decls) start decl
  /-- It is flawed. -/
  flawed : Flawed decls decl
  /-- The classes above it are not. -/
  above : ∀ other, TransGen (Up decls) decl other → ¬Flawed decls other

/-- The fault that is to blame for a chain: that the way up is lost, or else a flaw of the topmost
    flawed class, of which a method without a name counts first. -/
inductive Blame (decls : List Declaration) (start : Declaration) : ClassFault → Prop
  | lost {fault : ClassFault} (lost : Lost decls start fault) : Blame decls start fault
  | naming {decl : Declaration} (ends : ∀ fault, ¬Lost decls start fault)
      (topmost : Topmost decls start decl) (unnamed : decl.Unnamed) :
      Blame decls start (.slots (.naming .emptyMethod))
  | smaller {decl base : Declaration} (ends : ∀ fault, ¬Lost decls start fault)
      (topmost : Topmost decls start decl) (named : ¬decl.Unnamed) (up : Up decls decl base)
      (lt : decl.size < base.size) :
      Blame decls start (.layout (.smaller decl.name decl.size base.name base.size))

theorem rightUnique_up (hc : Consistent decls) : Relator.RightUnique (Up decls) := by
  intro decl base other hb ho
  refine hc base hb.mem other ho.mem ?_
  exact Option.some.inj (hb.sub.symm.trans ho.sub)

/-! ## Chains that end at a root -/

/-- Going up from a declaration leads neither to a name that nobody declares nor into a cycle. -/
def Grounded (decls : List Declaration) (start : Declaration) : Prop :=
  ∀ decl, ReflTransGen (Up decls) start decl →
    (∀ name, decl.superclass = some name → ∃ other ∈ decls, other.name = name) ∧
      ¬TransGen (Up decls) decl decl

theorem not_up_of_root (hs : decl.superclass = none) (base : Declaration) :
    ¬Up decls decl base := by
  intro hu
  cases hs.symm.trans hu.sub

theorem grounded_of_root (hs : start.superclass = none) : Grounded decls start := by
  intro decl hd
  rcases hd.cases_head with rfl | ⟨base, hu, _⟩
  · refine ⟨fun name hn => (nomatch hs.symm.trans hn), fun hcycle => ?_⟩
    obtain ⟨base, hu, _⟩ := TransGen.head'_iff.1 hcycle
    exact not_up_of_root hs base hu
  · exact absurd hu (not_up_of_root hs base)

/-- A declaration below one whose chain ends has a chain that ends. -/
theorem Grounded.of_up (hc : Consistent decls) (hu : Up decls start base)
    (h : Grounded decls base) : Grounded decls start := by
  intro decl hd
  rcases hd.cases_head with rfl | ⟨other, hu', hup⟩
  · refine ⟨fun name hn => ⟨base, hu.mem, Option.some.inj (hu.sub.symm.trans hn)⟩, fun hcycle => ?_⟩
    -- A cycle through the declaration goes through the one above it, too.
    obtain ⟨other, hu', hup⟩ := TransGen.head'_iff.1 hcycle
    obtain rfl := rightUnique_up hc hu hu'
    exact (h _ hup).2 hcycle
  · obtain rfl := rightUnique_up hc hu hu'
    exact h decl hup

theorem Grounded.of_reflTransGen (hc : Consistent decls)
    (hup : ReflTransGen (Up decls) start decl) (h : Grounded decls decl) :
    Grounded decls start := by
  induction hup using ReflTransGen.head_induction_on with
  | refl => exact h
  | head hu _ ih => exact ih.of_up hc hu

theorem not_faulty_iff : ¬Faulty decls start ↔
    Grounded decls start ∧ ∀ decl, ReflTransGen (Up decls) start decl → ¬Flawed decls decl := by
  constructor
  · intro h
    refine ⟨fun decl hd => ⟨fun name hn => ?_, fun hcycle => h ⟨decl, hd, .cycle hcycle⟩⟩,
      fun decl hd hf => h ⟨decl, hd, .flaw hf⟩⟩
    by_contra hno
    exact h ⟨decl, hd, .unknown hn fun other ho he => hno ⟨other, ho, he⟩⟩
  · rintro ⟨hg, hf⟩ ⟨decl, hd, hdefect⟩
    rcases hdefect with ⟨sub, undeclared⟩ | around | flawed
    · obtain ⟨other, ho, he⟩ := (hg decl hd).1 _ sub
      exact undeclared other ho he
    · exact (hg decl hd).2 around
    · exact hf decl hd flawed

theorem not_faulty_of_root (hs : start.superclass = none) (hf : ¬Flawed decls start) :
    ¬Faulty decls start := by
  refine not_faulty_iff.2 ⟨grounded_of_root hs, fun decl hd => ?_⟩
  rcases hd.cases_head with rfl | ⟨base, hu, _⟩
  · exact hf
  · exact absurd hu (not_up_of_root hs base)

theorem not_faulty_of_up (hc : Consistent decls) (hu : Up decls start base)
    (hb : ¬Faulty decls base) (hf : ¬Flawed decls start) : ¬Faulty decls start := by
  obtain ⟨hg, hall⟩ := not_faulty_iff.1 hb
  refine not_faulty_iff.2 ⟨hg.of_up hc hu, fun decl hd => ?_⟩
  rcases hd.cases_head with rfl | ⟨other, hu', hup⟩
  · exact hf
  · obtain rfl := rightUnique_up hc hu hu'
    exact hall decl hup

/-! ## Being lost -/

/-- Where going up comes back to a class that was passed, one has gone around. -/
theorem Walk.around {name : ClassName} (h : Walk decls start passed last) (hs : start ∈ decls)
    (sub : last.superclass = some name) (met : name ∈ (last :: passed).map (·.name)) :
    TransGen (Up decls) last last := by
  obtain ⟨decl, hd, rfl⟩ := List.mem_map.1 met
  exact TransGen.head' ⟨h.mem hs decl hd, sub⟩ (h.reflTransGen_of_mem decl hd)

theorem Grounded.not_lost (h : Grounded decls start) (hs : start ∈ decls) (fault : ClassFault) :
    ¬Lost decls start fault := by
  rintro (⟨walk, sub, undeclared⟩ | ⟨walk, fresh, sub, met⟩)
  · obtain ⟨other, ho, he⟩ := (h _ walk.reflTransGen).1 _ sub
    exact undeclared other ho he
  · exact (h _ walk.reflTransGen).2 (walk.around hs sub met)

theorem Blame.faulty (h : Blame decls start fault) (hs : start ∈ decls) : Faulty decls start := by
  rcases h with (⟨walk, sub, undeclared⟩ | ⟨walk, fresh, sub, met⟩) | ⟨_, topmost, _⟩ |
    ⟨_, topmost, _, _, _⟩
  · exact ⟨_, walk.reflTransGen, .unknown sub undeclared⟩
  · exact ⟨_, walk.reflTransGen, .cycle (walk.around hs sub met)⟩
  · exact ⟨_, topmost.up, .flaw topmost.flawed⟩
  · exact ⟨_, topmost.up, .flaw topmost.flawed⟩

/-! ## Only one fault is to blame -/

/-- Above a class that is on a cycle the way up never ends. -/
theorem exists_up_of_cycle (hc : Consistent decls) (hcycle : TransGen (Up decls) decl decl)
    (hup : ReflTransGen (Up decls) decl last) : ∃ base, Up decls last base := by
  have hback : TransGen (Up decls) last decl := by
    induction hup with
    | refl => exact hcycle
    | tail _ hu ih =>
      obtain ⟨next, hu', hup'⟩ := TransGen.head'_iff.1 ih
      obtain rfl := rightUnique_up hc hu hu'
      exact TransGen.trans_right hup' hcycle
  obtain ⟨base, hu, _⟩ := TransGen.head'_iff.1 hback
  exact ⟨base, hu⟩

/-- Two declarations that follow each other on a walk are right above each other. -/
theorem Walk.up_of_suffix {rest : List Declaration} (h : Walk decls start passed last)
    (hs : base :: decl :: rest <:+ last :: passed) : Up decls decl base := by
  induction h with
  | here => exact absurd hs.length_le (by simp)
  | up _ step ih =>
    rcases List.suffix_cons_iff.1 hs with he | hs
    · cases he
      exact step
    · exact ih hs

/-- A walk that another one begins with is that other one, or that goes one step further. -/
theorem eq_or_suffix_of_suffix {l l' : List Declaration} (h : l <:+ l') :
    l = l' ∨ ∃ next, next :: l <:+ l' := by
  obtain ⟨front, rfl⟩ := h
  rcases List.eq_nil_or_concat front with rfl | ⟨rest, next, rfl⟩
  · exact .inl rfl
  · refine .inr ⟨next, rest, ?_⟩
    simp

/-- Of two walks from the same place, one begins with the other. -/
theorem Walk.suffix_total {passed' : List Declaration} {last' : Declaration} (hc : Consistent decls)
    (h : Walk decls start passed last) (h' : Walk decls start passed' last') :
    last :: passed <:+ last' :: passed' ∨ last' :: passed' <:+ last :: passed := by
  induction h with
  | here =>
    left
    induction h' with
    | here => exact List.suffix_rfl
    | up _ _ ih => exact ih.trans (List.suffix_cons _ _)
  | up _ step ih =>
    rcases ih with hs | hs
    · rcases eq_or_suffix_of_suffix hs with he | ⟨next, hn⟩
      · exact .inr (he ▸ List.suffix_cons _ _)
      · obtain rfl := rightUnique_up hc step (h'.up_of_suffix hn)
        exact .inl hn
    · exact .inr (hs.trans (List.suffix_cons _ _))

/-- The way up ends in one place only. -/
theorem eq_of_not_up (hc : Consistent decls) (h : ReflTransGen (Up decls) start last)
    (hl : ∀ base, ¬Up decls last base) (h' : ReflTransGen (Up decls) start other)
    (ho : ∀ base, ¬Up decls other base) : last = other := by
  rcases ReflTransGen.total_of_right_unique (rightUnique_up hc) h h' with hup | hup
  · rcases hup.cases_head with he | ⟨base, hu, _⟩
    · exact he
    · exact absurd hu (hl base)
  · rcases hup.cases_head with he | ⟨base, hu, _⟩
    · exact he.symm
    · exact absurd hu (ho base)

/-- A way up that ends goes past no cycle. -/
theorem not_cycle_of_not_up (hc : Consistent decls) (h : ReflTransGen (Up decls) start last)
    (hl : ∀ base, ¬Up decls last base) (h' : ReflTransGen (Up decls) start decl) :
    ¬TransGen (Up decls) decl decl := by
  intro hcycle
  rcases ReflTransGen.total_of_right_unique (rightUnique_up hc) h h' with hup | hup
  · rcases hup.cases_head with rfl | ⟨base, hu, _⟩
    · obtain ⟨base, hu⟩ := exists_up_of_cycle hc hcycle .refl
      exact hl base hu
    · exact hl base hu
  · obtain ⟨base, hu⟩ := exists_up_of_cycle hc hcycle hup
    exact hl base hu

/-- A walk that has met no class twice does not go on from where another one comes back. -/
theorem Walk.eq_of_suffix {passed' : List Declaration} {last' : Declaration} {name : ClassName}
    (h : Walk decls start passed' last') (fresh : ((last' :: passed').map (·.name)).Nodup)
    (sub : last.superclass = some name) (met : name ∈ (last :: passed).map (·.name))
    (hs : last :: passed <:+ last' :: passed') : last = last' := by
  rcases eq_or_suffix_of_suffix hs with he | ⟨next, hn⟩
  · exact (List.cons.inj he).1
  · have hname : next.name = name := Option.some.inj ((h.up_of_suffix hn).sub.symm.trans sub)
    have hfresh := fresh.sublist (hn.sublist.map (·.name))
    rw [List.map_cons, List.nodup_cons, hname] at hfresh
    exact absurd met hfresh.1

/-- Going up gets lost in one way only. -/
theorem Lost.unique (hc : Consistent decls) (hs : start ∈ decls) (h : Lost decls start fault)
    (h' : Lost decls start fault') : fault = fault' := by
  have hend : ∀ {last : Declaration} {name : ClassName}, last.superclass = some name →
      (∀ decl ∈ decls, decl.name ≠ name) → ∀ base, ¬Up decls last base := by
    intro last name sub undeclared base hu
    exact undeclared base hu.mem (Option.some.inj (hu.sub.symm.trans sub))
  rcases h with ⟨walk, sub, undeclared⟩ | ⟨walk, fresh, sub, met⟩
  · rcases h' with ⟨walk', sub', undeclared'⟩ | ⟨walk', _, sub', met'⟩
    · obtain rfl := eq_of_not_up hc walk.reflTransGen (hend sub undeclared) walk'.reflTransGen
        (hend sub' undeclared')
      rw [Option.some.inj (sub.symm.trans sub')]
    · exact absurd (walk'.around hs sub' met') (not_cycle_of_not_up hc walk.reflTransGen
        (hend sub undeclared) walk'.reflTransGen)
  · rcases h' with ⟨walk', sub', undeclared'⟩ | ⟨walk', fresh', sub', met'⟩
    · exact absurd (walk.around hs sub met) (not_cycle_of_not_up hc walk'.reflTransGen
        (hend sub' undeclared') walk.reflTransGen)
    · -- One walk begins with the other, and neither goes on after it has come back.
      rcases walk.suffix_total hc walk' with hsuffix | hsuffix
      · obtain rfl := walk'.eq_of_suffix fresh' sub met hsuffix
        rw [Option.some.inj (sub.symm.trans sub')]
      · obtain rfl := walk.eq_of_suffix fresh sub' met' hsuffix
        rw [Option.some.inj (sub.symm.trans sub')]

theorem Topmost.unique (hc : Consistent decls) (h : Topmost decls start decl)
    (h' : Topmost decls start other) : decl = other := by
  rcases ReflTransGen.total_of_right_unique (rightUnique_up hc) h.up h'.up with hup | hup
  · rcases Relation.reflTransGen_iff_eq_or_transGen.1 hup with he | hup
    · exact he.symm
    · exact absurd h'.flawed (h.above other hup)
  · rcases Relation.reflTransGen_iff_eq_or_transGen.1 hup with he | hup
    · exact he
    · exact absurd h.flawed (h'.above decl hup)

/-- Only one fault is to blame for a chain. -/
theorem Blame.unique (hc : Consistent decls) (hs : start ∈ decls) (h : Blame decls start fault)
    (h' : Blame decls start fault') : fault = fault' := by
  rcases h with lost | ⟨ends, topmost, unnamed⟩ | ⟨ends, topmost, named, up, lt⟩
  · rcases h' with lost' | ⟨ends', _, _⟩ | ⟨ends', _, _, _, _⟩
    · exact lost.unique hc hs lost'
    · exact absurd lost (ends' fault)
    · exact absurd lost (ends' fault)
  · rcases h' with lost' | ⟨_, _, _⟩ | ⟨_, topmost', named', _, _⟩
    · exact absurd lost' (ends fault')
    · rfl
    · obtain rfl := topmost.unique hc topmost'
      exact absurd unnamed named'
  · rcases h' with lost' | ⟨_, topmost', unnamed'⟩ | ⟨_, topmost', _, up', _⟩
    · exact absurd lost' (ends fault')
    · obtain rfl := topmost.unique hc topmost'
      exact absurd unnamed' named
    · obtain rfl := topmost.unique hc topmost'
      obtain rfl := rightUnique_up hc up up'
      rfl

end Declaration

namespace ClassTable

open Declaration (Below Blame Consistent Faulty Flawed Grounded Up)
open Relation (ReflTransGen TransGen)

variable {decls : List Declaration} {start decl : Declaration} {name : ClassName}
  {descriptor : Descriptor} {progress : Progress} {fault : ClassFault}

/-! ## What stops the building -/

/-- A class that is built is not flawed. -/
theorem not_flawed_of_build {base : Option Descriptor}
    (hb : Descriptor.build base decl = .ok descriptor) (hi : (Descriptor.inherited base).Indexed)
    (hu : ∀ above, Up decls decl above → ∃ found ∈ base, found.size = above.size) :
    ¬Flawed decls decl := by
  obtain ⟨hnamed, hlarge, _⟩ := (Descriptor.build_eq_ok_iff hi).1 hb
  rintro (⟨method, hm, he⟩ | ⟨above, hup, hlt⟩)
  · exact hnamed method hm he
  · obtain ⟨found, hf, hsize⟩ := hu above hup
    rw [← hsize] at hlt
    exact UInt64.not_le.2 hlt (hlarge found hf)

/-- The descriptor of a class whose chain is not faulty, as far as building on it is concerned. -/
structure Fine (decls : List Declaration) (decl : Declaration) (descriptor : Descriptor) :
    Prop where
  /-- The index agrees with the slots. -/
  regular : descriptor.table.Regular
  /-- The descriptor has the declared name. -/
  name : descriptor.name = decl.name
  /-- The descriptor has the declared size. -/
  size : descriptor.size = decl.size
  /-- Nothing is wrong with the chain. -/
  not_faulty : ¬Faulty decls decl

theorem fine_of_root (hs : decl.superclass = none)
    (hb : Descriptor.build none decl = .ok descriptor) : Fine decls decl descriptor where
  regular := Descriptor.regular_of_build (by rintro _ ⟨⟩) hb
  name := (Descriptor.fields_of_build hb).1
  size := (Descriptor.fields_of_build hb).2.2
  not_faulty := by
    refine Declaration.not_faulty_of_root hs ?_
    refine not_flawed_of_build hb SlotTable.regular_empty.toIndexed fun above hu => ?_
    exact absurd hu (Declaration.not_up_of_root hs above)

theorem fine_of_up {above : Declaration} {base : Descriptor} (hc : Consistent decls)
    (hu : Up decls decl above) (hf : Fine decls above base)
    (hb : Descriptor.build (some base) decl = .ok descriptor) : Fine decls decl descriptor where
  regular := Descriptor.regular_of_build (by rintro _ ⟨⟩; exact hf.regular) hb
  name := (Descriptor.fields_of_build hb).1
  size := (Descriptor.fields_of_build hb).2.2
  not_faulty := by
    refine Declaration.not_faulty_of_up hc hu hf.not_faulty ?_
    refine not_flawed_of_build hb hf.regular.toIndexed fun other hu' => ⟨base, rfl, ?_⟩
    rw [hf.size, Declaration.rightUnique_up hc hu hu']

/-- The chains of the classes that are built are not faulty. -/
theorem Reached.fine (h : Reached decls progress) (hc : Consistent decls)
    (hg : progress.table.get? name = some descriptor) :
    ∃ decl ∈ decls, decl.name = name ∧ Fine decls decl descriptor := by
  obtain ⟨decl, hd, he, hf⟩ := h.induction (motive := Fine decls) (fun _ => fine_of_root)
    (fun _ ha hs => fine_of_up hc ⟨ha.mem, hs⟩) hg
  exact ⟨decl, hd.mem, he, hf⟩

theorem Reached.not_faulty (h : Reached decls progress) (hc : Consistent decls)
    (hd : decl ∈ decls) (ht : progress.table.contains decl.name = true) :
    ¬Faulty decls decl := by
  obtain ⟨descriptor, hg⟩ := contains_iff_get?.1 ht
  obtain ⟨other, ho, he, hf⟩ := h.fine hc hg
  rw [← hc other ho decl hd he]
  exact hf.not_faulty

/-- A class that cannot be built at the top of its chain is to blame for the chains below. -/
theorem blame_of_root (hc : Consistent decls) (hs : start ∈ decls)
    (hup : ReflTransGen (Up decls) start decl) (hr : decl.superclass = none)
    (hb : Descriptor.build none decl = .error fault) : Blame decls start fault := by
  have hg : Grounded decls start := .of_reflTransGen hc hup (Declaration.grounded_of_root hr)
  rw [Descriptor.build_none] at hb
  split_ifs at hb with hm
  obtain rfl := Except.error.inj hb
  refine .naming (hg.not_lost hs) ⟨hup, .inl hm, fun other ho => ?_⟩ hm
  obtain ⟨base, hu, _⟩ := TransGen.head'_iff.1 ho
  exact absurd hu (Declaration.not_up_of_root hr base)

/-- A class that cannot be built on a class whose chain is not faulty is to blame for the chains
    below. -/
theorem blame_of_up {above : Declaration} {base : Descriptor} (hc : Consistent decls)
    (hs : start ∈ decls) (hup : ReflTransGen (Up decls) start decl) (hu : Up decls decl above)
    (hf : Fine decls above base) (hb : Descriptor.build (some base) decl = .error fault) :
    Blame decls start fault := by
  obtain ⟨hground, hflaw⟩ := Declaration.not_faulty_iff.1 hf.not_faulty
  have hends := (Grounded.of_reflTransGen hc hup (hground.of_up hc hu)).not_lost hs
  have habove : ∀ other, TransGen (Up decls) decl other → ¬Flawed decls other := by
    intro other ho
    obtain ⟨next, hu', hup'⟩ := TransGen.head'_iff.1 ho
    obtain rfl := Declaration.rightUnique_up hc hu hu'
    exact hflaw other hup'
  rw [Descriptor.build_some hf.regular.toIndexed] at hb
  split_ifs at hb with hm hlt
  · obtain rfl := Except.error.inj hb
    exact .naming hends ⟨hup, .inl hm, habove⟩ hm
  · obtain rfl := Except.error.inj hb
    rw [hf.size] at hlt
    rw [hf.name, hf.size]
    exact .smaller hends ⟨hup, .inr ⟨above, hu, hlt⟩, habove⟩ hm hu hlt

/-- What stops the building of a class is to blame for its chain. -/
theorem Stops.blame (hc : Consistent decls) (hs : start ∈ decls) (h : Stops decls start fault) :
    Blame decls start fault := by
  rcases h with lost | ⟨reached, mem, up, above, failed⟩
  · exact .lost lost
  · rename_i decl
    cases hsuper : decl.superclass with
    | none =>
      rw [hsuper] at failed
      exact blame_of_root hc hs up hsuper failed
    | some name =>
      obtain ⟨base, hg⟩ := contains_iff_get?.1 (above name hsuper)
      obtain ⟨upper, hmem, rfl, hf⟩ := reached.fine hc hg
      rw [hsuper, Option.bind_some, hg] at failed
      exact blame_of_up hc hs up ⟨hmem, hsuper⟩ hf failed

/-! ## The first faulty chain -/

/-- The first declaration whose chain is faulty. -/
structure FirstFaulty (decls before : List Declaration) (decl : Declaration) : Prop where
  /-- It comes right after those before. -/
  split : ∃ after, before ++ decl :: after = decls
  /-- The chains of those before are not faulty. -/
  before : ∀ other ∈ before, ¬Faulty decls other
  /-- Its own chain is. -/
  faulty : Faulty decls decl

theorem FirstFaulty.mem {before : List Declaration} (h : FirstFaulty decls before decl) :
    decl ∈ decls := by
  obtain ⟨after, rfl⟩ := h.split
  simp

theorem FirstFaulty.unique {before before' : List Declaration} {decl' : Declaration}
    (h : FirstFaulty decls before decl) (h' : FirstFaulty decls before' decl') : decl = decl' := by
  obtain ⟨after, he⟩ := h.split
  obtain ⟨after', he'⟩ := h'.split
  -- If one came later than the other, the other would be among those before it.
  rcases List.append_eq_append_iff.1 (he.trans he'.symm) with ⟨gap, hb, ha⟩ | ⟨gap, hb, ha⟩
  · rcases gap with _ | ⟨first, gap⟩
    · exact (List.cons.inj ha).1
    · obtain rfl := (List.cons.inj ha).1
      exact absurd h.faulty (h'.before _ (by simp [hb]))
  · rcases gap with _ | ⟨first, gap⟩
    · exact (List.cons.inj ha).1.symm
    · obtain rfl := (List.cons.inj ha).1
      exact absurd h'.faulty (h.before _ (by simp [hb]))

/-- If the building fails, the fault that it reports is to blame for the first faulty chain. -/
theorem blame_of_build (hc : Consistent decls) (h : build decls = .error fault) :
    ∃ before decl, FirstFaulty decls before decl ∧ Blame decls decl fault := by
  obtain ⟨before, decl, ⟨after, he⟩, ⟨progress, hr, hbuilt⟩, hstops⟩ := stopsAt_of_build h
  have hmem : ∀ other ∈ before ++ decl :: after, other ∈ decls := fun other ho => he ▸ ho
  have hd : decl ∈ decls := hmem decl (by simp)
  have hblame := hstops.blame hc hd
  refine ⟨before, decl, ⟨⟨after, he⟩, fun other ho => ?_, hblame.faulty hd⟩, hblame⟩
  exact hr.not_faulty hc (hmem other (List.mem_append_left _ ho)) (hbuilt other ho)

theorem not_faulty_of_ok {table : ClassTable} (hc : Consistent decls) (h : build decls = .ok table)
    (hd : decl ∈ decls) : ¬Faulty decls decl := by
  obtain ⟨trace, hr⟩ := realizes_of_build h
  exact hr.reached.not_faulty hc hd (hr.complete decl hd)

/-- The building of classes with different names fails exactly if a chain is faulty, and the fault
    that is to blame for the first of these is what it reports: the name that nobody declares, or
    the first class that is met again, which is indeed above itself, or else what is wrong with the
    topmost flawed class. -/
theorem build_error_iff_blame (hn : (decls.map (·.name)).Nodup) :
    (∀ fault, build decls = .error fault ↔
      ∃ before decl, FirstFaulty decls before decl ∧ Blame decls decl fault) ∧
    ((∃ table, build decls = .ok table) ↔ ∀ decl ∈ decls, ¬Faulty decls decl) ∧
    (∀ name, build decls = .error (.inheritanceCycle name) → TransGen (Below decls) name name) ∧
    ∀ decl base : Declaration,
      ClassFault.message (.layout (.smaller decl.name decl.size base.name base.size)) =
        "`" ++ decl.name.text ++ "' (" ++ toString decl.size.toNat ++
          " bytes) is smaller than its superclass `" ++ base.name.text ++ "' (" ++
          toString base.size.toNat ++ " bytes)" := by
  have hc := Declaration.consistent_of_nodup hn
  refine ⟨fun fault => ⟨blame_of_build hc, ?_⟩, ⟨?_, fun hfine => ?_⟩,
    fun name h => justified_of_build h, fun decl base => rfl⟩
  · rintro ⟨before, decl, hfirst, hblame⟩
    cases h : build decls with
    | ok table => exact absurd hfirst.faulty (not_faulty_of_ok hc h hfirst.mem)
    | error fault' =>
      obtain ⟨before', decl', hfirst', hblame'⟩ := blame_of_build hc h
      obtain rfl := hfirst.unique hfirst'
      rw [hblame.unique hc hfirst.mem hblame']
  · rintro ⟨table, h⟩ decl hd
    exact not_faulty_of_ok hc h hd
  · cases h : build decls with
    | ok table => exact ⟨table, rfl⟩
    | error fault =>
      obtain ⟨before, decl, hfirst, _⟩ := blame_of_build hc h
      exact absurd hfirst.faulty (hfine decl hfirst.mem)

/-- A root, two classes above each other, and a class below these that is flawed itself. -/
def aroundAbove : List Declaration :=
  let vehicle := ⟨⟨"Vehicle"⟩, none, 16, [⟨"start"⟩]⟩
  let pickup := ⟨⟨"Pickup"⟩, some ⟨"Truck"⟩, 8, [⟨""⟩]⟩
  let truck := ⟨⟨"Truck"⟩, some ⟨"Lorry"⟩, 16, []⟩
  let lorry := ⟨⟨"Lorry"⟩, some ⟨"Truck"⟩, 16, []⟩
  [vehicle, pickup, truck, lorry]

theorem build_error_iff_blame_aroundAbove :
    (aroundAbove.map (·.name)).Nodup ∧
      build aroundAbove = .error (.inheritanceCycle ⟨"Truck"⟩) ∧
      TransGen (Below aroundAbove) ⟨"Truck"⟩ ⟨"Truck"⟩ := by
  have hn : (aroundAbove.map (·.name)).Nodup := by decide
  obtain ⟨hiff, _, haround, _⟩ := build_error_iff_blame hn
  have hblame : Blame aroundAbove ⟨⟨"Pickup"⟩, some ⟨"Truck"⟩, 8, [⟨""⟩]⟩
      (.inheritanceCycle ⟨"Truck"⟩) :=
    .lost (.again (.up (.up .here ⟨.tail _ (.tail _ (.head _)), rfl⟩)
      ⟨.tail _ (.tail _ (.tail _ (.head _))), rfl⟩) (by decide) rfl (by decide))
  have hroot : ¬Faulty aroundAbove ⟨⟨"Vehicle"⟩, none, 16, [⟨"start"⟩]⟩ := by
    refine Declaration.not_faulty_of_root rfl ?_
    rintro (⟨method, hm, he⟩ | ⟨base, hu, _⟩)
    · simp_all
    · exact Declaration.not_up_of_root rfl base hu
  have hb : build aroundAbove = .error (.inheritanceCycle ⟨"Truck"⟩) := by
    refine (hiff _).2 ⟨[⟨⟨"Vehicle"⟩, none, 16, [⟨"start"⟩]⟩], _, ⟨⟨_, rfl⟩, ?_, ?_⟩, hblame⟩
    · simpa using hroot
    · exact hblame.faulty (.tail _ (.head _))
  exact ⟨hn, hb, haround _ hb⟩

end ClassTable

end SlotDispatch
