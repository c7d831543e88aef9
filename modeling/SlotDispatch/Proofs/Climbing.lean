import Mathlib.Data.Finset.Card
import Mathlib.Data.List.Chain
import SlotDispatch.Proofs.Building

/-!
# The climb, turn by turn

A climb goes up from a declaration as long as there is a superclass that is not built. Declarations
may send it round in a circle or to a class that nobody declares, and if a class is declared several
times, the climb may start at one declaration of it and come back to another. Here it is taken apart
into its turns: a *climber* (`Declaration.Climber`) has come somewhere and has passed others, and in
each turn it ends or moves one class up (`Climber.turn`).

* `card_ahead_of_turn`: each turn leaves one class less ahead, so the climb ends
  (`Climber.exists_ends`), and it ends with the chain of the declaration (`Climber.Ends.eq_chain`);
* `Trail.turn`: the way behind the climber is a trail, along which no class is met twice and every
  class is the superclass of the one before, and each turn keeps it so;
* `chain_eq_ok_iff`: the chain is the trail with nothing left to climb to (`Declaration.FullTrail`);
* `superclass_there`: whoever raises such a trail from its upper end finds every superclass built.
-/

namespace SlotDispatch

namespace Declaration

variable {decls : List Declaration} {built : ClassName → Bool} {decl above start : Declaration}
  {chain : List Declaration}

/-! ## Turns -/

/-- There is nothing to climb to: no superclass, or one that is built. -/
def AtTop (built : ClassName → Bool) (decl : Declaration) : Prop :=
  decl.superclass = none ∨ ∃ base, decl.superclass = some base ∧ built base = true

/-- How far a climb has come. -/
structure Climber where
  /-- The declaration that it has come to. -/
  here : Declaration
  /-- The declarations that it has passed, the last one first. -/
  passed : List Declaration := []

namespace Climber

variable {climber next : Climber} {result : Except ClassFault (List Declaration)} {turns : Nat}

/-- The way that it has come, from the start on. -/
def way (climber : Climber) : List Declaration := (climber.here :: climber.passed).reverse

/-- The classes that it has visited, the last one first. -/
def visited (climber : Climber) : List ClassName := (climber.here :: climber.passed).map (·.name)

/-- The climber has moved up to `above`. -/
def up (climber : Climber) (above : Declaration) : Climber :=
  ⟨above, climber.here :: climber.passed⟩

@[simp]
theorem way_up : (climber.up above).way = climber.way ++ [above] := List.reverse_cons

@[simp]
theorem visited_up : (climber.up above).visited = above.name :: climber.visited := rfl

@[simp]
theorem getLast?_way : climber.way.getLast? = some climber.here := by
  rw [way, List.getLast?_reverse, List.head?_cons]

theorem way_ne_nil : climber.way ≠ [] := List.reverse_ne_nil_iff.2 (List.cons_ne_nil _ _)

theorem mem_visited {name : ClassName} :
    name ∈ climber.visited ↔ name ∈ climber.way.map (·.name) := by
  rw [visited, way, List.map_reverse, List.mem_reverse]

/-- One turn: the climb ends, with the way that it has come or with a fault, or it goes on from the
    declaration of the superclass. -/
def turn (decls : List Declaration) (built : ClassName → Bool) (climber : Climber) :
    Except ClassFault (List Declaration) ⊕ Climber :=
  match climber.here.superclass with
  | none => .inl (.ok climber.way)
  | some base =>
    if built base then .inl (.ok climber.way)
    else
      match find? decls base with
      | none => .inl (.error (.unknownClass base))
      | some above =>
        if base ∈ climber.visited then .inl (.error (.inheritanceCycle base))
        else .inr (climber.up above)

/-- The climb ends after some turns, with this result. -/
inductive Ends (decls : List Declaration) (built : ClassName → Bool) :
    Climber → Nat → Except ClassFault (List Declaration) → Prop
  | now {climber : Climber} {result : Except ClassFault (List Declaration)}
      (stop : climber.turn decls built = .inl result) : Ends decls built climber 0 result
  | later {climber next : Climber} {turns : Nat} {result : Except ClassFault (List Declaration)}
      (go : climber.turn decls built = .inr next) (rest : Ends decls built next turns result) :
      Ends decls built climber (turns + 1) result

/-- The climb goes on to the last declaration of a superclass that is neither built nor visited. -/
theorem turn_eq_inr_iff :
    climber.turn decls built = .inr next ↔
      ∃ above, climber.here.superclass = some above.name ∧ built above.name = false ∧
        find? decls above.name = some above ∧ above.name ∉ climber.visited ∧
        next = climber.up above := by
  constructor
  · fun_cases turn decls built climber with
    | case1 | case2 | case3 | case4 => simp
    | case5 base hs hb above hf hv =>
      obtain ⟨_, rfl⟩ := mem_of_find? hf
      exact fun h => ⟨above, hs, Bool.not_eq_true _ ▸ hb, hf, hv, (Sum.inr.inj h).symm⟩
  · rintro ⟨above, hs, hb, hf, hv, rfl⟩
    simp [turn, hs, hb, hf, hv]

/-- The climb ends well only at the top, and there it always does. -/
theorem turn_eq_ok_iff :
    climber.turn decls built = .inl (.ok chain) ↔
      AtTop built climber.here ∧ climber.way = chain := by
  constructor
  · fun_cases turn decls built climber with
    | case1 hs => exact fun h => ⟨.inl hs, Except.ok.inj (Sum.inl.inj h)⟩
    | case2 base hs hb => exact fun h => ⟨.inr ⟨base, hs, hb⟩, Except.ok.inj (Sum.inl.inj h)⟩
    | case3 | case4 | case5 => simp
  · rintro ⟨hs | ⟨base, hs, hb⟩, rfl⟩
    · simp [turn, hs]
    · simp [turn, hs, hb]

/-! ## The end of a climb -/

/-- The declared classes that have not been visited. -/
def ahead (decls : List Declaration) (climber : Climber) : Finset ClassName :=
  (decls.map (·.name)).toFinset \ climber.visited.toFinset

/-- With each turn, there is one class less ahead. -/
theorem card_ahead_of_turn (h : climber.turn decls built = .inr next) :
    (next.ahead decls).card + 1 = (climber.ahead decls).card := by
  obtain ⟨above, _, _, hf, hv, rfl⟩ := turn_eq_inr_iff.1 h
  have hmem : above.name ∈ climber.ahead decls := by
    rw [ahead, Finset.mem_sdiff, List.mem_toFinset, List.mem_toFinset]
    exact ⟨List.mem_map_of_mem (mem_of_find? hf).1, hv⟩
  have he : (climber.up above).ahead decls = (climber.ahead decls).erase above.name := by
    rw [ahead, visited_up, List.toFinset_cons, Finset.sdiff_insert, ahead]
  rw [he, Finset.card_erase_add_one hmem]

/-- The climb ends, wherever it has come to, after at most as many turns as there are classes
    ahead. -/
theorem exists_ends (decls : List Declaration) (built : ClassName → Bool) (climber : Climber) :
    ∃ turns ≤ (climber.ahead decls).card, ∃ result, Ends decls built climber turns result := by
  induction hn : (climber.ahead decls).card using Nat.strongRecOn generalizing climber with
  | ind n ih =>
    cases ht : climber.turn decls built with
    | inl result => exact ⟨0, Nat.zero_le _, result, .now ht⟩
    | inr next =>
      have hcard := card_ahead_of_turn ht
      obtain ⟨turns, hle, result, he⟩ := ih (next.ahead decls).card (by omega) next rfl
      exact ⟨turns + 1, by omega, result, .later ht he⟩

/-- What the recursion gives from here on, behind the way that was come. -/
def finish (decls : List Declaration) (built : ClassName → Bool) (climber : Climber) :
    Except ClassFault (List Declaration) :=
  (climb decls built climber.visited climber.here).map (climber.way ++ ·)

theorem finish_up :
    (climber.up above).finish decls built =
      (climb decls built (above.name :: climber.visited) above).map
        (fun chain => climber.way ++ above :: chain) := by
  rw [finish, visited_up, way_up]
  simp only [List.append_assoc, List.singleton_append]
  rfl

/-- The recursion takes the same turns. -/
theorem finish_eq_elim (climber : Climber) :
    climber.finish decls built = (climber.turn decls built).elim id (finish decls built) := by
  rw [finish]
  fun_cases climb decls built climber.visited climber.here with
  | case1 hs => simp [turn, hs, Except.map]
  | case2 base hs hb => simp [turn, hs, hb, Except.map]
  | case3 base hs hb hf => simp [turn, hs, hb, hf, Except.map]
  | case4 base hs hb above hf hv => simp [turn, hs, hb, hf, hv, Except.map]
  | case5 base hs hb above hf hv fault hc | case6 base hs hb above hf hv chain hc =>
    obtain ⟨_, rfl⟩ := mem_of_find? hf
    simp [turn, hs, hb, hf, hv, finish_up, hc, Except.map]

theorem Ends.eq_finish (h : Ends decls built climber turns result) :
    result = climber.finish decls built := by
  induction h with
  | now stop => rw [finish_eq_elim, stop, Sum.elim_inl, id]
  | later go _ ih => rw [finish_eq_elim, go, Sum.elim_inr, ih]

/-- The climb that begins at a declaration ends with its chain. -/
theorem Ends.eq_chain (h : Ends decls built ⟨decl, []⟩ turns result) :
    result = decl.chain decls built := by
  rw [h.eq_finish, finish, chain]
  change Except.map _ (climb decls built [decl.name] decl) = _
  cases climb decls built [decl.name] decl <;> rfl

end Climber

/-! ## The trail that a climb leaves -/

/-- No other declaration of the class comes after this one. -/
def Latest (decls : List Declaration) (decl : Declaration) : Prop :=
  ∃ before after, decls = before ++ decl :: after ∧ ∀ other ∈ after, other.name ≠ decl.name

theorem find?_name_eq_some_iff : find? decls decl.name = some decl ↔ Latest decls decl := by
  rw [find?, List.find?_eq_some_iff_append]
  constructor
  · rintro ⟨_, after, before, he, hn⟩
    refine ⟨before.reverse, after.reverse, ?_, fun other ho => ?_⟩
    · rw [← List.reverse_reverse decls, he]
      simp
    · simpa using hn other (List.mem_reverse.1 ho)
  · rintro ⟨before, after, rfl, hn⟩
    refine ⟨by simp, after.reverse, before.reverse, by simp, fun other ho => ?_⟩
    simpa using hn other (List.mem_reverse.1 ho)

/-- The declarations `chain` lead up from `start`, past classes that are not built. The start may be
    any declaration of its class, built or not; it is what follows that a climb chooses. -/
structure Trail (decls : List Declaration) (built : ClassName → Bool) (start : Declaration)
    (chain : List Declaration) : Prop where
  /-- The trail begins at the start. -/
  starts : chain.head? = some start
  /-- No class is met twice. -/
  nodup : (chain.map (·.name)).Nodup
  /-- Each class is followed by its superclass. -/
  linked : chain.IsChain fun lower upper => lower.superclass = some upper.name
  /-- The classes above the start are there by their last declarations. -/
  latest : ∀ upper ∈ chain.tail, Latest decls upper
  /-- The classes above the start are not built. -/
  missing : ∀ upper ∈ chain.tail, built upper.name = false

/-- A trail up to where there is nothing to climb to. -/
structure FullTrail (decls : List Declaration) (built : ClassName → Bool) (start : Declaration)
    (chain : List Declaration) : Prop extends Trail decls built start chain where
  /-- The last class has no superclass, or one that is built. -/
  atTop : ∃ top, chain.getLast? = some top ∧ AtTop built top

theorem trail_start (start : Declaration) : Trail decls built start [start] where
  starts := rfl
  nodup := List.nodup_singleton _
  linked := List.isChain_singleton _
  latest := by simp
  missing := by simp

variable {climber next : Climber} {result : Except ClassFault (List Declaration)} {turns : Nat}

/-- One turn makes the trail longer. -/
theorem Trail.turn (h : Trail decls built start climber.way)
    (ht : climber.turn decls built = .inr next) : Trail decls built start next.way := by
  obtain ⟨above, hs, hb, hf, hv, rfl⟩ := Climber.turn_eq_inr_iff.1 ht
  have htail : (climber.way ++ [above]).tail = climber.way.tail ++ [above] :=
    List.tail_append_of_ne_nil Climber.way_ne_nil
  rw [Climber.way_up]
  exact {
    starts := by rw [List.head?_append, h.starts, Option.some_or]
    nodup := by
      rw [List.map_append, List.map_singleton, ← List.concat_eq_append]
      exact h.nodup.concat (mt Climber.mem_visited.2 hv)
    linked := by
      refine List.isChain_append.2 ⟨h.linked, List.isChain_singleton _, fun lower hl upper hu => ?_⟩
      rw [Climber.getLast?_way, Option.mem_some_iff] at hl
      rw [List.head?_cons, Option.mem_some_iff] at hu
      rw [← hl, ← hu, hs]
    latest := by
      rw [htail, List.forall_mem_append, List.forall_mem_singleton]
      exact ⟨h.latest, find?_name_eq_some_iff.1 hf⟩
    missing := by
      rw [htail, List.forall_mem_append, List.forall_mem_singleton]
      exact ⟨h.missing, hb⟩ }

/-- So a climb that ends well has left a full trail. -/
theorem Climber.Ends.fullTrail (h : Ends decls built climber turns result)
    (ht : Trail decls built start climber.way) (hr : result = .ok chain) :
    FullTrail decls built start chain := by
  induction h with
  | @now climber _ stop =>
    obtain ⟨htop, rfl⟩ := Climber.turn_eq_ok_iff.1 (hr ▸ stop)
    exact ⟨ht, climber.here, Climber.getLast?_way, htop⟩
  | later go _ ih => exact ih (ht.turn go) hr

/-- Where there is a full trail, the climb follows it to the end: nothing on it lets the climb stop
    or sends it elsewhere. -/
theorem FullTrail.ends (h : FullTrail decls built start chain) {rest : List Declaration}
    (he : chain = climber.way ++ rest) :
    Climber.Ends decls built climber rest.length (.ok chain) := by
  -- The climber stands somewhere on the trail, with `rest` of it ahead.
  induction rest generalizing climber with
  | nil =>
    rw [List.append_nil] at he
    obtain ⟨top, hl, htop⟩ := h.atTop
    rw [he, Climber.getLast?_way, Option.some_inj] at hl
    exact .now (Climber.turn_eq_ok_iff.2 ⟨hl ▸ htop, he.symm⟩)
  | cons above rest ih =>
    have hnodup := h.nodup
    have hlinked := h.linked
    have hmem : above ∈ chain.tail := by
      rw [he, List.tail_append_of_ne_nil Climber.way_ne_nil]
      exact List.mem_append_right _ List.mem_cons_self
    rw [he, List.map_append] at hnodup
    rw [he] at hlinked
    have hs : climber.here.superclass = some above.name :=
      (List.isChain_append.1 hlinked).2.2 _ Climber.getLast?_way _ rfl
    have hv : above.name ∉ climber.visited := fun hv =>
      List.disjoint_of_nodup_append hnodup (Climber.mem_visited.1 hv) List.mem_cons_self
    have ht : climber.turn decls built = .inr (climber.up above) :=
      Climber.turn_eq_inr_iff.2
        ⟨above, hs, h.missing _ hmem, find?_name_eq_some_iff.2 (h.latest _ hmem), hv, rfl⟩
    refine .later ht (ih ?_)
    rw [he, Climber.way_up, List.append_assoc, List.singleton_append]

/-- The chain of a declaration is the full trail from there. -/
theorem chain_eq_ok_iff :
    decl.chain decls built = .ok chain ↔ FullTrail decls built decl chain := by
  constructor
  · intro h
    obtain ⟨turns, _, result, he⟩ := Climber.exists_ends decls built ⟨decl, []⟩
    exact he.fullTrail (trail_start decl) (he.eq_chain.trans h)
  · intro h
    obtain ⟨rest, hc⟩ := List.head?_eq_some_iff.1 h.starts
    exact (Climber.Ends.eq_chain (h.ends hc)).symm

end Declaration

namespace ClassTable

open Declaration (Climber FullTrail)

variable {decls chain before after : List Declaration} {decl next : Declaration}
  {progress middle : Progress} {base : ClassName}

/-! ## The trail from its upper end -/

/-- Whatever the table holds, a class that is raised is there afterwards, and so is all the rest. -/
theorem outcome_raise_there (progress : Progress) (decl : Declaration) :
    Outcome (fun _ => True)
      (fun next => progress.table.Within next.table ∧ next.table.contains decl.name = true)
      (raise progress decl) := by
  rw [raise]
  split_ifs with ht
  · exact ⟨.refl _, ht⟩
  · split
    · trivial
    · have hn : progress.table.get? decl.name = none := by simpa [contains] using ht
      exact ⟨within_insert hn, contains_insert.2 (.inl rfl)⟩

theorem outcome_foldlM_raise (progress : Progress) (before : List Declaration) :
    Outcome (fun _ => True)
      (fun next => progress.table.Within next.table ∧
        ∀ decl ∈ before, next.table.contains decl.name = true)
      (before.foldlM raise progress) := by
  induction before generalizing progress with
  | nil => exact ⟨.refl _, by simp⟩
  | cons decl before ih =>
    rw [List.foldlM_cons]
    refine (outcome_raise_there progress decl).bind fun middle ⟨hw, hc⟩ => ?_
    refine (ih middle).mono fun next ⟨hw', hc'⟩ => ⟨hw.trans hw', ?_⟩
    exact List.forall_mem_cons.2 ⟨hw'.contains hc, hc'⟩

/-- When the turn of a class comes, its superclass is there: it was built before, or it is the class
    that was raised last. -/
theorem superclass_there (h : FullTrail decls progress.table.contains decl chain)
    (hc : chain.reverse = before ++ next :: after) (hm : before.foldlM raise progress = .ok middle)
    (hs : next.superclass = some base) : middle.table.contains base = true := by
  have ho := outcome_foldlM_raise progress before
  rw [hm] at ho
  obtain ⟨hw, hbefore⟩ := ho
  have he : chain = after.reverse ++ next :: before.reverse := by
    rw [← List.reverse_reverse chain, hc]
    simp
  rcases List.eq_nil_or_concat before with rfl | ⟨upper, above, rfl⟩
  · -- The class is the last of the trail.
    obtain ⟨top, hl, htop⟩ := h.atTop
    obtain rfl : next = top := by simpa [he] using hl
    rcases htop with hn | ⟨base', hs', hb⟩
    · cases hn.symm.trans hs
    · cases hs.symm.trans hs'
      exact hw.contains hb
  · have hlinked := h.linked
    rw [he, List.concat_eq_append, List.reverse_concat] at hlinked
    have hlink := (List.isChain_cons_cons.1 (List.isChain_append.1 hlinked).2.1).1
    cases hs.symm.trans hlink
    exact hbefore above (by simp)

/-- Whatever is declared and whatever classes are built, the climb from a declaration ends, after at
    most as many turns as there are other classes, and it ends with the chain of the declaration.
    That is a chain if and only if it is a full trail from there, and whoever raises it from its
    upper end finds the superclass of each class in the table when the turn of the class comes. -/
theorem climb_ends_soundly (decls : List Declaration) (decl : Declaration) :
    (∀ built, ∃ turns ≤ ((decls.map (·.name)).toFinset.erase decl.name).card,
        Climber.Ends decls built ⟨decl, []⟩ turns (decl.chain decls built)) ∧
      (∀ built chain,
        decl.chain decls built = .ok chain ↔ FullTrail decls built decl chain) ∧
      ∀ progress chain, decl.chain decls progress.table.contains = .ok chain →
        ∀ before next after, chain.reverse = before ++ next :: after →
          ∀ middle, before.foldlM raise progress = .ok middle →
            ∀ base, next.superclass = some base →
              ∃ descriptor, middle.table.get? base = some descriptor := by
  refine ⟨fun built => ?_, fun built chain => Declaration.chain_eq_ok_iff,
    fun progress chain hc before next after he middle hm base hs => ?_⟩
  · obtain ⟨turns, hle, result, hr⟩ := Climber.exists_ends decls built ⟨decl, []⟩
    refine ⟨turns, ?_, hr.eq_chain ▸ hr⟩
    rwa [← Finset.sdiff_singleton_eq_erase]
  · exact contains_iff_get?.1 (superclass_there (Declaration.chain_eq_ok_iff.1 hc) he hm hs)

/-- While nothing is built, `Truck` is above itself by the last declarations of `Lorry` and
    `Vehicle`. Once `Vehicle` is built from its first declaration, the climb ends below it. -/
theorem climb_ends_soundly_twiceDeclared :
    ∃ truck lorry progress middle descriptor, truck ∈ twiceDeclared ∧
      (∃ turns ≤ 2, Climber.Ends twiceDeclared (fun _ => false) ⟨truck, []⟩ turns
        (.error (.inheritanceCycle ⟨"Truck"⟩))) ∧
      truck.chain twiceDeclared progress.table.contains = .ok [truck, lorry] ∧
      FullTrail twiceDeclared progress.table.contains truck [truck, lorry] ∧
      [lorry].foldlM raise progress = .ok middle ∧
      truck.superclass = some ⟨"Lorry"⟩ ∧ middle.table.get? ⟨"Lorry"⟩ = some descriptor := by
  let truck : Declaration := ⟨⟨"Truck"⟩, some ⟨"Lorry"⟩, 24, [⟨"start"⟩]⟩
  let lorry : Declaration := ⟨⟨"Lorry"⟩, some ⟨"Vehicle"⟩, 24, [⟨"load"⟩, ⟨"tip"⟩]⟩
  let progress : Progress := { table := empty.insert ⟨"Vehicle"⟩ ⟨⟨"Vehicle"⟩, none, 16, .empty⟩ }
  obtain ⟨hends, htrail, hfinds⟩ := climb_ends_soundly twiceDeclared truck
  have hcycle : truck.chain twiceDeclared (fun _ => false) =
      .error (.inheritanceCycle ⟨"Truck"⟩) := by decide +kernel
  have hchain : truck.chain twiceDeclared progress.table.contains = .ok [truck, lorry] := by
    decide +kernel
  obtain ⟨middle, hm⟩ : ∃ middle, [lorry].foldlM raise progress = .ok middle :=
    exists_of_isOk (by decide +kernel)
  obtain ⟨turns, hle, he⟩ := hends fun _ => false
  obtain ⟨descriptor, hg⟩ := hfinds progress _ hchain [lorry] truck [] rfl middle hm _ rfl
  exact ⟨truck, lorry, progress, middle, descriptor, by decide, ⟨turns, hle, hcycle ▸ he⟩, hchain,
    (htrail _ _).1 hchain, hm, rfl, hg⟩

end ClassTable

end SlotDispatch
