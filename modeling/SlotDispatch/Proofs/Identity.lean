import Mathlib.Data.Finset.Card
import Std.Data.HashSet
import SlotDispatch.Proofs.Names
import SlotDispatch.Proofs.Outcome
import SlotDispatch.Proofs.Slots

/-!
# Names are told apart by their written forms

The method in a qualified name may contain the `#` that stands between the class and the method. A
class may not, so the first `#` of the written form is where the class ends, and names of checked
classes that agree with their texts are the same if their texts are (`Sound.eq_of_full_eq`).

The names that are made by checking and redefining are such names (`QualifiedName.Sound`), however
many classes have redefined the method:

* `Sound.foldlM_redefinedIn`: of the classes that redefine a method, only the last is in the name;
* `Sound.eq_iff`: such names are equal exactly if their texts are;
* `card_fulls_of_sound`: there are as many of them as there are texts, so it is enough for a hash
  set to look at the texts.
-/

namespace SlotDispatch

namespace QualifiedName

variable {name other : QualifiedName} {owner : ClassName} {method : MethodName}

/-! ## Names that agree with their texts -/

/-- The class of a name is what comes before the first `#`. -/
theorem Agrees.takeWhile_full (h : name.Agrees) (ho : '#' ∉ name.owner.text.toList) :
    name.full.toList.takeWhile (· ≠ '#') = name.owner.text.toList := by
  rw [h.toList_full, List.takeWhile_append_of_pos (ne_separator_of_not_mem ho)]
  simp

/-- The parts of the name are fit to be such, and its text is their written form. -/
structure Sound (name : QualifiedName) : Prop where
  /-- The class name is one that can be checked. -/
  owner : name.owner.Valid
  /-- The method has a name. -/
  method : name.method.text ≠ ""
  /-- The text is the class, a `#` and the method. -/
  agrees : name.Agrees

theorem sound_join (hv : owner.Valid) (hm : method.text ≠ "") : (join owner method).Sound :=
  ⟨hv, hm, agrees_join owner method⟩

/-- Sound names with the same written form are the same. -/
theorem Sound.eq_of_full_eq (h : name.Sound) (h' : other.Sound) (he : name.full = other.full) :
    name = other := by
  have ho : name.owner.text.toList = other.owner.text.toList := by
    rw [← h.agrees.takeWhile_full h.owner.2, ← h'.agrees.takeWhile_full h'.owner.2, he]
  have hm : name.method.text.toList = other.method.text.toList := by
    have ht := congrArg String.toList he
    rw [h.agrees.toList_full, h'.agrees.toList_full, ho, List.append_cancel_left_eq,
      List.cons.injEq] at ht
    exact ht.2
  obtain ⟨⟨owner⟩, ⟨method⟩, full⟩ := name
  obtain ⟨⟨owner'⟩, ⟨method'⟩, full'⟩ := other
  obtain rfl : owner = owner' := String.toList_inj.1 ho
  obtain rfl : method = method' := String.toList_inj.1 hm
  obtain rfl : full = full' := he
  rfl

/-- Sound names are told apart by their texts. -/
theorem Sound.eq_iff (h : name.Sound) (h' : other.Sound) :
    name = other ↔ name.full = other.full :=
  ⟨fun he => he ▸ rfl, h.eq_of_full_eq h'⟩

/-! ## Redefinitions -/

/-- The name of a method that one class defines and others redefine, one after the other. The
    classes and the method are given as texts, and all of them are checked. -/
def redefined (owner method : String) (owners : List String) : Except NameFault QualifiedName := do
  owners.foldlM (fun name owner => do name.redefinedIn (← ClassName.checked owner))
    (← checked owner method)

/-- The names that come of checking one and redefining its method any number of times. -/
def Issued (name : QualifiedName) : Prop :=
  ∃ owner method owners, redefined owner method owners = .ok name

theorem Sound.redefinedIn_eq (h : name.Sound) (owner : ClassName) :
    name.redefinedIn owner = .ok (join owner name.method) :=
  of_eq_ok_iff.2 ⟨h.method, rfl⟩

/-- Of the classes that redefine a method, the last one counts. -/
theorem Sound.foldlM_redefinedIn (h : name.Sound) {owners : List String}
    (hv : ∀ owner ∈ owners, ClassName.Valid ⟨owner⟩) :
    owners.foldlM (fun name owner => do name.redefinedIn (← ClassName.checked owner)) name =
      .ok (join ⟨owners.getLastD name.owner.text⟩ name.method) := by
  induction owners generalizing name with
  | nil => exact congrArg Except.ok h.agrees.eq_join
  | cons owner owners ih =>
    -- The name is made anew, so nothing is left of the class that it had before.
    have ho : ClassName.Valid ⟨owner⟩ := hv owner List.mem_cons_self
    have hn : (join ⟨owner⟩ name.method).Sound := sound_join ho h.method
    rw [List.foldlM_cons, ClassName.checked_eq_ok_iff.2 ⟨rfl, ho⟩, List.getLastD_cons]
    refine Eq.trans ?_ (ih hn fun owner hm => hv owner (List.mem_cons_of_mem _ hm))
    exact congrArg (· >>= _) (h.redefinedIn_eq ⟨owner⟩)

theorem outcome_checked (owner method : String) :
    Outcome (fun _ => True) Sound (checked owner method) := by
  cases hc : checked owner method with
  | error fault => trivial
  | ok first =>
    obtain ⟨hv, hm, rfl⟩ := checked_eq_ok_iff.1 hc
    exact sound_join hv hm

/-- However often the method was redefined, the name is sound. -/
theorem outcome_redefined (owner method : String) (owners : List String) :
    Outcome (fun _ => True) Sound (redefined owner method owners) := by
  refine (outcome_checked owner method).bind fun first hs => ?_
  refine Outcome.foldlM hs fun name hn owner _ => ?_
  cases hc : ClassName.checked owner with
  | error fault => trivial
  | ok checkedOwner =>
    obtain ⟨_, hv⟩ := ClassName.checked_eq_ok_iff.1 hc
    change Outcome _ _ (name.redefinedIn checkedOwner)
    rw [hn.redefinedIn_eq]
    exact sound_join hv hn.method

theorem Issued.sound (h : name.Issued) : name.Sound := by
  obtain ⟨owner, method, owners, hr⟩ := h
  have ho := outcome_redefined owner method owners
  rw [hr] at ho
  exact ho

/-! ## Sets of names -/

theorem hash_eq_of_full_eq (h : name.full = other.full) : hash name = hash other :=
  congrArg (hash : String → UInt64) h

theorem mem_ofList {names : List QualifiedName} :
    name ∈ Std.HashSet.ofList names ↔ name ∈ names := by
  rw [Std.HashSet.mem_ofList, List.contains_iff_mem]

/-- A set has as many elements as there are different names. -/
theorem size_ofList_eq_card (names : List QualifiedName) :
    (Std.HashSet.ofList names).size = names.toFinset.card := by
  have hn : (Std.HashSet.ofList names).toList.Nodup :=
    Std.HashSet.distinct_toList.imp fun h he => by simp [he] at h
  have hf : (Std.HashSet.ofList names).toList.toFinset = names.toFinset := by
    ext name
    rw [List.mem_toFinset, List.mem_toFinset, Std.HashSet.mem_toList, mem_ofList]
  rw [← hf, List.toFinset_card_of_nodup hn, Std.HashSet.length_toList]

/-- Sound names are as many as their texts. -/
theorem card_fulls_of_sound {names : List QualifiedName} (h : ∀ name ∈ names, name.Sound) :
    (names.map (·.full)).toFinset.card = names.toFinset.card := by
  have hf : (names.map (·.full)).toFinset = names.toFinset.image (·.full) := by
    ext text
    simp
  rw [hf]
  refine Finset.card_image_of_injOn fun name hn other ho he => ?_
  have hn' := h name (List.mem_toFinset.1 (Finset.mem_coe.1 hn))
  have ho' := h other (List.mem_toFinset.1 (Finset.mem_coe.1 ho))
  exact (hn'.eq_iff ho').2 he

/-- A name that was made by checking and redefining is that of the method, as it was given first, in
    the class that came last, and its text is the class, a `#` and the method. Two such names are
    equal exactly if their texts are, which is all that a hash looks at. So a hash set has one
    element for each text, and finds the names with these texts and no others. -/
theorem full_identifies :
    (∀ owner method owners first, checked owner method = .ok first →
      (∀ other ∈ owners, ∃ checkedOwner, ClassName.checked other = .ok checkedOwner) →
        ∃ name, redefined owner method owners = .ok name ∧
          of ⟨owners.getLastD owner⟩ ⟨method⟩ = .ok name ∧
          name.full = owners.getLastD owner ++ "#" ++ method) ∧
    (∀ name other : QualifiedName, name.Issued → other.Issued →
      (name = other ↔ name.full = other.full) ∧ (name.full = other.full → hash name = hash other)) ∧
    ∀ names : List QualifiedName, (∀ name ∈ names, name.Issued) →
      (∀ name : QualifiedName, name.Issued →
        (name ∈ Std.HashSet.ofList names ↔ name.full ∈ names.map (·.full))) ∧
      (Std.HashSet.ofList names).size = (names.map (·.full)).toFinset.card := by
  refine ⟨fun owner method owners first hf ho => ?_,
    fun name other h h' => ⟨h.sound.eq_iff h'.sound, hash_eq_of_full_eq⟩,
    fun names hn => ⟨fun name h => ?_, ?_⟩⟩
  · obtain ⟨hv, hm, rfl⟩ := checked_eq_ok_iff.1 hf
    have hvalid : ∀ other ∈ owners, ClassName.Valid ⟨other⟩ := fun other hmem => by
      obtain ⟨checkedOwner, hc⟩ := ho other hmem
      obtain ⟨rfl, hv'⟩ := ClassName.checked_eq_ok_iff.1 hc
      exact hv'
    refine ⟨join ⟨owners.getLastD owner⟩ ⟨method⟩, ?_, of_eq_ok_iff.2 ⟨hm, rfl⟩, rfl⟩
    rw [redefined, hf]
    exact (sound_join hv hm).foldlM_redefinedIn hvalid
  · rw [mem_ofList, List.mem_map]
    refine ⟨fun hmem => ⟨name, hmem, rfl⟩, ?_⟩
    rintro ⟨other, hmem, he⟩
    rwa [← ((hn other hmem).sound.eq_iff h.sound).2 he]
  · rw [size_ofList_eq_card, card_fulls_of_sound fun name hmem => (hn name hmem).sound]

/-- There is a `#` in the method. It is redefined in two classes, of which only the last is left in
    the name. -/
theorem full_identifies_startNow :
    ∃ name other third : QualifiedName,
      redefined "Vehicle" "start#now" ["Truck", "DumpTruck"] = .ok name ∧
      redefined "DumpTruck" "start#now" [] = .ok other ∧
      redefined "Truck" "start#now" [] = .ok third ∧
      of ⟨"DumpTruck"⟩ ⟨"start#now"⟩ = .ok name ∧ name.full = "DumpTruck#start#now" ∧
      name = other ∧ name ≠ third ∧ (Std.HashSet.ofList [name, other, third]).size = 2 := by
  obtain ⟨hmade, hequal, hset⟩ := full_identifies
  obtain ⟨first, hf⟩ : ∃ first, checked "Vehicle" "start#now" = .ok first :=
    exists_of_isOk (by decide)
  obtain ⟨other, hother, ho⟩ : ∃ other, redefined "DumpTruck" "start#now" [] = .ok other ∧
      other.full = "DumpTruck#start#now" := exists_of_any (by decide)
  obtain ⟨third, hthird, ht⟩ : ∃ third, redefined "Truck" "start#now" [] = .ok third ∧
      third.full = "Truck#start#now" := exists_of_any (by decide)
  have hc : ∀ other ∈ ["Truck", "DumpTruck"], ∃ owner, ClassName.checked other = .ok owner := by
    intro other hmem
    have hall : ∀ other ∈ ["Truck", "DumpTruck"], (ClassName.checked other).isOk := by decide
    exact exists_of_isOk (hall other hmem)
  obtain ⟨name, hname, hof, hn⟩ := hmade "Vehicle" "start#now" ["Truck", "DumpTruck"] first hf hc
  have hn' : name.full = "DumpTruck#start#now" := hn.trans (by decide)
  have hi : ∀ item ∈ [name, other, third], item.Issued := by
    simp only [List.forall_mem_cons]
    exact ⟨⟨_, _, _, hname⟩, ⟨_, _, _, hother⟩, ⟨_, _, _, hthird⟩, nofun⟩
  refine ⟨name, other, third, hname, hother, hthird, hof, hn', ?_, ?_, ?_⟩
  · rw [(hequal name other (hi _ (by simp)) (hi _ (by simp))).1, hn', ho]
  · rw [Ne, (hequal name third (hi _ (by simp)) (hi _ (by simp))).1, hn', ht]
    decide
  · rw [(hset _ hi).2, List.map_cons, List.map_cons, List.map_cons, List.map_nil, hn', ho, ht]
    decide

end QualifiedName

end SlotDispatch
