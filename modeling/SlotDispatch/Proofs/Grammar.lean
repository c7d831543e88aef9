import SlotDispatch.Proofs.RoundTrip

/-!
# The grammar of written names

A reader of qualified names and the checks of the names are independent of each other. They agree:
whatever the reader takes apart passes the checks, so no check ever fails while a name is read. What
is accepted are the written forms of the readable names and nothing else (`ofText_eq_ok_iff`), and
every other string is refused as it stands, as an invalid value (`ofText_eq_malformed_iff`).

The other way round the two do not agree: a method with a `#` in its name passes the checks, but
its written form is refused.

Where the string comes from does not matter (`Interchange.read_of_holds`): it may be a value in
memory, or be written in a text in any way that JSON has.
-/

namespace SlotDispatch

namespace QualifiedName

variable {name : QualifiedName} {text : String}

theorem ofText_eq_ok_or_malformed (text : String) :
    (∃ name, ofText text = .ok name ∧ name.full = text) ∨ ofText text = .error .malformed := by
  by_cases hm : '#' ∈ text.toList
  · obtain ⟨owner, method, ht, ho⟩ := List.eq_append_cons_of_mem hm
    rw [ofText_append ho ht]
    split_ifs
    · exact .inr rfl
    · refine .inl ⟨_, rfl, ?_⟩
      rw [← String.toList_inj, (agrees_join _ _).toList_full, ht]
      simp
  · exact .inr (ofText_of_not_mem hm)

/-- A text is read as a name exactly if it is the written form of this name, and the name agrees
    with it and is readable. -/
theorem ofText_eq_ok_iff :
    ofText text = .ok name ↔ name.Readable ∧ name.Agrees ∧ name.full = text := by
  constructor
  · intro h
    refine ⟨readable_of_ofText h, agrees_of_ofText h, ?_⟩
    rcases ofText_eq_ok_or_malformed text with ⟨other, ho, hf⟩ | hm
    · rwa [Except.ok.inj (h.symm.trans ho)]
    · cases h.symm.trans hm
  · rintro ⟨hr, ha, rfl⟩
    rw [ofText_full ha, if_pos hr]

theorem ofText_eq_malformed_iff :
    ofText text = .error .malformed ↔
      ¬∃ name : QualifiedName, name.Readable ∧ name.Agrees ∧ name.full = text := by
  constructor
  · rintro h ⟨name, hn⟩
    cases h.symm.trans (ofText_eq_ok_iff.2 hn)
  · intro h
    refine (ofText_eq_ok_or_malformed text).resolve_left ?_
    rintro ⟨name, hn, _⟩
    exact h ⟨name, ofText_eq_ok_iff.1 hn⟩

theorem agrees_of_checked {owner method : String} (h : checked owner method = .ok name) :
    name.Agrees := by
  obtain ⟨_, _, rfl⟩ := checked_eq_ok_iff.1 h
  exact agrees_join _ _

/-- A name that passes the checks is readable if there is no `#` in the method. -/
theorem readable_iff_of_checked {owner method : String} (h : checked owner method = .ok name) :
    name.Readable ↔ '#' ∉ method.toList := by
  obtain ⟨hv, hm, rfl⟩ := checked_eq_ok_iff.1 h
  simp [readable_iff, hv, hm]

end QualifiedName

namespace Json.Value

variable {text : String}

/-- Only a string that can be decoded has a string as its value. -/
theorem eq_text_of_ofTree {tree : Tree} (h : ofTree tree = .ok (.text text)) :
    ∃ written, tree = .text written ∧ written.decoded = .ok text := by
  cases tree with
  | text written =>
    refine ⟨written, rfl, ?_⟩
    cases hd : written.decoded with
    | error fault => simp [ofTree, hd, bind, Except.bind] at h
    | ok value => simpa [ofTree, hd, bind, Except.bind, pure, Except.pure] using h
  | number value => cases value <;> simp [ofTree] at h
  | array items ending =>
    cases hi : ofItems items <;> cases hf : ending.fault? <;>
      simp [ofTree, hi, hf, bind, Except.bind] at h
  | object fields ending =>
    cases hf : ofFields fields <;> cases ending <;> simp [ofTree, hf, bind, Except.bind] at h
  | _ => simp [ofTree] at h

/-- A text with a string as its value is met as that string, with nothing after it. -/
theorem reading_of_ofText {written : String} (h : ofText written = .ok (.text text)) :
    ∃ met, Reading.of written = ⟨.text met, false⟩ ∧ met.decoded = .ok text := by
  rw [ofText] at h
  rcases hr : Reading.of written with ⟨tree, trailing⟩
  simp only [hr] at h
  cases ht : ofTree tree with
  | error fault =>
    rw [ht] at h
    cases h
  | ok value =>
    rw [ht] at h
    cases trailing with
    | true => cases h
    | false =>
      obtain rfl : value = .text text := Except.ok.inj h
      obtain ⟨met, rfl, hd⟩ := eq_text_of_ofTree ht
      exact ⟨met, rfl, hd⟩

end Json.Value

namespace Interchange

open Json (Value)

variable {source : Source} {text : String} {name : QualifiedName}

/-! ## Strings to read from -/

/-- The source has this string and nothing else. -/
def Source.Holds (source : Source) (text : String) : Prop :=
  match source with
  | .memory value => value = .text text
  | .text written => Value.ofText written = .ok (.text text)

theorem holds_of_reading {written : String}
    (h : Json.Reading.of written = ⟨(Value.text text).tree, false⟩) :
    (Source.text written).Holds text := by
  rw [Source.Holds, Value.ofText, h]
  rfl

/-- A written name can be held in memory or in either layout. -/
theorem holds_toJson (name : QualifiedName) :
    ∀ source ∈ [Source.memory name.toJson, .text name.toJson.compactText,
      .text name.toJson.prettyText], source.Holds name.full := by
  have he : (Value.text name.full).Exact := .text name.full
  simp only [List.forall_mem_cons]
  exact ⟨rfl, holds_of_reading he.reading_compact, holds_of_reading he.reading_pretty, by simp⟩

/-- A reader of strings goes on with the string that the source has. -/
theorem read_of_holds {α : Type} (h : source.Holds text) (expected : String)
    (next : String → Read α) :
    source.read (fun _ tree => readString expected tree >>= next) = next text := by
  cases source with
  | memory value =>
    cases h
    rfl
  | text written =>
    obtain ⟨met, hr, hd⟩ := Value.reading_of_ofText h
    have hs : readString expected (.text met) = .ok text := by
      rw [readString, hd]
      rfl
    rw [read_of_reading hr, hs]
    rfl

/-! ## Names to read -/

theorem read_of_ofText (h : source.Holds text) (hn : QualifiedName.ofText text = .ok name) :
    source.read (fun _ => readQualifiedName) = .ok name := by
  refine (read_of_holds h "a MethodFullname" _).trans ?_
  rw [hn]
  rfl

theorem read_of_malformed (h : source.Holds text)
    (hm : QualifiedName.ofText text = .error .malformed) :
    source.read (fun _ => readQualifiedName) =
      .error (.data (.invalidValue (.text text) "something like `Vehicle#start'")) := by
  refine (read_of_holds h "a MethodFullname" _).trans ?_
  rw [hm]
  rfl

theorem read_eq_ok_iff (h : source.Holds text) :
    source.read (fun _ => readQualifiedName) = .ok name ↔
      name.Readable ∧ name.Agrees ∧ name.full = text := by
  rw [← QualifiedName.ofText_eq_ok_iff]
  rcases QualifiedName.ofText_eq_ok_or_malformed text with ⟨other, ho, _⟩ | hm
  · rw [read_of_ofText h ho, ho, Except.ok.injEq, Except.ok.injEq]
  · rw [read_of_malformed h hm, hm]
    simp

/-- No check of a name fails while it is read. -/
theorem read_ne_naming (h : source.Holds text) (fault : NameFault) :
    source.read (fun _ => readQualifiedName) ≠ .error (.naming fault) := by
  rcases QualifiedName.ofText_eq_ok_or_malformed text with ⟨other, ho, _⟩ | hm
  · simp [read_of_ofText h ho]
  · simp [read_of_malformed h hm]

/-- A string is read as a name exactly if it is the written form of this name and the name agrees
    with it and is readable, and then it is what the name is written as. Any other string is refused
    as an invalid value, and no check of a name fails. Of the names that pass the checks, those are
    read back that have no `#` in the method, and all others are refused. -/
theorem read_iff_written :
    (∀ (source : Source) (text : String), source.Holds text →
      let outcome := source.read fun _ => readQualifiedName
      (∀ name, outcome = .ok name ↔ name.Readable ∧ name.Agrees ∧ name.full = text) ∧
      (∀ name, outcome = .ok name → name.toJson = .text text) ∧
      ((¬∃ name : QualifiedName, name.Readable ∧ name.Agrees ∧ name.full = text) → outcome =
        .error (.data (.invalidValue (.text text) "something like `Vehicle#start'"))) ∧
      ∀ fault, outcome ≠ .error (.naming fault)) ∧
    ∀ owner method name, QualifiedName.checked owner method = .ok name →
      ∀ source ∈ [Source.memory name.toJson, .text name.toJson.compactText,
          .text name.toJson.prettyText],
        let outcome := source.read fun _ => readQualifiedName
        (outcome = .ok name ↔ '#' ∉ method.toList) ∧
        ('#' ∈ method.toList → outcome =
          .error (.data (.invalidValue (.text name.full) "something like `Vehicle#start'"))) := by
  refine ⟨fun source text h => ⟨fun name => read_eq_ok_iff h, fun name hr => ?_,
    fun hn => read_of_malformed h (QualifiedName.ofText_eq_malformed_iff.2 hn),
    read_ne_naming h⟩, fun owner method name hc source hs => ?_⟩
  · exact congrArg Value.text ((read_eq_ok_iff h).1 hr).2.2
  · have h := holds_toJson name source hs
    have hr := QualifiedName.readable_iff_of_checked hc
    have ha := QualifiedName.agrees_of_checked hc
    refine ⟨?_, fun hm => read_of_malformed h ?_⟩
    · rw [read_eq_ok_iff h, hr, and_iff_left ⟨ha, rfl⟩]
    · rw [QualifiedName.ofText_full ha, if_neg fun hn => hr.1 hn hm]

/-- A name with quotes in it is read. A second `#` is too many, whether it stands in a string or
    comes from the name of a method. -/
theorem read_iff_written_startNow :
    (Source.text "\"The \\\"Truck\\\"#start\"").Holds "The \"Truck\"#start" ∧
    (Source.text "\"The \\\"Truck\\\"#start\"").read (fun _ => readQualifiedName) =
      .ok (.join ⟨"The \"Truck\""⟩ ⟨"start"⟩) ∧
    (Source.memory (.text "Truck##start")).read (fun _ => readQualifiedName) =
      .error (.data (.invalidValue (.text "Truck##start") "something like `Vehicle#start'")) ∧
    ∃ name, QualifiedName.checked "Truck" "start#now" = .ok name ∧
      (Source.text name.toJson.compactText).read (fun _ => readQualifiedName) =
        .error (.data (.invalidValue (.text name.full) "something like `Vehicle#start'")) := by
  have ht : (Value.text "The \"Truck\"#start").compactText = "\"The \\\"Truck\\\"#start\"" := by
    decide
  have hs := ht ▸ holds_of_reading (Value.Exact.text "The \"Truck\"#start").reading_compact
  have hm : (Source.memory (.text "Truck##start")).Holds "Truck##start" := rfl
  obtain ⟨name, hc⟩ : ∃ name, QualifiedName.checked "Truck" "start#now" = .ok name :=
    exists_of_isOk (by decide)
  refine ⟨hs, ((read_iff_written.1 _ _ hs).1 _).2 ⟨by decide, by decide, by decide⟩,
    (read_iff_written.1 _ _ hm).2.2.1 ?_, name, hc,
    (read_iff_written.2 "Truck" "start#now" name hc _ (by simp)).2 (by decide)⟩
  rw [← QualifiedName.ofText_eq_malformed_iff]
  decide

end Interchange

end SlotDispatch
