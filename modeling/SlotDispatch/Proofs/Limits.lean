import Mathlib.Data.List.DropRight
import SlotDispatch.CommandLine.Execute
import SlotDispatch.Proofs.Numerals

/-!
# The limit that counts

The limit of the heap comes from the command line, or else from the environment. What the variable
says is stripped of blanks (`Text.Strips`) and must be a number then (`Decimal.Numeral`). If it is
not, then the fault depends on the digits that it begins with (`resolveLimit_eq`), and quotes the
whole value, blanks included.

Only the demonstration needs a heap. It looks for the limit before anything else, so a fault leaves
the machine as it was (`execute_of_fault`), and no other command looks for it at all
(`execute_congr`).
-/

namespace SlotDispatch

/-! ## Blanks around a text -/

namespace Text

variable {cs core : List Char}

/-- `core` is what is left of `cs` without the blanks at either end. -/
structure Strips (cs core : List Char) : Prop where
  /-- There are only blanks around it. -/
  around : ∃ before after, cs = before ++ core ++ after ∧ ∀ c ∈ before ++ after, isBlank c = true
  /-- It does not begin with a blank. -/
  first : ∀ c ∈ core.head?, isBlank c = false
  /-- It does not end with a blank. -/
  last : ∀ c ∈ core.getLast?, isBlank c = false

theorem isBlank_of_isDigit {c : Char} (h : c.isDigit = true) : isBlank c = false := by
  rw [Bool.eq_false_iff, isBlank, Ne, Ranges.contains_iff]
  rintro ⟨range, hm, hr⟩
  have hd := Char.isDigit_iff_toNat.1 h
  have hapart : ∀ range ∈ blankRanges, range.2 < '0'.toNat ∨ '9'.toNat < range.1 := by decide
  have := hapart range hm
  omega

/-- There is only one way to strip a text. -/
theorem Strips.trim_eq (h : Strips cs core) : trim cs = core := by
  obtain ⟨before, after, rfl, hb⟩ := h.around
  rw [List.forall_mem_append] at hb
  rcases eq_or_ne core [] with rfl | hc
  · -- There are only blanks, and they are all dropped at once.
    have hn : (before ++ [] ++ after).dropWhile isBlank = [] := by
      rw [List.append_nil, List.dropWhile_eq_nil_iff]
      exact List.forall_mem_append.2 hb
    rw [trim, hn]
    rfl
  · -- The blanks before end where the core begins, and those after begin where it ends.
    have hfirst : ∀ c ∈ (core ++ after).head?, isBlank c = false := by
      rw [List.head?_append_of_ne_nil _ hc]
      exact h.first
    have hafter : ∀ c ∈ after.reverse, isBlank c = true := fun c hm =>
      hb.2 c (List.mem_reverse.1 hm)
    have hlast : ∀ c ∈ core.reverse.head?, isBlank c = false := by
      rw [List.head?_reverse]
      exact h.last
    rw [trim, List.append_assoc, (span_append hb.1 hfirst).2, List.reverse_append,
      (span_append hafter hlast).2, List.reverse_reverse]

theorem strips_trim (cs : List Char) : Strips cs (trim cs) := by
  have ht : trim cs = (cs.dropWhile isBlank).rdropWhile isBlank := rfl
  refine ⟨⟨cs.takeWhile isBlank, (cs.dropWhile isBlank).rtakeWhile isBlank, ?_, ?_⟩, ?_, ?_⟩
  · rw [ht, List.append_assoc, List.rdropWhile_append_rtakeWhile, List.takeWhile_append_dropWhile]
  · rw [List.forall_mem_append]
    exact ⟨fun _ => List.mem_takeWhile_imp, fun _ => List.mem_rtakeWhile_imp⟩
  · intro c hc
    -- What is left begins like the text without the blanks before it.
    obtain ⟨after, ha⟩ := List.rdropWhile_prefix isBlank (cs.dropWhile isBlank)
    have hn : trim cs ≠ [] := List.ne_nil_of_mem (List.mem_of_head? hc)
    rw [← List.head?_append_of_ne_nil _ hn, ht, ha] at hc
    exact eq_false_of_head?_dropWhile hc
  · intro c hc
    rw [trim, List.getLast?_reverse] at hc
    exact eq_false_of_head?_dropWhile hc

end Text

open CommandLine (Arguments execute)

/-! ## What the variable says -/

section

variable {raw : String} {core digits rest : List Char}

/-- The digits that the value begins with decide what it is. -/
theorem resolveLimit_eq (hs : Text.Strips raw.toList core)
    (hb : Decimal.Begins core digits rest) :
    resolveLimit none (some raw) =
      if core = [] then .error ⟨raw, .empty⟩
      else if UInt64.size ≤ Decimal.value digits then .error ⟨raw, .tooLarge⟩
      else if digits = [] ∨ rest ≠ [] then .error ⟨raw, .invalidDigit⟩
      else .ok (some (UInt64.ofNat (Decimal.value digits))) := by
  rw [resolveLimit, hs.trim_eq, Decimal.readWord_eq hb]
  split_ifs <;> rfl

theorem resolveLimit_eq_ok_iff (hs : Text.Strips raw.toList core) {n : UInt64} :
    resolveLimit none (some raw) = .ok (some n) ↔ Decimal.Numeral core n.toNat := by
  obtain ⟨digits, rest, hb⟩ := Decimal.exists_begins core
  rw [resolveLimit_eq hs hb, hb.numeral_iff]
  split_ifs with hc hl hd
  · simp [hb.digits_eq_nil hc]
  · exact ⟨fun h => (nomatch h), fun h => absurd (h.2.2 ▸ hl) (Nat.not_le.2 n.toNat_lt)⟩
  · exact ⟨fun h => (nomatch h), fun h => absurd hd (by simp [h.1, h.2.1])⟩
  · rw [not_or, not_not] at hd
    rw [and_iff_right hd.1, and_iff_right hd.2, Except.ok.injEq, Option.some.injEq]
    constructor
    · rintro rfl
      exact (UInt64.toNat_ofNat_of_lt (Nat.not_le.1 hl)).symm
    · intro h
      rw [h, UInt64.ofNat_toNat]

theorem resolveLimit_of_not_numeral (hs : Text.Strips raw.toList core)
    (hb : Decimal.Begins core digits rest)
    (hn : ¬∃ n : UInt64, Decimal.Numeral core n.toNat) : ∃ cause,
    resolveLimit none (some raw) = .error ⟨raw, cause⟩ ∧ (cause = .empty ↔ core = []) ∧
      (cause = .tooLarge ↔ UInt64.size ≤ Decimal.value digits) ∧
      (cause = .invalidDigit ↔ core ≠ [] ∧ Decimal.value digits < UInt64.size) := by
  have he := resolveLimit_eq hs hb
  rw [← Nat.not_le]
  split_ifs at he with hc hl hd
  · have hv : ¬UInt64.size ≤ Decimal.value digits := by
      rw [hb.digits_eq_nil hc]
      decide
    exact ⟨_, he, by simp [hc], by simp [hv], by simp [hc]⟩
  · exact ⟨_, he, by simp [hc], by simp [hl], by simp [hl]⟩
  · exact ⟨_, he, by simp [hc], by simp [hl], by simp [hc, hl]⟩
  · exact absurd ⟨_, (resolveLimit_eq_ok_iff hs).1 he⟩ hn

theorem resolveLimit_toString (n : UInt64) {before after : String}
    (h : ∀ c ∈ before.toList ++ after.toList, Text.isBlank c = true) :
    resolveLimit none (some (before ++ toString n.toNat ++ after)) = .ok (some n) := by
  have hd : ∀ c ∈ (toString n.toNat).toList, Text.isBlank c = false := by
    intro c hc
    rw [Nat.toString_eq_repr, Nat.toList_repr] at hc
    exact Text.isBlank_of_isDigit (Decimal.areDigits_toDigits n.toNat c hc)
  have hs : Text.Strips (before ++ toString n.toNat ++ after).toList (toString n.toNat).toList := by
    refine ⟨⟨before.toList, after.toList, by simp only [String.toList_append], h⟩, ?_, ?_⟩
    · exact fun c hc => hd c (List.mem_of_head? hc)
    · exact fun c hc => hd c (List.mem_of_getLast? hc)
  exact (resolveLimit_eq_ok_iff hs).2 (Decimal.numeral_toString n.toNat)

end

/-! ## Who looks for the limit -/

section

variable {arguments : Arguments} {environment : Option String} {machine : Machine}

/-- No command but the demonstration looks for the limit. -/
theorem execute_congr (h : arguments.effective ≠ .run) (limit : Option UInt64)
    (environment environment' : Option String) :
    execute arguments environment = execute { arguments with limit } environment' := by
  have he : Arguments.effective { arguments with limit } = arguments.effective := rfl
  rw [execute, execute, he]
  cases hc : arguments.effective with
  | run => exact absurd hc h
  | classes | time | hello | sum => rfl

theorem execute_of_fault (h : arguments.effective = .run) {fault : LimitFault}
    (hl : resolveLimit arguments.limit environment = .error fault) :
    execute arguments environment machine = .error (.limit fault) machine := by
  rw [execute, h]
  simp only [hl]
  rfl

theorem execute_of_limit (h : arguments.effective = .run) {limit : Option UInt64}
    (hl : resolveLimit arguments.limit environment = .ok limit) :
    execute arguments environment machine =
      Program.dispatch { machine with heap := { limit } } := by
  rw [execute, h]
  simp only [hl]
  rfl

end

/-- The limit is what the command line says, whatever the environment says. Otherwise there is none
    if the variable is not set. If it is set, its value without the blanks around it must be a
    number of 64 bits, with or without a plus sign, and that is the limit. If it is not, the fault
    quotes the value with its blanks, and is that there is nothing, or that the digits at the
    beginning are too many, or else that something is not a digit. Numbers are read as they are
    written, with any blanks around them.

    The demonstration looks for the limit before it does anything, and then starts with a heap that
    has it. All other commands do the same for any limit and any environment. -/
theorem resolveLimit_determined :
    (∀ limit environment, resolveLimit (some limit) environment = .ok (some limit)) ∧
    resolveLimit none none = .ok none ∧
    (∀ raw : String, ∃ core digits rest,
      Text.Strips raw.toList core ∧ Decimal.Begins core digits rest ∧
      (∀ n : UInt64, resolveLimit none (some raw) = .ok (some n) ↔ Decimal.Numeral core n.toNat) ∧
      ((¬∃ n : UInt64, Decimal.Numeral core n.toNat) → ∃ fault,
        resolveLimit none (some raw) = .error fault ∧
        fault.message = "VTLAB_HEAP_LIMIT must be a number of bytes (got `" ++ raw ++ "')" ∧
        (fault.cause = .empty ↔ core = []) ∧
        (fault.cause = .tooLarge ↔ UInt64.size ≤ Decimal.value digits) ∧
        (fault.cause = .invalidDigit ↔ core ≠ [] ∧ Decimal.value digits < UInt64.size))) ∧
    (∀ (n : UInt64) (before after : String),
      (∀ c ∈ before.toList ++ after.toList, Text.isBlank c = true) →
        resolveLimit none (some (before ++ toString n.toNat ++ after)) = .ok (some n)) ∧
    ∀ (arguments : Arguments) (environment : Option String),
      (arguments.effective ≠ .run → ∀ limit environment',
        execute arguments environment = execute { arguments with limit } environment') ∧
      (arguments.effective = .run → ∀ machine,
        (∀ fault, resolveLimit arguments.limit environment = .error fault →
          execute arguments environment machine = .error (.limit fault) machine) ∧
        ∀ limit, resolveLimit arguments.limit environment = .ok limit →
          execute arguments environment machine =
            Program.dispatch { machine with heap := { limit } }) := by
  refine ⟨fun _ _ => rfl, rfl, fun raw => ?_, fun n _ _ => resolveLimit_toString n,
    fun arguments environment => ⟨fun h limit => execute_congr h limit environment,
      fun h machine => ⟨fun _ => execute_of_fault h, fun _ => execute_of_limit h⟩⟩⟩
  have hs := Text.strips_trim raw.toList
  obtain ⟨digits, rest, hb⟩ := Decimal.exists_begins (Text.trim raw.toList)
  refine ⟨_, digits, rest, hs, hb, fun n => resolveLimit_eq_ok_iff hs, fun hn => ?_⟩
  obtain ⟨cause, he, hc⟩ := resolveLimit_of_not_numeral hs hb hn
  exact ⟨⟨raw, cause⟩, he, rfl, hc⟩

/-- The demonstration starts with the largest number of 64 bits as its limit, written between blanks
    of different kinds, and the greeting takes no notice of it. One byte more is too many, and then
    nothing happens. -/
theorem resolveLimit_determined_spaced :
    let raw := "\u00a0\t18446744073709551615\u3000"
    let clock : Native.Clock := ⟨7, 5, 9, "07:05:09"⟩
    execute ⟨none, none⟩ (some raw) { clock } =
        Program.dispatch { clock, heap := { limit := some 18446744073709551615 } } ∧
      execute ⟨none, some (.hello true)⟩ (some raw) =
        execute ⟨some 0, some (.hello true)⟩ none ∧
      execute ⟨none, none⟩ (some "18446744073709551616 bytes") { clock } =
        .error (.limit ⟨"18446744073709551616 bytes", .tooLarge⟩) { clock } := by
  intro raw clock
  obtain ⟨-, -, -, hread, hexecute⟩ := resolveLimit_determined
  have hl : resolveLimit none (some raw) = .ok (some 18446744073709551615) :=
    hread 18446744073709551615 "\u00a0\t" "\u3000" (List.all_eq_true.1 rfl)
  refine ⟨((hexecute ⟨none, none⟩ (some raw)).2 rfl _).2 _ hl,
    (hexecute ⟨none, some (.hello true)⟩ (some raw)).1 (by decide) (some 0) none,
    ((hexecute ⟨none, none⟩ _).2 rfl _).1 _ ?_⟩
  decide +kernel

end SlotDispatch
