import Mathlib.Data.Nat.Digits.Lemmas
import SlotDispatch.Decimal.Integer

/-!
# Written numbers

Digits stand for a number (`Decimal.value`), whether zeros come first or not. A number is written
with the digits that stand for it, and a reader finds the number that the digits stand for:

* `Text.span_append`: how far a run of characters goes;
* `value_toDigits`, `value_padded`: the digits of a number stand for it, also with zeros in front;
* `length_padded`: zeros only fill up to the width, a number that is longer is not cut;
* `readDigits_append`: a reader looks at the longest run of digits first. If that stands for too
  large a number, it does not matter what comes after it;
* `readWord_eq`: the same for a number of 64 bits, with a plus sign or without (`Decimal.Begins`);
* `readInteger_integerText`: a number of 32 bits is read back from its text.
-/

namespace SlotDispatch

/-! ## Runs of characters -/

namespace Text

variable {p : Char → Bool} {run rest cs : List Char}

/-- A run of characters ends where one comes that does not belong to it. -/
theorem span_append (hp : ∀ c ∈ run, p c = true) (hr : ∀ c ∈ rest.head?, p c = false) :
    (run ++ rest).takeWhile p = run ∧ (run ++ rest).dropWhile p = rest := by
  rw [List.takeWhile_append_of_pos hp, List.dropWhile_append_of_pos hp]
  cases rest with
  | nil => simp
  | cons c rest => simp [hr c rfl]

theorem eq_false_of_head?_dropWhile {c : Char} (h : c ∈ (cs.dropWhile p).head?) : p c = false := by
  have hn := List.head?_dropWhile_not p cs
  rw [h] at hn
  simpa using hn

end Text

namespace Decimal

/-! ## Digits and what they stand for -/

/-- All characters are digits. -/
def AreDigits (cs : List Char) : Prop := ∀ c ∈ cs, c.isDigit = true

/-- The number that digits stand for. The last one counts ones, the one before it tens, and so
    on. -/
def value (digits : List Char) : Nat :=
  Nat.ofDigits 10 (digits.reverse.map fun c => c.toNat - '0'.toNat)

@[simp]
theorem value_nil : value [] = 0 := rfl

theorem value_concat (digits : List Char) (c : Char) :
    value (digits ++ [c]) = 10 * value digits + (c.toNat - '0'.toNat) := by
  rw [value, List.reverse_concat, List.map_cons, Nat.ofDigits_cons, value, Nat.add_comm]

/-- Digits may be read from left to right. -/
theorem ofDigitChars_eq_value (digits : List Char) :
    Nat.ofDigitChars 10 digits 0 = value digits := by
  induction digits using List.reverseRecOn with
  | nil => rfl
  | append_singleton digits c ih =>
    rw [Nat.ofDigitChars_append, ih, value_concat, Nat.ofDigitChars_cons, Nat.ofDigitChars_nil]

theorem value_zeros_append (k : Nat) (digits : List Char) :
    value (List.replicate k '0' ++ digits) = value digits := by
  rw [← ofDigitChars_eq_value, Nat.ofDigitChars_append, Nat.ofDigitChars_replicate_zero,
    Nat.mul_zero, ofDigitChars_eq_value]

theorem value_toDigits (n : Nat) : value (Nat.toDigits 10 n) = n := by
  rw [← ofDigitChars_eq_value, Nat.ofDigitChars_ten_toDigits]

theorem areDigits_toDigits (n : Nat) : AreDigits (Nat.toDigits 10 n) := fun _ =>
  Nat.isDigit_of_mem_toDigits (by decide) (by decide)

theorem AreDigits.not_mem {digits : List Char} (h : AreDigits digits) {c : Char}
    (hc : c.isDigit = false) : c ∉ digits := by
  intro hm
  rw [h c hm] at hc
  cases hc

/-! ## A given width -/

theorem areDigits_padded (width n : Nat) : AreDigits (padded width n) := by
  intro c hc
  rw [padded, List.mem_append, List.mem_replicate] at hc
  rcases hc with ⟨-, rfl⟩ | hc
  · decide
  · exact areDigits_toDigits n c hc

theorem value_padded (width n : Nat) : value (padded width n) = n := by
  rw [padded, value_zeros_append, value_toDigits]

/-- A number has as many digits as are needed, but at least one. -/
theorem length_toDigits (n : Nat) :
    (Nat.toDigits 10 n).length = max 1 (Nat.digits 10 n).length := by
  refine eq_of_forall_ge_iff fun k => ?_
  rcases Nat.lt_or_ge k 1 with hk | hk
  · rw [Nat.lt_one_iff.1 hk]
    simp
  · rw [Nat.length_toDigits_le_iff (by decide) hk, max_le_iff, Nat.digits_length_le_iff (by decide),
      and_iff_right hk]

theorem length_padded {width : Nat} (h : 0 < width) (n : Nat) :
    (padded width n).length = max width (Nat.digits 10 n).length := by
  rw [padded, List.length_append, List.length_replicate, length_toDigits]
  omega

/-! ## Reading digits -/

/-- The reader looks at the longest run of digits first, and then at what is left. -/
theorem readDigits_append {bound : Nat} (hb : 0 < bound) {digits rest : List Char}
    (hd : AreDigits digits) (hr : ∀ c ∈ rest.head?, c.isDigit = false) :
    readDigits bound (digits ++ rest) =
      if bound ≤ value digits then .error .tooLarge
      else if digits = [] ∨ rest ≠ [] then .error .invalidDigit
      else .ok (value digits) := by
  rw [readDigits]
  simp only [(Text.span_append hd hr).1, ofDigitChars_eq_value, List.append_eq_nil_iff,
    List.length_append, Nat.lt_add_right_iff_pos, List.length_pos_iff]
  by_cases hn : digits = [] ∧ rest = []
  · rw [if_pos hn, hn.1, value_nil, if_neg (Nat.not_le.2 hb), if_pos (.inl rfl)]
  · rw [if_neg hn]
    -- Without digits there is a rest, and the reader complains about it.
    have hor : (digits = [] ∨ rest ≠ []) ↔ rest ≠ [] := by
      constructor
      · rintro (hd | hr)
        · exact fun hr => hn ⟨hd, hr⟩
        · exact hr
      · exact .inr
    simp only [hor]

theorem readDigits_of_areDigits {bound : Nat} {digits : List Char} (hd : AreDigits digits)
    (hn : digits ≠ []) (hv : value digits < bound) :
    readDigits bound digits = .ok (value digits) := by
  have h : readDigits bound (digits ++ []) = _ :=
    readDigits_append (Nat.zero_lt_of_lt hv) hd (by simp)
  rwa [List.append_nil, if_neg (Nat.not_le.2 hv), if_neg (by simpa using hn)] at h

/-! ## Numbers of 64 bits -/

/-- A text begins with `digits`, after a plus sign if it has one, and goes on with `rest`, which
    does not begin with a further digit. -/
structure Begins (cs digits rest : List Char) : Prop where
  /-- The parts of the text. -/
  parts : cs = '+' :: (digits ++ rest) ∨ cs.head? ≠ some '+' ∧ cs = digits ++ rest
  /-- The digits. -/
  areDigits : AreDigits digits
  /-- There are no more digits. -/
  longest : ∀ c ∈ rest.head?, c.isDigit = false

/-- A text is a number: digits, at least one, with a plus sign in front or without. -/
def Numeral (cs : List Char) (n : Nat) : Prop :=
  ∃ digits, (cs = digits ∨ cs = '+' :: digits) ∧ digits ≠ [] ∧ AreDigits digits ∧ value digits = n

variable {cs digits rest : List Char}

theorem dropPlus_of_head? (h : cs.head? ≠ some '+') : dropPlus cs = cs := by
  unfold dropPlus
  split
  · exact absurd rfl h
  · rfl

theorem Begins.dropPlus_eq (h : Begins cs digits rest) : dropPlus cs = digits ++ rest := by
  rcases h.parts with rfl | ⟨hh, rfl⟩
  · rfl
  · exact dropPlus_of_head? hh

theorem Begins.digits_eq_nil (h : Begins cs digits rest) (hc : cs = []) : digits = [] := by
  have hp := h.dropPlus_eq
  rw [hc] at hp
  exact (List.append_eq_nil_iff.1 hp.symm).1

theorem exists_begins (cs : List Char) : ∃ digits rest, Begins cs digits rest := by
  refine ⟨(dropPlus cs).takeWhile Char.isDigit, (dropPlus cs).dropWhile Char.isDigit, ?_, ?_, ?_⟩
  · rw [List.takeWhile_append_dropWhile]
    unfold dropPlus
    split
    · exact .inl rfl
    · rename_i hp
      refine .inr ⟨fun hh => ?_, rfl⟩
      obtain ⟨cs', rfl⟩ := List.head?_eq_some_iff.1 hh
      exact hp cs' rfl
  · exact List.all_eq_true.1 List.all_takeWhile
  · exact fun _ => Text.eq_false_of_head?_dropWhile

theorem readWord_eq (h : Begins cs digits rest) :
    readWord cs =
      if cs = [] then .error .empty
      else if UInt64.size ≤ value digits then .error .tooLarge
      else if digits = [] ∨ rest ≠ [] then .error .invalidDigit
      else .ok (UInt64.ofNat (value digits)) := by
  rw [readWord, h.dropPlus_eq, readDigits_append (by decide) h.areDigits h.longest]
  split_ifs <;> rfl

/-- In a number, nothing is left after the digits. -/
theorem Begins.numeral_iff (h : Begins cs digits rest) {n : Nat} :
    Numeral cs n ↔ digits ≠ [] ∧ rest = [] ∧ value digits = n := by
  constructor
  · rintro ⟨digits', hcs, hn, hd, rfl⟩
    have hp : dropPlus cs = digits' := by
      rcases hcs with rfl | rfl
      · refine dropPlus_of_head? fun hh => ?_
        exact absurd (hd '+' (List.mem_of_head? hh)) (by decide)
      · rfl
    rw [h.dropPlus_eq] at hp
    -- What follows the digits would begin with one.
    have hr : rest = [] := by
      cases rest with
      | nil => rfl
      | cons c rest =>
        have hc : c.isDigit = true := hd c (by rw [← hp]; simp)
        rw [h.longest c rfl] at hc
        cases hc
    rw [hr, List.append_nil] at hp
    exact ⟨hp ▸ hn, hr, by rw [hp]⟩
  · rintro ⟨hn, rfl, hv⟩
    have hcs := h.parts
    rw [List.append_nil] at hcs
    exact ⟨digits, hcs.elim .inr fun hcs => .inl hcs.2, hn, h.areDigits, hv⟩

theorem numeral_toString (n : Nat) : Numeral (toString n).toList n :=
  ⟨Nat.toDigits 10 n, .inl Nat.toList_repr, Nat.toDigits_ne_nil, areDigits_toDigits n,
    value_toDigits n⟩

/-! ## Numbers of 32 bits -/

theorem readInteger_of_areDigits (hd : AreDigits digits) (hn : digits ≠ [])
    (hv : value digits < 0x80000000) :
    readInteger digits = .ok (Int32.ofInt (value digits)) := by
  have hm : '-' ∉ digits := hd.not_mem (by decide)
  have hp : dropPlus digits = digits :=
    dropPlus_of_head? fun hh => hd.not_mem (by decide) (List.mem_of_head? hh)
  unfold readInteger
  split
  · exact absurd rfl hn
  · exact absurd List.mem_cons_self hm
  · rw [hp, readDigits_of_areDigits hd hn hv]

/-- The text of a number of 32 bits is read back as the number. -/
theorem readInteger_integerText (n : Int32) : readInteger (integerText n.toInt) = .ok n := by
  have hlow := n.le_toInt
  have hhigh := n.toInt_lt
  have ho := n.ofInt_toInt
  cases hi : n.toInt with
  | ofNat k =>
    rw [hi] at hhigh ho
    have hk : value (Nat.toDigits 10 k) < 0x80000000 := by
      rw [value_toDigits]
      exact Int.ofNat_lt.1 hhigh
    rw [integerText, readInteger_of_areDigits (areDigits_toDigits k) Nat.toDigits_ne_nil hk,
      value_toDigits]
    exact congrArg Except.ok ho
  | negSucc k =>
    rw [hi] at hlow ho
    have hk : value (Nat.toDigits 10 (k + 1)) < 0x80000001 := by
      rw [value_toDigits]
      omega
    rw [integerText, readInteger, readDigits_of_areDigits (areDigits_toDigits (k + 1))
      Nat.toDigits_ne_nil hk, value_toDigits]
    exact congrArg Except.ok ho

/-- The text of a number is its signed decimal form. -/
theorem ofList_integerText (n : Int) : String.ofList (integerText n) = toString n := by
  cases n with
  | ofNat k => rfl
  | negSucc k =>
    rw [integerText, String.ofList_cons]
    rfl

end Decimal

end SlotDispatch
