import Mathlib.Algebra.Order.Ring.Int
import Mathlib.Algebra.BigOperators.Group.List.Basic
import Mathlib.Data.Int.ModEq
import SlotDispatch.Program
import SlotDispatch.Proofs.Numerals
import SlotDispatch.Proofs.Sinks

/-!
# Sums that wrap around

A sum of 32-bit integers wraps around at each step, and yet is known from the exact sum
(`Native.exactTotal`) alone: each step keeps the sum up to multiples of `2 ^ 32`
(`toInt_add_modEq`), so the whole sum does (`toInt_total_modEq`), and of the numbers that differ by
such a multiple only one has 32 bits (`eq_toInt_iff`). So neither the order of the integers nor the
way in which they are put together matters, and where the exact sum has 32 bits it is the result,
however often the sum has wrapped around before.

A sum is printed in decimal (`Program.sum_eq_print`), and all of the line arrives on a sink without
a limit (`Program.sum_of_unlimited`).
-/

namespace SlotDispatch

namespace Native

variable {items items' : List Int32} {a b : Int32} {n z : Int}

/-- The sum of some integers as it is, whatever its size. -/
def exactTotal (items : List Int32) : Int := (items.map Int32.toInt).sum

theorem exactTotal_append (items items' : List Int32) :
    exactTotal (items ++ items') = exactTotal items + exactTotal items' := by
  rw [exactTotal, List.map_append, List.sum_append, exactTotal, exactTotal]

theorem exactTotal_eq_of_perm (h : items.Perm items') : exactTotal items = exactTotal items' :=
  (h.map Int32.toInt).sum_eq

/-! ## One of many numbers -/

/-- An integer of 32 bits is the only one of its kind among the numbers that differ from it by
    multiples of `2 ^ 32`. -/
theorem eq_toInt_iff (h : a.toInt ≡ z [ZMOD 0x100000000]) :
    n = a.toInt ↔ -0x80000000 ≤ n ∧ n < 0x80000000 ∧ n ≡ z [ZMOD 0x100000000] := by
  have hlow : -0x80000000 ≤ a.toInt := a.le_toInt
  have hhigh : a.toInt < 0x80000000 := a.toInt_lt
  constructor
  · rintro rfl
    exact ⟨hlow, hhigh, h⟩
  · rintro ⟨hl, hh, hz⟩
    -- Both numbers are in a range that is too short for two that differ by a multiple.
    have hn : n % 0x100000000 = a.toInt % 0x100000000 := hz.trans h.symm
    omega

theorem eq_of_modEq (ha : a.toInt ≡ z [ZMOD 0x100000000]) (hb : b.toInt ≡ z [ZMOD 0x100000000]) :
    a = b :=
  Int32.toInt_inj.1 ((eq_toInt_iff hb).2 ((eq_toInt_iff ha).1 rfl))

/-! ## The sum step by step -/

/-- A sum of two integers wraps around by a multiple of `2 ^ 32`. -/
theorem toInt_add_modEq (a b : Int32) :
    (a + b).toInt ≡ a.toInt + b.toInt [ZMOD 0x100000000] := by
  rw [Int32.toInt_add]
  exact Int.bmod_emod

/-- From any start on, the sum stays with the exact one. -/
theorem toInt_foldl_modEq (items : List Int32) (start : Int32) :
    (items.foldl (· + ·) start).toInt ≡ start.toInt + exactTotal items [ZMOD 0x100000000] := by
  induction items generalizing start with
  | nil =>
    rw [exactTotal, List.map_nil, List.sum_nil, Int.add_zero]
    rfl
  | cons item items ih =>
    rw [List.foldl_cons, exactTotal, List.map_cons, List.sum_cons, ← Int.add_assoc]
    exact (ih (start + item)).trans ((toInt_add_modEq start item).add_right _)

theorem toInt_total_modEq (items : List Int32) :
    (total items).toInt ≡ exactTotal items [ZMOD 0x100000000] := by
  have h := toInt_foldl_modEq items 0
  rwa [Int32.toInt_zero, Int.zero_add] at h

theorem total_eq_of_perm (h : items.Perm items') : total items = total items' := by
  have h' := toInt_total_modEq items'
  rw [← exactTotal_eq_of_perm h] at h'
  exact eq_of_modEq (toInt_total_modEq items) h'

theorem total_append (items items' : List Int32) :
    total (items ++ items') = total items + total items' := by
  have h := toInt_total_modEq (items ++ items')
  rw [exactTotal_append] at h
  refine eq_of_modEq h ((toInt_add_modEq _ _).trans ?_)
  exact (toInt_total_modEq items).add (toInt_total_modEq items')

end Native

namespace Program

open Native (total exactTotal)

theorem sumArray_eq_of_perm {items items' : List Int32} (h : items.Perm items') :
    sumArray (some items) = sumArray (some items') := by
  rw [sumArray, sumArray, Native.total_eq_of_perm h, h.length_eq]

theorem sumArray_append (items items' : List Int32) (machine : Machine) :
    ∃ next, sumArray (some (items ++ items')) machine = .ok (total items + total items') next := by
  rw [← Native.total_append]
  exact ⟨_, rfl⟩

/-! ## What is printed -/

/-- The line that tells a sum. -/
def sumLine (sum : Int32) : String := "sum = " ++ toString sum.toInt ++ "\n"

/-- Before a sum is printed, nothing but a note is made. -/
theorem sum_eq_print {numbers : List Int32} (h : numbers ≠ []) (machine : Machine) :
    ∃ notes, sumArray (some numbers) machine = .ok (total numbers) { machine with notes } ∧
      sum numbers machine =
        Machine.print (sumLine (total numbers)) { machine with notes } := by
  refine ⟨_, rfl, ?_⟩
  rw [sumLine, ← Decimal.ofList_integerText, sum, if_neg h]
  rfl

/-- On a sink without a limit, the sum is printed. -/
theorem sum_of_unlimited {numbers : List Int32} (h : numbers ≠ []) {machine : Machine}
    (hs : machine.sink.room = none) :
    ∃ final, sum numbers machine = .ok () final ∧
      final.sink.written = machine.sink.written ++ Sink.bytesOf (sumLine (total numbers)) := by
  obtain ⟨notes, _, hp⟩ := sum_eq_print h machine
  have hs' : { machine with notes }.sink.room = none := hs
  exact ⟨_, hp.trans (Machine.print_of_unlimited hs' _), Sink.written_taking_of_unlimited hs _⟩

/-- The number in the line for a sum is the sum, and no other. -/
theorem readInteger_of_line {sum : Int32} {text : String}
    (h : Sink.bytesOf ("sum = " ++ text ++ "\n") = Sink.bytesOf (sumLine sum)) :
    Decimal.readInteger text.toList = .ok sum := by
  rw [Sink.bytesOf_inj, sumLine, String.append_left_inj, String.append_right_inj] at h
  rw [h, ← Decimal.ofList_integerText, String.toList_ofList, Decimal.readInteger_integerText]

/-- The sum of an array is always found. It is the one integer of 32 bits that differs from the
    exact sum by a multiple of `2 ^ 32`. So the order of the items does not matter, parts may be
    summed on their own, and an exact sum of 32 bits is the result. For some numbers the program
    prints the sum in decimal: on a sink without a limit it succeeds, and the bytes of the line are
    what the sink gets. From the line the sum is read back. -/
theorem sumArray_wraps :
    (∀ (items : List Int32) (machine : Machine), ∃ sum next,
      sumArray (some items) machine = .ok sum next ∧
      (∀ n : Int, n = sum.toInt ↔
        -0x80000000 ≤ n ∧ n < 0x80000000 ∧ n ≡ exactTotal items [ZMOD 0x100000000]) ∧
      (-0x80000000 ≤ exactTotal items → exactTotal items < 0x80000000 →
        sum.toInt = exactTotal items)) ∧
    (∀ items items' : List Int32, items.Perm items' →
      sumArray (some items) = sumArray (some items')) ∧
    (∀ (items items' : List Int32) (machine : Machine), ∃ sum sum' next next' next'',
      sumArray (some items) machine = .ok sum next ∧
      sumArray (some items') machine = .ok sum' next' ∧
      sumArray (some (items ++ items')) machine = .ok (sum + sum') next'') ∧
    (∀ numbers : List Int32, numbers ≠ [] → ∀ machine, ∃ sum next,
      sumArray (some numbers) machine = .ok sum next ∧
      Program.sum numbers machine =
        Machine.print ("sum = " ++ toString sum.toInt ++ "\n") next ∧
      (machine.sink.room = none → ∃ final, Program.sum numbers machine = .ok () final ∧
        final.sink.written =
          machine.sink.written ++ Sink.bytesOf ("sum = " ++ toString sum.toInt ++ "\n"))) ∧
    ∀ (sum : Int32) (text : String),
      Sink.bytesOf ("sum = " ++ text ++ "\n") =
          Sink.bytesOf ("sum = " ++ toString sum.toInt ++ "\n") →
        Decimal.readInteger text.toList = .ok sum := by
  refine ⟨fun items machine => ⟨total items, _, rfl, ?_, ?_⟩, fun _ _ => sumArray_eq_of_perm,
    fun items items' machine => ?_, fun numbers h machine => ?_, fun _ _ => readInteger_of_line⟩
  · exact fun n => Native.eq_toInt_iff (Native.toInt_total_modEq items)
  · intro hlow hhigh
    exact ((Native.eq_toInt_iff (Native.toInt_total_modEq items)).2 ⟨hlow, hhigh, rfl⟩).symm
  · obtain ⟨next, hn⟩ := sumArray_append items items' machine
    exact ⟨_, _, _, _, next, rfl, rfl, hn⟩
  · obtain ⟨notes, hn, hp⟩ := sum_eq_print h machine
    exact ⟨total numbers, _, hn, hp, sum_of_unlimited h⟩

/-- The sum wraps around four times on the way, there and back, and is exact in the end. It comes
    behind what was printed before. -/
theorem sumArray_wraps_thereAndBack :
    let items : List Int32 := [2147483647, 2, -3, 2147483647, -2147483647]
    let machine : Machine :=
      { sink := { written := Sink.bytesOf "honk\n" }, clock := ⟨7, 5, 9, "07:05:09"⟩ }
    (∃ next, sumArray (some items) machine = .ok 2147483646 next ∧
      Program.sum items machine = Machine.print "sum = 2147483646\n" next) ∧
    ∃ final, Program.sum items machine = .ok () final ∧
      final.sink.written = Sink.bytesOf "honk\nsum = 2147483646\n" := by
  intro items machine
  obtain ⟨hexact, -, -, hprint, -⟩ := sumArray_wraps
  obtain ⟨sum, next, hs, -, ht⟩ := hexact items machine
  have hsum : sum = 2147483646 := Int32.toInt_inj.1 ((ht (by decide) (by decide)).trans (by decide))
  obtain ⟨sum', next', hs', hp, hu⟩ := hprint items (by decide) machine
  cases hs.symm.trans hs'
  rw [hsum] at hs hp hu
  obtain ⟨final, hf, hw⟩ := hu rfl
  exact ⟨⟨next, hs, hp⟩, final, hf, hw.trans (by decide)⟩

end Program

end SlotDispatch
