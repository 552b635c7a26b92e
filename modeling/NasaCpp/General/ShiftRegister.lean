import Mathlib.Algebra.BigOperators.Intervals
import Mathlib.Algebra.BigOperators.Ring.Finset
import Mathlib.Algebra.Field.ZMod
import Mathlib.Data.BitVec

/-!
# Feedback shift registers

A register of `w` bits shifts towards its top bit and adds the feedback word
when that bit leaves; input bits are added at the top before a shift.  The
register is linear in its contents and its input, invertible when the feedback
word is odd, and then never ends at zero on a burst no longer than itself; with
an odd number of feedback taps it carries the parity of its input.
-/

namespace NasaCpp.General.ShiftRegister

variable {w : Nat} (feedback : BitVec w)

def shift (register : BitVec w) : BitVec w :=
  if register.msb then register <<< 1 ^^^ feedback else register <<< 1

def top (w : Nat) (bit : Bool) : BitVec w :=
  if bit then BitVec.twoPow w (w - 1) else 0

def feed (register : BitVec w) (bit : Bool) : BitVec w :=
  shift feedback (register ^^^ top w bit)

def run (register : BitVec w) (bits : List Bool) : BitVec w :=
  bits.foldl (feed feedback) register

@[simp] theorem run_nil (register : BitVec w) : run feedback register [] = register := rfl

@[simp] theorem run_cons (register : BitVec w) (bit : Bool) (bits : List Bool) :
    run feedback register (bit :: bits) = run feedback (feed feedback register bit) bits := rfl

theorem run_append (register : BitVec w) (first second : List Bool) :
    run feedback register (first ++ second) = run feedback (run feedback register first) second :=
  List.foldl_append

/-! ## Linearity -/

theorem shift_xor (first second : BitVec w) :
    shift feedback (first ^^^ second) = shift feedback first ^^^ shift feedback second := by
  unfold shift
  rw [BitVec.msb_xor, BitVec.shiftLeft_xor_distrib]
  cases first.msb <;> cases second.msb
  · rfl
  · simp [BitVec.xor_assoc]
  · simp only [Bool.true_xor, Bool.not_false, ite_true, Bool.false_eq_true, ite_false]
    ac_rfl
  · simp only [Bool.true_xor, Bool.not_true, Bool.false_eq_true, ite_false, ite_true]
    calc first <<< 1 ^^^ second <<< 1
        = first <<< 1 ^^^ second <<< 1 ^^^ (feedback ^^^ feedback) := by simp
      _ = (first <<< 1 ^^^ feedback) ^^^ (second <<< 1 ^^^ feedback) := by ac_rfl

@[simp] theorem shift_zero : shift feedback 0 = 0 := by simp [shift]

theorem top_xor (first second : Bool) : top w (first ^^ second) = top w first ^^^ top w second := by
  cases first <;> cases second <;> simp [top]

theorem feed_xor (first second : BitVec w) (bit other : Bool) :
    feed feedback (first ^^^ second) (bit ^^ other) =
      feed feedback first bit ^^^ feed feedback second other := by
  unfold feed
  rw [← shift_xor, top_xor]
  congr 1
  ac_rfl

/-- Superposition: equally long inputs add. -/
theorem run_xor (first second : BitVec w) {bits others : List Bool}
    (same : bits.length = others.length) :
    run feedback (first ^^^ second) (List.zipWith xor bits others) =
      run feedback first bits ^^^ run feedback second others := by
  induction bits generalizing others first second with
  | nil =>
      cases others with
      | nil => rfl
      | cons other others => cases same
  | cons bit bits ih =>
      cases others with
      | nil => cases same
      | cons other others =>
          rw [List.zipWith_cons_cons, run_cons, run_cons, run_cons, feed_xor]
          exact ih _ _ (Nat.succ.inj same)

/-! ## Loading a word at once -/

/-- The input bits side by side below the top of the register. -/
def load (w : Nat) : List Bool → BitVec w
  | [] => 0
  | bit :: bits => top w bit ^^^ load w bits >>> 1

theorem getLsbD_top (bit : Bool) (i : Nat) :
    (top w bit).getLsbD i = (decide (i + 1 = w) && bit) := by
  cases bit with
  | false => simp [top]
  | true =>
      simp only [top, if_true, BitVec.getLsbD_twoPow, Bool.and_true]
      by_cases last : i + 1 = w
      · simp [show w - 1 = i by omega, last, show i < w by omega]
      · simp only [last, decide_false, Bool.and_eq_false_iff, decide_eq_false_iff_not]
        omega

theorem getLsbD_load (bits : List Bool) (i : Nat) (inside : i < w) :
    (load w bits).getLsbD i = bits.getD (w - 1 - i) false := by
  induction bits generalizing i with
  | nil => simp [load]
  | cons bit bits ih =>
      rw [load, BitVec.getLsbD_xor, getLsbD_top, BitVec.getLsbD_ushiftRight]
      by_cases last : i + 1 = w
      · have zero : w - 1 - i = 0 := by omega
        rw [zero, BitVec.getLsbD_of_ge _ _ (by omega)]
        simp [last]
      · obtain ⟨index, hindex⟩ : ∃ index, w - 1 - i = index + 1 := ⟨w - 2 - i, by omega⟩
        rw [hindex, List.getD_cons_succ, ih _ (by omega), show w - 1 - (1 + i) = index by omega]
        simp [last]

theorem load_eq_zero {bits : List Bool} (fits : bits.length ≤ w) (zero : load w bits = 0) :
    ∀ bit ∈ bits, bit = false := by
  intro bit hmem
  obtain ⟨index, hindex, rfl⟩ := List.mem_iff_getElem.mp hmem
  have here := getLsbD_load bits (w - 1 - index) (show w - 1 - index < w by omega)
  rw [zero, show w - 1 - (w - 1 - index) = index by omega] at here
  simpa [hindex] using here.symm

/-- A register with a clear low bit is one shift ahead of itself moved down. -/
theorem shift_ushiftRight_one {register : BitVec w} (clear : register.getLsbD 0 = false) :
    shift feedback (register >>> 1) = register := by
  have low : (register >>> 1).msb = false := by
    rw [BitVec.msb_eq_getLsbD_last, BitVec.getLsbD_ushiftRight]
    by_cases empty : w = 0
    · subst empty
      simp
    · exact BitVec.getLsbD_of_ge _ _ (by omega)
  rw [shift, low, if_neg Bool.false_ne_true]
  apply BitVec.eq_of_getLsbD_eq
  intro i hi
  rw [BitVec.getLsbD_shiftLeft, BitVec.getLsbD_ushiftRight]
  by_cases first : i = 0
  · subst first
    simp [clear]
  · simp [hi, show ¬ i < 1 by omega, show 1 + (i - 1) = i by omega]

/-- Feeding at most `w` bits one by one is loading them and shifting as often. -/
theorem iterate_shift_load {bits : List Bool} (fits : bits.length ≤ w) (register : BitVec w) :
    (shift feedback)^[bits.length] (register ^^^ load w bits) = run feedback register bits := by
  induction bits generalizing register with
  | nil => simp [load]
  | cons bit bits ih =>
      have clear : (load w bits).getLsbD 0 = false := by
        simp only [List.length_cons] at fits
        rw [getLsbD_load bits 0 (by omega)]
        rw [List.getD_eq_getElem?_getD, List.getElem?_eq_none (by omega), Option.getD_none]
      rw [List.length_cons, Function.iterate_succ_apply, run_cons, ← ih (by simp at fits; omega),
        load, ← BitVec.xor_assoc, shift_xor, shift_ushiftRight_one feedback clear, feed]

/-! ## Bursts -/

/-- With an odd feedback word only the empty register shifts to the empty one. -/
theorem eq_zero_of_shift (odd : feedback.getLsbD 0 = true) {register : BitVec w}
    (zero : shift feedback register = 0) : register = 0 := by
  unfold shift at zero
  by_cases leaves : register.msb = true
  · rw [if_pos leaves] at zero
    have low := congrArg (fun word => BitVec.getLsbD word 0) zero
    simp [odd] at low
  · rw [if_neg leaves] at zero
    apply BitVec.eq_of_getLsbD_eq
    intro i hi
    by_cases last : i = w - 1
    · rw [last, ← BitVec.msb_eq_getLsbD_last]
      simpa using leaves
    · have next := congrArg (fun word => BitVec.getLsbD word (i + 1)) zero
      rw [BitVec.getLsbD_shiftLeft] at next
      simpa only [show i + 1 < w by omega, decide_true, Bool.true_and, Nat.add_sub_cancel,
        show ¬ i + 1 < 1 by omega, decide_false, Bool.not_false,
        show (0 : BitVec w) = 0#w from rfl, BitVec.getLsbD_zero] using next

theorem eq_zero_of_iterate_shift (odd : feedback.getLsbD 0 = true) {count : Nat}
    {register : BitVec w} (zero : (shift feedback)^[count] register = 0) : register = 0 := by
  induction count generalizing register with
  | zero => exact zero
  | succ count ih => exact eq_zero_of_shift feedback odd (ih zero)

theorem run_replicate_false (count : Nat) (register : BitVec w) :
    run feedback register (List.replicate count false) = (shift feedback)^[count] register := by
  induction count generalizing register with
  | zero => rfl
  | succ count ih =>
      rw [List.replicate_succ, run_cons, ih, Function.iterate_succ_apply]
      simp [feed, top]

/-- The set bits lie within `width` consecutive positions from `start`. -/
def Confined (bits : List Bool) (start width : Nat) : Prop :=
  ∀ position, bits[position]? = some true → start ≤ position ∧ position < start + width

theorem Confined.split {bits : List Bool} {start width : Nat}
    (confined : Confined bits start width) :
    ∃ before after, bits = List.replicate before false ++ (bits.drop start).take width ++
      List.replicate after false := by
  have before : bits.take start = List.replicate (bits.take start).length false := by
    refine List.eq_replicate_iff.mpr ⟨rfl, fun bit hmem => ?_⟩
    obtain ⟨position, hposition, rfl⟩ := List.mem_iff_getElem.mp hmem
    rw [List.length_take] at hposition
    by_contra set
    have here := confined position (by
      rw [List.getElem_take] at set
      rw [List.getElem?_eq_getElem (by omega)]
      simpa using set)
    omega
  have after : bits.drop (start + width) =
      List.replicate (bits.drop (start + width)).length false := by
    refine List.eq_replicate_iff.mpr ⟨rfl, fun bit hmem => ?_⟩
    obtain ⟨position, hposition, rfl⟩ := List.mem_iff_getElem.mp hmem
    by_contra set
    have here := confined (start + width + position) (by
      rw [List.getElem_drop] at set
      rw [List.length_drop] at hposition
      rw [List.getElem?_eq_getElem (by omega)]
      simpa using set)
    omega
  refine ⟨(bits.take start).length, (bits.drop (start + width)).length, ?_⟩
  rw [← before, ← after, List.append_assoc, ← List.drop_drop, List.take_append_drop,
    List.take_append_drop]

/-- A non-zero burst no longer than the register never leaves it empty. -/
theorem run_burst_ne_zero (odd : feedback.getLsbD 0 = true) {bits : List Bool} {start : Nat}
    (confined : Confined bits start w) (nonzero : true ∈ bits) :
    run feedback 0 bits ≠ 0 := by
  intro zero
  obtain ⟨before, after, hsplit⟩ := confined.split
  have fits : ((bits.drop start).take w).length ≤ w := List.length_take_le _ _
  rw [hsplit, run_append, run_append, run_replicate_false, run_replicate_false] at zero
  have fixed : (shift feedback)^[before] 0 = 0 :=
    Function.iterate_fixed (shift_zero feedback) before
  rw [fixed] at zero
  have window := eq_zero_of_iterate_shift feedback odd zero
  have loaded := iterate_shift_load feedback fits 0
  rw [window, show (0 : BitVec w) = 0#w from rfl, BitVec.zero_xor] at loaded
  have clear := load_eq_zero fits (eq_zero_of_iterate_shift feedback odd loaded)
  rw [hsplit, List.mem_append, List.mem_append] at nonzero
  rcases nonzero with (inside | inside) | inside
  · exact Bool.noConfusion (List.eq_of_mem_replicate inside)
  · exact Bool.noConfusion (clear true inside)
  · exact Bool.noConfusion (List.eq_of_mem_replicate inside)

/-! ## Parity -/

def bitValue (bit : Bool) : ZMod 2 := if bit then 1 else 0

theorem bitValue_xor (first second : Bool) :
    bitValue (first ^^ second) = bitValue first + bitValue second := by
  cases first <;> cases second <;> decide

def parity (word : BitVec w) : ZMod 2 :=
  ∑ i ∈ Finset.range w, bitValue (word.getLsbD i)

theorem parity_xor (first second : BitVec w) :
    parity (first ^^^ second) = parity first + parity second := by
  simp only [parity, BitVec.getLsbD_xor, bitValue_xor, Finset.sum_add_distrib]

@[simp] theorem parity_zero : parity (0 : BitVec w) = 0 := by
  simp [parity, bitValue]

theorem parity_top (positive : 0 < w) (bit : Bool) : parity (top w bit) = bitValue bit := by
  rw [parity, Finset.sum_eq_single (w - 1)]
  · simp [getLsbD_top, show w - 1 + 1 = w by omega]
  · intro i _ other
    simp [getLsbD_top, show ¬ i + 1 = w by omega, bitValue]
  · intro outside
    exact absurd (Finset.mem_range.mpr (by omega)) outside

/-- Shifting out the top bit changes the parity by that bit. -/
theorem parity_shiftLeft_one (positive : 0 < w) (word : BitVec w) :
    parity (word <<< 1) + bitValue word.msb = parity word := by
  obtain ⟨n, rfl⟩ : ∃ n, w = n + 1 := ⟨w - 1, by omega⟩
  unfold parity
  rw [Finset.sum_range_succ', Finset.sum_range_succ (fun i => bitValue (word.getLsbD i)),
    BitVec.msb_eq_getLsbD_last]
  have low : bitValue ((word <<< 1).getLsbD 0) = 0 := by simp [bitValue]
  rw [low, add_zero, Nat.add_sub_cancel]
  congr 1
  refine Finset.sum_congr rfl fun i hi => ?_
  have inside := Finset.mem_range.mp hi
  rw [BitVec.getLsbD_shiftLeft]
  simp only [show i + 1 < n + 1 by omega, show ¬ i + 1 < 1 by omega, decide_true, decide_false,
    Bool.not_false, Bool.true_and, Nat.add_sub_cancel]

theorem parity_shift (positive : 0 < w) (taps : parity feedback = 1) (register : BitVec w) :
    parity (shift feedback register) = parity register := by
  rw [← parity_shiftLeft_one positive register, shift]
  cases register.msb with
  | true => rw [if_pos rfl, parity_xor, taps]; rfl
  | false => rw [if_neg Bool.false_ne_true]; simp [bitValue]

theorem parity_run (positive : 0 < w) (taps : parity feedback = 1) (register : BitVec w)
    (bits : List Bool) :
    parity (run feedback register bits) = parity register + (bits.count true : ZMod 2) := by
  induction bits generalizing register with
  | nil => simp
  | cons bit bits ih =>
      rw [run_cons, ih, feed, parity_shift feedback positive taps, parity_xor,
        parity_top positive, add_assoc]
      cases bit <;> simp [bitValue, add_comm]

/-- An odd number of set input bits never leaves the register empty. -/
theorem run_odd_ne_zero (positive : 0 < w) (taps : parity feedback = 1) {bits : List Bool}
    (odd : bits.count true % 2 = 1) : run feedback 0 bits ≠ 0 := by
  intro zero
  have carried := parity_run feedback positive taps 0 bits
  rw [zero, parity_zero, zero_add] at carried
  have even := (ZMod.natCast_eq_zero_iff _ 2).mp carried.symm
  omega

end NasaCpp.General.ShiftRegister
