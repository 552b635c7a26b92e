import Mathlib.Algebra.CharP.Two
import Mathlib.Algebra.Polynomial.Div
import NasaCpp.General.ShiftRegister

/-!
# Division by a shift register

Over the field of two elements a word is a polynomial, bit `i` being the coefficient of
`X ^ i`.  A shift multiplies the register by `X` and subtracts the generator when the top bit
leaves, so a register that has been fed a message holds the remainder of the message, moved
up by the width, on division by the generator.
-/

namespace NasaCpp.General.ShiftRegister

open Polynomial

variable {w : Nat}

noncomputable def wordPoly (word : BitVec w) : (ZMod 2)[X] :=
  ∑ i ∈ Finset.range w, C (bitValue (word.getLsbD i)) * X ^ i

/-- A bit string, most significant bit first. -/
noncomputable def messagePoly : List Bool → (ZMod 2)[X]
  | [] => 0
  | bit :: bits => C (bitValue bit) * X ^ bits.length + messagePoly bits

/-- The feedback word below a leading power. -/
noncomputable def generator (feedback : BitVec w) : (ZMod 2)[X] := X ^ w + wordPoly feedback

/-! ## Words -/

@[simp] theorem coeff_wordPoly (word : BitVec w) (i : Nat) :
    (wordPoly word).coeff i = bitValue (word.getLsbD i) := by
  simp only [wordPoly, finsetSum_coeff, coeff_C_mul_X_pow, Finset.sum_ite_eq, Finset.mem_range]
  split
  · rfl
  · rename_i outside
    rw [BitVec.getLsbD_of_ge word i (not_lt.mp outside)]
    rfl

theorem wordPoly_xor (first second : BitVec w) :
    wordPoly (first ^^^ second) = wordPoly first + wordPoly second := by
  ext i
  rw [coeff_add, coeff_wordPoly, coeff_wordPoly, coeff_wordPoly, BitVec.getLsbD_xor, bitValue_xor]

@[simp] theorem wordPoly_zero : wordPoly (0 : BitVec w) = 0 := by
  ext i
  simp [bitValue]

theorem wordPoly_top (positive : 0 < w) (bit : Bool) :
    wordPoly (top w bit) = C (bitValue bit) * X ^ (w - 1) := by
  ext i
  rw [coeff_wordPoly, getLsbD_top, coeff_C_mul_X_pow]
  by_cases last : i = w - 1
  · rw [if_pos last, decide_eq_true (by omega), Bool.true_and]
  · rw [if_neg last, decide_eq_false (by omega), Bool.false_and]
    rfl

theorem degree_wordPoly_lt (word : BitVec w) : (wordPoly word).degree < w := by
  refine (degree_lt_iff_coeff_zero _ _).mpr fun i outside => ?_
  rw [coeff_wordPoly, BitVec.getLsbD_of_ge word i outside]
  rfl

theorem monic_generator (feedback : BitVec w) : (generator feedback).Monic :=
  monic_X_pow_add (degree_wordPoly_lt feedback)

theorem degree_generator (feedback : BitVec w) : (generator feedback).degree = w := by
  have below : (wordPoly feedback).degree < (X ^ w : (ZMod 2)[X]).degree := by
    rw [degree_X_pow]
    exact degree_wordPoly_lt feedback
  rw [generator, degree_add_eq_left_of_degree_lt below, degree_X_pow]

/-! ## Shifting and feeding -/

/-- Moving a word up multiplies it by `X`, but for the bit that leaves. -/
theorem X_mul_wordPoly (positive : 0 < w) (word : BitVec w) :
    X * wordPoly word = wordPoly (word <<< 1) + C (bitValue word.msb) * X ^ w := by
  ext i
  rw [coeff_add, coeff_wordPoly, coeff_C_mul_X_pow, BitVec.getLsbD_shiftLeft]
  cases i with
  | zero =>
      rw [coeff_X_mul_zero, if_neg (by omega)]
      simp [bitValue]
  | succ i =>
      rw [coeff_X_mul, coeff_wordPoly, BitVec.msb_eq_getLsbD_last]
      by_cases last : i + 1 = w
      · rw [if_pos last, show w - 1 = i by omega]
        simp [last, bitValue]
      · rw [if_neg last, add_zero]
        by_cases inside : i + 1 < w
        · simp [inside]
        · rw [BitVec.getLsbD_of_ge word i (by omega)]
          simp [inside]

section Feedback

variable (feedback : BitVec w)

/-- The word that is added when the top bit leaves takes a generator off. -/
theorem wordPoly_shift (positive : 0 < w) (register : BitVec w) :
    X * wordPoly register =
      wordPoly (shift feedback register) + C (bitValue register.msb) * generator feedback := by
  rw [X_mul_wordPoly positive, shift]
  cases register.msb with
  | false =>
      rw [if_neg Bool.false_ne_true]
      simp [bitValue]
  | true =>
      have cancel : wordPoly feedback + wordPoly feedback = 0 := CharTwo.add_self_eq_zero _
      have one : C (bitValue true) = (1 : (ZMod 2)[X]) := C_1
      rw [if_pos rfl, wordPoly_xor, one, one_mul, one_mul, generator]
      calc wordPoly (register <<< 1) + X ^ w
          = wordPoly (register <<< 1) + X ^ w + (wordPoly feedback + wordPoly feedback) := by
            rw [cancel, add_zero]
        _ = wordPoly (register <<< 1) + wordPoly feedback + (X ^ w + wordPoly feedback) := by ring

theorem generator_dvd_feed (positive : 0 < w) (register : BitVec w) (bit : Bool) :
    generator feedback ∣
      X * wordPoly register + C (bitValue bit) * X ^ w - wordPoly (feed feedback register bit) := by
  refine ⟨C (bitValue (register ^^^ top w bit).msb), ?_⟩
  have shifted := wordPoly_shift feedback positive (register ^^^ top w bit)
  have power : X ^ w = X * (X ^ (w - 1) : (ZMod 2)[X]) := by
    rw [← pow_succ', Nat.sub_add_cancel positive]
  rw [wordPoly_xor, wordPoly_top positive] at shifted
  calc X * wordPoly register + C (bitValue bit) * X ^ w - wordPoly (feed feedback register bit)
      = X * (wordPoly register + C (bitValue bit) * X ^ (w - 1)) -
          wordPoly (feed feedback register bit) := by rw [power]; ring
    _ = generator feedback * C (bitValue (register ^^^ top w bit).msb) := by
      rw [shifted, feed, add_sub_cancel_left, mul_comm]

/-- What a run leaves is congruent to the register and the message side by side. -/
theorem generator_dvd_run (positive : 0 < w) (register : BitVec w) (bits : List Bool) :
    generator feedback ∣
      wordPoly register * X ^ bits.length + messagePoly bits * X ^ w -
        wordPoly (run feedback register bits) := by
  induction bits generalizing register with
  | nil => simp [messagePoly]
  | cons bit bits ih =>
      have fed := (generator_dvd_feed feedback positive register bit).mul_right (X ^ bits.length)
      have rest := ih (feed feedback register bit)
      refine (dvd_add fed rest).trans (dvd_of_eq ?_)
      rw [run_cons, List.length_cons, messagePoly, pow_succ]
      ring

/-- An empty register that is fed a message holds its remainder. -/
theorem wordPoly_run (positive : 0 < w) (bits : List Bool) :
    wordPoly (run feedback 0 bits) = (messagePoly bits * X ^ w) %ₘ generator feedback := by
  have congruent := generator_dvd_run feedback positive 0 bits
  rw [wordPoly_zero, zero_mul, zero_add] at congruent
  have small : (wordPoly (run feedback 0 bits)).degree < (generator feedback).degree := by
    rw [degree_generator]
    exact degree_wordPoly_lt _
  have remainder := modByMonic_eq_of_dvd_sub (monic_generator feedback) congruent
  rw [remainder, (modByMonic_eq_self_iff (monic_generator feedback)).mpr small]

end Feedback

end NasaCpp.General.ShiftRegister
