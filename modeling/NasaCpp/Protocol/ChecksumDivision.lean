import NasaCpp.General.PolynomialDivision
import NasaCpp.Protocol.Frame

/-!
# The checksum as a remainder

`crc16` of a range is the remainder of its bits on division by `X^16 + X^12 + X^5 + 1`.  It is
linear in the data, and zero on a range that ends in its own checksum.
-/

namespace NasaCpp.Protocol

open General Polynomial

namespace Checksum

theorem generator_poly :
    ShiftRegister.generator poly = (X ^ 16 + X ^ 12 + X ^ 5 + 1 : (ZMod 2)[X]) := by
  have taps : ShiftRegister.wordPoly poly = (X ^ 12 + X ^ 5 + 1 : (ZMod 2)[X]) := by
    unfold ShiftRegister.wordPoly
    simp [Finset.sum_range_succ, poly, ShiftRegister.bitValue]
    ring
  rw [ShiftRegister.generator, taps]
  ring

theorem crc16_toBitVec (data : List UInt8) (startIndex length : Nat) :
    (crc16 data startIndex length).toBitVec =
      ShiftRegister.run poly 0 (bits ((data.drop startIndex).take length)) :=
  foldl_crcByte_toBitVec _ 0

/-- The checksums of equally long data add. -/
theorem crc16_xor {data other : List UInt8} (same : other.length = data.length)
    (startIndex length : Nat) :
    crc16 (List.zipWith (· ^^^ ·) data other) startIndex length =
      crc16 data startIndex length ^^^ crc16 other startIndex length := by
  have lengths : ((data.drop startIndex).take length).length =
      ((other.drop startIndex).take length).length := by
    simp only [List.length_take, List.length_drop, same]
  apply UInt16.toBitVec_inj.mp
  rw [UInt16.toBitVec_xor, crc16_toBitVec, crc16_toBitVec, crc16_toBitVec, List.drop_zipWith,
    List.take_zipWith, bits_zipWith_xor lengths,
    ← ShiftRegister.run_xor poly 0 0 (by rw [bits_length, bits_length, lengths])]
  rfl

/-- Bytes behind a range are the end of a longer one. -/
theorem range_append {data : List UInt8} {startIndex length : Nat}
    (inside : startIndex + length ≤ data.length) (tail rest : List UInt8) :
    ((data.take (startIndex + length) ++ (tail ++ rest)).drop startIndex).take
        (length + tail.length) =
      (data.drop startIndex).take length ++ tail := by
  have long : ((data.drop startIndex).take length).length = length := by
    rw [List.length_take, List.length_drop]
    omega
  rw [List.drop_append_of_le_length (by rw [List.length_take]; omega), List.drop_take,
    Nat.add_sub_cancel_left, ← List.append_assoc]
  exact List.take_left' (by rw [List.length_append, long])

def crcBytes (crc : UInt16) : List UInt8 := [(crc >>> 8).toUInt8, (crc &&& 0xFF).toUInt8]

/-- A range followed by its own checksum has the checksum zero. -/
theorem crc16_codeword {data : List UInt8} {startIndex length : Nat}
    (inside : startIndex + length ≤ data.length) (rest : List UInt8) :
    crc16 (data.take (startIndex + length) ++ (crcBytes (crc16 data startIndex length) ++ rest))
      startIndex (length + 2) = 0 := by
  have range := range_append inside (crcBytes (crc16 data startIndex length)) rest
  apply UInt16.toBitVec_inj.mp
  rw [crc16_toBitVec]
  refine (congrArg (fun bytes => ShiftRegister.run poly 0 (bits bytes)) range).trans ?_
  exact (run_codeword_eq_zero_iff _ _ _).mpr ((word_eq_iff _ _ _).mpr ⟨rfl, rfl⟩)

/-- `crc16` of a range is the remainder of its bits, moved up by sixteen places; it is linear in
the data, and a range that ends in its own checksum has none. -/
theorem crc16_eq_remainder {data : List UInt8} {startIndex length : Nat}
    (inside : startIndex + length ≤ data.length) :
    ShiftRegister.wordPoly (crc16 data startIndex length).toBitVec =
        (ShiftRegister.messagePoly (bits ((data.drop startIndex).take length)) * X ^ 16) %ₘ
          (X ^ 16 + X ^ 12 + X ^ 5 + 1) ∧
      (∀ other : List UInt8, other.length = data.length →
        crc16 (List.zipWith (· ^^^ ·) data other) startIndex length =
          crc16 data startIndex length ^^^ crc16 other startIndex length) ∧
      ∀ rest, crc16
        (data.take (startIndex + length) ++ (crcBytes (crc16 data startIndex length) ++ rest))
        startIndex (length + 2) = 0 := by
  refine ⟨?_, fun other same => crc16_xor same startIndex length, crc16_codeword inside⟩
  rw [crc16_toBitVec, ← generator_poly]
  exact ShiftRegister.wordPoly_run poly (by decide) _

def digits : List UInt8 := [0x31, 0x32, 0x33, 0x34, 0x35, 0x36, 0x37, 0x38, 0x39]

theorem crc16_eq_remainder_digits :
    crc16 digits 0 9 = 0x31C3 ∧
      ShiftRegister.wordPoly (0x31C3 : UInt16).toBitVec =
        (ShiftRegister.messagePoly (bits digits) * X ^ 16) %ₘ (X ^ 16 + X ^ 12 + X ^ 5 + 1) := by
  have value : crc16 digits 0 9 = 0x31C3 := by decide +kernel
  have remainder := (@crc16_eq_remainder digits 0 9 (by decide)).1
  rw [value] at remainder
  exact ⟨value, remainder⟩

end Checksum

end NasaCpp.Protocol
