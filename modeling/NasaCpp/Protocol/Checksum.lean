import NasaCpp.General.ShiftRegister

/-!
# The frame checksum

`crc16` of `nasa_protocol_helper.hpp`, byte by byte and bit by bit, and its
reading as the sixteen-bit shift register with feedback word `0x1021` fed with
the message bits, most significant bit first.  Appending the checksum to the
message brings the register back to zero, which is what a receiver tests.
-/

namespace NasaCpp.Protocol

open General

def crcShift (crc : UInt16) : UInt16 :=
  if crc &&& 0x8000 ≠ 0 then crc <<< 1 ^^^ 0x1021 else crc <<< 1

/-- One round of the outer loop. -/
def crcByte (crc : UInt16) (byte : UInt8) : UInt16 :=
  crcShift^[8] (crc ^^^ byte.toUInt16 <<< 8)

/-- The bytes `startIndex` to `startIndex + length - 1`; the callers' ranges lie
within the data. -/
def crc16 (data : List UInt8) (startIndex length : Nat) : UInt16 :=
  ((data.drop startIndex).take length).foldl crcByte 0

namespace Checksum

def poly : BitVec 16 := 0x1021#16

def byteBits (byte : UInt8) : List Bool :=
  (List.range 8).map fun i => byte.toBitVec.getLsbD (7 - i)

def bits (bytes : List UInt8) : List Bool := bytes.flatMap byteBits

@[simp] theorem byteBits_length (byte : UInt8) : (byteBits byte).length = 8 := by
  simp [byteBits]

@[simp] theorem bits_nil : bits [] = [] := rfl

@[simp] theorem bits_cons (byte : UInt8) (bytes : List UInt8) :
    bits (byte :: bytes) = byteBits byte ++ bits bytes := rfl

theorem bits_append (first second : List UInt8) :
    bits (first ++ second) = bits first ++ bits second :=
  List.flatMap_append

@[simp] theorem bits_length (bytes : List UInt8) : (bits bytes).length = 8 * bytes.length := by
  induction bytes with
  | nil => rfl
  | cons byte bytes ih =>
      rw [bits_cons, List.length_append, byteBits_length, ih, List.length_cons]
      omega

theorem byteBits_xor (first second : UInt8) :
    byteBits (first ^^^ second) = List.zipWith xor (byteBits first) (byteBits second) := by
  simp [byteBits, List.range_succ]

theorem bits_zipWith_xor {first second : List UInt8} (same : first.length = second.length) :
    bits (List.zipWith (· ^^^ ·) first second) = List.zipWith xor (bits first) (bits second) := by
  induction first generalizing second with
  | nil => simp
  | cons byte first ih =>
      cases second with
      | nil => cases same
      | cons other second =>
          rw [List.zipWith_cons_cons, bits_cons, bits_cons, bits_cons, byteBits_xor,
            ih (Nat.succ.inj same),
            List.zipWith_append (by rw [byteBits_length, byteBits_length])]

/-! ## The loop as a shift register -/

theorem msb_iff (crc : UInt16) : crc &&& 0x8000 ≠ 0 ↔ crc.toBitVec.msb = true := by
  rw [BitVec.msb_eq_getLsbD_last, Ne, ← UInt16.toBitVec_inj, not_iff_comm, Bool.not_eq_true]
  constructor
  · intro clear
    apply BitVec.eq_of_getLsbD_eq
    intro i hi
    rw [UInt16.toBitVec_and, BitVec.getLsbD_and]
    have mask : (UInt16.toBitVec 0x8000) = BitVec.twoPow 16 15 := rfl
    rw [mask, BitVec.getLsbD_twoPow]
    by_cases last : 15 = i
    · subst last
      rw [show crc.toBitVec.getLsbD 15 = false from clear]
      rfl
    · simp [last]
  · intro zero
    have bit := congrArg (fun word : BitVec 16 => word.getLsbD 15) zero
    simpa [UInt16.toBitVec_and] using bit

theorem crcShift_toBitVec (crc : UInt16) :
    (crcShift crc).toBitVec = ShiftRegister.shift poly crc.toBitVec := by
  unfold crcShift ShiftRegister.shift
  by_cases leaves : crc.toBitVec.msb = true
  · rw [if_pos ((msb_iff crc).mpr leaves), if_pos leaves]
    rfl
  · rw [if_neg (fun yes => leaves ((msb_iff crc).mp yes)), if_neg leaves]
    rfl

theorem iterate_crcShift_toBitVec (count : Nat) (crc : UInt16) :
    (crcShift^[count] crc).toBitVec = (ShiftRegister.shift poly)^[count] crc.toBitVec := by
  induction count generalizing crc with
  | zero => rfl
  | succ count ih =>
      rw [Function.iterate_succ_apply, Function.iterate_succ_apply, ih, crcShift_toBitVec]

def word (high low : UInt8) : UInt16 := high.toUInt16 <<< 8 ||| low.toUInt16

theorem load_byteBits (byte : UInt8) :
    ShiftRegister.load 16 (byteBits byte) = (byte.toUInt16 <<< 8).toBitVec := by
  apply BitVec.eq_of_getLsbD_eq
  intro i hi
  rw [ShiftRegister.getLsbD_load _ i hi, UInt16.toBitVec_shiftLeft]
  change _ = (byte.toBitVec.setWidth 16 <<< 8).getLsbD i
  rw [BitVec.getLsbD_shiftLeft, BitVec.getLsbD_setWidth, List.getD_eq_getElem?_getD]
  by_cases high : i < 8
  · rw [List.getElem?_eq_none (by rw [byteBits_length]; omega)]
    simp [high]
  · have place : 7 - (16 - 1 - i) = i - 8 := by omega
    have inside : 16 - 1 - i < 8 := by omega
    simp [byteBits, inside, place, hi, high, show i - 8 < 16 by omega]

theorem load_word (high low : UInt8) :
    ShiftRegister.load 16 (bits [high, low]) = (word high low).toBitVec := by
  apply BitVec.eq_of_getLsbD_eq
  intro i hi
  rw [ShiftRegister.getLsbD_load _ i hi, word, UInt16.toBitVec_or, BitVec.getLsbD_or,
    ← load_byteBits high, ShiftRegister.getLsbD_load _ i hi, bits_cons, bits_cons, bits_nil,
    List.append_nil, List.getD_eq_getElem?_getD, List.getD_eq_getElem?_getD]
  change _ = (_ || (low.toBitVec.setWidth 16).getLsbD i)
  rw [BitVec.getLsbD_setWidth]
  by_cases inLow : i < 8
  · have place : 7 - (16 - 1 - i - 8) = i := by omega
    rw [List.getElem?_append_right (by rw [byteBits_length]; omega),
      List.getElem?_eq_none (l := byteBits high) (by rw [byteBits_length]; omega)]
    simp [byteBits, place, hi, show 16 - 1 - i - 8 < 8 by omega]
  · rw [List.getElem?_append_left (by rw [byteBits_length]; omega)]
    have clear : low.toBitVec.getLsbD i = false := BitVec.getLsbD_of_ge _ _ (by omega)
    simp [clear]

theorem crcByte_toBitVec (crc : UInt16) (byte : UInt8) :
    (crcByte crc byte).toBitVec = ShiftRegister.run poly crc.toBitVec (byteBits byte) := by
  rw [crcByte, iterate_crcShift_toBitVec, UInt16.toBitVec_xor, ← load_byteBits,
    ← ShiftRegister.iterate_shift_load poly (by rw [byteBits_length]; decide), byteBits_length]

theorem foldl_crcByte_toBitVec (bytes : List UInt8) (crc : UInt16) :
    (bytes.foldl crcByte crc).toBitVec = ShiftRegister.run poly crc.toBitVec (bits bytes) := by
  induction bytes generalizing crc with
  | nil => rfl
  | cons byte bytes ih =>
      rw [List.foldl_cons, ih, crcByte_toBitVec, bits_cons, ShiftRegister.run_append]

/-- The register is empty after a message and a two-byte word exactly when the
word is the message's checksum. -/
theorem run_codeword_eq_zero_iff (message : List UInt8) (high low : UInt8) :
    ShiftRegister.run poly 0 (bits (message ++ [high, low])) = 0 ↔
      word high low = message.foldl crcByte 0 := by
  rw [bits_append, ShiftRegister.run_append,
    ← ShiftRegister.iterate_shift_load poly (by simp), load_word]
  have start : ShiftRegister.run poly 0 (bits message) = (message.foldl crcByte 0).toBitVec :=
    (foldl_crcByte_toBitVec message 0).symm
  rw [start]
  constructor
  · intro zero
    have equal := ShiftRegister.eq_zero_of_iterate_shift poly rfl zero
    exact (UInt16.toBitVec_inj.mp (BitVec.xor_eq_zero_iff.mp equal)).symm
  · intro equal
    rw [equal, BitVec.xor_self]
    exact Function.iterate_fixed (ShiftRegister.shift_zero poly) _

end Checksum

end NasaCpp.Protocol
