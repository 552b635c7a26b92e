import NasaCpp.Protocol.Frame

/-!
# What the checksum detects

An accepted frame is a codeword: body and checksum together bring the register
back to zero.  Adding an error pattern to it adds what the pattern alone leaves
in the register, so a pattern is detected whenever that is not zero, which holds
for every burst of at most sixteen bits and every odd number of flipped bits.
-/

namespace NasaCpp.Protocol.ErrorDetection

open General

/-- `data` with the pattern added to the bytes from offset 3 up to and including
the checksum; the end byte stays. -/
def corrupt (data errors : List UInt8) : List UInt8 :=
  data.take 3 ++ List.zipWith (· ^^^ ·) (data.drop 3) (errors ++ [0])

/-- The flipped bits, in transmission order of the checksum, lie within sixteen
consecutive positions. -/
def Burst (errors : List UInt8) : Prop :=
  ∃ start, ShiftRegister.Confined (Checksum.bits errors) start 16

/-- An odd number of bits is flipped. -/
def OddFlips (errors : List UInt8) : Prop :=
  (Checksum.bits errors).count true % 2 = 1

theorem true_mem_byteBits {byte : UInt8} (nonzero : byte ≠ 0) : true ∈ Checksum.byteBits byte := by
  by_contra absent
  apply nonzero
  apply UInt8.toBitVec_inj.mp
  apply BitVec.eq_of_getLsbD_eq
  intro i hi
  have member : byte.toBitVec.getLsbD (7 - (7 - i)) ∈ Checksum.byteBits byte :=
    List.mem_map.mpr ⟨7 - i, List.mem_range.mpr (by omega), rfl⟩
  rw [show 7 - (7 - i) = i by omega] at member
  cases hbit : byte.toBitVec.getLsbD i with
  | true => exact absurd (hbit ▸ member) absent
  | false => simp

theorem true_mem_bits {errors : List UInt8} (nonzero : ∃ byte ∈ errors, byte ≠ 0) :
    true ∈ Checksum.bits errors := by
  obtain ⟨byte, hmem, hne⟩ := nonzero
  exact List.mem_flatMap.mpr ⟨byte, hmem, true_mem_byteBits hne⟩

/-- A detectable pattern leaves something in the register. -/
theorem run_errors_ne_zero {errors : List UInt8} (nonzero : ∃ byte ∈ errors, byte ≠ 0)
    (pattern : Burst errors ∨ OddFlips errors) :
    ShiftRegister.run Checksum.poly 0 (Checksum.bits errors) ≠ 0 := by
  rcases pattern with ⟨start, confined⟩ | odd
  · exact ShiftRegister.run_burst_ne_zero Checksum.poly rfl confined (true_mem_bits nonzero)
  · have taps : ShiftRegister.parity Checksum.poly = 1 := by decide
    exact ShiftRegister.run_odd_ne_zero Checksum.poly (by decide) taps odd

/-- A frame with the pattern added is a raw frame with the pattern added to its
body and its checksum. -/
theorem corrupt_rawFrame {body errors : List UInt8} {crcHigh crcLow high low : UInt8}
    (same : body.length = errors.length) :
    corrupt (rawFrame body crcHigh crcLow) (errors ++ [high, low]) =
      rawFrame (List.zipWith (· ^^^ ·) body errors) (crcHigh ^^^ high) (crcLow ^^^ low) := by
  have shorter : (List.zipWith (· ^^^ ·) body errors).length = body.length := by
    rw [List.length_zipWith, same, Nat.min_self]
  unfold corrupt rawFrame
  rw [shorter, List.append_assoc errors]
  simp only [List.take_succ_cons, List.take_zero, List.drop_succ_cons, List.drop_zero,
    List.cons_append, List.nil_append]
  rw [List.zipWith_append same]
  simp

/-- Superposition on codewords: the frame passes the checksum test with the
pattern added only if the pattern alone leaves the register empty. -/
theorem run_errors_eq_zero {body errors : List UInt8} {high low : UInt8}
    (same : body.length = errors.length)
    (passes : Checksum.word ((checksumOf body >>> 8).toUInt8 ^^^ high)
        ((checksumOf body &&& 0xFF).toUInt8 ^^^ low) =
      checksumOf (List.zipWith (· ^^^ ·) body errors)) :
    ShiftRegister.run Checksum.poly 0 (Checksum.bits (errors ++ [high, low])) = 0 := by
  let sent := body ++ [(checksumOf body >>> 8).toUInt8, (checksumOf body &&& 0xFF).toUInt8]
  have sentZero : ShiftRegister.run Checksum.poly 0 (Checksum.bits sent) = 0 :=
    (Checksum.run_codeword_eq_zero_iff _ _ _).mpr ((word_eq_iff _ _ _).mpr ⟨rfl, rfl⟩)
  have receivedZero := (Checksum.run_codeword_eq_zero_iff _ _ _).mpr passes
  have lengths : sent.length = (errors ++ [high, low]).length := by simp [sent, same]
  have received : List.zipWith (· ^^^ ·) body errors ++
      [(checksumOf body >>> 8).toUInt8 ^^^ high, (checksumOf body &&& 0xFF).toUInt8 ^^^ low] =
      List.zipWith (· ^^^ ·) sent (errors ++ [high, low]) := by
    rw [List.zipWith_append same]
    rfl
  rw [received, Checksum.bits_zipWith_xor lengths] at receivedZero
  have sum := ShiftRegister.run_xor Checksum.poly 0 0
    (show (Checksum.bits sent).length = (Checksum.bits (errors ++ [high, low])).length by
      rw [Checksum.bits_length, Checksum.bits_length, lengths])
  rw [sentZero] at sum
  have zero_xor : ∀ word : BitVec 16, (0 : BitVec 16) ^^^ word = word := fun _ => BitVec.zero_xor
  rw [zero_xor, zero_xor, receivedZero] at sum
  exact sum.symm

/-- Every frame with a burst of at most sixteen bits, or an odd number of flipped
bits, behind its length field is rejected by its checksum. -/
theorem decode_corrupt {data errors : List UInt8} {packet : Packet}
    (accepted : Packet.decode data = some (.ok packet))
    (covers : errors.length = data.length - 4)
    (nonzero : ∃ byte ∈ errors, byte ≠ 0)
    (pattern : Burst errors ∨ OddFlips errors) :
    Packet.decode (corrupt data errors) = some (.error .crcError) := by
  obtain ⟨body, fits, rfl⟩ := Packet.exists_frame_of_ok accepted
  rw [length_frame] at covers
  obtain ⟨front, high, low, rfl, same⟩ :
      ∃ front high low, errors = front ++ [high, low] ∧ body.length = front.length := by
    obtain ⟨high, low, htail⟩ := List.length_eq_two.mp
      (show (errors.drop body.length).length = 2 by rw [List.length_drop]; omega)
    refine ⟨errors.take body.length, high, low, ?_, ?_⟩
    · rw [← htail, List.take_append_drop]
    · rw [List.length_take]
      omega
  have fits' : BodyFits (List.zipWith (· ^^^ ·) body front) := by
    have length_eq : (List.zipWith (· ^^^ ·) body front).length = body.length := by
      rw [List.length_zipWith, same, Nat.min_self]
    unfold BodyFits
    rw [length_eq]
    exact fits
  rw [frame, corrupt_rawFrame same, Packet.decode_rawFrame _ _ fits', if_pos]
  intro passes
  exact run_errors_ne_zero nonzero pattern (run_errors_eq_zero same passes)

/-- A single bit of the message flipped in a frame with one Enum message. -/
theorem decode_corrupt_one_bit :
    Packet.decode (corrupt
        [50, 0, 17, 128, 0, 0, 176, 255, 32, 192, 19, 7, 1, 64, 101, 1, 65, 24, 52]
        [0, 0, 0, 0, 0, 0, 0, 0, 0, 0, 0, 0, 4, 0, 0]) = some (.error .crcError) := by
  obtain ⟨packet, accepted⟩ : ∃ packet, Packet.decode
      [50, 0, 17, 128, 0, 0, 176, 255, 32, 192, 19, 7, 1, 64, 101, 1, 65, 24, 52] =
        some (.ok packet) :=
    ⟨{ sa := ⟨.jigTester, 0, 0⟩, da := Packet.broadcastSelf
       command := { dataType := .request, packetNumber := 7 }
       messages := [{ MessageSet.create ⟨0x4065⟩ 1 with size := 3 }] }, by decide +kernel⟩
  have odd : OddFlips [0, 0, 0, 0, 0, 0, 0, 0, 0, 0, 0, 0, 4, 0, 0] := by
    unfold OddFlips
    decide +kernel
  exact decode_corrupt accepted rfl ⟨4, by simp, by decide⟩ (.inr odd)

end NasaCpp.Protocol.ErrorDetection
