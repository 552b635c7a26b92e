import NasaCpp.Protocol.RoundTrip

/-!
# The two ideas of a frame

The framing loop measures the length field and the buffer, `Packet.decode` the
whole vector, with the same limits 16 and 1500.  The length field is two less
than the vector and the loop asks for more than 16 bytes, so the two disagree at
both ends: the loop never cuts out an accepted vector of 16 or 17 bytes, and it
hands over vectors of 1501 and 1502 bytes that the decoder finds too long.
-/

namespace NasaCpp.Protocol.NasaProtocol

/-- The buffer starts with a frame that an iteration hands to `Packet.decode`. -/
def HandsOver (data piece : List UInt8) : Prop :=
  ∃ high low rest, data = 0x32 :: high :: low :: rest ∧ 16 < data.length ∧
    16 ≤ field high low ∧ field high low ≤ 1500 ∧ field high low + 2 ≤ data.length ∧
      piece = data.take (field high low + 2)

/-- The loop started on the buffer cuts the piece out at some point. -/
def CutsOut (buffer piece : List UInt8) : Prop :=
  ∃ offset, framer.Reaches buffer offset ∧ HandsOver (buffer.drop offset) piece

/-- The decoder has no objection to the start byte or the size. -/
def AgreesOnHeader (piece : List UInt8) : Prop :=
  Packet.decode piece ≠ some (.error .invalidStartByte) ∧
    Packet.decode piece ≠ some (.error .unexpectedSize) ∧
      Packet.decode piece ≠ some (.error .sizeDidNotMatch)

/-! ## Long frames -/

/-- A piece is a vector that its length field describes. -/
theorem HandsOver.described {data piece : List UInt8} (cut : HandsOver data piece) :
    ∃ high low rest, piece = 0x32 :: high :: low :: rest ∧ 16 ≤ field high low ∧
      field high low ≤ 1500 ∧ piece.length = field high low + 2 := by
  obtain ⟨high, low, rest, rfl, -, low16, high1500, inside, rfl⟩ := cut
  refine ⟨high, low, rest.take (field high low - 1), ?_, low16, high1500, ?_⟩
  · obtain ⟨size, hsize⟩ : ∃ size, field high low = size + 1 :=
      ⟨field high low - 1, by omega⟩
    rw [hsize]
    rfl
  · rw [List.length_take, Nat.min_eq_left inside]

/-- A described vector of more than 1500 bytes is too long for the decoder. -/
theorem decode_tooLong {high low : UInt8} {rest : List UInt8}
    (long : 1500 < (0x32 :: high :: low :: rest : List UInt8).length) :
    Packet.decode (0x32 :: high :: low :: rest) = some (.error .unexpectedSize) := by
  have outside : (0x32 :: high :: low :: rest : List UInt8).length < 16 ∨
      (0x32 :: high :: low :: rest : List UInt8).length > 1500 := .inr long
  simp only [Packet.decode, List.getElem?_cons_zero, Option.bind_eq_bind, Option.bind_some, ne_eq,
    not_true_eq_false, if_false, outside, if_true]
  rfl

/-- What is left of the decoder where start byte and size are right. -/
theorem decode_described {high low : UInt8} {rest : List UInt8}
    (long : 16 ≤ (0x32 :: high :: low :: rest : List UInt8).length)
    (short : (0x32 :: high :: low :: rest : List UInt8).length ≤ 1500)
    (size : (0x32 :: high :: low :: rest : List UInt8).length = field high low + 2)
    {result : DecodeResult}
    (herror : Packet.decode (0x32 :: high :: low :: rest) = some (.error result)) :
    result = .invalidEndByte ∨ result = .crcError := by
  have inside : ¬ ((0x32 :: high :: low :: rest : List UInt8).length < 16 ∨
      (0x32 :: high :: low :: rest : List UInt8).length > 1500) := by omega
  have size_eq : (high.toNat <<< 8 ||| low.toNat) + 2 =
      (0x32 :: high :: low :: rest : List UInt8).length := size.symm
  unfold Packet.decode at herror
  simp only [List.getElem?_cons_zero, List.getElem?_cons_succ, Option.bind_eq_bind,
    Option.bind_some, ne_eq, not_true_eq_false, if_false, inside, size_eq] at herror
  obtain ⟨last, -, herror⟩ := Option.bind_eq_some_iff.mp herror
  split at herror
  · cases herror
    exact .inl rfl
  obtain ⟨crcHigh, -, herror⟩ := Option.bind_eq_some_iff.mp herror
  obtain ⟨crcLow, -, herror⟩ := Option.bind_eq_some_iff.mp herror
  split at herror
  · cases herror
    exact .inr rfl
  · obtain ⟨packet, -, impossible⟩ := Option.bind_eq_some_iff.mp herror
    cases impossible

/-- Of the checks the loop has made too, the upper limit alone has two outcomes. -/
theorem HandsOver.agreesOnHeader_iff {data piece : List UInt8} (cut : HandsOver data piece) :
    AgreesOnHeader piece ↔ piece.length ≤ 1500 := by
  obtain ⟨high, low, rest, rfl, low16, -, size⟩ := cut.described
  constructor
  · intro agrees
    by_contra long
    exact agrees.2.1 (decode_tooLong (Nat.lt_of_not_le long))
  · intro short
    have rejected := @decode_described high low rest (by omega) short size
    refine ⟨fun herror => ?_, fun herror => ?_, fun herror => ?_⟩
    all_goals
      rcases rejected herror with impossible | impossible <;> cases impossible

/-! ## Short frames -/

/-- A frame of 16 bytes stays in the buffer. -/
theorem decode_sixteen {body : List UInt8} (length_body : body.length = 10) :
    decode (frame body) = some ([], frame body) :=
  framer.run_of_wait (step_short (by rw [length_frame, length_body]))

/-- A frame of 17 bytes loses its start byte. -/
theorem decode_seventeen {body : List UInt8} (length_body : body.length = 11) :
    decode (frame body) = some ([], (frame body).drop 1) := by
  have small :
      field ((body.length + 4) >>> 8).toUInt8 ((body.length + 4) &&& 0xFF).toUInt8 < 16 := by
    rw [field_bytes (by omega)]
    omega
  have long : 16 < (frame body).length := by
    rw [length_frame]
    omega
  have dropped : framer.step (frame body) = .consume 1 [] := by
    change step (frame body) = _
    unfold frame rawFrame at long ⊢
    rw [step_long long, if_neg (not_not.mpr rfl), if_pos (.inr small)]
  have waits : framer.step ((frame body).drop 1) = .wait :=
    step_short (by rw [List.length_drop, length_frame]; omega)
  unfold decode
  rw [framer.run_of_consume dropped, framer.run_of_wait waits]
  rfl

/-- An accepted frame alone in the buffer comes out if and only if it has at least
18 bytes. -/
theorem decode_accepted_alone_iff {data : List UInt8} {packet : Packet}
    (hok : Packet.decode data = some (.ok packet))
    (kept : packet.command.dataType ≠ .ack ∧ packet.command.dataType ≠ .nack) :
    decode data = some ([packet], []) ↔ 18 ≤ data.length := by
  obtain ⟨body, fits, rfl⟩ := Packet.exists_frame_of_ok hok
  rw [length_frame]
  constructor
  · intro whole
    by_contra short
    have cases_length : body.length = 10 ∨ body.length = 11 := by
      have := fits.1
      omega
    rcases cases_length with length_body | length_body
    · rw [decode_sixteen length_body] at whole
      cases whole
    · rw [decode_seventeen length_body] at whole
      cases whole
  · intro long
    have keep : ¬ (packet.command.dataType = .ack ∨ packet.command.dataType = .nack) := by tauto
    have alone := decode_accepted fits (by omega) hok []
    rw [List.append_nil] at alone
    rw [alone, delivered, if_neg keep]
    exact congrArg (fun result => result.map fun result : List Packet × List UInt8 =>
      ([packet] ++ result.1, result.2)) framer.run_nil

/-- The loop and the decoder agree on an accepted frame from 18 bytes on, and on a
frame the loop cuts out up to 1500 bytes. -/
theorem framing_agrees_iff (data buffer piece : List UInt8) :
    (∀ packet, Packet.decode data = some (.ok packet) →
        packet.command.dataType ≠ .ack ∧ packet.command.dataType ≠ .nack →
          (decode data = some ([packet], []) ↔ 18 ≤ data.length)) ∧
      (CutsOut buffer piece → (AgreesOnHeader piece ↔ piece.length ≤ 1500)) :=
  ⟨fun _ hok kept => decode_accepted_alone_iff hok kept,
    fun ⟨_, _, cut⟩ => cut.agreesOnHeader_iff⟩

/-- A frame of 19 bytes comes out whole, and a length field of 16 bytes is agreed on. -/
theorem framing_agrees_on_short_frames :
    decode [50, 0, 17, 128, 0, 0, 176, 255, 32, 192, 19, 7, 1, 64, 101, 1, 65, 24, 52] =
        some ([{ sa := ⟨.jigTester, 0, 0⟩, da := Packet.broadcastSelf
                 command := { dataType := .request, packetNumber := 7 }
                 messages := [{ MessageSet.create ⟨0x4065⟩ 1 with size := 3 }] }], []) ∧
      AgreesOnHeader [50, 0, 16, 0, 0, 0, 0, 0, 0, 0, 0, 0, 0, 0, 0, 0, 0, 0] := by
  obtain ⟨whole, header⟩ := framing_agrees_iff
    [50, 0, 17, 128, 0, 0, 176, 255, 32, 192, 19, 7, 1, 64, 101, 1, 65, 24, 52]
    [50, 0, 16, 0, 0, 0, 0, 0, 0, 0, 0, 0, 0, 0, 0, 0, 0, 0]
    [50, 0, 16, 0, 0, 0, 0, 0, 0, 0, 0, 0, 0, 0, 0, 0, 0, 0]
  have cut : CutsOut [50, 0, 16, 0, 0, 0, 0, 0, 0, 0, 0, 0, 0, 0, 0, 0, 0, 0]
      [50, 0, 16, 0, 0, 0, 0, 0, 0, 0, 0, 0, 0, 0, 0, 0, 0, 0] :=
    ⟨0, .start, 0, 16, _, rfl, by decide, by decide, by decide, by decide, rfl⟩
  exact ⟨(whole _ (by decide +kernel) (by decide)).mpr (by decide), (header cut).mpr (by decide)⟩

def longestPiece : List UInt8 := 0x32 :: 0x05 :: 0xDC :: List.replicate 1499 0

theorem length_longestPiece : longestPiece.length = 1502 := by
  rw [longestPiece, List.length_cons, List.length_cons, List.length_cons, List.length_replicate]

theorem cutsOut_longestPiece : CutsOut longestPiece longestPiece := by
  have length_eq := length_longestPiece
  have field_eq : field 0x05 0xDC = 1500 := rfl
  refine ⟨0, .start, 0x05, 0xDC, _, rfl, ?_, by decide, by decide, ?_, ?_⟩
  · rw [List.drop_zero]
    omega
  · rw [List.drop_zero]
    omega
  · rw [List.drop_zero, field_eq, List.take_of_length_le (Nat.le_of_eq length_eq)]

/-- A request without messages is accepted by the decoder and never leaves the
buffer; a length field of 1500 bytes announces a frame the decoder refuses. -/
theorem framing_disagrees :
    ¬ (∀ data packet, Packet.decode data = some (.ok packet) →
        packet.command.dataType ≠ .ack ∧ packet.command.dataType ≠ .nack →
          decode data = some ([packet], [])) ∧
      ¬ ∀ buffer piece, CutsOut buffer piece → AgreesOnHeader piece := by
  constructor
  · intro all
    have whole := all [50, 0, 14, 128, 0, 0, 176, 255, 32, 192, 19, 7, 0, 122, 75, 52]
      { sa := ⟨.jigTester, 0, 0⟩, da := Packet.broadcastSelf
        command := { dataType := .request, packetNumber := 7 }
        messages := [] } (by decide +kernel) (by decide)
    rw [decode, framer.run_of_wait rfl] at whole
    cases whole
  · intro all
    refine (all longestPiece longestPiece cutsOut_longestPiece).2.1 (decode_tooLong ?_)
    exact Nat.lt_of_lt_of_eq (by decide : 1500 < 1502) length_longestPiece.symm

end NasaCpp.Protocol.NasaProtocol
