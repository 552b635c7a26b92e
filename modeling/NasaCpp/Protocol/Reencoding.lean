import NasaCpp.Protocol.Tiling

/-!
# Encoding a decoded frame

The converse round trip: a frame whose scalar messages fill the payload is
encoded to itself, except that the three reserved bits of the first command byte
are lost.
-/

namespace NasaCpp.Protocol

/-! ## Values -/

namespace MessageSet

/-- The low 32 bits of the storage of a decoded value. -/
theorem toNat_mod_of_toInt {value : Int64} {word : Nat} (small : word < 2 ^ 32)
    (residue : value.toInt.bmod (2 ^ 32) = (word : Int).bmod (2 ^ 32)) :
    value.toBitVec.toNat % 2 ^ 32 = word := by
  have signed : value.toInt = (value.toBitVec.toNat : Int).bmod (2 ^ 64) :=
    BitVec.toInt_eq_toNat_bmod _
  rw [signed, Int.bmod_bmod_of_dvd (by decide)] at residue
  have same := congrArg (fun residue => residue % ((2 ^ 32 : Nat) : Int)) residue
  rw [Int.bmod_emod, Int.bmod_emod] at same
  omega

/-! The value bytes of a decoded value are those it was decoded from. -/

theorem valueBytes_enumValue (byte : UInt8) : valueBytes .Enum (enumValue byte) = [byte] := by
  have bound := byte.toNat_lt
  have low : (enumValue byte).toBitVec.toNat % 2 ^ 32 = byte.toNat :=
    toNat_mod_of_toInt (by omega) (by rw [toInt_enumValue])
  have same : byteAt (enumValue byte) 0 = byte := by
    apply UInt8.toNat.inj
    rw [toNat_byteAt]
    omega
  rw [valueBytes, same]

theorem valueBytes_variableValue (high low : UInt8) :
    valueBytes .Variable (variableValue high low) = [high, low] := by
  have boundHigh := high.toNat_lt
  have boundLow := low.toNat_lt
  have word : (variableValue high low).toBitVec.toNat % 2 ^ 32 = high.toNat * 256 + low.toNat := by
    refine toNat_mod_of_toInt (by omega) ?_
    rw [toInt_variableValue, field_eq]
  have same : byteAt (variableValue high low) 8 = high ∧
      byteAt (variableValue high low) 0 = low := by
    constructor <;> apply UInt8.toNat.inj <;> rw [toNat_byteAt] <;> omega
  rw [valueBytes, same.1, same.2]

theorem valueBytes_longVariableValue (b3 b2 b1 b0 : UInt8) :
    valueBytes .LongVariable (longVariableValue b3 b2 b1 b0) = [b3, b2, b1, b0] := by
  have bound3 := b3.toNat_lt
  have bound2 := b2.toNat_lt
  have bound1 := b1.toNat_lt
  have bound0 := b0.toNat_lt
  have word : (longVariableValue b3 b2 b1 b0).toBitVec.toNat % 2 ^ 32 = longField b3 b2 b1 b0 := by
    refine toNat_mod_of_toInt (by rw [longField]; omega) ?_
    rw [toInt_longVariableValue, Int.bmod_bmod]
  rw [longField] at word
  have same : byteAt (longVariableValue b3 b2 b1 b0) 24 = b3 ∧
      byteAt (longVariableValue b3 b2 b1 b0) 16 = b2 ∧
        byteAt (longVariableValue b3 b2 b1 b0) 8 = b1 ∧
          byteAt (longVariableValue b3 b2 b1 b0) 0 = b0 := by
    refine ⟨?_, ?_, ?_, ?_⟩ <;> apply UInt8.toNat.inj <;> rw [toNat_byteAt] <;> omega
  rw [valueBytes, same.1, same.2.1, same.2.2.1, same.2.2.2]

/-! ## Messages -/

/-- The bytes a scalar message was read from are those it is encoded to. -/
theorem scalarOf_encode {number : MessageNumber} {rest : List UInt8} {msg : MessageSet}
    (hmsg : scalarOf number rest = some msg) :
    ∃ bytes tail, rest = bytes ++ tail ∧ msg.size.toNat = bytes.length + 2 ∧
      msg.encode = numberBytes number ++ bytes := by
  unfold scalarOf at hmsg
  split at hmsg
  · rename_i value tail htype
    cases hmsg
    refine ⟨[value], tail, rfl, rfl, ?_⟩
    rw [encode_scalar (by rw [create_type, htype]; nofun), create_type, htype]
    exact congrArg (numberBytes number ++ ·) (valueBytes_enumValue value)
  · rename_i high low tail htype
    cases hmsg
    refine ⟨[high, low], tail, rfl, rfl, ?_⟩
    rw [encode_scalar (by rw [create_type, htype]; nofun), create_type, htype]
    exact congrArg (numberBytes number ++ ·) (valueBytes_variableValue high low)
  · rename_i b3 b2 b1 b0 tail htype
    cases hmsg
    refine ⟨[b3, b2, b1, b0], tail, rfl, rfl, ?_⟩
    rw [encode_scalar (by rw [create_type, htype]; nofun), create_type, htype]
    exact congrArg (numberBytes number ++ ·) (valueBytes_longVariableValue b3 b2 b1 b0)
  · cases hmsg

/-- A scalar message read at an index is encoded to the bytes there. -/
theorem drop_eq_encode_append {data : List UInt8} {index capacity : Nat} {msg : MessageSet}
    (hmsg : decode data index capacity = some msg) (scalar : msg.type ≠ .Structure) :
    data.drop index = msg.encode ++ data.drop (index + msg.size.toNat) := by
  obtain ⟨first, second, hfirst, hsecond, -, htype⟩ := Tiling.decode_number hmsg
  have head := drop_of_getElem? hfirst hsecond
  rw [decode_scalar capacity head (htype ▸ scalar)] at hmsg
  obtain ⟨bytes, tail, hrest, size, encoded⟩ := scalarOf_encode hmsg
  have behind : data.drop (index + (bytes.length + 2)) = tail := by
    rw [Nat.add_comm bytes.length, ← Nat.add_assoc, ← List.drop_drop, hrest, List.drop_left]
  rw [head, size, behind, encoded, numberBytes_numberOf, hrest]
  rfl

end MessageSet

namespace Packet

/-- So is a sequence of them. -/
theorem drop_eq_flatMap_append {data : List UInt8} {capacity remaining cursor : Nat}
    {messages : List MessageSet}
    (hmessages : decodeMessages data capacity remaining cursor = some messages)
    (scalar : ∀ msg ∈ messages, msg.type ≠ .Structure) :
    data.drop cursor = messages.flatMap MessageSet.encode ++
      data.drop (cursor + (messages.map fun msg => msg.size.toNat).sum) := by
  induction remaining generalizing cursor messages with
  | zero =>
      cases hmessages
      rfl
  | succ remaining ih =>
      simp only [decodeMessages, Option.bind_eq_bind, Option.bind_eq_some_iff, Option.pure_def,
        Option.some.injEq] at hmessages
      obtain ⟨msg, hmsg, rest, hrest, rfl⟩ := hmessages
      have here := MessageSet.drop_eq_encode_append hmsg (scalar msg List.mem_cons_self)
      have later := ih hrest fun other hmem => scalar other (List.mem_cons_of_mem _ hmem)
      rw [here, later, List.flatMap_cons, List.map_cons, List.sum_cons, List.append_assoc,
        Nat.add_assoc]

/-! ## The command bytes -/

/-- The encoder leaves the reserved bits of the first command byte zero. -/
theorem encode_ofBytes (first second third : UInt8) :
    (Command.ofBytes first second third).encode = [first &&& 0xF8, second, third] := by
  have firsts : ∀ byte : Fin 256,
      ((if (UInt8.ofNat byte &&& 128) >>> 7 == 1 then (1 : UInt8) else 0) <<< 7) +
        (((UInt8.ofNat byte &&& 96) >>> 5) <<< 5) + (((UInt8.ofNat byte &&& 24) >>> 3) <<< 3) =
          UInt8.ofNat byte &&& 0xF8 := by
    decide +kernel
  have seconds : ∀ byte : Fin 256,
      (((UInt8.ofNat byte &&& 240) >>> 4) <<< 4) + (UInt8.ofNat byte &&& 15) =
        UInt8.ofNat byte := by
    decide +kernel
  have hfirst := firsts ⟨first.toNat, first.toNat_lt⟩
  have hsecond := seconds ⟨second.toNat, second.toNat_lt⟩
  rw [UInt8.ofNat_toNat] at hfirst hsecond
  unfold Command.encode Command.ofBytes
  rw [hfirst, hsecond]

theorem masked_eq_self_iff (byte : UInt8) : byte &&& 0xF8 = byte ↔ byte &&& 7 = 0 := by
  have all : ∀ byte : Fin 256,
      UInt8.ofNat byte &&& 0xF8 = UInt8.ofNat byte ↔ UInt8.ofNat byte &&& 7 = 0 := by
    decide +kernel
  have here := all ⟨byte.toNat, byte.toNat_lt⟩
  rwa [UInt8.ofNat_toNat] at here

/-! ## Frames -/

theorem frame_injective {body body' : List UInt8} (same : frame body = frame body') :
    body = body' := by
  have tails := congrArg (List.drop 3) same
  exact List.append_inj_left' tails rfl

/-- A frame the decoder accepts whose messages, none of them a Structure, end at
the checksum. -/
structure Reencodable (data : List UInt8) (packet : Packet) : Prop where
  accepted : decode data = some (.ok packet)
  scalar : ∀ msg ∈ packet.messages, msg.type ≠ .Structure
  fills : 13 + (packet.messages.map fun msg => msg.size.toNat).sum = data.length - 3

/-- The reserved bits, at the low end of the first command byte. -/
def ReservedZero (data : List UInt8) : Prop := ∃ byte, data[9]? = some byte ∧ byte &&& 7 = 0

/-- The frame and what its packet is encoded to differ in one byte of the body. -/
theorem Reencodable.frames {data : List UInt8} {packet : Packet} (here : Reencodable data packet) :
    ∃ first second third count payload,
      data = frame (bodyOf packet.sa packet.da first second third count payload) ∧
        packet.encode =
          frame (bodyOf packet.sa packet.da (first &&& 0xF8) second third count payload) := by
  obtain ⟨first, second, third, count, payload, hdata, -, hcommand, hmessages⟩ :=
    exists_parts_of_ok here.accepted
  have count_eq : packet.messages.length.toUInt8 = count := by
    rw [Tiling.length_decodeMessages hmessages]
    exact UInt8.ofNat_toNat
  have fills := here.fills
  have laid := drop_eq_flatMap_append hmessages here.scalar
  have length_eq : data.length = payload.length + 16 := by
    rw [hdata, length_frame, length_bodyOf]
  have payload_eq : payload = packet.messages.flatMap MessageSet.encode := by
    rw [fills, hdata, frame, drop_frame_bodyOf, ← frame, ← hdata] at laid
    refine List.append_inj_left' laid ?_
    rw [List.length_drop, length_eq]
    simp
  refine ⟨first, second, third, count, payload, hdata, ?_⟩
  rw [encode_eq_frame, body, hcommand, encode_ofBytes, count_eq, ← payload_eq]
  simp [bodyOf]

theorem Reencodable.encode_eq_iff {data : List UInt8} {packet : Packet}
    (here : Reencodable data packet) : packet.encode = data ↔ ReservedZero data := by
  obtain ⟨first, second, third, count, payload, rfl, encoded⟩ := here.frames
  have reserved :
      ReservedZero (frame (bodyOf packet.sa packet.da first second third count payload)) ↔
        first &&& 7 = 0 := by
    constructor
    · rintro ⟨byte, hbyte, zero⟩
      cases hbyte
      exact zero
    · exact fun zero => ⟨first, rfl, zero⟩
  rw [encoded, reserved, ← masked_eq_self_iff]
  constructor
  · intro same
    have bodies := frame_injective same
    simp only [bodyOf, List.append_assoc, List.append_cancel_left_eq, List.cons_append,
      List.cons.injEq] at bodies
    exact bodies.1
  · intro same
    rw [same]

/-- An accepted frame without Structures whose messages fill the payload is
reproduced exactly when its reserved bits are zero, so among those frames the
packet determines the frame. -/
theorem encode_decode_iff :
    (∀ data packet, Reencodable data packet → (packet.encode = data ↔ ReservedZero data)) ∧
      ∀ data data' packet, Reencodable data packet → Reencodable data' packet →
        ReservedZero data → ReservedZero data' → data = data' := by
  refine ⟨fun _ _ here => here.encode_eq_iff, ?_⟩
  intro data data' packet here there zero zero'
  rw [← here.encode_eq_iff.mpr zero, there.encode_eq_iff.mpr zero']

/-- An Enum and a 32-bit value below zero, with the reserved bits zero and not. -/
theorem encode_decode_two_messages :
    let packet : Packet :=
      { sa := ⟨⟨0x10⟩, 0, 0⟩, da := broadcastSelf
        command := { dataType := .notification, packetNumber := 7 }
        messages :=
          [{ MessageSet.create ⟨0x4065⟩ 1 with size := 3 },
            { MessageSet.create ⟨0x4401⟩ (-5) with size := 6 }] }
    packet.encode =
        [50, 0, 23, 16, 0, 0, 176, 255, 32, 192, 20, 7, 2, 64, 101, 1, 68, 1, 255, 255, 255, 251,
          45, 124, 52] ∧
      packet.encode ≠
        [50, 0, 23, 16, 0, 0, 176, 255, 32, 193, 20, 7, 2, 64, 101, 1, 68, 1, 255, 255, 255, 251,
          104, 31, 52] := by
  intro packet
  refine ⟨(encode_decode_iff.1 _ packet ?_).mpr ⟨192, rfl, rfl⟩, fun same => ?_⟩
  · exact ⟨by decide +kernel, by decide, by decide⟩
  · obtain ⟨byte, hbyte, zero⟩ := (encode_decode_iff.1 _ packet
      ⟨by decide +kernel, by decide, by decide⟩).mp same
    cases hbyte
    exact absurd zero (by decide)

end Packet

end NasaCpp.Protocol
