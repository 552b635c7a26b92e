import NasaCpp.Protocol.Framing
import NasaCpp.Protocol.WireValue

/-!
# Stream round trip

What a packet becomes on its way through `Packet.encode` and `Packet.decode`,
and what a list of packets becomes through `NasaProtocol::encode` and
`NasaProtocol::decode`.  A message reader only sees the bytes from its cursor on,
so the messages are read back one after the other, and the loop cuts the
concatenation at the frame ends whatever the payloads contain.
-/

namespace NasaCpp.Protocol

/-! ## One message -/

namespace MessageSet

/-- A message as its number says it is, other than a Structure. -/
def IsScalar (msg : MessageSet) : Prop :=
  msg.type ≠ .Structure ∧ msg.type = getMessageSetType msg.messageNumber

instance (msg : MessageSet) : Decidable msg.IsScalar := inferInstanceAs (Decidable (_ ∧ _))

theorem isScalar_create {number : MessageNumber} (scalar : getMessageSetType number ≠ .Structure)
    (value : Int64) : (create number value).IsScalar :=
  ⟨scalar, rfl⟩

def wireSize : MessageSetType → UInt16
  | .Enum => 3
  | .Variable => 4
  | .LongVariable => 6
  | .Structure => 2

/-- The message a receiver of `msg` stores. -/
def wire (msg : MessageSet) : MessageSet where
  messageNumber := msg.messageNumber
  type := msg.type
  content := .long (wireValue msg.type msg.value)
  size := wireSize msg.type

@[simp] theorem wire_messageNumber (msg : MessageSet) :
    msg.wire.messageNumber = msg.messageNumber := rfl

@[simp] theorem wire_value (msg : MessageSet) : msg.wire.value = wireValue msg.type msg.value := rfl

def scalarOf (number : MessageNumber) (rest : List UInt8) : Option MessageSet :=
  match getMessageSetType number, rest with
  | .Enum, value :: _ =>
      some { create number 0 with content := .long (enumValue value), size := 3 }
  | .Variable, high :: low :: _ =>
      some { create number 0 with content := .long (variableValue high low), size := 4 }
  | .LongVariable, b3 :: b2 :: b1 :: b0 :: _ =>
      some { create number 0 with content := .long (longVariableValue b3 b2 b1 b0), size := 6 }
  | _, _ => none

theorem getElem?_of_drop {data rest : List UInt8} {index : Nat} (hdrop : data.drop index = rest)
    (offset : Nat) : data[index + offset]? = rest[offset]? := by
  rw [← hdrop, List.getElem?_drop]

theorem drop_of_getElem? {data : List UInt8} {index : Nat} {first second : UInt8}
    (hfirst : data[index]? = some first) (hsecond : data[index + 1]? = some second) :
    data.drop index = first :: second :: data.drop (index + 2) := by
  rw [@List.drop_eq_getElem?_toList_append _ _ index, hfirst,
    @List.drop_eq_getElem?_toList_append _ _ (index + 1), hsecond]
  rfl

/-- Reading a scalar message looks at the bytes from its index on only. -/
theorem decode_scalar {data : List UInt8} {index : Nat} {first second : UInt8} {rest : List UInt8}
    (capacity : Nat) (hdrop : data.drop index = first :: second :: rest)
    (scalar : getMessageSetType (numberOf first second) ≠ .Structure) :
    decode data index capacity = scalarOf (numberOf first second) rest := by
  have get := getElem?_of_drop hdrop
  have get0 : data[index]? = some first := get 0
  have get1 : data[index + 1]? = some second := get 1
  unfold decode scalarOf
  simp only [get0, get1, get, Option.bind_eq_bind, Option.bind_some, create_type]
  cases htype : getMessageSetType (numberOf first second) with
  | Enum => cases rest <;> rfl
  | Variable =>
      match rest with
      | [] | [_] => rfl
      | _ :: _ :: _ => rfl
  | LongVariable =>
      match rest with
      | [] | [_] | [_, _] | [_, _, _] => rfl
      | _ :: _ :: _ :: _ :: _ => rfl
  | Structure => exact absurd htype scalar

theorem scalarOf_valueBytes {number : MessageNumber} (val : Int64) (tail : List UInt8)
    (scalar : getMessageSetType number ≠ .Structure) :
    scalarOf number (valueBytes (getMessageSetType number) val ++ tail) =
      some (create number val).wire := by
  unfold scalarOf valueBytes wire wireSize
  rw [create_value]
  cases htype : getMessageSetType number with
  | Enum => simp [enumValue_byteAt, create, htype]
  | Variable => simp [variableValue_byteAt, create, htype]
  | LongVariable => simp [longVariableValue_byteAt, create, htype]
  | Structure => exact absurd htype scalar

/-- One message there and back. -/
theorem decode_encode {data : List UInt8} {index : Nat} {msg : MessageSet} {tail : List UInt8}
    (capacity : Nat) (scalar : msg.IsScalar) (hdrop : data.drop index = msg.encode ++ tail) :
    decode data index capacity = some msg.wire := by
  have number := numberOf_numberBytes msg.messageNumber
  have known : getMessageSetType msg.messageNumber ≠ .Structure := scalar.2 ▸ scalar.1
  rw [encode_scalar scalar.1, List.append_assoc, numberBytes, List.cons_append, List.cons_append,
    List.nil_append] at hdrop
  rw [decode_scalar capacity hdrop (by rw [number]; exact known), number, scalar.2,
    scalarOf_valueBytes _ _ known]
  simp [wire, scalar.2]

theorem length_encode {msg : MessageSet} (scalar : msg.type ≠ .Structure) :
    msg.encode.length = msg.wire.size.toNat := by
  rw [encode_scalar scalar, wire]
  cases htype : msg.type with
  | Enum => rfl
  | Variable => rfl
  | LongVariable => rfl
  | Structure => exact absurd htype scalar

theorem length_encode_le {msg : MessageSet} (scalar : msg.type ≠ .Structure) :
    msg.encode.length ≤ 6 := by
  rw [length_encode scalar]
  change (wireSize msg.type).toNat ≤ 6
  cases msg.type with
  | Enum | Variable | LongVariable | Structure => decide

end MessageSet

/-! ## The command -/

namespace Command

def wire (command : Command) : Command :=
  .ofBytes (((if command.packetInformation then (1 : UInt8) else 0) <<< 7) +
      (command.protocolVersion <<< 5) + (command.retryCount <<< 3))
    ((command.packetType.code <<< 4) + command.dataType.code) command.packetNumber

structure Fits (command : Command) : Prop where
  protocolVersion : command.protocolVersion < 4
  retryCount : command.retryCount < 4
  packetType : command.packetType.code < 16
  dataType : command.dataType.code < 16

instance (command : Command) : Decidable command.Fits :=
  decidable_of_iff (command.protocolVersion < 4 ∧ command.retryCount < 4 ∧
      command.packetType.code < 16 ∧ command.dataType.code < 16)
    ⟨fun ⟨version, retry, packet, data⟩ => ⟨version, retry, packet, data⟩,
      fun ⟨version, retry, packet, data⟩ => ⟨version, retry, packet, data⟩⟩

/-- The two nibbles of the second command byte. -/
theorem nibbles {packetType dataType : UInt8} (hpacket : packetType < 16) (hdata : dataType < 16) :
    (((packetType <<< 4) + dataType) &&& 240) >>> 4 = packetType ∧
      ((packetType <<< 4) + dataType) &&& 15 = dataType := by
  have all : ∀ high low : Fin 16,
      (((UInt8.ofNat high <<< 4) + UInt8.ofNat low) &&& 240) >>> 4 = UInt8.ofNat high ∧
        ((UInt8.ofNat high <<< 4) + UInt8.ofNat low) &&& 15 = UInt8.ofNat low := by
    decide +kernel
  have here := all ⟨packetType.toNat, hpacket⟩ ⟨dataType.toNat, hdata⟩
  simpa using here

/-- The three fields of the first command byte. -/
theorem headerBits (information : Bool) {version retry : UInt8} (hversion : version < 4)
    (hretry : retry < 4) :
    let byte := ((if information then (1 : UInt8) else 0) <<< 7) + (version <<< 5) + (retry <<< 3)
    ((byte &&& 128) >>> 7 == 1) = information ∧ (byte &&& 96) >>> 5 = version ∧
      (byte &&& 24) >>> 3 = retry := by
  have all : ∀ (information : Bool) (version retry : Fin 4),
      let byte := ((if information then (1 : UInt8) else 0) <<< 7) + (UInt8.ofNat version <<< 5) +
        (UInt8.ofNat retry <<< 3)
      ((byte &&& 128) >>> 7 == 1) = information ∧ (byte &&& 96) >>> 5 = UInt8.ofNat version ∧
        (byte &&& 24) >>> 3 = UInt8.ofNat retry := by
    decide +kernel
  have here := all information ⟨version.toNat, hversion⟩ ⟨retry.toNat, hretry⟩
  simpa using here

theorem wire_eq_self {command : Command} (fits : command.Fits) : command.wire = command := by
  obtain ⟨information, version, retry⟩ :=
    headerBits command.packetInformation fits.protocolVersion fits.retryCount
  obtain ⟨packetType, dataType⟩ := nibbles fits.packetType fits.dataType
  unfold wire ofBytes
  rw [information, version, retry, packetType, dataType]

end Command

/-! ## One packet -/

namespace Packet

def wire (packet : Packet) : Packet where
  sa := packet.sa
  da := packet.da
  command := packet.command.wire
  messages := packet.messages.map MessageSet.wire

theorem decodeMessages_encode {data : List UInt8} (capacity : Nat) {cursor : Nat}
    {messages : List MessageSet} {tail : List UInt8}
    (scalar : ∀ msg ∈ messages, msg.IsScalar)
    (hdrop : data.drop cursor = messages.flatMap MessageSet.encode ++ tail) :
    decodeMessages data capacity messages.length cursor =
      some (messages.map MessageSet.wire) := by
  induction messages generalizing cursor with
  | nil => rfl
  | cons msg messages ih =>
      have hmsg : msg.IsScalar := scalar msg List.mem_cons_self
      rw [List.flatMap_cons, List.append_assoc] at hdrop
      have next : data.drop (cursor + msg.wire.size.toNat) =
          messages.flatMap MessageSet.encode ++ tail := by
        rw [← List.drop_drop, hdrop, ← MessageSet.length_encode hmsg.1, List.drop_left]
      rw [List.length_cons, decodeMessages, MessageSet.decode_encode capacity hmsg hdrop]
      simp only [Option.bind_eq_bind, Option.bind_some]
      rw [ih (fun other hmem => scalar other (List.mem_cons_of_mem _ hmem)) next]
      rfl

/-- One packet there and back; the command fields need not fit their bits. -/
theorem decode_encode {packet : Packet} (scalar : ∀ msg ∈ packet.messages, msg.IsScalar)
    (few : packet.messages.length ≤ 255) (short : packet.encode.length ≤ 1500) :
    decode packet.encode = some (.ok packet.wire) := by
  obtain ⟨first, second, third, hcommand⟩ :
      ∃ first second third, packet.command.encode = [first, second, third] ∧
        packet.command.wire = .ofBytes first second third := ⟨_, _, _, rfl, rfl⟩
  have hbody : packet.body = bodyOf packet.sa packet.da first second third
      packet.messages.length.toUInt8 (packet.messages.flatMap MessageSet.encode) := by
    simp [body, bodyOf, hcommand.1]
  have count : packet.messages.length.toUInt8.toNat = packet.messages.length := by
    simp [Nat.toUInt8]
    omega
  rw [encode_eq_frame, length_frame] at short
  have fits : BodyFits packet.body := by
    refine ⟨?_, by omega⟩
    rw [hbody, length_bodyOf]
    omega
  have payload : (frame packet.body).drop 13 = packet.messages.flatMap MessageSet.encode ++
      [(checksumOf packet.body >>> 8).toUInt8, (checksumOf packet.body &&& 0xFF).toUInt8,
        0x34] := by
    rw [hbody, frame, drop_frame_bodyOf]
  have messages := decodeMessages_encode packet.messages.length scalar payload
  have fields := decodeFields_rawFrame packet.sa packet.da first second third
    packet.messages.length.toUInt8 (packet.messages.flatMap MessageSet.encode)
    (checksumOf packet.body >>> 8).toUInt8 (checksumOf packet.body &&& 0xFF).toUInt8
  rw [encode_eq_frame, decode_frame fits]
  dsimp only at fields
  rw [← hbody, ← frame, count, messages] at fields
  rw [fields, Option.map_some, Option.map_some, wire, hcommand.2]

end Packet

/-! ## The stream -/

namespace NasaProtocol

/-- The loop cuts a frame of at least 18 bytes out of the front of the buffer. -/
theorem step_frame {body : List UInt8} (fits : BodyFits body) (long : 12 ≤ body.length)
    (more : List UInt8) : step (frame body ++ more) = takeFrame (frame body) (body.length + 6) := by
  have decided : step (frame body) = takeFrame (frame body) (body.length + 6) := by
    have size : field ((body.length + 4) >>> 8).toUInt8 ((body.length + 4) &&& 0xFF).toUInt8 =
        body.length + 4 := field_bytes (by have := fits.2; omega)
    have length_eq := length_frame body
    have upper := fits.2
    unfold frame rawFrame at length_eq ⊢
    rw [step_long (by omega), size, if_neg (not_not.mpr rfl), if_neg (by omega),
      if_neg (by omega)]
  rw [step_stable more (by rw [decided]; exact takeFrame_ne_wait _ _), decided]

theorem step_accepted {body : List UInt8} {packet : Packet} (fits : BodyFits body)
    (long : 12 ≤ body.length) (hok : Packet.decode (frame body) = some (.ok packet))
    (more : List UInt8) :
    step (frame body ++ more) = .consume (frame body).length (delivered packet) := by
  rw [step_frame fits long, takeFrame, ← length_frame, List.take_length, hok]

/-- An accepted frame at the front of the buffer is delivered and erased. -/
theorem decode_accepted {body : List UInt8} {packet : Packet} (fits : BodyFits body)
    (long : 12 ≤ body.length) (hok : Packet.decode (frame body) = some (.ok packet))
    (more : List UInt8) :
    decode (frame body ++ more) =
      (decode more).map fun result => (delivered packet ++ result.1, result.2) := by
  have hstep : framer.step (frame body ++ more) = _ := step_accepted fits long hok more
  unfold decode
  rw [framer.run_of_consume hstep, List.drop_left]

/-- A packet with between 1 and 255 scalar messages and a frame of at most 1500 bytes. -/
structure Sendable (packet : Packet) : Prop where
  scalar : ∀ msg ∈ packet.messages, msg.IsScalar
  nonempty : 1 ≤ packet.messages.length
  few : packet.messages.length ≤ 255
  short : packet.encode.length ≤ 1500

instance (packet : Packet) : Decidable (Sendable packet) :=
  decidable_of_iff ((∀ msg ∈ packet.messages, msg.IsScalar) ∧ 1 ≤ packet.messages.length ∧
      packet.messages.length ≤ 255 ∧ packet.encode.length ≤ 1500)
    ⟨fun ⟨scalar, nonempty, few, short⟩ => ⟨scalar, nonempty, few, short⟩,
      fun ⟨scalar, nonempty, few, short⟩ => ⟨scalar, nonempty, few, short⟩⟩

theorem Sendable.bodyFits {packet : Packet} (sendable : Sendable packet) :
    BodyFits packet.body ∧ 12 ≤ packet.body.length := by
  have short := sendable.short
  rw [Packet.encode_eq_frame, length_frame] at short
  obtain ⟨msg, rest, hmessages⟩ :=
    List.exists_cons_of_length_pos (Nat.lt_of_succ_le sendable.nonempty)
  have header : 12 ≤ packet.body.length := by
    simp [Packet.body, Address.encode, Command.encode, hmessages, MessageSet.encode]
  exact ⟨⟨by omega, by omega⟩, header⟩

/-- A packet with one scalar message fits every bound of the format. -/
theorem sendable_single {packet : Packet} {number : MessageNumber} {value : Int64}
    (scalar : getMessageSetType number ≠ .Structure)
    (single : packet.messages = [.create number value]) : Sendable packet where
  scalar := by
    rw [single]
    simpa using MessageSet.isScalar_create scalar value
  nonempty := by simp [single]
  few := by simp [single]
  short := by
    have length_msg := MessageSet.length_encode_le (MessageSet.isScalar_create scalar value).1
    rw [Packet.encode_eq_frame, length_frame]
    simp only [Packet.body, Address.encode, Command.encode, single, List.length_append,
      List.length_cons, List.length_nil, List.flatMap_cons, List.flatMap_nil]
    omega

/-- The stream there and back, command fields as the receiver reads them. -/
theorem decode_encode_wire {pkts : List Packet} (sendable : ∀ pkt ∈ pkts, Sendable pkt) :
    decode (encode pkts) = some (pkts.flatMap fun pkt => delivered pkt.wire, []) := by
  induction pkts with
  | nil => exact framer.run_nil
  | cons pkt pkts ih =>
      have here : Sendable pkt := sendable pkt List.mem_cons_self
      have hok := Packet.decode_encode here.scalar here.few here.short
      rw [Packet.encode_eq_frame] at hok
      rw [encode, List.flatMap_cons, Packet.encode_eq_frame,
        decode_accepted here.bodyFits.1 here.bodyFits.2 hok, ← encode,
        ih fun other hmem => sendable other (List.mem_cons_of_mem _ hmem)]
      rfl

/-- The packets of the list that are neither Ack nor Nack come back in order, with
their addresses, command fields and message numbers and the wire values. -/
theorem decode_encode_stream {pkts : List Packet} (sendable : ∀ pkt ∈ pkts, Sendable pkt)
    (fits : ∀ pkt ∈ pkts, pkt.command.Fits) :
    decode (encode pkts) =
      some ((pkts.filter fun pkt =>
          pkt.command.dataType ≠ .ack ∧ pkt.command.dataType ≠ .nack).map fun pkt =>
        { pkt with messages := pkt.messages.map MessageSet.wire }, []) := by
  rw [decode_encode_wire sendable]
  congr 2
  clear sendable
  induction pkts with
  | nil => rfl
  | cons pkt pkts ih =>
      have same := Command.wire_eq_self (fits pkt List.mem_cons_self)
      rw [List.flatMap_cons, ih fun other hmem => fits other (List.mem_cons_of_mem _ hmem)]
      by_cases dropped : pkt.command.dataType = .ack ∨ pkt.command.dataType = .nack
      · have skip : ¬ (pkt.command.dataType ≠ .ack ∧ pkt.command.dataType ≠ .nack) := by tauto
        simp [delivered, Packet.wire, same, dropped, skip]
      · have keep : pkt.command.dataType ≠ .ack ∧ pkt.command.dataType ≠ .nack := by tauto
        simp [delivered, Packet.wire, same, keep]

/-- A request that sets a 16-bit value below zero, and an acknowledgement. -/
theorem decode_encode_request_ack :
    decode (encode
        [{ sa := ⟨.jigTester, 0xFF, 0⟩, da := Packet.broadcastSelf
           command := { dataType := .request, retryCount := 3, packetNumber := 7 }
           messages := [.create ⟨0x4201⟩ (-5)] },
         { sa := ⟨⟨0x10⟩, 0, 0⟩, da := ⟨.jigTester, 0xFF, 0⟩
           command := { dataType := .ack }
           messages := [.create ⟨0x4065⟩ 1] }]) =
      some ([{ sa := ⟨.jigTester, 0xFF, 0⟩, da := Packet.broadcastSelf
               command := { dataType := .request, retryCount := 3, packetNumber := 7 }
               messages := [{ MessageSet.create ⟨0x4201⟩ 65531 with size := 4 }] }], []) := by
  rw [decode_encode_stream (by decide +kernel) (by decide +kernel)]
  decide

end NasaProtocol

end NasaCpp.Protocol
