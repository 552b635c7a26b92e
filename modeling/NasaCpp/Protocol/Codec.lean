import NasaCpp.Protocol.Checksum
import NasaCpp.Protocol.Types

/-!
# Encoding and decoding packets

The serialization members of `nasa_protocol_types.cpp`.  Reading a vector past
its end is undefined, so a decoder is partial: `none` is a run that reads an
index at or beyond `data.size()`.
-/

namespace NasaCpp.Protocol

/-! ## Address and command -/

def Address.decode (data : List UInt8) (index : Nat) : Option Address := do
  let aClass ← data[index]?
  let channel ← data[index + 1]?
  let address ← data[index + 2]?
  return { aClass := ⟨aClass⟩, channel, address }

def Address.encode (address : Address) : List UInt8 :=
  [address.aClass.code, address.channel, address.address]

def Command.ofBytes (first second third : UInt8) : Command where
  packetInformation := (first &&& 128) >>> 7 == 1
  protocolVersion := (first &&& 96) >>> 5
  retryCount := (first &&& 24) >>> 3
  packetType := ⟨(second &&& 240) >>> 4⟩
  dataType := ⟨second &&& 15⟩
  packetNumber := third

def Command.decode (data : List UInt8) (index : Nat) : Option Command := do
  let first ← data[index]?
  let second ← data[index + 1]?
  let third ← data[index + 2]?
  return .ofBytes first second third

/-- The sums are taken in `int` and narrowed to a byte, so they wrap. -/
def Command.encode (command : Command) : List UInt8 :=
  [((if command.packetInformation then (1 : UInt8) else 0) <<< 7) + (command.protocolVersion <<< 5)
      + (command.retryCount <<< 3),
    (command.packetType.code <<< 4) + command.dataType.code,
    command.packetNumber]

/-! ## Messages -/

namespace MessageSet

/-- `(int)data[index]`. -/
def intOf (byte : UInt8) : Int32 := byte.toUInt32.toInt32

/-- The value an Enum byte decodes to, widened to `long`. -/
def enumValue (byte : UInt8) : Int64 := (intOf byte).toInt64

def variableValue (first second : UInt8) : Int64 :=
  (intOf first <<< 8 ||| intOf second).toInt64

/-- `int` arithmetic: the first byte reaches the sign bit. -/
def longVariableValue (first second third fourth : UInt8) : Int64 :=
  (intOf first <<< 24 ||| intOf second <<< 16 ||| intOf third <<< 8 ||| intOf fourth).toInt64

def numberOf (first second : UInt8) : MessageNumber :=
  ⟨(first.toUInt32 * 256 + second.toUInt32).toUInt16⟩

/-- The copy loop of a Structure: `data[0]` up to `data[size - 1]`. -/
def copyBuffer (data : List UInt8) (size : UInt8) : Option Buffer :=
  if size.toNat ≤ data.length then
    some ⟨data.take size.toNat, by
      rw [List.length_take]
      exact Nat.le_trans (Nat.min_le_left _ _) (Nat.le_of_lt_succ size.toNat_lt)⟩
  else none

def decode (data : List UInt8) (index capacity : Nat) : Option MessageSet := do
  let first ← data[index]?
  let second ← data[index + 1]?
  let set := create (numberOf first second) 0
  match set.type with
  | .Enum =>
      let value ← data[index + 2]?
      return { set with content := .long (enumValue value), size := 3 }
  | .Variable =>
      let high ← data[index + 2]?
      let low ← data[index + 3]?
      return { set with content := .long (variableValue high low), size := 4 }
  | .LongVariable =>
      let b3 ← data[index + 2]?
      let b2 ← data[index + 3]?
      let b1 ← data[index + 4]?
      let b0 ← data[index + 5]?
      return { set with content := .long (longVariableValue b3 b2 b1 b0), size := 6 }
  | .Structure =>
      if capacity ≠ 1 then
        return set
      let size := (data.length.toUInt64 - index.toUInt64 - 3).toUInt16
      let buffer ← copyBuffer data (size - 2).toUInt8
      return { set with content := .buffer buffer, size }

/-- `(uint8_t)value`. -/
def byteOf (value : Int64) : UInt8 := value.toUInt64.toUInt8

def encode (msg : MessageSet) : List UInt8 :=
  let number := msg.messageNumber.code
  [((number >>> 8) &&& 0xff).toUInt8, (number &&& 0xff).toUInt8] ++
    match msg.type with
    | .Enum => [byteOf msg.value]
    | .Variable => [byteOf (msg.value >>> 8) &&& 0xff, byteOf (msg.value &&& 0xff)]
    | .LongVariable =>
        [byteOf ((msg.value &&& 0xff000000) >>> 24), byteOf ((msg.value &&& 0x00ff0000) >>> 16),
          byteOf ((msg.value &&& 0x0000ff00) >>> 8), byteOf (msg.value &&& 0x000000ff)]
    | .Structure => msg.structureData

end MessageSet

/-! ## Packets -/

namespace Packet

/-- The message loop, `remaining` rounds from `cursor`. -/
def decodeMessages (data : List UInt8) (capacity : Nat) : Nat → Nat → Option (List MessageSet)
  | 0, _ => some []
  | remaining + 1, cursor => do
      let set ← MessageSet.decode data cursor capacity
      let rest ← decodeMessages data capacity remaining (cursor + set.size.toNat)
      return set :: rest

/-- The reads of `Packet::decode` behind its checks. -/
def decodeFields (data : List UInt8) : Option Packet := do
  let cursor := 3
  let sa ← Address.decode data cursor
  let cursor := cursor + Address.size
  let da ← Address.decode data cursor
  let cursor := cursor + Address.size
  let command ← Command.decode data cursor
  let cursor := cursor + Command.size
  let capacity ← data[cursor]?
  let cursor := cursor + 1
  let messages ← decodeMessages data capacity.toNat capacity.toNat cursor
  return { sa, da, command, messages }

/-- `Packet::decode` on a fresh packet: `ok` is `DecodeResult::Ok` with the packet. -/
def decode (data : List UInt8) : Option (Except DecodeResult Packet) := do
  let start ← data[0]?
  if start ≠ 0x32 then
    return .error .invalidStartByte
  if data.length < 16 ∨ data.length > 1500 then
    return .error .unexpectedSize
  let sizeHigh ← data[1]?
  let sizeLow ← data[2]?
  let size := sizeHigh.toNat <<< 8 ||| sizeLow.toNat
  if size + 2 ≠ data.length then
    return .error .sizeDidNotMatch
  let last ← data[data.length - 1]?
  if last ≠ 0x34 then
    return .error .invalidEndByte
  let crcActual := crc16 data 3 (size - 4)
  let crcHigh ← data[data.length - 3]?
  let crcLow ← data[data.length - 2]?
  if Checksum.word crcHigh crcLow ≠ crcActual then
    return .error .crcError
  return .ok (← decodeFields data)

def body (packet : Packet) : List UInt8 :=
  packet.sa.encode ++ packet.da.encode ++ packet.command.encode ++
    [packet.messages.length.toUInt8] ++ packet.messages.flatMap MessageSet.encode

def encode (packet : Packet) : List UInt8 :=
  let data := [0x32, 0, 0] ++ packet.body
  let endPosition := data.length + 1
  let data := (data.set 1 (endPosition >>> 8).toUInt8).set 2 (endPosition &&& 0xFF).toUInt8
  let checksum := crc16 data 3 (endPosition - 4)
  data ++ [(checksum >>> 8).toUInt8, (checksum &&& 0xFF).toUInt8, 0x34]

end Packet

end NasaCpp.Protocol
