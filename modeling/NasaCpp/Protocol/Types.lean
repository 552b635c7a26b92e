import Mathlib.Data.List.Basic

/-!
# Packets of the NASA bus

The data types of `nasa_protocol_types.hpp`.  The scoped enumerations of the
source have a fixed underlying type and a decoder may store any value of it, so
each is a wrapper around that type with the enumerators the code names.  `int`
is `Int32`, `long` is `Int64`, and a `std::vector` or `std::deque` of bytes is a
list.
-/

namespace NasaCpp.Protocol

structure AddressClass where
  code : UInt8
  deriving DecidableEq, Repr

def AddressClass.jigTester : AddressClass := ⟨0x80⟩
def AddressClass.broadcastSelfLayer : AddressClass := ⟨0xB0⟩

/-- `DataType : uint8_t`; `Command::decode` stores any of its sixteen low values. -/
structure DataType where
  code : UInt8
  deriving DecidableEq, Repr

namespace DataType

def undefined : DataType := ⟨0⟩
def read : DataType := ⟨1⟩
def write : DataType := ⟨2⟩
def request : DataType := ⟨3⟩
def notification : DataType := ⟨4⟩
def response : DataType := ⟨5⟩
def ack : DataType := ⟨6⟩
def nack : DataType := ⟨7⟩

end DataType

structure PacketType where
  code : UInt8
  deriving DecidableEq, Repr

def PacketType.normal : PacketType := ⟨1⟩

/-- `MessageNumber : uint16_t`; the number alone decides the message type. -/
structure MessageNumber where
  code : UInt16
  deriving DecidableEq, Repr

/-- The unscoped `MessageSetType`, with the enumerators' own names. -/
inductive MessageSetType where
  | Enum
  | Variable
  | LongVariable
  | Structure
  deriving DecidableEq, Repr

/-- The cast `(MessageSetType)code` on the two bits `getMessageSetType` leaves. -/
def MessageSetType.ofCode (code : UInt32) : MessageSetType :=
  if code = 0 then .Enum
  else if code = 1 then .Variable
  else if code = 2 then .LongVariable
  else .Structure

def getMessageSetType (msgNr : MessageNumber) : MessageSetType :=
  .ofCode ((msgNr.code.toUInt32 &&& 1536) >>> 9)

/-- The rejecting values of `DecodeResult`; `Ok` comes with the packet. -/
inductive DecodeResult where
  | invalidStartByte
  | invalidEndByte
  | sizeDidNotMatch
  | unexpectedSize
  | crcError
  deriving DecidableEq, Repr

structure Address where
  aClass : AddressClass
  channel : UInt8
  address : UInt8
  deriving DecidableEq, Repr

/-- The member `size = 3`, which nothing assigns. -/
def Address.size : Nat := 3

structure Command where
  packetInformation : Bool := true
  protocolVersion : UInt8 := 2
  retryCount : UInt8 := 0
  packetType : PacketType := .normal
  dataType : DataType := .undefined
  packetNumber : UInt8 := 0
  deriving DecidableEq, Repr

def Command.size : Nat := 3

/-- `MessageSet::Buffer`: the `size` bytes in use of an array of 255. -/
structure Buffer where
  data : List UInt8
  size_le : data.length ≤ 255
  deriving DecidableEq, Repr

def Buffer.size (buffer : Buffer) : Nat := buffer.data.length

/-- The union of `MessageSet`, by the member written last. -/
inductive Content where
  | long (value : Int64)
  | buffer (data : Buffer)
  deriving DecidableEq, Repr

/-- The eight bytes of a `long` in storage order (little endian). -/
def longBytes (value : Int64) : List UInt8 :=
  (List.range 8).map fun i => (value.toUInt64 >>> (8 * i).toUInt64).toUInt8

/-- The `long` stored in the given bytes, missing high bytes being zero. -/
def longOfBytes (bytes : List UInt8) : Int64 :=
  (bytes.foldr (fun byte (acc : UInt64) => acc <<< 8 ||| byte.toUInt64) 0).toInt64

structure MessageSet where
  messageNumber : MessageNumber
  type : MessageSetType
  content : Content
  size : UInt16 := 2
  deriving DecidableEq, Repr

namespace MessageSet

/-- Reading the member `value`.  Where the buffer was written last this is the
storage the two members share, `size` being its first byte; bytes that nothing
wrote are indeterminate in the source and zero here. -/
def value (msg : MessageSet) : Int64 :=
  match msg.content with
  | .long value => value
  | .buffer buffer =>
      longOfBytes ((buffer.size.toUInt8 :: buffer.data).take 8)

/-- The bytes that reading the member `structure` gives, under the same rule. -/
def structureData (msg : MessageSet) : List UInt8 :=
  match msg.content with
  | .buffer buffer => buffer.data
  | .long value =>
      ((longBytes value).tail ++ List.replicate 248 0).take value.toUInt64.toUInt8.toNat

/-- The constructor `MessageSet(message_number, val = 0)`. -/
def create (messageNumber : MessageNumber) (val : Int64) : MessageSet :=
  { messageNumber, type := getMessageSetType messageNumber, content := .long val }

@[simp] theorem create_messageNumber (messageNumber : MessageNumber) (val : Int64) :
    (create messageNumber val).messageNumber = messageNumber := rfl

@[simp] theorem create_type (messageNumber : MessageNumber) (val : Int64) :
    (create messageNumber val).type = getMessageSetType messageNumber := rfl

@[simp] theorem create_value (messageNumber : MessageNumber) (val : Int64) :
    (create messageNumber val).value = val := rfl

end MessageSet

structure Packet where
  sa : Address
  da : Address
  command : Command
  messages : List MessageSet
  deriving DecidableEq, Repr

namespace Packet

/-- `Packet::createa_partial`; the counter `pkt_counter++` is passed in and the
incremented one returned. -/
def createaPartial (sa da : Address) (dataType : DataType) (pktCounter : UInt8) :
    Packet × UInt8 :=
  ({ sa, da
     command :=
       { packetInformation := true, packetType := .normal, dataType,
         packetNumber := pktCounter }
     messages := [] },
   pktCounter + 1)

def broadcastSelf : Address :=
  { aClass := .broadcastSelfLayer, channel := 0xFF, address := 0x20 }

def createToBroadcastSelf (sa : Address) (dataType : DataType)
    (messageNumber : MessageNumber) (value : Int32) (pktCounter : UInt8) :
    Packet × UInt8 :=
  let (packet, pktCounter) := createaPartial sa broadcastSelf dataType pktCounter
  let message := MessageSet.create messageNumber value.toInt64
  ({ packet with messages := packet.messages ++ [message] }, pktCounter)

end Packet

end NasaCpp.Protocol
