import NasaCpp.Handler.MsgHandler
import NasaCpp.Protocol.RoundTrip

/-!
# Handler packets on the wire

`Command::encode` adds the retry counter into a field of two bits, and a handler
counts up to eleven.  A packet of a handler reads back as it was meant exactly
when its retry counter is at most three, so in a run exactly the commands sent
from the fifth attempt on reach the bus with a different header.
-/

namespace NasaCpp.Handler

open General Protocol

/-! ## Single packets -/

/-- Serialised and read back, the packet keeps its addresses, its command fields and
its message numbers. -/
def SurvivesWire (packet : Packet) : Prop :=
  ∃ received, Packet.decode packet.encode = some (.ok received) ∧
    received.sa = packet.sa ∧ received.da = packet.da ∧ received.command = packet.command ∧
    received.messages.map MessageSet.messageNumber = packet.messages.map MessageSet.messageNumber

/-- Only the command fields can be lost. -/
theorem survivesWire_iff {packet : Packet} (sendable : NasaProtocol.Sendable packet) :
    SurvivesWire packet ↔ packet.command.wire = packet.command := by
  have hok := Packet.decode_encode sendable.scalar sendable.few sendable.short
  constructor
  · rintro ⟨received, hreceived, -, -, hcommand, -⟩
    rw [hok] at hreceived
    cases hreceived
    exact hcommand
  · intro same
    refine ⟨packet.wire, hok, rfl, rfl, same, ?_⟩
    simp [Packet.wire]

/-- The retry count a receiver reads has two bits. -/
theorem wire_retryCount_lt (command : Command) : command.wire.retryCount < 4 := by
  have all : ∀ byte : Fin 256, (UInt8.ofNat byte &&& 24) >>> 3 < 4 := by decide +kernel
  have here (byte : UInt8) := all ⟨byte.toNat, byte.toNat_lt⟩
  simp only [UInt8.ofNat_toNat] at here
  exact here _

/-- A header that fits everywhere but in its retry count is kept exactly if that fits
too. -/
theorem wire_eq_self_iff {command : Command} (version : command.protocolVersion < 4)
    (packetType : command.packetType.code < 16) (dataType : command.dataType.code < 16) :
    command.wire = command ↔ command.retryCount < 4 := by
  constructor
  · intro same
    rw [← same]
    exact wire_retryCount_lt command
  · intro retryCount
    exact Command.wire_eq_self ⟨version, retryCount, packetType, dataType⟩

namespace MsgHandler

theorem sendable_read (handler : MsgHandler) (pktCounter : UInt8)
    (scalar : handler.msgSetType ≠ .Structure) :
    NasaProtocol.Sendable
      (Packet.createToBroadcastSelf handler.sa .read handler.messageNumber 1 pktCounter).1 :=
  NasaProtocol.sendable_single scalar rfl

theorem sendable_commandPacket (handler : MsgHandler) (pktCounter : UInt8)
    (scalar : handler.msgSetType ≠ .Structure) :
    NasaProtocol.Sendable (handler.commandPacket pktCounter) :=
  NasaProtocol.sendable_single scalar rfl

/-- The packet that asks for the value survives. -/
theorem survives_read (handler : MsgHandler) (pktCounter : UInt8)
    (scalar : handler.msgSetType ≠ .Structure) :
    SurvivesWire
      (Packet.createToBroadcastSelf handler.sa .read handler.messageNumber 1 pktCounter).1 := by
  have version : (2 : UInt8) < 4 := by decide
  have packetType : PacketType.normal.code < 16 := by decide
  have dataType : DataType.read.code < 16 := by decide
  have first : (0 : UInt8) < 4 := by decide
  rw [survivesWire_iff (handler.sendable_read pktCounter scalar)]
  exact (wire_eq_self_iff version packetType dataType).mpr first

theorem survives_commandPacket_iff (handler : MsgHandler) (pktCounter : UInt8)
    (scalar : handler.msgSetType ≠ .Structure) (nibble : handler.dataType.code < 16) :
    SurvivesWire (handler.commandPacket pktCounter) ↔ handler.retryCtr.toUInt32.toUInt8 < 4 := by
  have version : (2 : UInt8) < 4 := by decide
  have packetType : PacketType.normal.code < 16 := by decide
  rw [survivesWire_iff (handler.sendable_commandPacket pktCounter scalar)]
  exact wire_eq_self_iff version packetType nibble

/-! ## The retry counter -/

structure CounterAt (handler : MsgHandler) (attempts : Nat) : Prop where
  retryCtr : handler.retryCtr = Int32.ofNat attempts
  bound : attempts ≤ 11

theorem CounterAt.exhausted_iff {handler : MsgHandler} {attempts : Nat}
    (counter : handler.CounterAt attempts) : handler.retryCtr > 10 ↔ attempts = 11 := by
  have all : ∀ n : Fin 12, Int32.ofNat n > 10 ↔ n.val = 11 := by decide
  rw [counter.retryCtr]
  exact all ⟨attempts, Nat.lt_succ_of_le counter.bound⟩

theorem CounterAt.fits_iff {handler : MsgHandler} {attempts : Nat}
    (counter : handler.CounterAt attempts) :
    handler.retryCtr.toUInt32.toUInt8 < 4 ↔ handler.retryCtr < 4 := by
  have all : ∀ n : Fin 12, (Int32.ofNat n).toUInt32.toUInt8 < 4 ↔ Int32.ofNat n < 4 := by decide
  rw [counter.retryCtr]
  exact all ⟨attempts, Nat.lt_succ_of_le counter.bound⟩

theorem CounterAt.send {handler : MsgHandler} {attempts : Nat}
    (counter : handler.CounterAt attempts) (retries : ¬ handler.retryCtr > 10) :
    CounterAt { handler with retryCtr := handler.retryCtr + 1 } (attempts + 1) := by
  have bound := counter.bound
  rw [counter.exhausted_iff] at retries
  have all : ∀ n : Fin 12, Int32.ofNat n + 1 = Int32.ofNat (n + 1) := by decide
  refine ⟨?_, by omega⟩
  have next := all ⟨attempts, Nat.lt_succ_of_le bound⟩
  change handler.retryCtr + 1 = Int32.ofNat (attempts + 1)
  rw [counter.retryCtr, next]

theorem CounterAt.reset (handler : MsgHandler) : handler.resetRetryCounter.CounterAt 0 :=
  ⟨rfl, Nat.zero_le 11⟩

end MsgHandler

/-! ## Runs -/

def RetryFits (config : Config) (handler : MsgHandler) : Event → Prop
  | .getPacket _ => handler.Sends config → handler.retryCtr < 4
  | _ => True

instance (config : Config) (handler : MsgHandler) :
    ∀ event : Event, Decidable (RetryFits config handler event)
  | .getPacket _ => inferInstanceAs (Decidable (_ → _))
  | .updateValue _ | .updateValueNew _ | .resetRetryCounter => isTrue trivial

/-- What every run keeps of a handler: its number and type, and a counter in range. -/
structure Kept (number : MessageNumber) (dataType : DataType) (handler : MsgHandler) : Prop where
  messageNumber : handler.messageNumber = number
  dataType : handler.dataType = dataType
  counter : ∃ attempts, handler.CounterAt attempts

/-- Only sending counts up; giving up and the reset start again. -/
theorem counterAt_step {config : Config} {handler next : MsgHandler} {event : Event}
    {packets : List Packet} {attempts : Nat} (counter : handler.CounterAt attempts)
    (hstep : (machine config).step handler event = some (next, packets)) :
    ∃ attempts, next.CounterAt attempts := by
  cases event with
  | updateValue msg =>
      cases hstep
      rcases handler.updateValue_cases msg with ⟨-, hnext⟩ | ⟨-, -, hnext⟩ | ⟨-, -, hnext⟩ <;>
        rw [hnext]
      · exact ⟨attempts, counter⟩
      · exact ⟨attempts, counter.1, counter.2⟩
      · exact ⟨attempts, counter.1, counter.2⟩
  | updateValueNew val =>
      cases hstep
      exact ⟨attempts, counter.1, counter.2⟩
  | resetRetryCounter =>
      cases hstep
      exact ⟨0, .reset handler⟩
  | getPacket pktCounter =>
      rcases step_getPacket hstep with
        ⟨-, rfl, -⟩ | ⟨-, -, rfl, -⟩ | ⟨-, rfl, -⟩ | ⟨sends, rfl, -⟩
      · exact ⟨attempts, counter⟩
      · exact ⟨attempts, counter⟩
      · exact ⟨0, .reset _⟩
      · exact ⟨attempts + 1, counter.send sends.retries⟩

theorem Kept.step {config : Config} {number : MessageNumber} {dataType : DataType}
    {handler next : MsgHandler} {event : Event} {packets : List Packet}
    (kept : Kept number dataType handler)
    (hstep : (machine config).step handler event = some (next, packets)) :
    Kept number dataType next := by
  obtain ⟨hnumber, htype, attempts, counter⟩ := kept
  have same := sameHandler_step hstep
  exact ⟨same.messageNumber.trans hnumber, same.dataType.trans htype, counterAt_step counter hstep⟩

/-- Only `getPacket` emits anything, and only a command can be damaged. -/
theorem step_survives_iff {config : Config} {number : MessageNumber} {dataType : DataType}
    (scalar : getMessageSetType number ≠ .Structure) (nibble : dataType.code < 16)
    {handler next : MsgHandler} {event : Event} {packets : List Packet}
    (kept : Kept number dataType handler)
    (hstep : (machine config).step handler event = some (next, packets)) :
    (∀ packet ∈ packets, SurvivesWire packet) ↔ RetryFits config handler event := by
  obtain ⟨rfl, rfl, attempts, counter⟩ := kept
  have silent : ∀ packet ∈ ([] : List Packet), SurvivesWire packet := by simp
  cases event with
  | updateValue msg | updateValueNew val | resetRetryCounter =>
      cases hstep
      exact iff_of_true silent trivial
  | getPacket pktCounter =>
      rcases step_getPacket hstep with
        ⟨asks, -, rfl⟩ | ⟨-, nothing, -, rfl⟩ | ⟨gives, -, rfl⟩ | ⟨sends, -, rfl⟩
      · refine iff_of_true ?_ fun sends => absurd asks sends.known
        simpa using handler.survives_read pktCounter scalar
      · exact iff_of_true silent fun sends => absurd nothing sends.pending
      · exact iff_of_true silent fun sends =>
          absurd gives.stopped (not_or_intro sends.enabled sends.retries)
      · rw [List.forall_mem_singleton, handler.survives_commandPacket_iff pktCounter scalar nibble,
          counter.fits_iff]
        exact ⟨fun fits _ => fits, fun fits => fits sends⟩

/-- In every run of a handler all packets survive the wire if and only if each
command is sent with a retry counter of at most three. -/
theorem packets_survive_iff {config : Config} {number : MessageNumber} {sa : Address}
    {dataType : DataType} (scalar : getMessageSetType number ≠ .Structure)
    (nibble : dataType.code < 16) {events : List Event} {last : MsgHandler}
    {packets : List Packet}
    (hrun : (machine config).run (.create number sa dataType) events = some (last, packets)) :
    (∀ packet ∈ packets, SurvivesWire packet) ↔
      (machine config).Along (RetryFits config) (.create number sa dataType) events :=
  (machine config).outputs_iff_along
    (fun (kept : Kept number dataType _) hstep =>
      ⟨kept.step hstep, step_survives_iff scalar nibble kept hstep⟩)
    (⟨rfl, rfl, 0, rfl, Nat.zero_le 11⟩ : Kept number dataType (.create number sa dataType)) hrun

/-- A command on a switch that is sent twice. -/
theorem packets_survive_two_attempts :
    SurvivesWire
        { sa := ⟨.jigTester, 0, 0⟩, da := Packet.broadcastSelf
          command := { dataType := .request, packetNumber := 7 }
          messages := [.create ⟨0x4065⟩ 1] } ∧
      SurvivesWire
        { sa := ⟨.jigTester, 0, 0⟩, da := Packet.broadcastSelf
          command := { dataType := .request, retryCount := 1, packetNumber := 9 }
          messages := [.create ⟨0x4065⟩ 1] } := by
  have hrun : (machine {}).run (.create ⟨0x4065⟩ ⟨.jigTester, 0, 0⟩ .request)
      [.updateValue (.create ⟨0x4065⟩ 0), .updateValueNew 1, .resetRetryCounter, .getPacket 7,
        .getPacket 9] = some (_, _) := rfl
  have survive := (packets_survive_iff (by decide) (by decide) hrun).mpr (by decide)
  exact ⟨survive _ (by decide), survive _ (by decide)⟩

/-- The fifth attempt claims a different protocol version and a different retry count. -/
theorem packets_lost_fifth_attempt :
    ¬ ∀ (config : Config) (number : MessageNumber) (sa : Address) (dataType : DataType)
      (events : List Event) (last : MsgHandler) (packets : List Packet),
      getMessageSetType number ≠ .Structure → dataType.code < 16 →
      (machine config).run (.create number sa dataType) events = some (last, packets) →
      ∀ packet ∈ packets, SurvivesWire packet := by
  intro all
  have hrun : (machine {}).run (.create ⟨0x4065⟩ ⟨.jigTester, 0, 0⟩ .request)
      [.updateValue (.create ⟨0x4065⟩ 0), .updateValueNew 1, .resetRetryCounter, .getPacket 7,
        .getPacket 8, .getPacket 9, .getPacket 10, .getPacket 11] = some (_, _) := rfl
  have scalar : getMessageSetType ⟨0x4065⟩ ≠ .Structure := by decide
  have fifth := all _ _ _ _ _ _ _ scalar (by decide) hrun
    { sa := ⟨.jigTester, 0, 0⟩, da := Packet.broadcastSelf
      command := { dataType := .request, retryCount := 4, packetNumber := 11 }
      messages := [.create ⟨0x4065⟩ 1] } (by decide)
  rw [survivesWire_iff (NasaProtocol.sendable_single scalar rfl)] at fifth
  exact absurd fifth (by decide)

end NasaCpp.Handler
