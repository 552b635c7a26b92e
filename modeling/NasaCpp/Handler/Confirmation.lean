import NasaCpp.Handler.Echo
import NasaCpp.Handler.LifeCycle

/-!
# The echo of a command

The packet `getPacket` appends, encoded, decoded and given back to the handler,
ends the command exactly if the wire type holds the commanded value; any other
value leaves the command pending behind a different current value.
-/

namespace NasaCpp.Handler

open General Protocol

namespace MsgHandler

structure ReadyToSend (config : Config) (handler : MsgHandler) : Prop where
  commanded : IsCommanded config handler.dataType
  scalar : handler.msgSetType ≠ .Structure
  known : handler.valIs ≠ intMax
  set : handler.valNew ≠ intMax
  missing : handler.valNew ≠ handler.valIs
  retries : ¬ handler.retryCtr > 10

theorem ReadyToSend.sends {config : Config} {handler : MsgHandler}
    (ready : handler.ReadyToSend config) : handler.Sends config where
  known := fun asks => ready.known asks.1
  pending := by
    rintro (cleared | reached | read)
    · exact ready.set cleared
    · exact ready.missing reached.symm
    · exact ready.commanded.ne_read read
  enabled := ready.commanded.enabled
  retries := ready.retries

/-- The message the heat pump would echo. -/
theorem decode_commandPacket (handler : MsgHandler) (pktCounter : UInt8)
    (scalar : handler.msgSetType ≠ .Structure) :
    ∃ received, Packet.decode (handler.commandPacket pktCounter).encode = some (.ok received) ∧
      received.messages = [echoOf handler.messageNumber handler.valNew] := by
  have sendable := handler.sendable_commandPacket pktCounter scalar
  exact ⟨_, Packet.decode_encode sendable.scalar sendable.few sendable.short, rfl⟩

/-- A value the wire type cannot hold is read back as another one, and the handler
goes on waiting for its own. -/
theorem updateValue_foreign_echo {handler : MsgHandler} (scalar : handler.msgSetType ≠ .Structure)
    (lost : ¬ Representable handler.msgSetType handler.valNew) :
    (handler.updateValue (echoOf handler.messageNumber handler.valNew)).valNew = handler.valNew ∧
      (handler.updateValue (echoOf handler.messageNumber handler.valNew)).valIs ≠
        handler.valNew := by
  have different := mt (received_echo_iff scalar handler.valNew).mp lost
  rcases handler.updateValue_cases (echoOf handler.messageNumber handler.valNew) with
    ⟨other, -⟩ | ⟨-, same, -⟩ | ⟨-, -, hnext⟩
  · exact absurd rfl other
  · exact absurd same different
  · rw [hnext]
    exact ⟨rfl, different⟩

end MsgHandler

/-- The echo of a command confirms it if and only if its value is representable;
otherwise the command stays and the current value is not the commanded one. -/
theorem echo_confirms_iff {config : Config} {handler : MsgHandler} (pktCounter : UInt8)
    (ready : handler.ReadyToSend config) :
    ∃ sent packet received msg, handler.getPacket config pktCounter = (sent, [packet]) ∧
      Packet.decode packet.encode = some (.ok received) ∧ received.messages = [msg] ∧
        ((sent.updateValue msg).valIs = handler.valNew ∧ (sent.updateValue msg).valNew = intMax ↔
          Representable handler.msgSetType handler.valNew) ∧
        (¬ Representable handler.msgSetType handler.valNew →
          (sent.updateValue msg).valNew = handler.valNew ∧
            (sent.updateValue msg).valIs ≠ handler.valNew) := by
  obtain ⟨received, hdecode, hmessages⟩ := handler.decode_commandPacket pktCounter ready.scalar
  refine ⟨_, _, received, _, MsgHandler.getPacket_of_sends ready.sends pktCounter, hdecode,
    hmessages, ?_⟩
  -- sending only counts the attempt
  generalize hsent : { handler with retryCtr := handler.retryCtr + 1 } = sent
  have number : sent.messageNumber = handler.messageNumber := by rw [← hsent]
  have pending : sent.valNew = handler.valNew := by rw [← hsent]
  have type : sent.msgSetType = handler.msgSetType := by rw [← hsent]; rfl
  have scalar := ready.scalar
  rw [← number, ← pending, ← type] at *
  have foreign := @MsgHandler.updateValue_foreign_echo sent scalar
  refine ⟨⟨fun confirmed => ?_, fun representable => ?_⟩, foreign⟩
  · by_contra lost
    exact (foreign lost).2 confirmed.1
  · rw [updateValue_echo representable]
    exact ⟨rfl, rfl⟩

/-- The echo of a 16-bit command below zero. -/
theorem echo_confirms_variable :
    ∃ sent packet received msg,
      MsgHandler.getPacket {}
          { messageNumber := ⟨0x4201⟩, sa := ⟨.jigTester, 0, 0⟩, dataType := .request
            valIs := 20, valNew := -5 } 7 = (sent, [packet]) ∧
        Packet.decode packet.encode = some (.ok received) ∧ received.messages = [msg] ∧
          (sent.updateValue msg).valIs = -5 ∧ (sent.updateValue msg).valNew = intMax := by
  obtain ⟨sent, packet, received, msg, hget, hdecode, hmessages, confirms, -⟩ :=
    @echo_confirms_iff {}
      { messageNumber := ⟨0x4201⟩, sa := ⟨.jigTester, 0, 0⟩, dataType := .request
        valIs := 20, valNew := -5 } 7
      ⟨.inl rfl, by decide, by decide, by decide, by decide, by decide⟩
  exact ⟨sent, packet, received, msg, hget, hdecode, hmessages, confirms.mpr (by decide)⟩

end NasaCpp.Handler
