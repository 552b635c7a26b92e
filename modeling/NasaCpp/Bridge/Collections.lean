import NasaCpp.Bridge.WriteGuard

/-!
# Collections

The packets a bridge collects, with writing enabled or not: each is about one number of the
lists, and asks for its value or has the data type of its list.
-/

namespace NasaCpp.Bridge

open General Handler Protocol

def MsgList.Permits (config : Config) (list : MsgList) (dataType : DataType) : Prop :=
  dataType = .read ∨
    dataType = list.dataType ∧ list ≠ .read ∧ (list = .write → config.disableWriteSend = false)

/-- A packet with one message, about a number of the lists. -/
def Listed (config : Config) (entries : UInt16 → Option Entry) (packet : Packet) : Prop :=
  ∃ n entry value, entries n = some entry ∧ packet.messages = [.create ⟨n⟩ value] ∧
    entry.2.Permits config packet.command.dataType

def collected (outs : List Output) : List Packet :=
  outs.flatMap fun
    | .packets pkts => pkts
    | .announce _ _ | .subscribe _ | .publish _ _ _ => []

theorem collected_append (first second : List Output) :
    collected (first ++ second) = collected first ++ collected second := List.flatMap_append

/-- A number keeps the entry it was registered from. -/
theorem Listed.later {config : Config} {past : List Event} {packet : Packet}
    (listed : Listed config (firstEntry past) packet) (event : Event) :
    Listed config (firstEntry (past ++ [event])) packet := by
  obtain ⟨n, entry, value, hentry, rest⟩ := listed
  refine ⟨n, entry, value, ?_, rest⟩
  rw [firstEntry_concat, hentry, Option.some_or]

/-- The data type of a listed packet survives the wire. -/
theorem Listed.wire_dataType {config : Config} {entries : UInt16 → Option Entry}
    {packet : Packet} (listed : Listed config entries packet) :
    packet.wire.command.dataType = packet.command.dataType ∧
      ¬ (packet.command.dataType = .ack ∨ packet.command.dataType = .nack) := by
  obtain ⟨n, ⟨cfg, list⟩, value, hentry, hmessages, permits⟩ := listed
  have three : packet.command.dataType = .read ∨ packet.command.dataType = .request ∨
      packet.command.dataType = .write := by
    rcases permits with read | ⟨same, -, -⟩
    · exact .inl read
    · rw [same]
      cases list with
      | read => exact .inl rfl
      | request => exact .inr (.inl rfl)
      | write => exact .inr (.inr rfl)
  refine ⟨Bridge.wire_dataType ?_, ?_⟩ <;>
    rcases three with type | type | type <;> rw [type] <;> decide

end NasaCpp.Bridge
