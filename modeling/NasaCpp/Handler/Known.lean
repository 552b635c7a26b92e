import NasaCpp.General.LastEntry
import NasaCpp.Handler.MsgHandler

/-!
# Known values

A handler takes `INT_MAX` for having no value.  What it has is therefore decided by the
last message with its number alone: a message that brings `INT_MAX`, and every message of
type Structure, leaves it as if none had ever arrived.
-/

namespace NasaCpp.Handler

open General Protocol

namespace MsgHandler

def HasVal (handler : MsgHandler) : Prop := handler.valIs ≠ intMax

instance (handler : MsgHandler) : Decidable handler.HasVal :=
  inferInstanceAs (Decidable (_ ≠ _))

def valueIn (number : MessageNumber) (msg : MessageSet) : Int32 :=
  match getMessageSetType number with
  | .Enum => msg.value.toInt32
  | .Variable => msg.value.toInt16.toInt32
  | .LongVariable => msg.value.toInt32
  | .Structure => intMax

def valueAfter (msgs : List MessageSet) (number : MessageNumber) : Int32 :=
  ((lastFor MessageSet.messageNumber msgs number).map (valueIn number)).getD intMax

structure Holds (number : MessageNumber) (msgs : List MessageSet) (handler : MsgHandler) :
    Prop where
  messageNumber : handler.messageNumber = number
  valIs : handler.valIs = valueAfter msgs number

theorem holds_create (number : MessageNumber) (sa : Address) (dataType : DataType) :
    Holds number [] (create number sa dataType) := ⟨rfl, rfl⟩

theorem valueAfter_structure {number : MessageNumber}
    (type : getMessageSetType number = .Structure) (msgs : List MessageSet) :
    valueAfter msgs number = intMax := by
  unfold valueAfter
  cases lastFor MessageSet.messageNumber msgs number with
  | none => rfl
  | some msg =>
      unfold valueIn
      rw [type]
      rfl

theorem Holds.received {number : MessageNumber} {msgs : List MessageSet} {handler : MsgHandler}
    (holds : Holds number msgs handler) (msg : MessageSet) :
    handler.received msg = valueIn number msg := by
  unfold MsgHandler.received valueIn msgSetType
  rw [holds.messageNumber]
  cases type : getMessageSetType number with
  | Enum | Variable | LongVariable => rfl
  | Structure => exact holds.valIs.trans (valueAfter_structure type msgs)

theorem Holds.updateValue {number : MessageNumber} {msgs : List MessageSet} {handler : MsgHandler}
    (holds : Holds number msgs handler) (msg : MessageSet) :
    Holds number (msgs ++ [msg]) (handler.updateValue msg) := by
  refine ⟨(handler.sameHandler_updateValue msg).messageNumber.trans holds.messageNumber, ?_⟩
  unfold valueAfter
  rw [lastFor_concat]
  rcases handler.updateValue_cases msg with
    ⟨other, hnext⟩ | ⟨same, -, hnext⟩ | ⟨same, -, hnext⟩ <;> rw [hnext]
  · rw [holds.messageNumber] at other
    rw [if_neg other]
    exact holds.valIs
  · rw [if_pos (same.trans holds.messageNumber)]
    exact holds.received msg
  · rw [if_pos (same.trans holds.messageNumber)]
    exact holds.received msg

/-- A message of another number is none for the handler. -/
theorem Holds.other {number : MessageNumber} {msgs : List MessageSet} {handler : MsgHandler}
    (holds : Holds number msgs handler) {msg : MessageSet} (other : msg.messageNumber ≠ number) :
    Holds number (msgs ++ [msg]) handler := by
  refine ⟨holds.messageNumber, ?_⟩
  rw [holds.valIs, valueAfter, valueAfter, lastFor_concat, if_neg other]

/-- A call that is not `updateValue` does not touch the value. -/
theorem Holds.same {number : MessageNumber} {msgs : List MessageSet} {handler next : MsgHandler}
    (holds : Holds number msgs handler) (same : handler.SameHandler next)
    (valIs : next.valIs = handler.valIs) : Holds number msgs next :=
  ⟨same.messageNumber.trans holds.messageNumber, valIs.trans holds.valIs⟩

theorem valIs_getPacket (config : Config) (handler : MsgHandler) (pktCounter : UInt8) :
    (handler.getPacket config pktCounter).1.valIs = handler.valIs := by
  rcases handler.getPacket_cases config pktCounter with
    ⟨-, hget⟩ | ⟨-, -, hget⟩ | ⟨-, hget⟩ | ⟨-, hget⟩ <;>
    exact congrArg (fun result => result.1.valIs) hget

/-! ## Messages that tell a value -/

def LastTells (msgs : List MessageSet) (number : MessageNumber) : Prop :=
  ∀ msg, lastFor MessageSet.messageNumber msgs number = some msg → valueIn number msg ≠ intMax

instance (msgs : List MessageSet) (number : MessageNumber) : Decidable (LastTells msgs number) :=
  match hlast : lastFor MessageSet.messageNumber msgs number with
  | none =>
      isTrue fun msg hsome => by
        rw [hlast] at hsome
        cases hsome
  | some last =>
      decidable_of_iff (valueIn number last ≠ intMax)
        ⟨fun tells msg hsome => by
          rw [hlast] at hsome
          cases hsome
          exact tells, fun tells => tells last hlast⟩

def Arrived (msgs : List MessageSet) (number : MessageNumber) : Prop :=
  ∃ msg ∈ msgs, msg.messageNumber = number

instance (msgs : List MessageSet) (number : MessageNumber) : Decidable (Arrived msgs number) :=
  inferInstanceAs (Decidable (∃ msg ∈ msgs, _))

theorem exists_last_of_arrived {msgs : List MessageSet} {number : MessageNumber}
    (arrived : Arrived msgs number) :
    ∃ msg, lastFor MessageSet.messageNumber msgs number = some msg := by
  obtain ⟨msg, hmem, hnumber⟩ := arrived
  cases hlast : lastFor MessageSet.messageNumber msgs number with
  | none => exact absurd hnumber ((lastFor_eq_none_iff _).mp hlast msg hmem)
  | some last => exact ⟨last, rfl⟩

/-- A handler has a value exactly if a message has arrived and the last one tells a value. -/
theorem Holds.hasVal_iff {number : MessageNumber} {msgs : List MessageSet} {handler : MsgHandler}
    (holds : Holds number msgs handler) :
    handler.HasVal ↔ Arrived msgs number ∧ LastTells msgs number := by
  unfold HasVal
  rw [holds.valIs, valueAfter]
  constructor
  · intro known
    cases hlast : lastFor MessageSet.messageNumber msgs number with
    | none =>
        rw [hlast] at known
        exact absurd rfl known
    | some last =>
        rw [hlast] at known
        refine ⟨⟨last, mem_of_lastFor _ hlast, key_of_lastFor _ hlast⟩, fun msg hmsg => ?_⟩
        cases hlast.symm.trans hmsg
        exact known
  · rintro ⟨arrived, tells⟩
    obtain ⟨last, hlast⟩ := exists_last_of_arrived arrived
    rw [hlast]
    exact tells last hlast

end MsgHandler

/-! ## Runs -/

open MsgHandler

def messages (events : List Event) : List MessageSet :=
  events.filterMap fun
    | .updateValue msg => some msg
    | _ => none

theorem messages_concat (past : List Event) (event : Event) :
    messages (past ++ [event]) = messages past ++ messages [event] := List.filterMap_append

theorem holds_step {config : Config} {number : MessageNumber} {past : List Event}
    {handler next : MsgHandler} {event : Event} {packets : List Packet}
    (holds : Holds number (messages past) handler)
    (hstep : (machine config).step handler event = some (next, packets)) :
    Holds number (messages (past ++ [event])) next := by
  have same := sameHandler_step hstep
  rw [messages_concat]
  cases event with
  | updateValue msg =>
      cases hstep
      exact holds.updateValue msg
  | updateValueNew val | resetRetryCounter =>
      cases hstep
      rw [show messages past ++ messages [_] = messages past from List.append_nil _]
      exact holds.same same rfl
  | getPacket pktCounter =>
      have hget : handler.getPacket config pktCounter = (next, packets) := Option.some.inj hstep
      have kept := valIs_getPacket config handler pktCounter
      rw [hget] at kept
      rw [show messages past ++ messages [_] = messages past from List.append_nil _]
      exact holds.same same kept

theorem holds_run {config : Config} {number : MessageNumber} {sa : Address} {dataType : DataType}
    {events : List Event} {last : MsgHandler} {packets : List Packet}
    (hrun : (machine config).run (.create number sa dataType) events = some (last, packets)) :
    Holds number (messages events) last :=
  (machine config).run_history (fun past handler _ => Holds number (messages past) handler)
    holds_step (holds_create number sa dataType) hrun

/-- The packets of data type Read are those that ask for an unknown value. -/
theorem asks_of_read {config : Config} {handler : MsgHandler} {pktCounter : UInt8}
    {packet : Packet} (hmem : packet ∈ (handler.getPacket config pktCounter).2)
    (read : packet.command.dataType = .read) : handler.AsksForValue config := by
  rcases handler.getPacket_cases config pktCounter with
    ⟨asks, -⟩ | ⟨-, -, hget⟩ | ⟨-, hget⟩ | ⟨sends, hget⟩
  · exact asks
  · rw [hget] at hmem
    cases hmem
  · rw [hget] at hmem
    cases hmem
  · rw [hget] at hmem
    obtain rfl := List.mem_singleton.mp hmem
    exact absurd (.inr (.inr read)) sends.pending

/-- The handler has a value exactly if a message with its number has arrived, and with the
initial read-out on it does not ask for one that has. -/
structure CountsArrival (config : Config) (number : MessageNumber) (msgs : List MessageSet)
    (handler : MsgHandler) : Prop where
  hasVal : handler.HasVal ↔ Arrived msgs number
  silent : config.initialReadOut = true → Arrived msgs number → ∀ pktCounter,
    ∀ packet ∈ (handler.getPacket config pktCounter).2, packet.command.dataType ≠ .read

theorem MsgHandler.Holds.countsArrival_iff {config : Config} {number : MessageNumber}
    {msgs : List MessageSet} {handler : MsgHandler} (holds : Holds number msgs handler) :
    CountsArrival config number msgs handler ↔ LastTells msgs number := by
  constructor
  · intro counts msg hlast
    have arrived : Arrived msgs number := ⟨msg, mem_of_lastFor _ hlast, key_of_lastFor _ hlast⟩
    exact (holds.hasVal_iff.mp (counts.hasVal.mpr arrived)).2 msg hlast
  · intro tells
    have hasVal : handler.HasVal ↔ Arrived msgs number := by
      rw [holds.hasVal_iff]
      exact and_iff_left tells
    refine ⟨hasVal, fun _ arrived pktCounter packet hmem read => ?_⟩
    exact hasVal.mpr arrived (asks_of_read hmem read).1

end NasaCpp.Handler
